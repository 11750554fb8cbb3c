import CircuitScript.Eval
import CircuitScript.Proofs.Outcome

/-! The least and the greatest argument. They are found by one pass from left to right, which keeps the best argument
so far. Two strings are compared as texts and all else as numbers, so the order need not be transitive, and the pass
finds an extreme argument in every row exactly if the arguments fit together. -/
namespace CircuitScript

section

variable {α : Type} [LE α] [LT α] [Std.IsLinearOrder α] [Std.LawfulOrderLT α] [DecidableLT α] [DecidableEq α]

theorem rankSwap (x y : α) : compareOfLessAndEq y x = (compareOfLessAndEq x y).swap :=
  compareOfLessAndEq_eq_swap Std.le_antisymm (fun _ _ => Std.le_total) Std.not_le

theorem rankThrough {wanted : Ordering} (strict : wanted ≠ .eq) {x y z : α} (yields : compareOfLessAndEq y x ≠ wanted)
    (beats : compareOfLessAndEq z x = wanted) : compareOfLessAndEq z y = wanted := by
  unfold compareOfLessAndEq at *
  grind

end

section

open Float.Model (UnpackedFloat)

theorem sizeSwap (e f : Int) (m n : Nat) :
    (compare f e).then (compare n m) = ((compare e f).then (compare m n)).swap := by
  rw [Ordering.swap_then, ← Std.OrientedCmp.eq_swap, ← Std.OrientedCmp.eq_swap]

theorem unpackedSwap (x y : UnpackedFloat) : y.compare x = (x.compare y).map Ordering.swap := by
  cases x with
  | infinity s =>
    cases y with
    | infinity t => cases s <;> cases t <;> rfl
    | notANumber => cases s <;> rfl
    | zero t => cases s <;> rfl
    | finite t n f h => cases s <;> rfl
  | notANumber => cases y <;> rfl
  | zero s =>
    cases y with
    | infinity t => cases t <;> rfl
    | notANumber => rfl
    | zero t => rfl
    | finite t n f h => cases t <;> rfl
  | finite s m e h =>
    cases y with
    | infinity t => cases s <;> cases t <;> rfl
    | notANumber => rfl
    | zero t => cases s <;> rfl
    | finite t n f k =>
      cases s with
      | positive =>
        cases t with
        | positive => exact congrArg some (sizeSwap e f m n)
        | negative => rfl
      | negative =>
        cases t with
        | positive => rfl
        | negative => exact congrArg (fun size => some (Ordering.swap size)) (sizeSwap e f m n)

theorem floatBelow {x y : Float} : x < y ↔ x.toModel.unpack.compare y.toModel.unpack = some .lt := by
  simp [LT.lt, Float.lt, Float.Model.lt, UnpackedFloat.lt]

theorem floatAsymm {x y : Float} (below : x < y) : ¬y < x := by
  intro above
  rw [floatBelow] at below above
  rw [unpackedSwap, below] at above
  cases above

end

theorem floatSwap (x y : Float) : (if y < x then Ordering.lt else if x < y then .gt else .eq) =
    (if x < y then Ordering.lt else if y < x then .gt else .eq).swap := by
  by_cases below : x < y
  · rw [if_neg (floatAsymm below), if_pos below, if_pos below]
    rfl
  · rw [if_neg below, if_neg below]
    split <;> rfl

theorem Number.orderSwap (x y : Number) : y.order x = (x.order y).swap := by
  cases x with
  | int a =>
    cases y with
    | int b => exact rankSwap a b
    | float g => exact floatSwap _ _
  | float f => cases y <;> exact floatSwap _ _

namespace Value

def Numeric (value : Value) : Prop := ∃ n, value.toNumber = .ok n

/-- The two can be compared. -/
def Meets (a b : Value) : Prop := ∃ found, a.order b = .ok found

/-- Compares as wanted: as greater for the maximum, as less for the minimum. -/
def Beats (wanted : Ordering) (a b : Value) : Prop := a.order b = .ok wanted

/-- Compares, but not as wanted. -/
def Yields (wanted : Ordering) (a b : Value) : Prop := ∃ found, a.order b = .ok found ∧ found ≠ wanted

theorem orderStrings (s t : String) : (str s).order (str t) = .ok (compareOfLessAndEq s t) := rfl

theorem isStrCases {value : Value} (string : value.isStr = true) : ∃ s, value = str s := by
  unfold isStr at string
  split at string
  · exact ⟨_, rfl⟩
  · cases string

theorem orderMixed {a b : Value} (mixed : ¬(a.isStr = true ∧ b.isStr = true)) :
    a.order b = a.toNumber.bind fun x => b.toNumber.bind fun y => .ok (x.order y) := by
  unfold order
  split
  · exact absurd ⟨rfl, rfl⟩ mixed
  · rfl

theorem orderNumbers {a b : Value} (mixed : ¬(a.isStr = true ∧ b.isStr = true)) {x y : Number}
    (first : a.toNumber = .ok x) (second : b.toNumber = .ok y) : a.order b = .ok (x.order y) := by
  rw [orderMixed mixed, first, second]
  rfl

theorem orderCases {a b : Value} {found : Ordering} (compared : a.order b = .ok found) :
    (∃ s t, a = str s ∧ b = str t ∧ compareOfLessAndEq s t = found) ∨
      ¬(a.isStr = true ∧ b.isStr = true) ∧
        ∃ x y, a.toNumber = .ok x ∧ b.toNumber = .ok y ∧ x.order y = found := by
  by_cases both : a.isStr = true ∧ b.isStr = true
  · obtain ⟨s, rfl⟩ := isStrCases both.1
    obtain ⟨t, rfl⟩ := isStrCases both.2
    exact .inl ⟨s, t, rfl, rfl, Except.ok.inj compared⟩
  · refine .inr ⟨both, ?_⟩
    rw [orderMixed both] at compared
    cases first : a.toNumber with
    | error e =>
      rw [first] at compared
      cases compared
    | ok x =>
      cases second : b.toNumber with
      | error e =>
        rw [first, second] at compared
        cases compared
      | ok y =>
        rw [first, second] at compared
        exact ⟨x, y, rfl, rfl, Except.ok.inj compared⟩

theorem orderSwap {a b : Value} {found : Ordering} (compared : a.order b = .ok found) :
    b.order a = .ok found.swap := by
  rcases orderCases compared with ⟨s, t, rfl, rfl, rfl⟩ | ⟨mixed, x, y, first, second, rfl⟩
  · rw [orderStrings, rankSwap]
  · rw [orderNumbers (fun both => mixed ⟨both.2, both.1⟩) second first, Number.orderSwap]

theorem meetsCases {a b : Value} : a.Meets b ↔ a.isStr = true ∧ b.isStr = true ∨ a.Numeric ∧ b.Numeric := by
  constructor
  · rintro ⟨found, compared⟩
    rcases orderCases compared with ⟨s, t, rfl, rfl, _⟩ | ⟨_, x, y, first, second, _⟩
    · exact .inl ⟨rfl, rfl⟩
    · exact .inr ⟨⟨x, first⟩, ⟨y, second⟩⟩
  · rintro (⟨first, second⟩ | ⟨⟨x, first⟩, ⟨y, second⟩⟩)
    · obtain ⟨s, rfl⟩ := isStrCases first
      obtain ⟨t, rfl⟩ := isStrCases second
      exact ⟨_, orderStrings s t⟩
    · by_cases both : a.isStr = true ∧ b.isStr = true
      · obtain ⟨s, rfl⟩ := isStrCases both.1
        obtain ⟨t, rfl⟩ := isStrCases both.2
        exact ⟨_, orderStrings s t⟩
      · exact ⟨_, orderNumbers both first second⟩

theorem Meets.swap {a b : Value} (meets : a.Meets b) : b.Meets a := by
  obtain ⟨found, compared⟩ := meets
  exact ⟨found.swap, orderSwap compared⟩

section

variable {wanted : Ordering} {a b c : Value}

theorem Yields.meets (yields : a.Yields wanted b) : a.Meets b := yields.imp fun _ => And.left

theorem Beats.meets (beats : a.Beats wanted b) : a.Meets b := ⟨wanted, beats⟩

theorem Yields.notBeats (yields : a.Yields wanted b) : ¬a.Beats wanted b := by
  obtain ⟨found, compared, other⟩ := yields
  intro beats
  exact other (Except.ok.inj (compared.symm.trans beats))

theorem Meets.yields (meets : a.Meets b) (notBeats : ¬a.Beats wanted b) : a.Yields wanted b := by
  obtain ⟨found, compared⟩ := meets
  refine ⟨found, compared, ?_⟩
  rintro rfl
  exact notBeats compared

theorem Beats.yields (strict : wanted ≠ .eq) (beats : a.Beats wanted b) : b.Yields wanted a := by
  refine ⟨wanted.swap, orderSwap beats, ?_⟩
  cases wanted <;> simp_all

theorem notBeatsSelf (strict : wanted ≠ .eq) : ¬a.Beats wanted a := fun beats =>
  (beats.yields strict).notBeats beats

theorem Yields.level (strict : wanted ≠ .eq) (yields : a.Yields wanted b) (yields' : b.Yields wanted a) :
    a.order b = .ok .eq := by
  obtain ⟨found, compared, other⟩ := yields
  obtain ⟨found', compared', other'⟩ := yields'
  cases Except.ok.inj (compared'.symm.trans (orderSwap compared))
  rw [compared]
  cases found <;> cases wanted <;> simp_all

theorem stringsThrough (strict : wanted ≠ .eq) (strings : a.isStr = true ∧ b.isStr = true ∧ c.isStr = true)
    (yields : b.Yields wanted a) (beats : c.Beats wanted a) : c.Beats wanted b := by
  obtain ⟨first, second, third⟩ := strings
  obtain ⟨r, rfl⟩ := isStrCases first
  obtain ⟨s, rfl⟩ := isStrCases second
  obtain ⟨t, rfl⟩ := isStrCases third
  obtain ⟨found, compared, other⟩ := yields
  cases Except.ok.inj compared
  have through := rankThrough strict other (Except.ok.inj beats)
  rw [Beats, orderStrings, through]

theorem stringsLevel (strict : wanted ≠ .eq) (strings : a.isStr = true ∧ b.isStr = true) (yields : a.Yields wanted b)
    (yields' : b.Yields wanted a) : a = b := by
  obtain ⟨s, rfl⟩ := isStrCases strings.1
  obtain ⟨t, rfl⟩ := isStrCases strings.2
  have level : compareOfLessAndEq s t = .eq := Except.ok.inj (yields.level strict yields')
  unfold compareOfLessAndEq at level
  have same : s = t := by grind
  rw [same]

end

end Value

/-- Whatever does not beat an argument does not beat those either that beat it. -/
def Fitting (wanted : Ordering) (args : List Value) : Prop :=
  ∀ x ∈ args, ∀ y ∈ args, ∀ z ∈ args, y.Yields wanted x → z.Beats wanted x → ¬y.Beats wanted z

/-- How an argument stands to the best so far. The two may not compare; then a string stands between them. -/
inductive Outdone (wanted : Ordering) (args : List Value) (best : Value) : Value → Prop where
  | best : Outdone wanted args best best
  | yields {value : Value} (below : value.Yields wanted best) : Outdone wanted args best value
  | between {value string : Value} (apart : ¬value.Meets best) (listed : string ∈ args)
      (isString : string.isStr = true) (below : value.Yields wanted string) (above : string.Yields wanted best) :
      Outdone wanted args best value

section

variable {wanted : Ordering} (strict : wanted ≠ .eq) {args : List Value}

include strict

theorem Outdone.notBeats {best value : Value} (outdone : Outdone wanted args best value) :
    ¬value.Beats wanted best := by
  cases outdone with
  | best => exact Value.notBeatsSelf strict
  | yields below => exact below.notBeats
  | between apart => exact fun beats => apart beats.meets

omit strict in
theorem outdoneBehind {next value string : Value} (notBeats : ¬value.Beats wanted next) (listed : string ∈ args)
    (isString : string.isStr = true) (below : value.Yields wanted string) (above : string.Yields wanted next) :
    Outdone wanted args next value := by
  by_cases meets : value.Meets next
  · exact .yields (meets.yields notBeats)
  · exact .between meets listed isString below above

theorem Outdone.step (fit : Fitting wanted args) {best next value : Value} (bestListed : best ∈ args)
    (nextListed : next ∈ args) (listed : value ∈ args) (beats : next.Beats wanted best)
    (outdone : Outdone wanted args best value) : Outdone wanted args next value := by
  cases outdone with
  | best => exact .yields (beats.yields strict)
  | yields below =>
    have notBeats := fit best bestListed value listed next nextListed below beats
    by_cases meets : value.Meets next
    · exact .yields (meets.yields notBeats)
    · -- only strings meet both texts and numbers
      have isString : best.isStr = true := by
        have first := Value.meetsCases.mp below.meets
        have second := Value.meetsCases.mp beats.meets
        rw [Value.meetsCases] at meets
        grind
      exact .between meets bestListed isString below (beats.yields strict)
  | @between _ string apart stringListed isString below above =>
    have valueMeets := Value.meetsCases.mp below.meets
    have stringMeets := Value.meetsCases.mp above.meets
    have nextMeets := Value.meetsCases.mp beats.meets
    rw [Value.meetsCases] at apart
    by_cases bestString : best.isStr = true
    · -- a number that does not meet the best, which is a string without one
      have nextString : next.isStr = true := by grind
      have further := Value.stringsThrough strict ⟨bestString, isString, nextString⟩ above beats
      have notBeats := fit string stringListed value listed next nextListed below further
      exact outdoneBehind notBeats stringListed isString below (further.yields strict)
    · -- a string without number that does not meet the best, which is a number
      have notBeats := fit best bestListed string stringListed next nextListed above beats
      have numeric : string.Numeric ∧ next.Numeric := by grind
      have higher := (Value.meetsCases.mpr (.inr numeric)).yields notBeats
      by_cases nextString : next.isStr = true
      · have valueString : value.isStr = true := by grind
        refine .yields ((Value.meetsCases.mpr (.inl ⟨valueString, nextString⟩)).yields fun beats => ?_)
        exact below.notBeats (Value.stringsThrough strict ⟨nextString, isString, valueString⟩ higher beats)
      · refine .between ?_ stringListed isString below higher
        rw [Value.meetsCases]
        grind

theorem noneBetween {a b string : Value} (bString : b.isStr = true) (top : ∀ v ∈ args, ¬v.Beats wanted b)
    (listed : string ∈ args) (isString : string.isStr = true) (below : b.Yields wanted string)
    (above : string.Yields wanted a) : b.Meets a := by
  have back := below.meets.swap.yields (top string listed)
  rw [Value.stringsLevel strict ⟨bString, isString⟩ below back]
  exact above.meets

theorem outdoneLevel {a b : Value} (first : Outdone wanted args b a) (second : Outdone wanted args a b)
    (self : a.Meets a) (topA : ∀ v ∈ args, ¬v.Beats wanted a) (topB : ∀ v ∈ args, ¬v.Beats wanted b) :
    a.order b = .ok .eq := by
  cases first with
  | best =>
    have level := self.yields (Value.notBeatsSelf strict)
    exact level.level strict level
  | yields below => exact below.level strict (below.meets.swap.yields (Outdone.notBeats strict second))
  | @between _ string apart listed isString below above =>
    exfalso
    cases second with
    | best => exact apart self
    | yields below' => exact apart below'.meets.swap
    | @between _ string' apart' listed' isString' below' above' =>
      by_cases bString : b.isStr = true
      · exact apart' (noneBetween strict bString topB listed' isString' below' above')
      · have aString : a.isStr = true := by
          have ofA := Value.meetsCases.mp below.meets
          have ofB := Value.meetsCases.mp below'.meets
          rw [Value.meetsCases] at apart
          grind
        exact apart (noneBetween strict aString topA listed isString below above)

end

theorem pickCases {wanted : Ordering} {best value result : Value} {rest : List Value}
    (picked : Builtin.pick wanted best (value :: rest) = .ok result) :
    value.Beats wanted best ∧ Builtin.pick wanted value rest = .ok result ∨
      value.Yields wanted best ∧ Builtin.pick wanted best rest = .ok result := by
  rw [Builtin.pick] at picked
  cases compared : value.order best with
  | error e =>
    rw [compared] at picked
    cases picked
  | ok found =>
    rw [compared] at picked
    have picked : Builtin.pick wanted (if found = wanted then value else best) rest = .ok result := picked
    split at picked
    · rename_i same
      exact .inl ⟨by rw [Value.Beats, compared, same], picked⟩
    · rename_i other
      exact .inr ⟨⟨found, compared, other⟩, picked⟩

theorem pickPosition {wanted : Ordering} {best result : Value} {rest : List Value}
    (picked : Builtin.pick wanted best rest = .ok result) :
    ∃ before behind, best :: rest = before ++ result :: behind ∧ ∀ v ∈ behind, v.Yields wanted result := by
  induction rest generalizing best with
  | nil =>
    cases Except.ok.inj picked
    exact ⟨[], [], rfl, List.forall_mem_nil _⟩
  | cons value rest ih =>
    rcases pickCases picked with ⟨_, picked⟩ | ⟨yields, picked⟩
    · obtain ⟨before, behind, same, after⟩ := ih picked
      exact ⟨best :: before, behind, by rw [same]; rfl, after⟩
    · obtain ⟨before, behind, same, after⟩ := ih picked
      cases before with
      | nil =>
        cases same
        exact ⟨[], value :: rest, rfl, List.forall_mem_cons.mpr ⟨yields, after⟩⟩
      | cons first before =>
        cases same
        exact ⟨best :: value :: before, behind, rfl, after⟩

theorem pickOutdoes {wanted : Ordering} (strict : wanted ≠ .eq) {args : List Value} (fit : Fitting wanted args)
    {best result : Value} {rest : List Value} (picked : Builtin.pick wanted best rest = .ok result)
    (listed : ∀ v ∈ best :: rest, v ∈ args) :
    (∀ v ∈ args, Outdone wanted args best v → Outdone wanted args result v) ∧
      ∀ v ∈ best :: rest, Outdone wanted args result v := by
  induction rest generalizing best with
  | nil =>
    cases Except.ok.inj picked
    refine ⟨fun _ _ => id, ?_⟩
    exact List.forall_mem_cons.mpr ⟨.best, List.forall_mem_nil _⟩
  | cons value rest ih =>
    obtain ⟨bestListed, restListed⟩ := List.forall_mem_cons.mp listed
    obtain ⟨valueListed, others⟩ := List.forall_mem_cons.mp restListed
    rcases pickCases picked with ⟨beats, picked⟩ | ⟨yields, picked⟩
    · obtain ⟨stays, outdone⟩ := ih picked restListed
      have step : ∀ v ∈ args, Outdone wanted args best v → Outdone wanted args result v := fun v listed before =>
        stays v listed (before.step strict fit bestListed valueListed listed beats)
      exact ⟨step, List.forall_mem_cons.mpr ⟨step best bestListed .best, outdone⟩⟩
    · obtain ⟨stays, outdone⟩ := ih picked (List.forall_mem_cons.mpr ⟨bestListed, others⟩)
      obtain ⟨ofBest, ofRest⟩ := List.forall_mem_cons.mp outdone
      have ofValue := stays value valueListed (.yields yields)
      exact ⟨stays, List.forall_mem_cons.mpr ⟨ofBest, List.forall_mem_cons.mpr ⟨ofValue, ofRest⟩⟩⟩

theorem pickMisses {wanted : Ordering} {x y z : Value} (yields : y.Yields wanted x) (beats : z.Beats wanted x) :
    Builtin.pick wanted x [y, z] = .ok z := by
  obtain ⟨found, compared, other⟩ := yields
  rw [Value.Beats] at beats
  simp [Builtin.pick, compared, beats, other, bind, Except.bind]

section

variable {wanted : Ordering} (strict : wanted ≠ .eq) {args : List Value}

include strict

theorem fittingByKeys {α : Type} [LE α] [LT α] [Std.IsLinearOrder α] [Std.LawfulOrderLT α] [DecidableLT α]
    [DecidableEq α] {Key : Value → α → Prop} (keyed : ∀ v ∈ args, ∃ k, Key v k)
    (agree : ∀ u ∈ args, ∀ v ∈ args, ∀ j k, Key u j → Key v k → u.order v = .ok (compareOfLessAndEq j k)) :
    Fitting wanted args := by
  intro x xListed y yListed z zListed yields beats beats'
  obtain ⟨i, ofX⟩ := keyed x xListed
  obtain ⟨j, ofY⟩ := keyed y yListed
  obtain ⟨k, ofZ⟩ := keyed z zListed
  obtain ⟨found, compared, other⟩ := yields
  rw [Value.Beats, agree z zListed x xListed k i ofZ ofX] at beats
  rw [agree y yListed x xListed j i ofY ofX] at compared
  cases Except.ok.inj compared
  have through := rankThrough strict other (Except.ok.inj beats)
  have above : z.Beats wanted y := by rw [Value.Beats, agree z zListed y yListed k j ofZ ofY, through]
  exact (above.yields strict).notBeats beats'

theorem fittingInts (ints : ∀ v ∈ args, ∃ n, v = .int n) : Fitting wanted args := by
  refine fittingByKeys strict ints ?_
  rintro _ _ _ _ m n rfl rfl
  rfl

theorem fittingStrings (strings : ∀ v ∈ args, ∃ s, v = .str s) : Fitting wanted args := by
  refine fittingByKeys strict strings ?_
  rintro _ _ _ _ s t rfl rfl
  rfl

/-- Integers and texts of integers, the texts in the order of their numbers. -/
structure Aligned (args : List Value) : Prop where
  number : ∀ v ∈ args, ∃ n, v.toNumber = .ok (.int n)
  order : ∀ s t m n, .str s ∈ args → .str t ∈ args → (Value.str s).toNumber = .ok (.int m) →
    (Value.str t).toNumber = .ok (.int n) → compareOfLessAndEq s t = compareOfLessAndEq m n

theorem fittingAligned (aligned : Aligned args) : Fitting wanted args := by
  refine fittingByKeys strict aligned.number ?_
  intro u uListed v vListed m n first second
  by_cases both : u.isStr = true ∧ v.isStr = true
  · obtain ⟨s, rfl⟩ := Value.isStrCases both.1
    obtain ⟨t, rfl⟩ := Value.isStrCases both.2
    rw [Value.orderStrings, aligned.order s t m n uListed vListed first second]
  · rw [Value.orderNumbers both first second]
    rfl

end

/-- How an argument has to compare with the best so far to take its place. -/
def Builtin.wanted? : Builtin → Option Ordering
  | .max => some .gt
  | .min => some .lt
  | _ => none

section

variable {builtin : Builtin} {wanted : Ordering} (which : builtin.wanted? = some wanted)

include which

theorem wantedCases : builtin = .max ∧ wanted = .gt ∨ builtin = .min ∧ wanted = .lt := by
  cases builtin <;> simp_all [Builtin.wanted?]

theorem wantedStrict : wanted ≠ .eq := by
  rcases wantedCases which with ⟨_, rfl⟩ | ⟨_, rfl⟩ <;> decide

theorem applyPick {best result : Value} {rest : List Value} (picked : Builtin.pick wanted best rest = .ok result)
    (store : Store) : builtin.apply (best :: rest) store = .done result store := by
  rcases wantedCases which with ⟨rfl, rfl⟩ | ⟨rfl, rfl⟩
  · rw [Builtin.apply, picked]
    rfl
  · rw [Builtin.apply, picked]
    rfl

theorem pickOfApply {args : List Value} {store after : Store} {result : Value}
    (ran : builtin.apply args store = .done result after) :
    after = store ∧ ∃ best rest, args = best :: rest ∧ Builtin.pick wanted best rest = .ok result := by
  cases args with
  | nil => rcases wantedCases which with ⟨rfl, rfl⟩ | ⟨rfl, rfl⟩ <;> cases ran
  | cons best rest =>
    have picked : Builtin.pick wanted best rest = .ok result ∧ after = store := by
      rcases wantedCases which with ⟨rfl, rfl⟩ | ⟨rfl, rfl⟩ <;> exact Action.ofExceptDone ran
    exact ⟨picked.2, best, rest, rfl, picked.1⟩

end

/-- The greatest or least of integers and strings is one of them, and none behind it beats it. None at all does, and
every other order of the arguments gives one level with it, where the arguments fit together; where they do not, some
three of them miss the extreme. -/
theorem extremesOfFittingArguments {builtin : Builtin} {wanted : Ordering} (which : builtin.wanted? = some wanted)
    {args : List Value} (plain : ∀ v ∈ args, (∃ n, v = .int n) ∨ ∃ s, v = .str s) {store after : Store}
    {result : Value} (ran : builtin.apply args store = .done result after) :
    after = store ∧
    (∃ before behind, args = before ++ result :: behind ∧ ∀ v ∈ behind, v.Yields wanted result) ∧
    (Fitting wanted args →
      (∀ v ∈ args, ¬v.Beats wanted result) ∧
      ∀ others result' after', others.Perm args → builtin.apply others store = .done result' after' →
        result.order result' = .ok .eq) ∧
    (¬Fitting wanted args → ∃ x ∈ args, ∃ y ∈ args, ∃ z ∈ args,
      builtin.apply [x, y, z] store = .done z store ∧ y.Beats wanted z) ∧
    ((∀ v ∈ args, ∃ n, v = .int n) ∨ (∀ v ∈ args, ∃ s, v = .str s) ∨ Aligned args → Fitting wanted args) := by
  have strict := wantedStrict which
  obtain ⟨same, best, rest, rfl, picked⟩ := pickOfApply which ran
  refine ⟨same, pickPosition picked, fun fit => ?_, fun misfit => ?_, ?_⟩
  · have outdone := (pickOutdoes strict fit picked fun _ => id).2
    have top : ∀ v ∈ best :: rest, ¬v.Beats wanted result := fun v listed => (outdone v listed).notBeats strict
    refine ⟨top, fun others result' after' perm ran' => ?_⟩
    obtain ⟨_, best', rest', rfl, picked'⟩ := pickOfApply which ran'
    have listed : ∀ v, v ∈ best' :: rest' ↔ v ∈ best :: rest := fun v => perm.mem_iff
    have outdone' := (pickOutdoes strict fit picked' fun v => (listed v).mp).2
    obtain ⟨before, behind, shape, _⟩ := pickPosition picked
    obtain ⟨before', behind', shape', _⟩ := pickPosition picked'
    have member : result ∈ best :: rest := by simp [shape]
    have member' : result' ∈ best' :: rest' := by simp [shape']
    have self : result.Meets result := by
      rcases plain result member with ⟨n, rfl⟩ | ⟨s, rfl⟩ <;> exact ⟨_, rfl⟩
    exact outdoneLevel strict (outdone' result ((listed result).mpr member))
      (outdone result' ((listed result').mp member')) self top fun v inside =>
        (outdone' v ((listed v).mpr inside)).notBeats strict
  · refine Classical.byContradiction fun none => misfit ?_
    intro x xListed y yListed z zListed yields beats beats'
    have missed := applyPick which (pickMisses yields beats) store
    exact none ⟨x, xListed, y, yListed, z, zListed, missed, beats'⟩
  · rintro (ints | strings | aligned)
    · exact fittingInts strict ints
    · exact fittingStrings strict strings
    · exact fittingAligned strict aligned

theorem paddedAligned : Aligned [.str "07", .int 8, .str "09"] where
  number :=
    List.forall_mem_cons.mpr ⟨⟨7, rfl⟩, List.forall_mem_cons.mpr ⟨⟨8, rfl⟩,
      List.forall_mem_cons.mpr ⟨⟨9, rfl⟩, List.forall_mem_nil _⟩⟩⟩
  order s t m n first second ofFirst ofSecond := by
    have seven : (Value.str "07").toNumber = .ok (.int 7) := rfl
    have nine : (Value.str "09").toNumber = .ok (.int 9) := rfl
    have two : ∀ s, .str s ∈ [Value.str "07", .int 8, .str "09"] → s = "07" ∨ s = "09" := by
      simp [Value.str, Value.int]
    rcases two s first with rfl | rfl
    · cases seven.symm.trans ofFirst
      rcases two t second with rfl | rfl
      · cases seven.symm.trans ofSecond
        rfl
      · cases nine.symm.trans ofSecond
        rfl
    · cases nine.symm.trans ofFirst
      rcases two t second with rfl | rfl
      · cases seven.symm.trans ofSecond
        rfl
      · cases nine.symm.trans ofSecond
        rfl

theorem paddedMaximum :
    Builtin.max.apply [.str "07", .int 8, .str "09"] Store.empty = .done (.str "09") Store.empty ∧
    ∀ v ∈ [Value.str "07", .int 8, .str "09"], ¬v.Beats .gt (.str "09") := by
  have plain : ∀ v ∈ [Value.str "07", .int 8, .str "09"], (∃ n, v = .int n) ∨ ∃ s, v = .str s :=
    List.forall_mem_cons.mpr ⟨.inr ⟨_, rfl⟩, List.forall_mem_cons.mpr ⟨.inl ⟨_, rfl⟩,
      List.forall_mem_cons.mpr ⟨.inr ⟨_, rfl⟩, List.forall_mem_nil _⟩⟩⟩
  have ran : Builtin.max.apply [.str "07", .int 8, .str "09"] Store.empty = .done (.str "09") Store.empty := rfl
  obtain ⟨_, _, extreme, _, fits⟩ := extremesOfFittingArguments rfl plain ran
  exact ⟨ran, (extreme (fits (.inr (.inr paddedAligned)))).1⟩

theorem mixedArgumentsMiss :
    Builtin.max.apply [.str "10", .int 10, .str "9"] Store.empty = .done (.str "9") Store.empty ∧
    Builtin.max.apply [.int 10, .str "10", .str "9"] Store.empty = .done (.int 10) Store.empty ∧
    (Value.int 10).order (.str "9") = .ok .gt ∧
    Builtin.min.apply [.str "9", .int 9, .str "10"] Store.empty = .done (.str "10") Store.empty ∧
    (Value.int 9).order (.str "10") = .ok .lt := by
  refine ⟨rfl, rfl, rfl, rfl, rfl⟩

end CircuitScript
