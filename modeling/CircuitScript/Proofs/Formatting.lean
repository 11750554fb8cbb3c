import Mathlib.Data.List.TakeWhile
import CircuitScript.Directive
import CircuitScript.Proofs.Cuts
import CircuitScript.Proofs.Scanning

/-! Format texts put together. The directives of a text are found from left to right, each where the first
one begins behind the last, so a text that does not break off inside of a directive is formatted in the same
way whatever follows it. -/
namespace CircuitScript

namespace Directive

inductive PrecisionText : List Char → Prop where
  | absent : PrecisionText []
  | given {c : Char} {digits : List Char} (first : Text.isDecimalDigit c)
      (digit : ∀ d ∈ digits, Text.isDecimalDigit d) : PrecisionText ('.' :: c :: digits)

/-- A percent sign, flags, a width, a precision and a conversion. -/
inductive Spelled : List Char → Prop where
  | intro (flags width precision : List Char) (c : Char) (flag : ∀ f ∈ flags, isFlag f)
      (digit : ∀ d ∈ width, Text.isDecimalDigit d) (precise : PrecisionText precision)
      (converts : (Conversion.ofChar? c).isSome) :
      Spelled ('%' :: (flags ++ (width ++ (precision ++ [c]))))

/-- A directive that breaks off before its conversion. -/
inductive Begun : List Char → Prop where
  | intro (flags width point : List Char) (flag : ∀ f ∈ flags, isFlag f)
      (digit : ∀ d ∈ width, Text.isDecimalDigit d)
      (pointed : point = [] ∨ ∃ digits, point = '.' :: digits ∧ ∀ d ∈ digits, Text.isDecimalDigit d) :
      Begun ('%' :: (flags ++ (width ++ point)))

/-- The text does not break off inside of a directive. -/
def Unbroken (text : List Char) : Prop := ∀ before part, text = before ++ part → ¬Begun part

/-- No directive begins in the first of two texts. -/
def Clear (plain rest : List Char) : Prop :=
  ∀ before directive after, plain ++ rest = before ++ (directive ++ after) → Spelled directive →
    plain.length ≤ before.length

/-- The directives of a text from left to right, and what stands behind the last of them. -/
inductive Found : List Char → List (List Char) → List Char → Prop where
  | none {text : List Char}
      (never : ∀ before directive after, text = before ++ (directive ++ after) → ¬Spelled directive) :
      Found text [] text
  | next (plain : List Char) {directive rest tail : List Char} {more : List (List Char)} (spelled : Spelled directive)
      (leftmost : Clear plain (directive ++ rest)) (later : Found rest more tail) :
      Found (plain ++ (directive ++ rest)) (directive :: more) tail

/-- The number of directives that write an argument. -/
def valueCount (found : List (List Char)) : Nat := found.countP fun directive => directive.getLast? != some '%'

theorem conversionStops {c : Char} (converts : (Conversion.ofChar? c).isSome) :
    isFlag c = false ∧ Text.isDecimalDigit c = false ∧ c ≠ '.' := by
  unfold Conversion.ofChar? at converts
  split at converts
  all_goals first | decide +kernel | cases converts

theorem pointStops : isFlag '.' = false ∧ Text.isDecimalDigit '.' = false := by decide +kernel

theorem toCharOf {c : Char} {conversion : Conversion} (made : Conversion.ofChar? c = some conversion) :
    conversion.toChar = c := by
  unfold Conversion.ofChar? at made
  split at made <;> cases made <;> rfl

theorem ofCharOf (conversion : Conversion) : Conversion.ofChar? conversion.toChar = some conversion := by
  cases conversion <;> rfl

/-- What flags, a width, the digits of a precision and a conversion say. -/
def made (flags width digits : List Char) (conversion : Conversion) : Directive where
  left := ((flags ++ width).takeWhile isFlag).contains '-'
  zeros := ((flags ++ width).takeWhile isFlag).contains '0'
  width := (readCount? (width.dropWhile isFlag)).getD 0
  precision := readCount? digits
  conversion := conversion

section

variable {flags width : List Char} (flag : ∀ f ∈ flags, isFlag f) (digit : ∀ d ∈ width, Text.isDecimalDigit d)
include flag digit

theorem readParts {digits rest after : List Char} {c : Char} {conversion : Conversion}
    (stops : ∀ stop more, rest = stop :: more → isFlag stop = false ∧ Text.isDecimalDigit stop = false)
    (precise : splitPrecision rest = (digits, c :: after)) (converts : Conversion.ofChar? c = some conversion) :
    read? (flags ++ (width ++ rest)) = some (made flags width digits conversion, after) := by
  have taken : (flags ++ (width ++ rest)).takeWhile isFlag = (flags ++ width).takeWhile isFlag := by
    rw [← List.append_assoc]
    exact takeWhileBefore fun stop more same => (stops stop more same).1
  have dropped : (flags ++ (width ++ rest)).dropWhile isFlag = width.dropWhile isFlag ++ rest := by
    rw [List.dropWhile_append_of_pos flag]
    exact dropWhileBefore fun stop more same => (stops stop more same).1
  -- Zeros in front of the width count as flags, and only digits are left of it.
  have digits' : ∀ d ∈ width.dropWhile isFlag, Text.isDecimalDigit d :=
    fun d member => digit d ((List.dropWhile_suffix isFlag).subset member)
  have stops' : ∀ stop more, rest = stop :: more → Text.isDecimalDigit stop = false :=
    fun stop more same => (stops stop more same).2
  have digitsTaken : (width.dropWhile isFlag ++ rest).takeWhile Text.isDecimalDigit = width.dropWhile isFlag := by
    rw [takeWhileBefore stops', List.takeWhile_eq_self_iff.mpr digits']
  have digitsDropped : (width.dropWhile isFlag ++ rest).dropWhile Text.isDecimalDigit = rest := by
    rw [dropWhileBefore stops', List.dropWhile_eq_nil_iff.mpr digits', List.nil_append]
  unfold read?
  simp only [taken, dropped, digitsTaken, digitsDropped, precise, converts]
  rfl

end

theorem splitPrecisionText {precision after : List Char} {c : Char} (precise : PrecisionText precision)
    (converts : (Conversion.ofChar? c).isSome) :
    splitPrecision (precision ++ c :: after) = (precision.drop 1, c :: after) := by
  obtain ⟨_, digit, point⟩ := conversionStops converts
  cases precise with
  | absent =>
    simp only [List.nil_append, List.drop_nil]
    unfold splitPrecision
    split
    · rename_i same
      exact absurd (List.cons.inj same).1 point
    · rfl
  | @given d digits first others =>
    have stops : ∀ stop more, c :: after = stop :: more → Text.isDecimalDigit stop = false := by
      intro stop more same
      cases same
      exact digit
    simp only [List.cons_append, List.drop_succ_cons, List.drop_zero, splitPrecision, first, if_true,
      takeWhileBefore stops, dropWhileBefore stops, List.takeWhile_eq_self_iff.mpr others,
      List.dropWhile_eq_nil_iff.mpr others, List.nil_append]

theorem precisionStops {precision after : List Char} {c : Char} (precise : PrecisionText precision)
    (converts : (Conversion.ofChar? c).isSome) :
    ∀ stop more, precision ++ c :: after = stop :: more →
      isFlag stop = false ∧ Text.isDecimalDigit stop = false := by
  intro stop more same
  cases precise with
  | absent =>
    cases same
    exact ⟨(conversionStops converts).1, (conversionStops converts).2.1⟩
  | given _ _ =>
    cases same
    exact pointStops

theorem Spelled.read {text : List Char} (spelled : Spelled text) :
    ∃ body d, text = '%' :: body ∧ text.getLast? = some d.conversion.toChar ∧
      ∀ after, read? (body ++ after) = some (d, after) := by
  cases spelled with
  | @intro flags width precision c flag digit precise converts =>
    obtain ⟨conversion, found⟩ := Option.isSome_iff_exists.mp converts
    refine ⟨_, made flags width (precision.drop 1) conversion, rfl, ?_, fun after => ?_⟩
    · rw [show (made flags width (precision.drop 1) conversion).conversion = conversion from rfl, toCharOf found]
      simp [List.getLast?_cons]
    · simp only [List.append_assoc, List.singleton_append]
      exact readParts flag digit (precisionStops precise converts) (splitPrecisionText precise converts) found

theorem splitPrecisionCases (text : List Char) :
    ∃ precision, PrecisionText precision ∧ text = precision ++ (splitPrecision text).2 := by
  fun_cases splitPrecision text with
  | case1 c rest digit =>
    refine ⟨'.' :: c :: rest.takeWhile Text.isDecimalDigit, .given digit fun d member => ?_, by simp⟩
    exact (List.all_eq_true.mp List.all_takeWhile) d member
  | case2 | case3 => exact ⟨[], .absent, rfl⟩

theorem readCases {text after : List Char} {d : Directive} (found : read? text = some (d, after)) :
    ∃ body, text = body ++ after ∧ Spelled ('%' :: body) := by
  obtain ⟨precision, precise, split⟩ :=
    splitPrecisionCases ((text.dropWhile isFlag).dropWhile Text.isDecimalDigit)
  unfold read? at found
  dsimp only at found
  split at found
  · cases found
  · rename_i c rest shape
    obtain ⟨conversion, converts, same⟩ := Option.map_eq_some_iff.mp found
    obtain ⟨_, rfl⟩ := Prod.mk.inj same
    rw [shape] at split
    refine ⟨text.takeWhile isFlag ++ ((text.dropWhile isFlag).takeWhile Text.isDecimalDigit ++ (precision ++ [c])),
      ?_, .intro _ _ _ _ ?_ ?_ precise ?_⟩
    · simp only [List.append_assoc, List.singleton_append, ← split, List.takeWhile_append_dropWhile]
    · exact List.all_eq_true.mp List.all_takeWhile
    · exact List.all_eq_true.mp List.all_takeWhile
    · rw [converts]
      rfl

theorem Spelled.unique {a b x y : List Char} (first : Spelled a) (second : Spelled b) (same : a ++ x = b ++ y) :
    a = b ∧ x = y := by
  obtain ⟨body, d, rfl, _, read⟩ := first.read
  obtain ⟨body', d', rfl, _, read'⟩ := second.read
  have bodies : body ++ x = body' ++ y := (List.cons.inj same).2
  have behind := read x
  rw [bodies, read' y] at behind
  obtain ⟨_, rfl⟩ := Prod.mk.inj (Option.some.inj behind)
  exact ⟨congrArg _ (List.append_cancel_right bodies), rfl⟩

theorem Spelled.begun {part more : List Char} (spelled : Spelled (part ++ more)) (filled : part ≠ [])
    (cut : more ≠ []) : Begun part := by
  obtain ⟨percent, part, rfl⟩ := List.exists_cons_of_ne_nil filled
  generalize whole : percent :: part ++ more = text at spelled
  cases spelled with
  | @intro flags width precision c flag digit precise converts =>
    obtain ⟨rfl, same⟩ := List.cons.inj whole
    rcases List.append_eq_append_iff.mp same with ⟨others, rfl, _⟩ | ⟨later, rfl, same'⟩
    · have part := Begun.intro part [] [] (fun f member => flag f (List.mem_append_left _ member))
        (List.forall_mem_nil _) (.inl rfl)
      rwa [List.append_nil, List.append_nil] at part
    · rcases List.append_eq_append_iff.mp same'.symm with ⟨others, rfl, _⟩ | ⟨point, rfl, last⟩
      · have part := Begun.intro _ later [] flag (fun d member => digit d (List.mem_append_left _ member)) (.inl rfl)
        rwa [List.append_nil] at part
      · refine .intro _ _ _ flag digit ?_
        -- The cut comes before the conversion, so what is left of the precision is all before it.
        have inside : ∃ others, precision = point ++ others := by
          rcases List.append_eq_append_iff.mp last.symm with ⟨others, rfl, _⟩ | ⟨behind, rfl, last'⟩
          · exact ⟨others, rfl⟩
          · rcases List.append_eq_singleton_iff.mp last'.symm with ⟨rfl, _⟩ | ⟨_, rfl⟩
            · exact ⟨[], by simp⟩
            · contradiction
        obtain ⟨others, split⟩ := inside
        cases point with
        | nil => exact .inl rfl
        | cons mark digits =>
          cases precise with
          | absent => cases split
          | @given first digits' isDigit areDigits =>
            obtain ⟨rfl, rest⟩ := List.cons.inj split
            refine .inr ⟨digits, rfl, fun d member => ?_⟩
            have among : d ∈ first :: digits' := by
              rw [rest]
              exact List.mem_append_left others member
            rcases List.mem_cons.mp among with rfl | among
            · exact isDigit
            · exact areDigits d among

theorem Begun.onePercent {c : Char} {text : List Char} (begun : Begun (c :: text)) : '%' ∉ text := by
  have digitless : Text.isDecimalDigit '%' = false := by decide +kernel
  generalize same : c :: text = whole at begun
  cases begun with
  | @intro flags width point flag digit pointed =>
    obtain ⟨_, rfl⟩ := List.cons.inj same
    intro member
    rcases List.mem_append.mp member with inside | inside
    · exact absurd (flag _ inside) (by decide)
    · rcases List.mem_append.mp inside with inside | inside
      · exact absurd (digit _ inside) (by simp [digitless])
      · rcases pointed with rfl | ⟨digits, rfl, digits'⟩
        · cases inside
        · rcases List.mem_cons.mp inside with wrong | inside
          · exact absurd wrong (by decide)
          · exact absurd (digits' _ inside) (by simp [digitless])

theorem clearOfNever {text : List Char}
    (never : ∀ before directive after, text = before ++ (directive ++ after) → ¬Spelled directive) :
    Clear text [] := by
  intro before directive after same spelled
  rw [List.append_nil] at same
  exact absurd spelled (never before directive after same)

theorem Clear.append {plain rest : List Char} (clear : Clear plain rest)
    (closed : ∀ before part, plain = before ++ part → part ≠ [] → ¬Begun (part ++ rest)) (more : List Char) :
    Clear plain (rest ++ more) := by
  intro before directive after same spelled
  rw [← List.append_assoc, ← List.append_assoc] at same
  by_contra early
  rcases List.append_eq_append_iff.mp same with ⟨beyond, split, rfl⟩ | ⟨within, split, _⟩
  · obtain ⟨part, rfl⟩ : ∃ part, plain = before ++ part := by
      have first : before <+: plain ++ rest ++ beyond := ⟨directive, split⟩
      rw [List.append_assoc] at first
      exact (List.prefix_of_prefix_length_le first (List.prefix_append plain _) (by omega)).imp
        fun _ => Eq.symm
    have filled : part ≠ [] := by
      rintro rfl
      simp at early
    have whole : directive = part ++ rest ++ beyond := by
      rw [List.append_assoc, List.append_assoc] at split
      rw [List.append_assoc]
      exact List.append_cancel_left split
    subst whole
    cases beyond with
    | nil => exact early (clear before _ [] (by simp) spelled)
    | cons c beyond => exact closed before part rfl filled (spelled.begun (by simp [filled]) (by simp))
  · exact early (clear before directive within (by rw [split, List.append_assoc]) spelled)

theorem Spelled.filled {directive : List Char} (spelled : Spelled directive) :
    ∃ body, directive = '%' :: body := by
  cases spelled
  exact ⟨_, rfl⟩

theorem foundNil : Found [] [] [] := by
  refine .none fun before directive after same spelled => ?_
  obtain ⟨body, rfl⟩ := spelled.filled
  simp at same

theorem Found.cons {c : Char} {text tail : List Char} {found : List (List Char)} (later : Found text found tail)
    (plain : ∀ directive after, c :: text = directive ++ after → ¬Spelled directive) :
    ∃ tail', Found (c :: text) found tail' := by
  cases later with
  | none never =>
    refine ⟨_, .none fun before directive after same spelled => ?_⟩
    cases before with
    | nil => exact plain directive after same spelled
    | cons b before => exact never before directive after (List.cons.inj same).2 spelled
  | @next front directive rest tail more spelled leftmost later =>
    refine ⟨tail, .next (c :: front) spelled ?_ later⟩
    intro before other after same spelled'
    cases before with
    | nil => exact absurd spelled' (plain other after same)
    | cons b before => exact Nat.succ_le_succ (leftmost before other after (List.cons.inj same).2 spelled')

theorem foundSome (text : List Char) : ∃ found tail, Found text found tail := by
  induction size : text.length using Nat.strongRecOn generalizing text with
  | ind n ih =>
    subst size
    cases text with
    | nil => exact ⟨[], [], foundNil⟩
    | cons c text =>
      by_cases begins : ∃ directive after, c :: text = directive ++ after ∧ Spelled directive
      · obtain ⟨directive, after, same, spelled⟩ := begins
        obtain ⟨body, rfl⟩ := spelled.filled
        rw [same] at ih ⊢
        have shorter : after.length < ('%' :: body ++ after).length := by
          rw [List.cons_append, List.length_cons, List.length_append]
          omega
        obtain ⟨found, tail, later⟩ := ih after.length shorter after rfl
        exact ⟨_, tail, .next [] spelled (fun _ _ _ _ _ => Nat.zero_le _) later⟩
      · obtain ⟨found, tail, later⟩ := ih text.length (by simp) text rfl
        obtain ⟨tail', whole⟩ := later.cons fun directive after same spelled =>
          begins ⟨directive, after, same, spelled⟩
        exact ⟨found, tail', whole⟩

theorem Found.unique {text tail tail' : List Char} {found found' : List (List Char)}
    (first : Found text found tail) (second : Found text found' tail') : found' = found ∧ tail' = tail := by
  induction first generalizing found' tail' with
  | none never =>
    cases second with
    | none _ => exact ⟨rfl, rfl⟩
    | next plain spelled _ _ => exact absurd spelled (never _ _ _ rfl)
  | @next plain directive rest tail more spelled leftmost later ih =>
    generalize whole : plain ++ (directive ++ rest) = text at second
    cases second with
    | none never => exact absurd spelled (never _ _ _ whole.symm)
    | @next plain' directive' rest' _ more' spelled' leftmost' later' =>
      have same : plain.length = plain'.length :=
        Nat.le_antisymm (leftmost _ _ _ whole spelled') (leftmost' _ _ _ whole.symm spelled)
      obtain ⟨rfl, behind⟩ := List.append_inj whole same
      obtain ⟨rfl, rfl⟩ := spelled.unique spelled' behind
      obtain ⟨rfl, rfl⟩ := ih later'
      exact ⟨rfl, rfl⟩

end Directive

namespace Piece

open Directive

def takesValue : Piece → Bool
  | plain _ => false
  | directive d => d.conversion != .percent

/-- What a piece writes that takes no argument. -/
def sign : Piece → Char
  | plain c => c
  | directive _ => '%'

theorem splitRead {text after : List Char} {d : Directive} (found : read? text = some (d, after)) :
    split ('%' :: text) = directive d :: split after := by
  rw [split, if_pos rfl]
  split
  · rename_i found'
    cases found.symm.trans found'
    rfl
  · rename_i missing
    cases found.symm.trans missing

theorem splitPlain {c : Char} {text : List Char} (other : c = '%' → read? text = none) :
    split (c :: text) = plain c :: split text := by
  rw [split]
  split
  · rename_i percent
    split
    · rename_i found
      cases (other percent).symm.trans found
    · rfl
  · rfl

theorem splitClear {front rest : List Char} (clear : Clear front rest) :
    split (front ++ rest) = front.map plain ++ split rest := by
  induction front with
  | nil => rfl
  | cons c front ih =>
    have clear' : Clear front rest := fun before directive after same spelled =>
      Nat.le_of_succ_le_succ (clear (c :: before) directive after (congrArg (c :: ·) same) spelled)
    rw [List.cons_append, splitPlain, ih clear']
    · rfl
    · rintro rfl
      cases found : read? (front ++ rest) with
      | none => rfl
      | some read =>
        obtain ⟨body, same, spelled⟩ := readCases found
        have early := clear [] ('%' :: body) read.2 (congrArg ('%' :: ·) same) spelled
        cases early

theorem splitNever {text : List Char}
    (never : ∀ before directive after, text = before ++ (directive ++ after) → ¬Spelled directive) :
    split text = text.map plain := by
  have whole := splitClear (clearOfNever never)
  rwa [List.append_nil, split, List.append_nil] at whole

theorem splitSpelled {text : List Char} (spelled : Spelled text) :
    ∃ d, text.getLast? = some d.conversion.toChar ∧ ∀ rest, split (text ++ rest) = directive d :: split rest := by
  obtain ⟨body, d, rfl, last, read⟩ := spelled.read
  exact ⟨d, last, fun rest => splitRead (read rest)⟩

theorem splitFound {text tail : List Char} {found : List (List Char)} (all : Found text found tail) :
    (split text).countP takesValue = valueCount found := by
  induction all with
  | @none text never =>
    simp [splitNever never, valueCount, takesValue, Function.comp_def]
  | @next front text rest tail more spelled leftmost later ih =>
    obtain ⟨d, last, read⟩ := splitSpelled spelled
    have kind : takesValue (directive d) = (text.getLast? != some '%') := by
      rw [last, takesValue]
      cases d.conversion <;> decide
    rw [splitClear leftmost, read, List.countP_append, List.countP_cons, ih, valueCount, valueCount, List.countP_cons,
      kind]
    simp [takesValue, Function.comp_def]

theorem splitAppend {text tail : List Char} {found : List (List Char)} (all : Found text found tail)
    (closed : Unbroken tail) (more : List Char) :
    split (text ++ more) = split text ++ split more := by
  induction all with
  | @none text never =>
    have clear : Clear text more := by
      refine (clearOfNever never).append (fun before part same _ => ?_) more
      rw [List.append_nil]
      exact closed before part same
    rw [splitClear clear, splitNever never]
  | @next front text rest tail found spelled leftmost later ih =>
    obtain ⟨d, _, read⟩ := splitSpelled spelled
    obtain ⟨body, rfl⟩ := spelled.filled
    -- A directive that began in front of this one would have to pass its percent sign.
    have clear' : Clear front ('%' :: body ++ rest ++ more) := by
      refine leftmost.append (fun before part same filled begun => ?_) more
      obtain ⟨c, part, rfl⟩ := List.exists_cons_of_ne_nil filled
      exact begun.onePercent (by simp)
    have clear'' : Clear front ('%' :: body ++ (rest ++ more)) := by
      rwa [List.append_assoc] at clear'
    rw [splitClear leftmost, read, List.append_assoc, List.append_assoc, splitClear clear'', read, ih closed]
    simp

section

variable (store : Store)

theorem fillSign {piece : Piece} (fixed : piece.takesValue = false) (rest : List Piece) (args : List Value) :
    fill store (piece :: rest) args = (fill store rest args).map (piece.sign :: ·) := by
  cases piece with
  | plain c =>
    rw [fill]
    cases fill store rest args <;> rfl
  | directive d =>
    have percent : d.conversion = .percent := by simpa [takesValue] using fixed
    cases args with
    | nil =>
      rw [fill, if_pos percent]
      cases fill store rest [] <;> rfl
    | cons value args =>
      rw [fill, if_pos percent]
      cases fill store rest (value :: args) <;> rfl

theorem fillMissing {piece : Piece} (takes : piece.takesValue = true) :
    ∃ e, ∀ rest, fill store (piece :: rest) [] = .error e := by
  cases piece with
  | plain c => cases takes
  | directive d =>
    have valued : d.conversion ≠ .percent := by simpa [takesValue] using takes
    exact ⟨_, fun rest => by rw [fill, if_neg valued]⟩

theorem fillValue {piece : Piece} (takes : piece.takesValue = true) (value : Value) :
    ∃ written : Except EvalError (List Char), ∀ rest args, fill store (piece :: rest) (value :: args) =
      written.bind fun text => (fill store rest args).map (text ++ ·) := by
  cases piece with
  | plain c => cases takes
  | directive d =>
    have valued : d.conversion ≠ .percent := by simpa [takesValue] using takes
    refine ⟨(d.convert store value).map d.pad, fun rest args => ?_⟩
    rw [fill, if_neg valued]
    cases d.convert store value with
    | error e => rfl
    | ok body => cases fill store rest args <;> rfl

theorem fillAppend (pieces more : List Piece) (args : List Value) :
    fill store (pieces ++ more) args =
      (fill store pieces args).bind fun text =>
        (fill store more (args.drop (pieces.countP takesValue))).map (text ++ ·) := by
  induction pieces generalizing args with
  | nil =>
    show fill store more args = (fill store more args).map ([] ++ ·)
    cases fill store more args <;> rfl
  | cons piece pieces ih =>
    cases takes : piece.takesValue with
    | false =>
      rw [List.cons_append, fillSign store takes, fillSign store takes, ih, List.countP_cons_of_neg (by simp [takes])]
      cases fill store pieces args with
      | error e => rfl
      | ok text => cases fill store more (args.drop (pieces.countP takesValue)) <;> rfl
    | true =>
      cases args with
      | nil =>
        obtain ⟨e, missing⟩ := fillMissing store takes
        rw [List.cons_append, missing, missing]
        rfl
      | cons value args =>
        obtain ⟨written, filled⟩ := fillValue store takes value
        rw [List.cons_append, filled, filled, ih, List.countP_cons_of_pos takes, List.drop_succ_cons]
        cases written with
        | error e => rfl
        | ok text =>
          cases fill store pieces args with
          | error e => rfl
          | ok text' =>
            cases fill store more (args.drop (pieces.countP takesValue)) with
            | error e => rfl
            | ok text'' => simp [Except.bind, Except.map]

theorem fillExtra (pieces : List Piece) {args : List Value} (enough : pieces.countP takesValue ≤ args.length)
    (more : List Value) : fill store pieces (args ++ more) = fill store pieces args := by
  induction pieces generalizing args with
  | nil => rfl
  | cons piece pieces ih =>
    cases takes : piece.takesValue with
    | false =>
      rw [List.countP_cons_of_neg (by simp [takes])] at enough
      rw [fillSign store takes, fillSign store takes, ih enough]
    | true =>
      rw [List.countP_cons_of_pos takes] at enough
      cases args with
      | nil => cases enough
      | cons value args =>
        obtain ⟨written, filled⟩ := fillValue store takes value
        rw [List.cons_append, filled, filled, ih (Nat.le_of_succ_le_succ enough)]

theorem fillNeeds {pieces : List Piece} {args : List Value} {text : List Char}
    (made : fill store pieces args = .ok text) : pieces.countP takesValue ≤ args.length := by
  induction pieces generalizing args text with
  | nil => exact Nat.zero_le _
  | cons piece pieces ih =>
    cases takes : piece.takesValue with
    | false =>
      rw [fillSign store takes] at made
      rw [List.countP_cons_of_neg (by simp [takes])]
      cases later : fill store pieces args with
      | error e => simp [later, Except.map] at made
      | ok rest => exact ih later
    | true =>
      cases args with
      | nil =>
        obtain ⟨e, missing⟩ := fillMissing store takes
        cases (missing pieces).symm.trans made
      | cons value args =>
        obtain ⟨written, filled⟩ := fillValue store takes value
        rw [filled] at made
        rw [List.countP_cons_of_pos takes]
        cases later : fill store pieces args with
        | error e => cases written <;> simp [later, Except.bind, Except.map] at made
        | ok rest => exact Nat.succ_le_succ (ih later)

end

end Piece

open Directive

/-- The text with every percent sign written twice. -/
def doubled (text : String) : String :=
  String.ofList (text.toList.flatMap fun c => if c = '%' then ['%', '%'] else [c])

namespace Store

variable (store : Store)

theorem formatPlain {text : String} (plain : '%' ∉ text.toList) (args : List Value) :
    store.format text args = .ok text := by
  have filled : ∀ chars : List Char, '%' ∉ chars → Piece.fill store (Piece.split chars) args = .ok chars := by
    intro chars plain
    induction chars with
    | nil => simp [Piece.split, Piece.fill]
    | cons c chars ih =>
      simp only [List.mem_cons, not_or] at plain
      rw [Piece.splitPlain fun percent => absurd percent.symm plain.1, Piece.fillSign store rfl, ih plain.2]
      rfl
  rw [format, filled _ plain]
  simp [Except.map]

theorem formatDoubled (text : String) (args : List Value) : store.format (doubled text) args = .ok text := by
  have percents : Spelled ['%', '%'] :=
    .intro [] [] [] '%' (List.forall_mem_nil _) (List.forall_mem_nil _) .absent rfl
  obtain ⟨d, last, read⟩ := Piece.splitSpelled percents
  have percent : d.conversion = .percent := by
    cases shape : d.conversion <;> rw [shape] at last <;> first | rfl | exact absurd last (by decide)
  have fixed : (Piece.directive d).takesValue = false := by simp [Piece.takesValue, percent]
  have filled : ∀ chars : List Char,
      Piece.fill store (Piece.split (chars.flatMap fun c => if c = '%' then ['%', '%'] else [c])) args =
        .ok chars := by
    intro chars
    induction chars with
    | nil => simp [Piece.split, Piece.fill]
    | cons c chars ih =>
      by_cases sign : c = '%'
      · rw [List.flatMap_cons, if_pos sign, read, Piece.fillSign store fixed, ih, sign]
        rfl
      · rw [List.flatMap_cons, if_neg sign, List.singleton_append, Piece.splitPlain fun h => absurd h sign,
          Piece.fillSign store rfl, ih]
        rfl
  rw [format, doubled, String.toList_ofList, filled]
  simp [Except.map]

theorem formatsCompose (first : String) :
    ∃ found tail,
      (∀ found' tail', Found first.toList found' tail' ↔ found' = found ∧ tail' = tail) ∧
      (Unbroken tail → ∀ (second : String) (args : List Value),
        store.format (first ++ second) args = (do
          let text ← store.format first args
          let more ← store.format second (args.drop (valueCount found))
          .ok (text ++ more))) ∧
      (∀ args text, store.format first args = .ok text → valueCount found ≤ args.length) ∧
      (∀ args more, valueCount found ≤ args.length →
        store.format first (args ++ more) = store.format first args) ∧
      ('%' ∉ first.toList → ∀ args, store.format first args = .ok first) ∧
      ∀ args, store.format (doubled first) args = .ok first := by
  obtain ⟨found, tail, all⟩ := foundSome first.toList
  have count := Piece.splitFound all
  refine ⟨found, tail, fun found' tail' => ⟨all.unique, ?_⟩, fun closed second args => ?_, ?_, ?_,
    store.formatPlain, store.formatDoubled first⟩
  · rintro ⟨rfl, rfl⟩
    exact all
  · rw [format, format, format, String.toList_append, Piece.splitAppend all closed, Piece.fillAppend, count]
    cases Piece.fill store (Piece.split first.toList) args with
    | error e => rfl
    | ok text =>
      cases Piece.fill store (Piece.split second.toList) (args.drop (valueCount found)) with
      | error e => rfl
      | ok more => exact congrArg Except.ok (String.ofList_append)
  · intro args text made
    rw [← count]
    cases filled : Piece.fill store (Piece.split first.toList) args with
    | error e => simp [format, filled, Except.map] at made
    | ok chars => exact Piece.fillNeeds store filled
  · intro args more enough
    rw [← count] at enough
    rw [format, Piece.fillExtra store _ enough, format]

theorem percentBeforeDigitComposes :
    ∃ found tail, Found "%-3d|%%".toList found tail ∧ Unbroken tail ∧ valueCount found = 1 ∧
      Store.empty.format ("%-3d|%%" ++ "5d%x") [.int 7, .int 255] = .ok "7  |%5dff" := by
  obtain ⟨found, tail, all, composes, _⟩ := formatsCompose Store.empty "%-3d|%%"
  have percents : Spelled "%%".toList :=
    .intro [] [] [] '%' (List.forall_mem_nil _) (List.forall_mem_nil _) .absent rfl
  have number : Spelled "%-3d".toList :=
    .intro ['-'] ['3'] [] 'd' (List.forall_mem_cons.mpr ⟨rfl, List.forall_mem_nil _⟩)
      (List.forall_mem_cons.mpr ⟨by decide +kernel, List.forall_mem_nil _⟩) .absent rfl
  have bar : Clear ['|'] ("%%".toList ++ []) := by
    intro before directive after same spelled
    obtain ⟨body, rfl⟩ := spelled.filled
    cases before with
    | nil => cases same
    | cons b before => simp
  have explicit : Found "%-3d|%%".toList ["%-3d".toList, "%%".toList] [] :=
    .next [] number (fun _ _ _ _ _ => Nat.zero_le _) (.next ['|'] percents bar foundNil)
  obtain ⟨rfl, rfl⟩ := (all _ _).mp explicit
  have unbroken : Unbroken [] := by
    intro before part same begun
    obtain ⟨_, rfl⟩ := List.append_eq_nil_iff.mp same.symm
    cases begun
  refine ⟨_, _, explicit, unbroken, by decide, ?_⟩
  have first : Store.empty.format "%-3d|%%" [.int 7, .int 255] = .ok "7  |%" := okOfToOption (by decide +kernel)
  have second : Store.empty.format "5d%x" [.int 255] = .ok "5dff" := okOfToOption (by decide +kernel)
  rw [composes unbroken, first]
  show (do let more ← Store.empty.format "5d%x" [.int 255]; .ok ("7  |%" ++ more)) = _
  rw [second]
  rfl

end Store

end CircuitScript
