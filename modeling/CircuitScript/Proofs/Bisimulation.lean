import Mathlib.Data.List.Forall2
import Mathlib.Data.List.Sort
import CircuitScript.Proofs.Depth
import CircuitScript.Proofs.Holding

/-! Equality of contents is bisimilarity. A comparison opens a pair of containers at most once on every way
down, so it ends. A pair that counts as equal because it is open further out hides no difference: the nearest
difference lies on a way that meets no pair twice. -/
namespace CircuitScript

namespace Table

variable {α : Type} {related : α → α → Prop}

theorem findMember {entries : List (String × α)} (sorted : entries.Pairwise fun a b => a.1 < b.1)
    {key : String} {value : α} (member : (key, value) ∈ entries) : find? key entries = some value := by
  induction entries with
  | nil => simp at member
  | cons head rest ih =>
    obtain ⟨below, sorted⟩ := List.pairwise_cons.mp sorted
    rcases List.mem_cons.mp member with rfl | later
    · simp [find?]
    · have different : head.1 ≠ key := by
        rintro rfl
        have less := below _ later
        exact String.lt_irrefl _ less
      simp [find?, different, ih sorted later]

theorem getMember {table : Table α} {key : String} {value : α} :
    table.get? key = some value ↔ (key, value) ∈ table.entries :=
  ⟨memOfFind, findMember table.sorted⟩

theorem containsKey {table : Table α} {key : String} :
    table.contains key = true ↔ key ∈ table.keys := by
  simp [contains, Option.isSome_iff_exists, getMember, keys]

theorem keysSorted (table : Table α) : table.keys.Pairwise (· < ·) :=
  List.pairwise_map.mpr table.sorted

theorem keysSame {a b : Table α} (same : ∀ key, a.contains key = b.contains key) : a.keys = b.keys := by
  refine a.keysSorted.eq_of_mem_iff b.keysSorted fun key => ?_
  rw [← containsKey, ← containsKey, same]

theorem findMatch {xs ys : List (String × α)}
    (sideBySide : List.Forall₂ (fun x y => x.1 = y.1 ∧ related x.2 y.2) xs ys) (key : String) :
    Option.Rel related (find? key xs) (find? key ys) := by
  induction sideBySide with
  | nil => exact .none
  | @cons x y xs ys first rest ih =>
    obtain ⟨same, held⟩ := first
    by_cases here : x.1 = key
    · simpa [find?, here, ← same] using Option.Rel.some held
    · simpa [find?, here, ← same] using ih

-- Entries side by side have the same keys exactly if every key is in both tables or in none.
theorem entriesMatch {a b : Table α} :
    List.Forall₂ (fun x y => x.1 = y.1 ∧ related x.2 y.2) a.entries b.entries ↔
      (∀ key, a.contains key = b.contains key) ∧
      ∀ key x y, a.get? key = some x → b.get? key = some y → related x y := by
  constructor
  · intro sideBySide
    constructor
    · intro key
      have found := findMatch sideBySide key
      unfold contains get?
      generalize find? key a.entries = x at found ⊢
      generalize find? key b.entries = y at found ⊢
      cases found <;> rfl
    · intro key x y left right
      have found := findMatch sideBySide key
      unfold get? at left right
      rw [left, right] at found
      cases found with
      | some held => exact held
  · rintro ⟨same, held⟩
    have keys := keysSame same
    have length : a.entries.length = b.entries.length := by simpa [Table.keys] using congrArg List.length keys
    refine List.forall₂_iff_zip.mpr ⟨length, fun {x y} pair => ?_⟩
    obtain ⟨i, inside, found⟩ := List.mem_iff_getElem.mp pair
    simp only [List.getElem_zip, Prod.mk.injEq] at found
    obtain ⟨rfl, rfl⟩ := found
    have here : a.keys[i]? = b.keys[i]? := by rw [keys]
    simp only [List.length_zip, Nat.lt_min] at inside
    simp only [Table.keys, List.getElem?_map, List.getElem?_eq_getElem inside.1,
      List.getElem?_eq_getElem inside.2, Option.map_some, Option.some.injEq] at here
    refine ⟨here, held a.entries[i].1 _ _ (getMember.mpr (List.getElem_mem _)) ?_⟩
    rw [here]
    exact getMember.mpr (List.getElem_mem _)

end Table

namespace Store

variable {store : Store} {related other : Value → Value → Prop} {a b c : Value}

-- What one look at two values can tell: their parts are only known to be related.
def Alike (store : Store) (related : Value → Value → Prop) : Value → Value → Prop
  | .scalar a, .scalar b => a = b
  | .func a, .func b => a = b
  | .scope a, .scope b => a = b
  | .attributes a, .attributes b => a = b
  | .list a, .list b =>
    (store.items a).size = (store.items b).size ∧
      ∀ (i : Nat) (x y : Value), (store.items a)[i]? = some x → (store.items b)[i]? = some y →
        related x y
  | .map a, .map b =>
    (∀ key, (store.mapEntries a).contains key = (store.mapEntries b).contains key) ∧
      ∀ key x y, (store.mapEntries a).get? key = some x → (store.mapEntries b).get? key = some y →
        related x y
  | _, _ => False

def Bisimilar (store : Store) (a b : Value) : Prop :=
  ∃ related : Value → Value → Prop, (∀ x y, related x y → store.Alike related x y) ∧ related a b

theorem Alike.imp (alike : store.Alike related a b) (weaker : ∀ x y, related x y → other x y) :
    store.Alike other a b := by
  cases a <;> cases b <;> simp only [Alike] at alike ⊢
  case list.list =>
    obtain ⟨size, items⟩ := alike
    exact ⟨size, fun i x y left right => weaker x y (items i x y left right)⟩
  case map.map =>
    obtain ⟨keys, entries⟩ := alike
    exact ⟨keys, fun key x y left right => weaker x y (entries key x y left right)⟩
  all_goals exact alike

theorem alikeSelf (store : Store) (each : ∀ x, related x x) (a : Value) : store.Alike related a a := by
  cases a <;> simp only [Alike]
  case list =>
    refine ⟨trivial, fun i x y left right => ?_⟩
    cases left.symm.trans right
    exact each x
  case map =>
    refine ⟨fun _ => trivial, fun key x y left right => ?_⟩
    cases left.symm.trans right
    exact each x

theorem Alike.symm (alike : store.Alike related a b) : store.Alike (fun x y => related y x) b a := by
  cases a <;> cases b <;> simp only [Alike] at alike ⊢
  case list.list =>
    obtain ⟨size, items⟩ := alike
    exact ⟨size.symm, fun i x y left right => items i y x right left⟩
  case map.map =>
    obtain ⟨keys, entries⟩ := alike
    exact ⟨fun key => (keys key).symm, fun key x y left right => entries key y x right left⟩
  all_goals exact alike.symm

theorem Alike.trans (first : store.Alike related a b) (second : store.Alike other b c) :
    store.Alike (fun x z => ∃ y, related x y ∧ other y z) a c := by
  cases a <;> cases b <;> simp only [Alike] at first
  all_goals cases c <;> simp only [Alike] at second ⊢
  case list.list.list a b c =>
    obtain ⟨size, items⟩ := first
    obtain ⟨size', items'⟩ := second
    refine ⟨size.trans size', fun i x z left right => ?_⟩
    obtain ⟨inside, _⟩ := Array.getElem?_eq_some_iff.mp left
    have middle : (store.items b)[i]? = some (store.items b)[i] :=
      Array.getElem?_eq_getElem (size ▸ inside)
    exact ⟨_, items i x _ left middle, items' i _ z middle right⟩
  case map.map.map a b c =>
    obtain ⟨keys, entries⟩ := first
    obtain ⟨keys', entries'⟩ := second
    refine ⟨fun key => (keys key).trans (keys' key), fun key x z left right => ?_⟩
    have there : (store.mapEntries b).contains key = true := by
      rw [← keys key, Table.contains, left]
      rfl
    obtain ⟨y, middle⟩ := Option.isSome_iff_exists.mp there
    exact ⟨y, entries key x y left middle, entries' key y z middle right⟩
  all_goals exact first.trans second

theorem Bisimilar.alike (bisimilar : store.Bisimilar a b) : store.Alike store.Bisimilar a b := by
  obtain ⟨related, closed, held⟩ := bisimilar
  exact (closed a b held).imp fun x y inner => ⟨related, closed, inner⟩

theorem Bisimilar.refl (store : Store) (a : Value) : store.Bisimilar a a := by
  refine ⟨Eq, ?_, rfl⟩
  rintro x _ rfl
  exact alikeSelf store (fun _ => rfl) x

theorem Bisimilar.symm (bisimilar : store.Bisimilar a b) : store.Bisimilar b a := by
  obtain ⟨related, closed, held⟩ := bisimilar
  exact ⟨fun x y => related y x, fun x y inner => (closed y x inner).symm, held⟩

theorem Bisimilar.trans (first : store.Bisimilar a b) (second : store.Bisimilar b c) :
    store.Bisimilar a c := by
  obtain ⟨related, closed, held⟩ := first
  obtain ⟨other, closed', held'⟩ := second
  refine ⟨fun x z => ∃ y, related x y ∧ other y z, ?_, b, held, held'⟩
  rintro x z ⟨y, left, right⟩
  exact (closed x y left).trans (closed' y z right)

-- No difference shows in the first levels.
def AlikeTo (store : Store) : Nat → Value → Value → Prop
  | 0 => fun _ _ => True
  | depth + 1 => store.Alike (store.AlikeTo depth)

theorem alikeToSelf (store : Store) (depth : Nat) (a : Value) : store.AlikeTo depth a a := by
  induction depth generalizing a with
  | zero => trivial
  | succ depth ih => exact alikeSelf store ih a

theorem alikeToLess {depth : Nat} (alike : store.AlikeTo (depth + 1) a b) : store.AlikeTo depth a b := by
  induction depth generalizing a b with
  | zero => trivial
  | succ depth ih => exact Alike.imp alike fun x y => ih

theorem bisimilarOfDepths (alike : ∀ depth, store.AlikeTo depth a b) : store.Bisimilar a b := by
  refine ⟨fun x y => ∀ depth, store.AlikeTo depth x y, fun x y every => ?_, alike⟩
  have first := every 1
  have deeper := fun depth => every (depth + 1)
  cases x <;> cases y <;> simp only [AlikeTo, Alike] at first deeper ⊢
  case list.list =>
    exact ⟨first.1, fun i x y left right depth => (deeper depth).2 i x y left right⟩
  case map.map =>
    exact ⟨first.1, fun key x y left right depth => (deeper depth).2 key x y left right⟩
  all_goals exact first

end Store

/-- A comparison inside others comes to an answer. Nothing bounds how deep it goes, so one that went on for
ever would come to none. -/
inductive Compares (store : Store) : List ContainerPair → Value → Value → Bool → Prop where
  | scalars {around : List ContainerPair} (a b : Scalar) :
      Compares store around (.scalar a) (.scalar b) (a.same b)
  | functions {around : List ContainerPair} (a b : FunctionId) :
      Compares store around (.func a) (.func b) (a == b)
  | scopes {around : List ContainerPair} (a b : ScopeId) :
      Compares store around (.scope a) (.scope b) (a == b)
  | attributes {around : List ContainerPair} (a b : HandleId) :
      Compares store around (.attributes a) (.attributes b) (a == b)
  | knownLists {around : List ContainerPair} {a b : ListId} (known : a = b ∨ .lists a b ∈ around) :
      Compares store around (.list a) (.list b) true
  | lists {around : List ContainerPair} {a b : ListId} {answer : Value × Value → Bool}
      (new : ¬(a = b ∨ .lists a b ∈ around))
      (each : ∀ pair ∈ (store.items a).toList.zip (store.items b).toList,
        Compares store (.lists a b :: around) pair.1 pair.2 (answer pair)) :
      Compares store around (.list a) (.list b)
        ((store.items a).toList.length == (store.items b).toList.length &&
          ((store.items a).toList.zip (store.items b).toList).all answer)
  | knownMaps {around : List ContainerPair} {a b : MapId} (known : a = b ∨ .maps a b ∈ around) :
      Compares store around (.map a) (.map b) true
  | maps {around : List ContainerPair} {a b : MapId}
      {answer : (String × Value) × (String × Value) → Bool} (new : ¬(a = b ∨ .maps a b ∈ around))
      (each : ∀ pair ∈ (store.mapEntries a).entries.zip (store.mapEntries b).entries,
        Compares store (.maps a b :: around) pair.1.2 pair.2.2 (answer pair)) :
      Compares store around (.map a) (.map b)
        ((store.mapEntries a).entries.length == (store.mapEntries b).entries.length &&
          ((store.mapEntries a).entries.zip (store.mapEntries b).entries).all fun pair =>
            pair.1.1 == pair.2.1 && answer pair)
  | unlike {around : List ContainerPair} {a b : Value} (apart : a.kind ≠ b.kind) :
      Compares store around a b false

structure Store.Floatless (store : Store) : Prop where
  items : ∀ items ∈ store.lists, ∀ value ∈ items, value.kind ≠ .float
  entries : ∀ table ∈ store.maps, ∀ entry ∈ table.entries, entry.2.kind ≠ .float

namespace Store

variable {store : Store} {around : List ContainerPair} {a b : Value} {answer : Bool}

-- Fewer pairs are left to be opened on each level, so the depth to which values are compared is enough.
theorem comparesWithin (store : Store) {depth : Nat} {around : List ContainerPair} (a b : Value)
    (enough : unseen store.pairs around < depth) :
    Compares store around a b (store.sameWithin depth around a b) := by
  induction depth generalizing around a b with
  | zero => exact absurd enough (Nat.not_lt_zero _)
  | succ depth ih =>
    cases a <;> cases b <;> simp only [sameWithin]
    case scalar.scalar => exact .scalars _ _
    case func.func => exact .functions _ _
    case scope.scope => exact .scopes _ _
    case attributes.attributes => exact .attributes _ _
    case list.list =>
      split
      · exact .knownLists (by assumption)
      · rename_i new
        refine .lists new fun pair member => ih pair.1 pair.2 ?_
        have fewer := unseenCons (listsThere member) (fun seen => new (.inr seen))
        omega
    case map.map =>
      split
      · exact .knownMaps (by assumption)
      · rename_i new
        refine .maps new fun pair member => ih pair.1.2 pair.2.2 ?_
        have fewer := unseenCons (mapsThere member) (fun seen => new (.inr seen))
        omega
    case scalar.list s _ | scalar.map s _ | scalar.func s _ | scalar.scope s _ | scalar.attributes s _ =>
      cases s <;> exact .unlike (by simp [Value.kind, Scalar.kind])
    case list.scalar _ s | map.scalar _ s | func.scalar _ s | scope.scalar _ s | attributes.scalar _ s =>
      cases s <;> exact .unlike (by simp [Value.kind, Scalar.kind])
    all_goals exact .unlike (by simp [Value.kind])

theorem comparesSame (store : Store) (a b : Value) : Compares store [] a b (store.same a b) := by
  refine store.comparesWithin a b ?_
  rw [unseenNil, pairsLength]
  exact Nat.lt_succ_self _

theorem sameScalars {x y : Scalar} (plain : (Value.scalar x).kind ≠ .float) : x.same y = true ↔ x = y := by
  cases x <;> cases y <;> simp_all [Scalar.same, Value.kind, Scalar.kind]

theorem Floatless.itemsOf (floatless : store.Floatless) {id : ListId} {i : Nat} {value : Value}
    (found : (store.items id)[i]? = some value) : value.kind ≠ .float := by
  unfold Store.items at found
  cases there : store.lists[id.index]? with
  | none => simp [there] at found
  | some items =>
    rw [there] at found
    exact floatless.items items (Array.mem_of_getElem? there) value (Array.mem_of_getElem? found)

theorem Floatless.entriesOf (floatless : store.Floatless) {id : MapId} {entry : String × Value}
    (member : entry ∈ (store.mapEntries id).entries) : entry.2.kind ≠ .float := by
  unfold mapEntries at member
  cases there : store.maps[id.index]? with
  | none => simp [there, Table.empty] at member
  | some table =>
    rw [there] at member
    exact floatless.entries table (Array.mem_of_getElem? there) entry member

theorem itemsPaired {a b : ListId} {x y : Value} :
    (x, y) ∈ (store.items a).toList.zip (store.items b).toList ↔
      ∃ i : Nat, (store.items a)[i]? = some x ∧ (store.items b)[i]? = some y := by
  simp [List.mem_iff_getElem?, List.getElem?_zip_eq_some]

-- The relation itself, on what a pair of containers under comparison stands for.
def openTo (store : Store) (depth : Nat) : ContainerPair → Prop
  | .lists a b => store.AlikeTo depth (.list a) (.list b)
  | .maps a b => store.AlikeTo depth (.map a) (.map b)

theorem openToLess {depth : Nat} {pair : ContainerPair} (alike : store.openTo (depth + 1) pair) :
    store.openTo depth pair := by
  cases pair <;> exact alikeToLess alike

theorem differenceFound (floatless : store.Floatless) {depth : Nat} (plain : a.kind ≠ .float)
    (compares : Compares store around a b answer)
    (outer : ∀ pair ∈ around, store.openTo depth pair) (differ : ¬store.AlikeTo depth a b) :
    answer = false := by
  induction depth generalizing around a b answer with
  | zero => exact absurd trivial differ
  | succ depth ih =>
    have outside : ∀ pair ∈ around, store.openTo depth pair :=
      fun pair member => openToLess (outer pair member)
    by_cases deeper : store.AlikeTo depth a b
    case neg => exact ih plain compares outside deeper
    -- The difference shows on the next level for the first time, so this pair is not open yet.
    cases compares with
    | scalars x y => exact Bool.eq_false_iff.mpr fun same => differ ((sameScalars plain).mp same)
    | functions x y => exact beq_false_of_ne differ
    | scopes x y => exact beq_false_of_ne differ
    | attributes x y => exact beq_false_of_ne differ
    | unlike apart => rfl
    | knownLists known =>
      rcases known with rfl | opened
      · exact absurd (alikeToSelf store _ _) differ
      · exact absurd (outer _ opened) differ
    | knownMaps known =>
      rcases known with rfl | opened
      · exact absurd (alikeToSelf store _ _) differ
      · exact absurd (outer _ opened) differ
    | @lists _ x y answer new each =>
      refine Bool.eq_false_iff.mpr fun equal => differ ?_
      obtain ⟨length, all⟩ := Bool.and_eq_true_iff.mp equal
      refine ⟨by simpa using length, fun i v w left right => ?_⟩
      have member := itemsPaired.mpr ⟨i, left, right⟩
      by_contra apart
      have found := ih (floatless.itemsOf left) (each _ member)
        (List.forall_mem_cons.mpr ⟨deeper, outside⟩) apart
      simp [List.all_eq_true.mp all _ member] at found
    | @maps _ x y answer new each =>
      refine Bool.eq_false_iff.mpr fun equal => differ (Table.entriesMatch.mp ?_)
      obtain ⟨length, all⟩ := Bool.and_eq_true_iff.mp equal
      refine List.forall₂_iff_zip.mpr ⟨by simpa using length, fun {v w} member => ?_⟩
      obtain ⟨key, value⟩ := Bool.and_eq_true_iff.mp (List.all_eq_true.mp all _ member)
      refine ⟨by simpa using key, ?_⟩
      by_contra apart
      have found := ih (floatless.entriesOf (List.of_mem_zip member).1) (each _ member)
        (List.forall_mem_cons.mpr ⟨deeper, outside⟩) apart
      simp [value] at found

theorem bisimilarEqual (floatless : store.Floatless) (plain : a.kind ≠ .float)
    (compares : Compares store around a b answer) (bisimilar : store.Bisimilar a b) : answer = true := by
  induction compares with
  | scalars x y => exact (sameScalars plain).mpr bisimilar.alike
  | functions x y => exact beq_iff_eq.mpr bisimilar.alike
  | scopes x y => exact beq_iff_eq.mpr bisimilar.alike
  | attributes x y => exact beq_iff_eq.mpr bisimilar.alike
  | knownLists known => rfl
  | knownMaps known => rfl
  | @lists _ x y answer new each ih =>
    obtain ⟨size, items⟩ := bisimilar.alike
    refine Bool.and_eq_true_iff.mpr ⟨by simpa using size, List.all_eq_true.mpr fun pair member => ?_⟩
    obtain ⟨i, left, right⟩ := itemsPaired.mp member
    exact ih pair member (floatless.itemsOf left) (items i _ _ left right)
  | @maps _ x y answer new each ih =>
    obtain ⟨length, pairs⟩ := List.forall₂_iff_zip.mp (Table.entriesMatch.mpr bisimilar.alike)
    refine Bool.and_eq_true_iff.mpr ⟨by simpa using length, List.all_eq_true.mpr fun pair member => ?_⟩
    obtain ⟨key, value⟩ := pairs member
    have equal := ih pair member (floatless.entriesOf (List.of_mem_zip member).1) value
    simp [key, equal]
  | @unlike _ x y apart =>
    have alike := bisimilar.alike
    cases x <;> cases y <;> simp_all [Alike, Value.kind]

theorem comparesBisimilar (floatless : store.Floatless) (plain : a.kind ≠ .float)
    (compares : Compares store [] a b answer) : answer = true ↔ store.Bisimilar a b := by
  refine ⟨fun equal => bisimilarOfDepths fun depth => ?_, bisimilarEqual floatless plain compares⟩
  by_contra differ
  have found := differenceFound floatless plain compares (fun _ member => by simp at member) differ
  simp [equal] at found

/-- Values without floats are compared in finitely many steps, and no other answer can come of it than
whether they are bisimilar. -/
theorem sameExactlyBisimilar (floatless : store.Floatless) {a b c : Value} (plainA : a.kind ≠ .float)
    (plainB : b.kind ≠ .float) :
    Compares store [] a b (store.same a b) ∧
      (∀ answer, Compares store [] a b answer → (answer = true ↔ store.Bisimilar a b)) ∧
      (store.same a b = true ↔ store.Bisimilar a b) ∧
      store.same a a = true ∧
      store.same b a = store.same a b ∧
      (store.same a b = true → store.same b c = true → store.same a c = true) := by
  have exactly (x y : Value) (plain : x.kind ≠ .float) : store.same x y = true ↔ store.Bisimilar x y :=
    comparesBisimilar floatless plain (store.comparesSame x y)
  refine ⟨store.comparesSame a b, fun answer => comparesBisimilar floatless plainA, exactly a b plainA,
    (exactly a a plainA).mpr (.refl store a), ?_, fun first second => ?_⟩
  · rw [Bool.eq_iff_iff, exactly a b plainA, exactly b a plainB]
    exact ⟨Bisimilar.symm, Bisimilar.symm⟩
  · have left := (exactly a b plainA).mp first
    have right := (exactly b c plainB).mp second
    exact (exactly a c plainA).mpr (left.trans right)

-- A list that holds itself, two lists that hold each other, and maps around them.
def loops : Store where
  scopes := #[]
  lists := #[#[.int 1, .list ⟨0⟩], #[.int 1, .list ⟨2⟩], #[.int 1, .list ⟨1⟩], #[.int 1, .map ⟨1⟩]]
  maps := #[.ofList [("next", .map ⟨0⟩), ("ring", .list ⟨0⟩)],
    .ofList [("ring", .list ⟨2⟩), ("next", .map ⟨0⟩)]]
  handles := #[]
  closures := #[]

theorem sameExactlyBisimilarOnLoops :
    (loops.same (.map ⟨0⟩) (.map ⟨1⟩) = true ∧ loops.Bisimilar (.map ⟨0⟩) (.map ⟨1⟩)) ∧
      loops.same (.list ⟨1⟩) (.list ⟨3⟩) = false ∧ ¬loops.Bisimilar (.list ⟨1⟩) (.list ⟨3⟩) := by
  have floatless : loops.Floatless := ⟨by decide +kernel, by decide +kernel⟩
  obtain ⟨_, _, maps, _⟩ := sameExactlyBisimilar floatless (a := .map ⟨0⟩) (b := .map ⟨1⟩)
    (c := .map ⟨1⟩) (by decide) (by decide)
  obtain ⟨_, _, lists, _⟩ := sameExactlyBisimilar floatless (a := .list ⟨1⟩) (b := .list ⟨3⟩)
    (c := .list ⟨3⟩) (by decide) (by decide)
  have equal : loops.same (.map ⟨0⟩) (.map ⟨1⟩) = true := by decide +kernel
  have different : loops.same (.list ⟨1⟩) (.list ⟨3⟩) = false := by decide +kernel
  refine ⟨⟨equal, maps.mp equal⟩, different, fun bisimilar => ?_⟩
  simp [lists.mpr bisimilar] at different

end Store

end CircuitScript
