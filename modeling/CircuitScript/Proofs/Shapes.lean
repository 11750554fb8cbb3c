import Mathlib.Logic.Relation
import CircuitScript.Proofs.Bisimulation
import CircuitScript.Proofs.ByteOrder
import CircuitScript.Proofs.Unfolding

/-! What the text of a value depends on: the shape of its graph, and no places. Containers that are not inside of
themselves are written in full wherever they stand, and if there are no others, the text is the plain one. -/
namespace CircuitScript

-- What one look at two values in two stores can tell: their parts are only known to be related.
def Counterparts (store other : Store) (related : Value → Value → Prop) : Value → Value → Prop
  | .scalar a, .scalar b => a = b
  | .func f, .func g => store.functionName f = other.functionName g
  | .scope _, .scope _ => True
  | .attributes _, .attributes _ => True
  | .list a, .list b => List.Forall₂ related (store.items a).toList (other.items b).toList
  | .map a, .map b =>
    (∀ key, (store.mapEntries a).contains key = (other.mapEntries b).contains key) ∧
      ∀ key x y, (store.mapEntries a).get? key = some x → (other.mapEntries b).get? key = some y → related x y
  | _, _ => False

structure Isomorphism (store other : Store) (related : Value → Value → Prop) : Prop where
  parts : ∀ a b, related a b → Counterparts store other related a b
  lists : ∀ a a' b b', related (.list a) (.list b) → related (.list a') (.list b') → (a = a' ↔ b = b')
  maps : ∀ a a' b b', related (.map a) (.map b) → related (.map a') (.map b') → (a = a' ↔ b = b')

-- Two rows of open containers, in which related ones are open together.
def OpenAlike (related : Value → Value → Prop) (around around' : List Container) : Prop :=
  ∀ c c' : Container, related c.value c'.value → (c ∈ around ↔ c' ∈ around')

theorem mapsSame {α β γ : Type} {f : α → γ} {g : β → γ} {xs : List α} {ys : List β}
    (same : List.Forall₂ (fun x y => f x = g y) xs ys) : xs.map f = ys.map g := by
  induction same with
  | nil => rfl
  | cons first rest ih => simp [first, ih]

namespace Isomorphism

variable {store other : Store} {related : Value → Value → Prop} {around around' : List Container}
variable (iso : Isomorphism store other related)
include iso

theorem openOne {c d : Container} (here : related c.value d.value) (alike : OpenAlike related around around') :
    OpenAlike related (c :: around) (d :: around') := by
  intro c' d' there
  have same : c' = c ↔ d' = d := by
    have first := iso.parts _ _ here
    have second := iso.parts _ _ there
    cases c <;> cases d <;> cases c' <;> cases d' <;> simp only [Container.value, Counterparts] at first second
    · simpa using iso.lists _ _ _ _ there here
    · simp
    · simp
    · simpa using iso.maps _ _ _ _ there here
  rw [List.mem_cons, List.mem_cons, same, alike c' d' there]

theorem textThere {a b : Value} {text : String} (writes : Writes store around a text) (held : related a b)
    (alike : OpenAlike related around around') : text = other.textInside around' b := by
  induction writes generalizing b around' with
  | scalar s | func f =>
    have parts := iso.parts _ _ held
    cases b <;> simp only [Counterparts] at parts
    rw [parts]
    rfl
  | scope id | attributes id =>
    have parts := iso.parts _ _ held
    cases b <;> simp only [Counterparts] at parts
    rfl
  | @openList around id seen =>
    have parts := iso.parts _ _ held
    cases b <;> simp only [Counterparts] at parts
    rw [Store.textInsideList, if_pos ((alike (.list id) (.list _) held).mp seen)]
  | @openMap around id seen =>
    have parts := iso.parts _ _ held
    cases b <;> simp only [Counterparts] at parts
    rw [Store.textInsideMap, if_pos ((alike (.map id) (.map _) held).mp seen)]
  | @list around id text new each ih =>
    have parts := iso.parts _ _ held
    cases b <;> simp only [Counterparts] at parts
    rename_i id'
    have new' : .list id' ∉ around' := fun seen => new ((alike (.list id) (.list id') held).mpr seen)
    have texts : (store.items id).toList.map text =
        (other.items id').toList.map (other.textInside (.list id' :: around')) := by
      refine mapsSame (List.forall₂_iff_zip.mpr ⟨parts.length_eq, fun {x y} pair => ?_⟩)
      obtain ⟨_, pairs⟩ := List.forall₂_iff_zip.mp parts
      exact ih x (List.of_mem_zip pair).1 (pairs pair) (iso.openOne held alike)
    rw [Store.textInsideList, if_neg new', texts]
  | @map around id text new each ih =>
    have parts := iso.parts _ _ held
    cases b <;> simp only [Counterparts] at parts
    rename_i id'
    have new' : .map id' ∉ around' := fun seen => new ((alike (.map id) (.map id') held).mpr seen)
    obtain ⟨length, pairs⟩ := List.forall₂_iff_zip.mp (Table.entriesMatch.mpr parts)
    have texts : ((store.mapEntries id).entries.map fun entry => entry.1 ++ ": " ++ text entry.2) =
        (other.mapEntries id').entries.map fun entry =>
          entry.1 ++ ": " ++ other.textInside (.map id' :: around') entry.2 := by
      refine mapsSame (List.forall₂_iff_zip.mpr ⟨length, fun {x y} pair => ?_⟩)
      obtain ⟨key, value⟩ := pairs pair
      have opened : OpenAlike related (.map id :: around) (.map id' :: around') := iso.openOne held alike
      rw [key, ih x (List.of_mem_zip pair).1 value opened]
    rw [Store.textInsideMap, if_neg new', texts]

theorem sameText {a b : Value} (held : related a b) : other.text b = store.text a :=
  (iso.textThere (Store.writesText.mpr rfl) held (by simp [OpenAlike])).symm

end Isomorphism

/-- Nothing that can be reached from the value contains itself. -/
def Store.Loopless (store : Store) (value : Value) : Prop :=
  ∀ part, Relation.ReflTransGen store.HasPart value part → ¬Relation.TransGen store.HasPart part part

/-- The plain text of a value, with the keys of maps in the order of their bytes. -/
inductive Rendered (store : Store) : Value → String → Prop where
  | scalar (s : Scalar) : Rendered store (.scalar s) s.text
  | func (f : FunctionId) : Rendered store (.func f) ("<function " ++ store.functionName f ++ ">")
  | scope (id : ScopeId) : Rendered store (.scope id) "<context>"
  | attributes (id : HandleId) : Rendered store (.attributes id) "<attributes>"
  | list {id : ListId} {text : Value → String}
      (each : ∀ item ∈ (store.items id).toList, Rendered store item (text item)) :
      Rendered store (.list id) ("[" ++ ", ".intercalate ((store.items id).toList.map text) ++ "]")
  | map {id : MapId} {rows : List (String × Value)} {text : Value → String}
      (held : ∀ key value, (key, value) ∈ rows ↔ (store.mapEntries id).get? key = some value)
      (ascending : rows.Pairwise fun a b => nameBytes a.1 < nameBytes b.1)
      (each : ∀ row ∈ rows, Rendered store row.2 (text row.2)) :
      Rendered store (.map id) ("\x7b" ++ ", ".intercalate (rows.map fun row =>
        row.1 ++ ": " ++ text row.2) ++ "\x7d")

theorem rowsAscending {α : Type} {table : Table α} {rows : List (String × α)}
    (held : ∀ key value, (key, value) ∈ rows ↔ table.get? key = some value)
    (ascending : rows.Pairwise fun a b => nameBytes a.1 < nameBytes b.1) : rows = table.entries := by
  have sorted : rows.Pairwise fun a b => a.1 < b.1 := ascending.imp bytesOrdered.mp
  have : Std.Irrefl fun a b : String × α => a.1 < b.1 := ⟨fun a => String.lt_irrefl a.1⟩
  have : Std.Antisymm fun a b : String × α => a.1 < b.1 := ⟨fun a b below above => absurd above (String.lt_asymm below)⟩
  refine sorted.eq_of_mem_iff table.sorted fun entry => ?_
  rw [held entry.1 entry.2, Table.getMember]

namespace Store

variable {store : Store} {value : Value} {text text' : String}

theorem renderedOnce (rendered : Rendered store value text) (rendered' : Rendered store value text') :
    text = text' := by
  induction rendered generalizing text' with
  | scalar s | func f | scope id | attributes id =>
    cases rendered'
    rfl
  | list each ih =>
    cases rendered' with
    | list each' => rw [List.map_congr_left fun item member => ih item member (each' item member)]
  | map held ascending each ih =>
    cases rendered' with
    | map held' ascending' each' =>
      cases rowsAscending held ascending
      cases rowsAscending held' ascending'
      rw [List.map_congr_left fun row member => congrArg _ (ih row member (each' row member))]

theorem Loopless.part {part : Value} (loopless : store.Loopless value) (member : store.HasPart value part) :
    store.Loopless part :=
  fun inner reached => loopless inner (.head member reached)

theorem openAbove {around : List Container} {part : Value} (container : Container)
    (above : ∀ c ∈ around, Relation.TransGen store.HasPart c.value container.value)
    (member : store.HasPart container.value part) :
    ∀ c ∈ container :: around, Relation.TransGen store.HasPart c.value part := by
  intro c inside
  rcases List.mem_cons.mp inside with same | outer
  · rw [same]
    exact .single member
  · exact (above c outer).tail member

theorem writesRendered {around : List Container} (writes : Writes store around value text)
    (loopless : store.Loopless value) (above : ∀ c ∈ around, Relation.TransGen store.HasPart c.value value) :
    Rendered store value text := by
  induction writes with
  | scalar s => exact .scalar s
  | func f => exact .func f
  | scope id => exact .scope id
  | attributes id => exact .attributes id
  | openList seen => exact absurd (above _ seen) (loopless _ .refl)
  | openMap seen => exact absurd (above _ seen) (loopless _ .refl)
  | @list around id text new each ih =>
    refine .list fun item member => ?_
    have part : store.HasPart (.list id) item := member
    exact ih item member (loopless.part part) (openAbove (.list id) above part)
  | @map around id text new each ih =>
    refine .map (fun key value => Table.getMember.symm) ((store.mapEntries id).sorted.imp bytesOrdered.mpr)
      fun entry member => ?_
    have part : store.HasPart (.map id) entry.2 := List.mem_map_of_mem member
    exact ih entry member (loopless.part part) (openAbove (.map id) above part)

theorem looplessRendered (loopless : store.Loopless value) :
    Rendered store value text ↔ text = store.text value := by
  have rendered := writesRendered (store.writesText.mpr rfl) loopless (List.forall_mem_nil _)
  refine ⟨fun other => renderedOnce other rendered, fun same => ?_⟩
  rw [same]
  exact rendered

theorem partStep {i : Nat} {path : List Nat} {part : Value} (found : store.partAt? value (i :: path) = some part) :
    ∃ next, (store.parts value)[i]? = some next ∧ store.partAt? next path = some part := by
  simp only [partAt?] at found
  cases first : (store.parts value)[i]? with
  | none => simp [first] at found
  | some next => exact ⟨next, rfl, by simpa [first] using found⟩

theorem partBelow {before after : List Nat} {container part : Value}
    (there : store.partAt? value before = some container)
    (found : store.partAt? value (before ++ after) = some part) : store.partAt? container after = some part := by
  induction before generalizing value with
  | nil =>
    cases there
    exact found
  | cons i before ih =>
    obtain ⟨next, first, there⟩ := partStep there
    obtain ⟨next', first', found⟩ := partStep found
    cases first.symm.trans first'
    exact ih there found

theorem partReached {path : List Nat} {part : Value} (found : store.partAt? value path = some part) :
    Relation.ReflTransGen store.HasPart value part := by
  induction path generalizing value with
  | nil =>
    cases found
    exact .refl
  | cons i path ih =>
    obtain ⟨next, first, later⟩ := partStep found
    exact .head (List.mem_of_getElem? first) (ih later)

theorem openAroundPart {path : List Nat} {around : List Container} {part : Value}
    (there : store.descend? [] value path = some (around, part)) (container : Container) (opened : container ∈ around) :
    Relation.TransGen store.HasPart container.value part := by
  obtain none | ⟨before, after, rfl, more, outer⟩ := (openedOnTheWay there container).mp opened
  · exact absurd none List.not_mem_nil
  · have below := partBelow outer (partThere there)
    cases after with
    | nil => exact absurd rfl more
    | cons i after =>
      obtain ⟨next, first, later⟩ := partStep below
      exact .head' (List.mem_of_getElem? first) (partReached later)

theorem isomorphicSelf (store : Store) (value : Value) :
    Isomorphism store store fun a b => a = b ∧ Relation.ReflTransGen store.HasPart value a where
  parts := by
    rintro a _ ⟨rfl, reached⟩
    cases a with
    | scalar s => rfl
    | func f => rfl
    | scope id => trivial
    | attributes id => trivial
    | list id => exact List.forall₂_same.mpr fun item member => ⟨rfl, reached.tail member⟩
    | map id =>
      refine ⟨fun _ => rfl, fun key x y left right => ?_⟩
      cases left.symm.trans right
      exact ⟨rfl, reached.tail (List.mem_map_of_mem (Table.getMember.mp left))⟩
  lists := by
    rintro a a' b b' ⟨same, _⟩ ⟨same', _⟩
    cases same
    cases same'
    exact Iff.rfl
  maps := by
    rintro a a' b b' ⟨same, _⟩ ⟨same', _⟩
    cases same
    cases same'
    exact Iff.rfl

-- A container that is open around a part and inside of it would put the part inside of itself.
theorem ownText {path : List Nat} {around : List Container} {part : Value}
    (there : store.descend? [] value path = some (around, part))
    (single : ¬Relation.TransGen store.HasPart part part) : store.textInside around part = store.text part := by
  refine (isomorphicSelf store part).textThere (writesText.mpr rfl) ⟨rfl, .refl⟩ ?_
  rintro c _ ⟨same, reached⟩
  have closed : c ∉ around := fun opened => single (.trans_right reached (openAroundPart there c opened))
  simpa using closed

theorem textFollowsTheGraph (store : Store) (value : Value) :
    (∀ text, Writes store [] value text ↔ text = store.text value) ∧
    (∀ other related value', Isomorphism store other related → related value value' →
      other.text value' = store.text value) ∧
    (∃ shown, store.Unfolds value shown) ∧
    (∀ shown, store.Unfolds value shown → shown [] = store.text value ∧
      ∀ path part, store.partAt? value path = some part → ¬Relation.TransGen store.HasPart part part →
        shown path = store.text part) ∧
    (store.Loopless value → ∀ text, Rendered store value text ↔ text = store.text value) := by
  refine ⟨fun text => writesText, fun other related value' iso held => iso.sameText held,
    ⟨_, store.textUnfolds value⟩, fun shown unfolds => ⟨unfoldedText shown unfolds, ?_⟩,
    fun loopless text => looplessRendered loopless⟩
  intro path part found single
  obtain ⟨around, there⟩ := descended found
  rw [unfoldingIs unfolds (Nat.lt_succ_self _) there, ownText there single]

-- A list and a map that hold themselves, and a list that holds an empty one twice.
def rings : Store where
  scopes := #[]
  lists := #[#[.int 1, .list ⟨0⟩], #[.list ⟨2⟩, .list ⟨2⟩], #[]]
  maps := #[⟨[("l", .list ⟨0⟩), ("self", .map ⟨0⟩)], by decide⟩]
  handles := #[]
  closures := #[]

-- The same at other places.
def turnedRings : Store where
  scopes := #[]
  lists := #[#[], #[.int 1, .list ⟨1⟩], #[.list ⟨0⟩, .list ⟨0⟩]]
  maps := #[.empty, ⟨[("l", .list ⟨1⟩), ("self", .map ⟨1⟩)], by decide⟩]
  handles := #[]
  closures := #[]

def Turned : Value → Value → Prop
  | .scalar a, .scalar b => a = b
  | .list a, .list b => (a = ⟨0⟩ ∧ b = ⟨1⟩) ∨ (a = ⟨1⟩ ∧ b = ⟨2⟩) ∨ (a = ⟨2⟩ ∧ b = ⟨0⟩)
  | .map a, .map b => a = ⟨0⟩ ∧ b = ⟨1⟩
  | _, _ => False

theorem ringsTurned : Isomorphism rings turnedRings Turned where
  parts a b held := by
    cases a <;> cases b <;> simp only [Turned] at held
    · exact held
    · obtain ⟨rfl, rfl⟩ | ⟨rfl, rfl⟩ | ⟨rfl, rfl⟩ := held
      · exact .cons rfl (.cons (.inl ⟨rfl, rfl⟩) .nil)
      · exact .cons (.inr (.inr ⟨rfl, rfl⟩)) (.cons (.inr (.inr ⟨rfl, rfl⟩)) .nil)
      · exact .nil
    · obtain ⟨rfl, rfl⟩ := held
      exact Table.entriesMatch.mp (.cons ⟨rfl, .inl ⟨rfl, rfl⟩⟩ (.cons ⟨rfl, rfl, rfl⟩ .nil))
  lists a a' b b' held held' := by
    obtain ⟨rfl, rfl⟩ | ⟨rfl, rfl⟩ | ⟨rfl, rfl⟩ := held <;>
      obtain ⟨rfl, rfl⟩ | ⟨rfl, rfl⟩ | ⟨rfl, rfl⟩ := held' <;> decide
  maps a a' b b' held held' := by
    obtain ⟨rfl, rfl⟩ := held
    obtain ⟨rfl, rfl⟩ := held'
    decide

theorem twiceLoopless : rings.Loopless (.list ⟨1⟩) := by
  have outer (part : Value) : rings.HasPart (.list ⟨1⟩) part ↔ part = .list ⟨2⟩ := by
    simp [HasPart, parts, items, rings]
  have inner (part : Value) : ¬rings.HasPart (.list ⟨2⟩) part := List.not_mem_nil
  intro part reached
  have two : part = .list ⟨1⟩ ∨ part = .list ⟨2⟩ := by
    induction reached with
    | refl => exact .inl rfl
    | tail _ step ih =>
      rcases ih with rfl | rfl
      · exact .inr ((outer _).mp step)
      · exact absurd step (inner _)
  intro loop
  obtain ⟨next, step, onward⟩ := Relation.TransGen.head'_iff.mp loop
  rcases two with rfl | rfl
  · rw [(outer next).mp step] at onward
    rcases onward.cases_head with same | ⟨last, further, _⟩
    · cases same
    · exact inner last further
  · exact inner next step

theorem ringsShown :
    rings.text (.map ⟨0⟩) = "\x7bl: [1, [...]], self: \x7b...\x7d\x7d" ∧
    turnedRings.text (.map ⟨1⟩) = "\x7bl: [1, [...]], self: \x7b...\x7d\x7d" ∧
    Rendered rings (.list ⟨1⟩) "[[], []]" := by
  have shown : rings.text (.map ⟨0⟩) = "\x7bl: [1, [...]], self: \x7b...\x7d\x7d" := by decide +kernel
  have twice : rings.text (.list ⟨1⟩) = "[[], []]" := by decide +kernel
  obtain ⟨_, moved, _⟩ := textFollowsTheGraph rings (.map ⟨0⟩)
  obtain ⟨_, _, _, _, plain⟩ := textFollowsTheGraph rings (.list ⟨1⟩)
  exact ⟨shown, (moved turnedRings Turned (.map ⟨1⟩) ringsTurned ⟨rfl, rfl⟩).trans shown,
    (plain twiceLoopless _).mpr twice.symm⟩

end Store

end CircuitScript
