import CircuitScript.Proofs.Depth

/-! The text of a value is its graph of lists and maps unfolded. Going down from the value, a container is opened
unless it is open already, so the unfolding ends, and an ellipsis stands just where a container is met inside of
itself. -/
namespace CircuitScript

theorem unseenLe {α : Type} [DecidableEq α] (all seen : List α) : unseen all seen ≤ all.length :=
  List.length_filter_le _ _

namespace Store

variable {store : Store} {around : List Container}

def textInside (store : Store) (around : List Container) (value : Value) : String :=
  store.textWithin (store.containerCount + 1) around value

theorem textOneLess {container : Container} (there : container ∈ store.containers) (new : container ∉ around)
    (part : Value) :
    store.textWithin store.containerCount (container :: around) part = store.textInside (container :: around) part := by
  have fewer := unseenCons there new
  have all := unseenLe store.containers around
  rw [containersLength] at all
  exact (store.textOneDeeper _ _ part (by omega)).symm

theorem textInsideList (store : Store) (around : List Container) (id : ListId) :
    store.textInside around (.list id) =
      if .list id ∈ around then "[...]"
      else "[" ++ ", ".intercalate ((store.items id).toList.map (store.textInside (.list id :: around))) ++ "]" := by
  rw [textInside, textWithin]
  split
  · rfl
  · rename_i new
    have texts := List.map_congr_left fun item (member : item ∈ (store.items id).toList) =>
      textOneLess (listThere member) new item
    rw [texts]

theorem textInsideMap (store : Store) (around : List Container) (id : MapId) :
    store.textInside around (.map id) =
      if .map id ∈ around then "\x7b...\x7d"
      else "\x7b" ++ ", ".intercalate ((store.mapEntries id).entries.map fun entry =>
        entry.1 ++ ": " ++ store.textInside (.map id :: around) entry.2) ++ "\x7d" := by
  rw [textInside, textWithin]
  split
  · rfl
  · rename_i new
    have texts := List.map_congr_left fun entry (member : entry ∈ (store.mapEntries id).entries) =>
      congrArg (entry.1 ++ ": " ++ ·) (textOneLess (mapThere member) new entry.2)
    rw [texts]

end Store

/-- A value is written as a text inside of open containers. Nothing bounds how deep this goes. -/
inductive Writes (store : Store) : List Container → Value → String → Prop where
  | scalar {around : List Container} (s : Scalar) : Writes store around (.scalar s) s.text
  | func {around : List Container} (f : FunctionId) :
      Writes store around (.func f) ("<function " ++ store.functionName f ++ ">")
  | scope {around : List Container} (id : ScopeId) : Writes store around (.scope id) "<context>"
  | attributes {around : List Container} (id : HandleId) : Writes store around (.attributes id) "<attributes>"
  | openList {around : List Container} {id : ListId} (seen : .list id ∈ around) :
      Writes store around (.list id) "[...]"
  | list {around : List Container} {id : ListId} {text : Value → String} (new : .list id ∉ around)
      (each : ∀ item ∈ (store.items id).toList, Writes store (.list id :: around) item (text item)) :
      Writes store around (.list id) ("[" ++ ", ".intercalate ((store.items id).toList.map text) ++ "]")
  | openMap {around : List Container} {id : MapId} (seen : .map id ∈ around) :
      Writes store around (.map id) "\x7b...\x7d"
  | map {around : List Container} {id : MapId} {text : Value → String} (new : .map id ∉ around)
      (each : ∀ entry ∈ (store.mapEntries id).entries, Writes store (.map id :: around) entry.2 (text entry.2)) :
      Writes store around (.map id) ("\x7b" ++ ", ".intercalate ((store.mapEntries id).entries.map fun entry =>
        entry.1 ++ ": " ++ text entry.2) ++ "\x7d")

namespace Store

variable {store other : Store} {around : List Container} {value : Value} {text : String}

theorem writesUpTo {count : Nat} (left : unseen store.containers around < count) :
    Writes store around value (store.textInside around value) := by
  induction count generalizing around value with
  | zero => exact absurd left (Nat.not_lt_zero _)
  | succ count ih =>
    cases value with
    | scalar s => exact .scalar s
    | func f => exact .func f
    | scope id => exact .scope id
    | attributes id => exact .attributes id
    | list id =>
      rw [textInsideList]
      split
      · exact .openList (by assumption)
      · rename_i new
        refine .list new fun item member => ih ?_
        have fewer := unseenCons (listThere member) new
        omega
    | map id =>
      rw [textInsideMap]
      split
      · exact .openMap (by assumption)
      · rename_i new
        refine .map new fun entry member => ih ?_
        have fewer := unseenCons (mapThere member) new
        omega

theorem writesOnly (writes : Writes store around value text) : text = store.textInside around value := by
  induction writes with
  | scalar s => rfl
  | func f => rfl
  | scope id => rfl
  | attributes id => rfl
  | openList seen => rw [textInsideList, if_pos seen]
  | openMap seen => rw [textInsideMap, if_pos seen]
  | list new each ih => rw [textInsideList, if_neg new, List.map_congr_left ih]
  | map new each ih =>
    rw [textInsideMap, if_neg new, List.map_congr_left fun entry member => congrArg _ (ih entry member)]

theorem writesText : Writes store around value text ↔ text = store.textInside around value := by
  refine ⟨writesOnly, fun same => ?_⟩
  subst same
  exact writesUpTo (Nat.lt_succ_self _)

end Store

def Container.value : Container → Value
  | .list id => .list id
  | .map id => .map id

namespace Store

variable {store : Store}

def parts (store : Store) : Value → List Value
  | .list id => (store.items id).toList
  | .map id => (store.mapEntries id).entries.map Prod.snd
  | _ => []

def HasPart (store : Store) (whole part : Value) : Prop := part ∈ store.parts whole

/-- What stands at the end of a path, which goes down by positions. -/
def partAt? (store : Store) : Value → List Nat → Option Value
  | value, [] => some value
  | value, i :: path =>
    match (store.parts value)[i]? with
    | some part => store.partAt? part path
    | none => none

/-- What stands at the end of the path is met on the way there. -/
def Recurs (store : Store) (value : Value) (path : List Nat) : Prop :=
  ∃ before after, path = before ++ after ∧ after ≠ [] ∧ store.partAt? value before = store.partAt? value path

/-- Texts for all the parts of a value, with an ellipsis for those that recur. -/
structure Unfolds (store : Store) (value : Value) (shown : List Nat → String) : Prop where
  scalar : ∀ path s, store.partAt? value path = some (.scalar s) → shown path = s.text
  func : ∀ path f, store.partAt? value path = some (.func f) →
    shown path = "<function " ++ store.functionName f ++ ">"
  scope : ∀ path id, store.partAt? value path = some (.scope id) → shown path = "<context>"
  attributes : ∀ path id, store.partAt? value path = some (.attributes id) → shown path = "<attributes>"
  list : ∀ path id, store.partAt? value path = some (.list id) → ¬store.Recurs value path →
    shown path = "[" ++ ", ".intercalate ((store.items id).toList.mapIdx fun i _ => shown (path ++ [i])) ++ "]"
  listAgain : ∀ path id, store.partAt? value path = some (.list id) → store.Recurs value path →
    shown path = "[...]"
  map : ∀ path id, store.partAt? value path = some (.map id) → ¬store.Recurs value path →
    shown path = "\x7b" ++ ", ".intercalate ((store.mapEntries id).keys.mapIdx fun i key =>
      key ++ ": " ++ shown (path ++ [i])) ++ "\x7d"
  mapAgain : ∀ path id, store.partAt? value path = some (.map id) → store.Recurs value path →
    shown path = "\x7b...\x7d"

def opening : Value → List Container
  | .list id => [.list id]
  | .map id => [.map id]
  | _ => []

/-- The containers that are open at the end of a path, and what stands there. -/
def descend? (store : Store) : List Container → Value → List Nat → Option (List Container × Value)
  | around, value, [] => some (around, value)
  | around, value, i :: path =>
    match (store.parts value)[i]? with
    | some part => store.descend? (opening value ++ around) part path
    | none => none

variable {around inner : List Container} {value part : Value} {path : List Nat}

theorem partDescended (store : Store) (around : List Container) (value : Value) (path : List Nat) :
    store.partAt? value path = (store.descend? around value path).map Prod.snd := by
  induction path generalizing around value with
  | nil => rfl
  | cons i path ih =>
    simp only [partAt?, descend?]
    cases (store.parts value)[i]? with
    | none => rfl
    | some part => exact ih _ part

theorem descended (found : store.partAt? value path = some part) :
    ∃ around, store.descend? [] value path = some (around, part) := by
  rw [partDescended store []] at found
  obtain ⟨⟨around, part⟩, there, same⟩ := Option.map_eq_some_iff.mp found
  cases same
  exact ⟨around, there⟩

theorem partThere (there : store.descend? [] value path = some (around, part)) :
    store.partAt? value path = some part := by
  rw [partDescended store [], there]
  rfl

theorem descendFurther (there : store.descend? around value path = some (inner, part)) (i : Nat) :
    store.descend? around value (path ++ [i]) = (store.parts part)[i]?.map (opening part ++ inner, ·) := by
  induction path generalizing around value with
  | nil =>
    cases there
    simp only [List.nil_append, descend?]
    cases (store.parts part)[i]? <;> rfl
  | cons j path ih =>
    simp only [List.cons_append, descend?] at there ⊢
    cases first : (store.parts value)[j]? with
    | none => simp [first] at there
    | some next => exact ih (by simpa [first] using there)

theorem openingValue {container : Container} : container ∈ opening value ↔ value = container.value := by
  cases value <;> cases container <;> simp [opening, Container.value, eq_comm]

theorem openedOnTheWay (there : store.descend? around value path = some (inner, part)) (container : Container) :
    container ∈ inner ↔ container ∈ around ∨ ∃ before after, path = before ++ after ∧ after ≠ [] ∧
      store.partAt? value before = some container.value := by
  induction path generalizing around value with
  | nil =>
    cases there
    simp
  | cons i path ih =>
    simp only [descend?] at there
    cases first : (store.parts value)[i]? with
    | none => simp [first] at there
    | some next =>
      have onward : ∀ before, store.partAt? value (i :: before) = store.partAt? next before := by simp [partAt?, first]
      rw [ih (by simpa [first] using there), List.mem_append, openingValue, or_comm (a := value = _), or_assoc]
      refine or_congr_right ⟨?_, ?_⟩
      · rintro (same | ⟨before, after, rfl, more, found⟩)
        · exact ⟨[], i :: path, rfl, by simp, by rw [same]; rfl⟩
        · exact ⟨i :: before, after, rfl, more, (onward before).trans found⟩
      · rintro ⟨before, after, split, more, found⟩
        cases before with
        | nil => exact .inl (Option.some.inj found)
        | cons j before =>
          cases split
          exact .inr ⟨before, after, rfl, more, (onward before).symm.trans found⟩

theorem recursOpen (container : Container)
    (there : store.descend? [] value path = some (around, container.value)) :
    store.Recurs value path ↔ container ∈ around := by
  rw [openedOnTheWay there, Recurs, partThere there]
  simp

def shownAt (store : Store) (value : Value) (path : List Nat) : String :=
  match store.descend? [] value path with
  | some (around, part) => store.textInside around part
  | none => ""

theorem shownThere (there : store.descend? [] value path = some (around, part)) :
    store.shownAt value path = store.textInside around part := by
  simp [shownAt, there]

theorem shownBelow (there : store.descend? [] value path = some (around, part)) {i : Nat} {inner : Value}
    (found : (store.parts part)[i]? = some inner) :
    store.shownAt value (path ++ [i]) = store.textInside (opening part ++ around) inner := by
  have next := descendFurther there i
  rw [found] at next
  exact shownThere next

section

variable {shown : List Nat → String} {inside : List Container}

theorem itemsShown {id : ListId} (each : ∀ (i : Nat) (inner : Value), (store.parts (.list id))[i]? = some inner →
      shown (path ++ [i]) = store.textInside inside inner) :
    ((store.items id).toList.mapIdx fun i _ => shown (path ++ [i])) =
      (store.items id).toList.map (store.textInside inside) := by
  refine List.ext_getElem? fun i => ?_
  rw [List.getElem?_mapIdx, List.getElem?_map]
  cases found : (store.items id).toList[i]? with
  | none => rfl
  | some inner => simp [each i inner found]

theorem entriesShown {id : MapId} (each : ∀ (i : Nat) (inner : Value), (store.parts (.map id))[i]? = some inner →
      shown (path ++ [i]) = store.textInside inside inner) :
    ((store.mapEntries id).keys.mapIdx fun i key => key ++ ": " ++ shown (path ++ [i])) =
      (store.mapEntries id).entries.map fun entry => entry.1 ++ ": " ++ store.textInside inside entry.2 := by
  refine List.ext_getElem? fun i => ?_
  rw [List.getElem?_mapIdx, List.getElem?_map, Table.keys, List.getElem?_map]
  cases found : (store.mapEntries id).entries[i]? with
  | none => rfl
  | some entry => simp [each i entry.2 (by simp [parts, found])]

end

theorem textUnfolds (store : Store) (value : Value) : store.Unfolds value (store.shownAt value) where
  scalar path s found := by
    obtain ⟨around, there⟩ := descended found
    rw [shownThere there]
    rfl
  func path f found := by
    obtain ⟨around, there⟩ := descended found
    rw [shownThere there]
    rfl
  scope path id found := by
    obtain ⟨around, there⟩ := descended found
    rw [shownThere there]
    rfl
  attributes path id found := by
    obtain ⟨around, there⟩ := descended found
    rw [shownThere there]
    rfl
  list path id found new := by
    obtain ⟨around, there⟩ := descended found
    rw [recursOpen (.list id) there] at new
    rw [shownThere there, textInsideList, if_neg new, itemsShown fun i inner => shownBelow there]
    rfl
  listAgain path id found again := by
    obtain ⟨around, there⟩ := descended found
    rw [recursOpen (.list id) there] at again
    rw [shownThere there, textInsideList, if_pos again]
  map path id found new := by
    obtain ⟨around, there⟩ := descended found
    rw [recursOpen (.map id) there] at new
    rw [shownThere there, textInsideMap, if_neg new, entriesShown fun i inner => shownBelow there]
    rfl
  mapAgain path id found again := by
    obtain ⟨around, there⟩ := descended found
    rw [recursOpen (.map id) there] at again
    rw [shownThere there, textInsideMap, if_pos again]

-- Each part that is opened leaves fewer containers to be opened below it.
theorem unfoldingIs {shown : List Nat → String} (unfolds : store.Unfolds value shown) {count : Nat}
    (left : unseen store.containers around < count)
    (there : store.descend? [] value path = some (around, part)) : shown path = store.textInside around part := by
  induction count generalizing path around part with
  | zero => exact absurd left (Nat.not_lt_zero _)
  | succ count ih =>
    have found := partThere there
    cases part with
    | scalar s => exact unfolds.scalar path s found
    | func f => exact unfolds.func path f found
    | scope id => exact unfolds.scope path id found
    | attributes id => exact unfolds.attributes path id found
    | list id =>
      have again := recursOpen (.list id) there
      rw [textInsideList]
      split
      · rename_i seen
        exact unfolds.listAgain path id found (again.mpr seen)
      · rename_i new
        rw [unfolds.list path id found (fun recurs => new (again.mp recurs)), itemsShown fun i inner below => ?_]
        have fewer := unseenCons (listThere (List.mem_of_getElem? below)) new
        exact ih (by omega) (by rw [descendFurther there, below]; rfl)
    | map id =>
      have again := recursOpen (.map id) there
      rw [textInsideMap]
      split
      · rename_i seen
        exact unfolds.mapAgain path id found (again.mpr seen)
      · rename_i new
        rw [unfolds.map path id found (fun recurs => new (again.mp recurs)), entriesShown fun i inner below => ?_]
        obtain ⟨entry, member, same⟩ := List.mem_map.mp (List.mem_of_getElem? below)
        have fewer := unseenCons (mapThere member) new
        exact ih (by omega) (by rw [descendFurther there, below]; rfl)

theorem unfoldedText (shown : List Nat → String) (unfolds : store.Unfolds value shown) :
    shown [] = store.text value :=
  unfoldingIs unfolds (Nat.lt_succ_self _) rfl

end Store

end CircuitScript
