import Mathlib.Data.List.Forall2
import CircuitScript.Proofs.Holding
import CircuitScript.Proofs.Nesting

/-! The nodes of a circuit are its placement paths. Without generic templates an expansion lists each
primitive element once for every way down to it, in the lexicographic order of the positions passed, under
the names passed. -/
namespace CircuitScript

namespace Table

variable {α : Type}

theorem findAbove {entries : List (String × α)} {key : String}
    (above : ∀ entry ∈ entries, key < entry.1) : find? key entries = none := by
  induction entries with
  | nil => rfl
  | cons head rest ih =>
    obtain ⟨first, later⟩ := List.forall_mem_cons.mp above
    have different : head.1 ≠ key := by
      rintro rfl
      exact String.lt_irrefl _ first
    simp [find?, different, ih later]

theorem getOverlay (table upper : Table α) (key : String) :
    (table.overlay upper).get? key = (upper.get? key).or (table.get? key) := by
  obtain ⟨entries, sorted⟩ := upper
  unfold overlay
  -- The first entry is put before all others, none of which has its key.
  induction entries generalizing table with
  | nil => rfl
  | cons head rest ih =>
    obtain ⟨below, sorted⟩ := List.pairwise_cons.mp sorted
    have later := ih (table.insert head.1 head.2) sorted
    simp only [getInsert] at later
    by_cases here : head.1 = key
    · subst here
      simpa [get?, find?, findAbove below] using later
    · simpa [get?, find?, here] using later

end Table

/-- The name of an element at a position. -/
inductive Element.Called (element : Element) (position : Nat) : String → Prop where
  | label {text : String} (there : element.attributes.get? "Label" = some (.str text))
      (full : text ≠ "") : element.Called position text
  | type (blank : ∀ text, element.attributes.get? "Label" = some (.str text) → text = "") :
      element.Called position (element.typeName ++ toString position)

theorem Element.instanceNameCalled (element : Element) (position : Nat) :
    element.Called position (element.instanceName position) := by
  unfold instanceName label Attributes.str? Attributes.labelKey
  cases there : element.attributes.get? "Label" with
  | none => exact .type (by simp [there])
  | some value =>
    cases value with
    | str text =>
      by_cases blank : text = ""
      · subst blank
        exact .type (by simp [there])
      · simpa [blank] using Called.label there blank
    | int _ | float _ | bool _ => exact .type (by simp [there])

theorem Element.Called.unique {element : Element} {position : Nat} {a b : String}
    (first : element.Called position a) (second : element.Called position b) : a = b := by
  cases first with
  | label there full =>
    cases second with
    | label there' _ =>
      rw [there] at there'
      cases there'
      rfl
    | type blank => exact absurd (blank _ there) full
  | type blank =>
    cases second with
    | label there full => exact absurd (blank _ there) full
    | type _ => rfl

theorem Element.instanceNameNe (element : Element) (position : Nat) :
    element.instanceName position ≠ "" := by
  unfold instanceName
  split
  · simp [String.append_eq_empty_iff, Nat.toString_eq_repr]
  · assumption

/-- Where the net list of an instance stands. -/
structure NetList.Along (netList : NetList) (names : List String) : Prop where
  path : netList.path = "/".intercalate names
  full : names = [] ∨ netList.path ≠ ""

namespace NetList

variable {netList : NetList} {names : List String}

theorem rootAlong (origin : String) : (root origin).Along [] := ⟨rfl, .inl rfl⟩

theorem Along.qualify (along : netList.Along names) (name : String) :
    netList.qualify name = "/".intercalate (names ++ [name]) := by
  unfold NetList.qualify
  rcases along.full with rfl | full
  · simp [along.path]
  · have some : names ≠ [] := by
      rintro rfl
      exact full along.path
    rw [if_neg full, along.path, String.intercalate_append_of_ne_nil some (List.cons_ne_nil _ _),
      String.intercalate_singleton]

theorem Along.nested (along : netList.Along names) (origin : String) {name : String} (full : name ≠ "") :
    (netList.nested origin name).Along (names ++ [name]) := by
  refine ⟨along.qualify name, .inr ?_⟩
  unfold NetList.nested NetList.qualify
  split
  · exact full
  · simp [String.append_eq_empty_iff, full]

end NetList

/-- The ways down to primitive elements: the positions passed, the names passed, the element and the
defaults of its type. -/
inductive Reaches (library : Library) :
    List Element → List Nat → List String → Element → Attributes → Prop where
  | primitive {elements : List Element} {i : Nat} {element : Element} {name : String}
      {defaults : Attributes} (found : elements[i]? = some element) (called : element.Called i name)
      (type : library.get? element.typeName = some (.primitive defaults)) :
      Reaches library elements [i] [name] element defaults
  | custom {elements : List Element} {i : Nat} {path : List Nat} {outer element : Element}
      {name : String} {names : List String} {t : Template} {defaults : Attributes}
      (found : elements[i]? = some outer) (called : outer.Called i name)
      (type : library.get? outer.typeName = some (.custom t))
      (inside : Reaches library t.circuit.elements path names element defaults) :
      Reaches library elements (i :: path) (name :: names) element defaults

/-- The node is the primitive element at the end of the path, in an instance along the outer names. -/
def Node.At (library : Library) (elements : List Element) (outer : List String) (path : List Nat)
    (node : Node) : Prop :=
  ∃ names element defaults, Reaches library elements path names element defaults ∧
    node.name = "/".intercalate (outer ++ names) ∧ node.typeName = element.typeName ∧
    ∀ key, node.attributes.get? key = (element.attributes.get? key).or (defaults.get? key)

/-- The nodes are those of the placement paths that begin at a position or after it. -/
def Flattened (library : Library) (elements : List Element) (outer : List String) (position : Nat)
    (nodes : List Node) : Prop :=
  ∃ paths : List (List Nat), paths.Pairwise (· < ·) ∧
    (∀ path, path ∈ paths ↔
      (∃ names element defaults, Reaches library elements path names element defaults) ∧
      ∀ i ∈ path.head?, position ≤ i) ∧
    List.Forall₂ (Node.At library elements outer) paths nodes

variable {library : Library} {elements : List Element} {outer : List String} {position : Nat}
variable {nodes others : List Node} {path : List Nat} {names : List String} {element : Element}
variable {defaults : Attributes}

theorem Reaches.head (reaches : Reaches library elements path names element defaults) :
    ∃ i rest, path = i :: rest := by
  cases reaches with
  | primitive => exact ⟨_, _, rfl⟩
  | custom => exact ⟨_, _, rfl⟩

theorem Reaches.inRange {i : Nat} {rest : List Nat}
    (reaches : Reaches library elements (i :: rest) names element defaults) : i < elements.length := by
  cases reaches with
  | primitive found => exact (List.getElem?_eq_some_iff.mp found).1
  | custom found => exact (List.getElem?_eq_some_iff.mp found).1

theorem Reaches.unique (reaches : Reaches library elements path names element defaults)
    {names' : List String} {element' : Element} {defaults' : Attributes}
    (other : Reaches library elements path names' element' defaults') :
    names = names' ∧ element = element' ∧ defaults = defaults' := by
  induction reaches generalizing names' with
  | primitive found called type =>
    cases other with
    | primitive found' called' type' =>
      cases found.symm.trans found'
      cases type.symm.trans type'
      exact ⟨by rw [called.unique called'], rfl, rfl⟩
    | custom _ _ _ inside =>
      obtain ⟨_, _, none⟩ := inside.head
      cases none
  | custom found called type inside ih =>
    cases other with
    | primitive =>
      obtain ⟨_, _, none⟩ := inside.head
      cases none
    | custom found' called' type' inside' =>
      cases found.symm.trans found'
      cases type.symm.trans type'
      obtain ⟨rfl, rfl, rfl⟩ := ih inside'
      exact ⟨by rw [called.unique called'], rfl, rfl⟩

theorem flattenedEnd (done : elements.length ≤ position) : Flattened library elements outer position [] := by
  refine ⟨[], .nil, fun path => ⟨by simp, ?_⟩, .nil⟩
  rintro ⟨⟨names, element, defaults, reaches⟩, after⟩
  obtain ⟨i, rest, rfl⟩ := reaches.head
  have low := after i rfl
  have high := reaches.inRange
  omega

-- The paths that begin at one position, before those that begin after it.
theorem flattenedStep {own : List (List Nat)} (sorted : own.Pairwise (· < ·))
    (all : ∀ path, path ∈ own ↔ ∃ rest, path = position :: rest ∧
      ∃ names element defaults, Reaches library elements path names element defaults)
    (listed : List.Forall₂ (Node.At library elements outer) own nodes)
    (later : Flattened library elements outer (position + 1) others) :
    Flattened library elements outer position (nodes ++ others) := by
  obtain ⟨paths, sorted', all', listed'⟩ := later
  refine ⟨own ++ paths, List.pairwise_append.mpr ⟨sorted, sorted', ?_⟩, fun path => ?_,
    List.rel_append listed listed'⟩
  · intro first member second member'
    obtain ⟨rest, rfl, _⟩ := (all first).mp member
    obtain ⟨⟨_, _, _, reaches⟩, after⟩ := (all' second).mp member'
    obtain ⟨i, rest', rfl⟩ := reaches.head
    exact List.cons_lt_cons_iff.mpr (.inl (after i rfl))
  · rw [List.mem_append, all, all']
    constructor
    · rintro (⟨rest, rfl, reaches⟩ | ⟨reaches, after⟩)
      · exact ⟨reaches, by simp⟩
      · exact ⟨reaches, fun i head => Nat.le_of_succ_le (after i head)⟩
    · rintro ⟨⟨names, element, defaults, reaches⟩, after⟩
      obtain ⟨i, rest, rfl⟩ := reaches.head
      rcases Nat.eq_or_lt_of_le (after i rfl) with rfl | below
      · exact .inl ⟨rest, rfl, names, element, defaults, reaches⟩
      · exact .inr ⟨⟨names, element, defaults, reaches⟩, by simpa using Nat.succ_le_of_lt below⟩

theorem flattenedPrimitive (found : elements[position]? = some element)
    (type : library.get? element.typeName = some (.primitive defaults)) {node : Node}
    (name : node.name = "/".intercalate (outer ++ [element.instanceName position]))
    (typeName : node.typeName = element.typeName)
    (attributes : node.attributes = defaults.overlay element.attributes)
    (later : Flattened library elements outer (position + 1) others) :
    Flattened library elements outer position (node :: others) := by
  have reaches := Reaches.primitive found (element.instanceNameCalled position) type
  have here : node.At library elements outer [position] := by
    refine ⟨_, element, defaults, reaches, name, typeName, fun key => ?_⟩
    rw [attributes, Table.getOverlay]
  refine flattenedStep (List.pairwise_singleton _ _) (fun path => ?_) (.cons here .nil) later
  rw [List.mem_singleton]
  constructor
  · rintro rfl
    exact ⟨[], rfl, _, element, defaults, reaches⟩
  · rintro ⟨rest, rfl, names, last, values, other⟩
    cases other with
    | primitive => rfl
    | custom found' _ type' =>
      cases found.symm.trans found'
      rw [type] at type'
      cases type'

theorem flattenedCustom {t : Template} (found : elements[position]? = some element)
    (type : library.get? element.typeName = some (.custom t))
    (inside : Flattened library t.circuit.elements (outer ++ [element.instanceName position]) 0 nodes)
    (later : Flattened library elements outer (position + 1) others) :
    Flattened library elements outer position (nodes ++ others) := by
  have called := element.instanceNameCalled position
  obtain ⟨paths, sorted, all, listed⟩ := inside
  have longer : (paths.map (position :: ·)).Pairwise (· < ·) := by
    refine List.pairwise_map.mpr (sorted.imp fun less => ?_)
    exact List.cons_lt_cons_iff.mpr (.inr ⟨rfl, less⟩)
  refine flattenedStep longer (fun path => ?_) ?_ later
  · rw [List.mem_map]
    constructor
    · rintro ⟨rest, member, rfl⟩
      obtain ⟨⟨names, last, values, reaches⟩, _⟩ := (all rest).mp member
      exact ⟨rest, rfl, _, last, values, .custom found called type reaches⟩
    · rintro ⟨rest, rfl, names, last, values, other⟩
      cases other with
      | primitive found' _ type' =>
        cases found.symm.trans found'
        rw [type] at type'
        cases type'
      | custom found' _ type' reaches =>
        cases found.symm.trans found'
        rw [type] at type'
        cases type'
        exact ⟨rest, (all rest).mpr ⟨⟨_, last, values, reaches⟩, by simp⟩, rfl⟩
  · refine List.forall₂_map_left_iff.mpr (listed.imp fun path node at' => ?_)
    obtain ⟨names, last, values, reaches, name, rest⟩ := at'
    refine ⟨_, last, values, .custom found called type reaches, ?_, rest⟩
    rw [name, List.append_assoc, List.singleton_append]

open Build

variable {budget levels : Nat} {netList : NetList} {state after : BuildState}

def ExpandsFlat (library : Library) (expand : Expand) : Prop :=
  ∀ (netList : NetList) (outer : List String) (name : String) (t : Template) (element : Element)
    (args : Option ScopeId) (state after : BuildState) (nodes : List Node),
    t.isGeneric = false → netList.Along outer → name ≠ "" →
    expand netList name t element args state = .done nodes after →
    Flattened library t.circuit.elements (outer ++ [name]) 0 nodes

-- The elements still to come are those of the circuit from the position on.
theorem realizeFlat {expand : Expand} (plain : library.NoGenerics) (expands : ExpandsFlat library expand)
    (along : netList.Along outer) {args : Option ScopeId} {rest : List Element}
    (here : elements.drop position = rest)
    (ended : realize library expand netList args position rest state = .done nodes after) :
    Flattened library elements outer position nodes := by
  induction rest generalizing position state nodes with
  | nil =>
    cases ended
    exact flattenedEnd (List.drop_eq_nil_iff.mp here)
  | cons first rest ih =>
    have found : elements[position]? = some first := by
      rw [← List.head?_drop, here]
      rfl
    have next : elements.drop (position + 1) = rest := by
      rw [← List.tail_drop, here]
      rfl
    rw [realizeCons] at ended
    obtain ⟨own, s₁, expanded, ended⟩ := Action.bindDone ended
    obtain ⟨others, s₂, realized, ended⟩ := Action.bindDone ended
    cases ended
    have later := ih next realized
    unfold elementNodes at expanded
    cases type : library.get? first.typeName with
    | none =>
      rw [type] at expanded
      cases expanded
    | some found' =>
      rw [type] at expanded
      cases found' with
      | primitive defaults =>
        cases expanded
        exact flattenedPrimitive found type (along.qualify _) rfl rfl later
      | custom t =>
        refine flattenedCustom found type ?_ later
        exact expands netList outer _ t first args state s₁ own (plain _ t type) along
          (first.instanceNameNe position) expanded

theorem instantiateFlat (plain : library.NoGenerics) (levels : Nat) :
    ExpandsFlat library (expandInside budget library levels) := by
  induction levels with
  | zero =>
    intro netList outer name t element args state after nodes _ _ _ ended
    cases ended
  | succ levels ih =>
    intro netList outer name t element args state after nodes own along full ended
    unfold expandInside at ended
    rw [instantiatePlain own] at ended
    obtain ⟨model, s₁, built, ended⟩ := Action.bindDone ended
    obtain ⟨inner, s₂, realized, built⟩ := Action.bindDone built
    cases built
    cases ended
    exact realizeFlat plain ih (along.nested t.file full) List.drop_zero realized

/-- The nodes of a circuit, in order, are the primitive elements at the ends of its placement paths, in the
lexicographic order of the paths. -/
theorem nodesArePlacements (plain : library.NoGenerics) {circuit : Circuit} {model : Model}
    (ended : forCircuit budget library circuit state = .done model after) :
    ∃ paths : List (List Nat), paths.Pairwise (· < ·) ∧
      (∀ path, path ∈ paths ↔
        ∃ names element defaults, Reaches library circuit.elements path names element defaults) ∧
      List.Forall₂ (fun path node => ∀ names element defaults,
        Reaches library circuit.elements path names element defaults →
        node.name = "/".intercalate names ∧ node.typeName = element.typeName ∧
        ∀ key, node.attributes.get? key = (element.attributes.get? key).or (defaults.get? key))
        paths model.nodes := by
  unfold forCircuit at ended
  obtain ⟨nodes, s₁, realized, ended⟩ := Action.bindDone ended
  cases ended
  have flat : Flattened library circuit.elements [] 0 nodes :=
    realizeFlat plain (instantiateFlat plain (levelsAt 1)) (NetList.rootAlong circuit.origin)
      List.drop_zero realized
  obtain ⟨paths, sorted, all, listed⟩ := flat
  refine ⟨paths, sorted, fun path => ?_, listed.imp fun path node here => ?_⟩
  · rw [all]
    exact and_iff_left fun i _ => Nat.zero_le i
  · intro names element defaults other
    obtain ⟨names', element', defaults', reaches, described⟩ := here
    obtain ⟨rfl, rfl, rfl⟩ := reaches.unique other
    exact described

def halvesCircuit : Circuit :=
  ⟨"halves.dig", .empty, [⟨"half.dig", Table.empty.insert "Label" (.str "left"), none⟩,
    ⟨"In", Table.empty.insert "Bits" (.int 4), none⟩, ⟨"half.dig", .empty, none⟩]⟩

theorem halvesArePlacements :
    ∃ model, forCircuit 0 halfLibrary halvesCircuit .empty = .done model .empty ∧
      model.nodes.map (·.name) = ["left/In0", "In1", "half.dig2/In0"] ∧
      ∃ paths : List (List Nat), paths.Pairwise (· < ·) ∧ paths.length = 3 ∧ [2, 0] ∈ paths := by
  have ended : ∃ model, forCircuit 0 halfLibrary halvesCircuit .empty = .done model .empty ∧
      model.nodes.map (·.name) = ["left/In0", "In1", "half.dig2/In0"] := ⟨_, rfl, by decide +kernel⟩
  obtain ⟨model, done, names⟩ := ended
  obtain ⟨paths, sorted, all, listed⟩ := nodesArePlacements halfLibraryPlain done
  refine ⟨model, done, names, paths, sorted, ?_, (all _).mpr ?_⟩
  · rw [listed.length_eq, ← List.length_map, names]
    rfl
  · exact ⟨_, _, _, .custom rfl (.type nofun) rfl (.primitive rfl (.type nofun) rfl)⟩

end CircuitScript
