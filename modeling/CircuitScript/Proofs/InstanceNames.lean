import Mathlib.Algebra.Group.Nat.Defs
import Mathlib.Data.List.Nodup
import CircuitScript.Proofs.Siblings

/-! Elements without a label are named by their type and their position, with nothing between the two. Two
of them have the same name just if the one at the lower position has a type name that goes on with the
digits which the higher position has more. -/
namespace CircuitScript

theorem digitsGlued {d : Nat} (positive : 0 < d) (i : Nat) :
    Nat.toDigits 10 d ++ Nat.toDigits 10 i =
      Nat.toDigits 10 (d * 10 ^ (Nat.toDigits 10 i).length + i) := by
  induction i using Nat.strongRecOn with
  | ind i ih =>
    by_cases small : i < 10
    · rw [Nat.toDigits_append_toDigits (by decide) positive small, Nat.toDigits_of_lt_base small]
      simp [Nat.mul_comm]
    · have tenth : i / 10 < i := by omega
      have last : i % 10 < 10 := Nat.mod_lt _ (by decide)
      have front := ih (i / 10) tenth
      have more : 0 < d * 10 ^ (Nat.toDigits 10 (i / 10)).length + i / 10 := by omega
      rw [Nat.toDigits_of_base_le (by decide) (Nat.le_of_not_lt small), ← List.append_assoc, front,
        ← Nat.toDigits_of_lt_base last, Nat.toDigits_append_toDigits (by decide) more last]
      congr 1
      rw [List.length_append, Nat.toDigits_of_lt_base last, List.length_singleton, Nat.pow_succ]
      have whole := Nat.div_add_mod i 10
      grind

theorem numeralGlued {d : Nat} (positive : 0 < d) (i : Nat) :
    toString (d * 10 ^ (toString i).length + i) = toString d ++ toString i := by
  rw [← String.toList_inj, String.toList_append, ← String.length_toList]
  simp only [Nat.toString_eq_repr, Nat.toList_repr]
  exact (digitsGlued positive i).symm

theorem numeralFront {front : String} {i j : Nat} (split : toString j = front ++ toString i) :
    j = Nat.ofDigitChars 10 front.toList 0 * 10 ^ (toString i).length + i := by
  have digits := congrArg (fun text => Nat.ofDigitChars 10 text.toList 0) split
  simp only [String.toList_append, Nat.ofDigitChars_append, Nat.toString_eq_repr, Nat.toList_repr,
    Nat.ofDigitChars_ten_toDigits] at digits
  rw [Nat.ofDigitChars_eq_ofDigitChars_zero, Nat.ofDigitChars_ten_toDigits] at digits
  rw [digits, Nat.mul_comm, Nat.toString_eq_repr, ← String.length_toList, Nat.toList_repr]

theorem appendCases {a b c d : String} (same : a ++ b = c ++ d) :
    (∃ front, b = front ++ d) ∨ ∃ front, a = c ++ front ∧ d = front ++ b := by
  have rows := congrArg String.toList same
  rw [String.toList_append, String.toList_append, List.append_eq_append_iff] at rows
  rcases rows with ⟨front, _, own⟩ | ⟨front, more, other⟩
  · refine .inl ⟨.ofList front, String.toList_inj.mp ?_⟩
    rw [own, String.toList_append, String.toList_ofList]
  · refine .inr ⟨.ofList front, String.toList_inj.mp ?_, String.toList_inj.mp ?_⟩
    · rw [more, String.toList_append, String.toList_ofList]
    · rw [other, String.toList_append, String.toList_ofList]

theorem behindText {a b : String} {i j : Nat} (before : i < j) :
    a ++ toString i = b ++ toString j ↔
      ∃ d, 0 < d ∧ j = d * 10 ^ (toString i).length + i ∧ a = b ++ toString d := by
  constructor
  · intro same
    rcases appendCases same with ⟨front, split⟩ | ⟨front, rfl, split⟩
    · -- The numeral of the lower position would be the longer one.
      have larger := numeralFront split
      omega
    · have value := numeralFront split
      have positive : 0 < Nat.ofDigitChars 10 front.toList 0 := by
        refine Nat.pos_of_ne_zero fun zero => ?_
        rw [zero, Nat.zero_mul, Nat.zero_add] at value
        exact Nat.ne_of_lt before value.symm
      refine ⟨_, positive, value, ?_⟩
      rw [value, numeralGlued positive] at split
      rw [(String.append_left_inj _).mp split]
  · rintro ⟨d, positive, rfl, rfl⟩
    rw [numeralGlued positive, String.append_assoc]

/-- The first type name is the second one with a number behind it, and the second position is this number
followed by the digits of the first position. -/
def Element.Meets (a b : Element) (i j : Nat) : Prop :=
  ∃ d, 0 < d ∧ j = d * 10 ^ (toString i).length + i ∧ a.typeName = b.typeName ++ toString d

def EndsInDigit (text : String) : Prop := ∃ c, text.toList.getLast? = some c ∧ c.isDigit = true

section Meeting

variable {a b : Element} {i j : Nat}

theorem unlabelledName (unlabelled : a.label = "") (i : Nat) : a.instanceName i = a.typeName ++ toString i :=
  if_pos unlabelled

theorem Element.Meets.apart (meets : a.Meets b i j) : a.typeName ≠ b.typeName := by
  obtain ⟨d, _, _, same⟩ := meets
  intro equal
  rw [same] at equal
  have blank : (toString d).toList = [] := by simpa using congrArg String.toList equal
  rw [Nat.toString_eq_repr, Nat.toList_repr] at blank
  exact Nat.toDigits_ne_nil blank

theorem Element.Meets.tenBefore (meets : a.Meets b i j) : 10 ≤ j := by
  obtain ⟨d, positive, rfl, _⟩ := meets
  have some : (toString i).length ≠ 0 := by
    rw [Nat.toString_eq_repr, ← String.length_toList, Nat.toList_repr]
    exact Nat.ne_of_gt Nat.length_toDigits_pos
  calc 10 ≤ 10 ^ (toString i).length := Nat.le_self_pow some 10
    _ ≤ d * 10 ^ (toString i).length := Nat.le_mul_of_pos_left _ positive
    _ ≤ d * 10 ^ (toString i).length + i := Nat.le_add_right _ _

theorem Element.Meets.endsInDigit (meets : a.Meets b i j) : EndsInDigit a.typeName := by
  obtain ⟨d, _, _, same⟩ := meets
  have full : Nat.toDigits 10 d ≠ [] := Nat.toDigits_ne_nil
  refine ⟨(Nat.toDigits 10 d).getLast full, ?_, ?_⟩
  · rw [same, String.toList_append, Nat.toString_eq_repr, Nat.toList_repr,
      List.getLast?_append_of_ne_nil _ full, List.getLast?_eq_getLast_of_ne_nil]
  · exact Nat.isDigit_of_mem_toDigits (by decide) (by decide) (List.getLast_mem full)

end Meeting

namespace Build

variable {budget : Nat} {library : Library} {circuit : Circuit}

theorem forPrimitives (primitives : PlacesPrimitives library circuit.elements) (state : BuildState) :
    forCircuit budget library circuit state =
      .done ⟨.root circuit.origin, 0, none,
        circuit.elements.mapIdx (nodeAt library (.root circuit.origin))⟩ state := by
  unfold forCircuit
  refine Action.thenDone (realizePrimitives primitives 0) ?_
  simp only [Nat.zero_add]
  rfl

theorem nodeAtName (library : Library) (origin : String) (position : Nat) (element : Element) :
    (nodeAt library (.root origin) position element).name = element.instanceName position := by
  show (NetList.root origin).qualify _ = _
  exact if_pos rfl

theorem unlabelledNodes {elements : List Element} (unlabelled : ∀ element ∈ elements, element.label = "")
    (library : Library) (origin : String) :
    (elements.mapIdx (nodeAt library (.root origin))).map (·.name) =
      elements.mapIdx fun i element => element.typeName ++ toString i := by
  refine List.ext_getElem (by simp) fun i inside _ => ?_
  rw [List.length_map, List.length_mapIdx] at inside
  rw [List.getElem_map, List.getElem_mapIdx, List.getElem_mapIdx, nodeAtName,
    unlabelledName (unlabelled _ (List.getElem_mem inside))]

theorem nodeAtMember (origin : String) {elements : List Element} {i : Nat} {element : Element}
    (found : elements[i]? = some element) :
    nodeAt library (.root origin) i element ∈ elements.mapIdx (nodeAt library (.root origin)) := by
  refine List.mem_of_getElem? (i := i) ?_
  rw [List.getElem?_mapIdx, found]
  rfl

end Build

theorem Model.findsNodes {model : Model} (distinct : (model.nodes.map (·.name)).Nodup) {node : Node}
    (member : node ∈ model.nodes) : model.node? node.name = some node := by
  unfold node?
  cases found : model.nodes.find? (·.name == node.name) with
  | none =>
    have missing := List.find?_eq_none.mp found node member
    simp at missing
  | some other =>
    have same : other.name = node.name := by simpa using List.find?_some found
    exact congrArg some (List.inj_on_of_nodup_map distinct (List.mem_of_find?_eq_some found) member same)

theorem typesWithPositions (elements : List Element) :
    (elements.mapIdx fun i element => element.typeName ++ toString i).Nodup ↔
      ∀ (i j : Nat) (a b : Element), i < j → elements[i]? = some a → elements[j]? = some b →
        ¬a.Meets b i j := by
  rw [List.nodup_iff_getElem?_ne_getElem?]
  constructor
  · intro distinct i j a b before first second meets
    have inside : j < elements.length := (List.getElem?_eq_some_iff.mp second).1
    refine distinct i j before (by simpa using inside) ?_
    rw [List.getElem?_mapIdx, List.getElem?_mapIdx, first, second]
    exact congrArg some ((behindText before).mpr meets)
  · intro apart i j before inside same
    rw [List.length_mapIdx] at inside
    have first := List.getElem?_eq_getElem (Nat.lt_trans before inside)
    have second := List.getElem?_eq_getElem inside
    rw [List.getElem?_mapIdx, List.getElem?_mapIdx, first, second] at same
    exact apart i j _ _ before first second ((behindText before).mp (Option.some.inj same))

/-- In a circuit of primitive elements without labels, two names are the same just if the type name at the
lower position is the other one with digits behind it, and the higher position has these digits before those
of the lower one. Without such a pair, and only then, every node is found under its name. -/
theorem unlabelledNamesMeetInDigits {library : Library} {circuit : Circuit}
    (primitives : Build.PlacesPrimitives library circuit.elements)
    (unlabelled : ∀ element ∈ circuit.elements, element.label = "") (budget : Nat) (state : BuildState) :
    ∃ model, Build.forCircuit budget library circuit state = .done model state ∧
      model.nodes.map (·.name) = (circuit.elements.mapIdx fun i element => element.typeName ++ toString i) ∧
      ((model.nodes.map (·.name)).Nodup ↔ ∀ (i j : Nat) (a b : Element), i < j →
        circuit.elements[i]? = some a → circuit.elements[j]? = some b → ¬a.Meets b i j) ∧
      ((∀ node ∈ model.nodes, model.node? node.name = some node) ↔ (model.nodes.map (·.name)).Nodup) ∧
      (circuit.elements.length ≤ 10 → (model.nodes.map (·.name)).Nodup) ∧
      ((∀ element ∈ circuit.elements, ¬EndsInDigit element.typeName) →
        (model.nodes.map (·.name)).Nodup) := by
  refine ⟨_, Build.forPrimitives primitives state, ?_⟩
  have names := Build.unlabelledNodes unlabelled library circuit.origin
  have distinct := typesWithPositions circuit.elements
  rw [← names] at distinct
  refine ⟨names, distinct, ⟨fun finds => distinct.mpr ?_, fun once node => Model.findsNodes once⟩,
    fun few => distinct.mpr ?_, fun plain => distinct.mpr ?_⟩
  · intro i j a b before first second meets
    have found := finds _ (Build.nodeAtMember circuit.origin first)
    have other := finds _ (Build.nodeAtMember circuit.origin second)
    rw [Build.nodeAtName, unlabelledName (unlabelled a (List.mem_of_getElem? first)),
      (behindText before).mpr meets] at found
    rw [Build.nodeAtName, unlabelledName (unlabelled b (List.mem_of_getElem? second)), found] at other
    exact meets.apart (congrArg Node.typeName (Option.some.inj other))
  · intro i j a b before first second meets
    have inside : j < circuit.elements.length := (List.getElem?_eq_some_iff.mp second).1
    have ten := meets.tenBefore
    omega
  · intro i j a b before first second meets
    exact plain a (List.mem_of_getElem? first) meets.endsInDigit

-- An input whose type name ends in a digit, before others.
def pinLibrary : Library :=
  (Table.empty.insert "In" (.primitive .empty)).insert "In1" (.primitive .empty)

def pinCircuit (others : Nat) : Circuit :=
  ⟨"pins.dig", .empty, ⟨"In1", .empty, none⟩ :: List.replicate others ⟨"In", .empty, none⟩⟩

theorem pinElement {others : Nat} {element : Element} (member : element ∈ (pinCircuit others).elements) :
    element = ⟨"In1", .empty, none⟩ ∨ element = ⟨"In", .empty, none⟩ := by
  rcases List.mem_cons.mp member with rfl | later
  · exact .inl rfl
  · exact .inr (List.eq_of_mem_replicate later)

theorem pinsPrimitive (others : Nat) : Build.PlacesPrimitives pinLibrary (pinCircuit others).elements := by
  intro element member
  rcases pinElement member with rfl | rfl <;> exact ⟨.empty, rfl⟩

theorem pinsUnlabelled (others : Nat) : ∀ element ∈ (pinCircuit others).elements, element.label = "" := by
  intro element member
  rcases pinElement member with rfl | rfl <;> rfl

theorem tenPinsApart :
    Build.PlacesPrimitives pinLibrary (pinCircuit 9).elements ∧
    (∀ element ∈ (pinCircuit 9).elements, element.label = "") ∧
    ∃ model, Build.forCircuit 0 pinLibrary (pinCircuit 9) .empty = .done model .empty ∧
      (model.nodes.map (·.name)).Nodup ∧ ∀ node ∈ model.nodes, model.node? node.name = some node := by
  obtain ⟨model, done, _, _, finds, few, _⟩ :=
    unlabelledNamesMeetInDigits (pinsPrimitive 9) (pinsUnlabelled 9) 0 .empty
  have distinct := few (by decide)
  exact ⟨pinsPrimitive 9, pinsUnlabelled 9, model, done, distinct, finds.mpr distinct⟩

theorem elevenPinsMeet :
    Build.PlacesPrimitives pinLibrary (pinCircuit 10).elements ∧
    (∀ element ∈ (pinCircuit 10).elements, element.label = "" ∧ '/' ∉ element.typeName.toList) ∧
    ∃ model, Build.forCircuit 0 pinLibrary (pinCircuit 10) .empty = .done model .empty ∧
      ¬(model.nodes.map (·.name)).Nodup ∧
      (model.nodes[10]?.map fun node => (node.name, node.typeName)) = some ("In10", "In") ∧
      (model.node? "In10").map (·.typeName) = some "In1" := by
  refine ⟨pinsPrimitive 10, fun element member => ⟨pinsUnlabelled 10 element member, ?_⟩,
    _, Build.forPrimitives (pinsPrimitive 10) .empty, ?_, ?_, ?_⟩
  · rcases pinElement member with rfl | rfl <;> decide
  · decide +kernel
  · decide +kernel
  · decide +kernel

end CircuitScript
