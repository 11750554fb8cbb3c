import CircuitScript.Expansion
import CircuitScript.Proofs.Outcome

/-! An instance is expanded in one of two ways: a plain one as it is written, a generic one after the
scripts of its elements have run. -/
namespace CircuitScript

namespace Build

def standing (parent : Option NetList) (name : String) (t : Template) : NetList :=
  match parent with
  | some outer => outer.nested t.file name
  | none => .root t.file

def expandInside (budget : Nat) (library : Library) (levels : Nat) : Expand :=
  fun outer name t element args => do
    let model ← instantiate budget library levels (some outer) name t (some element) args
    pure model.nodes

def elementNodes (library : Library) (expand : Expand) (netList : NetList) (args : Option ScopeId)
    (position : Nat) (element : Element) : Build (List Node) :=
  match library.get? element.typeName with
  | none => Action.fail (.elementNotFound element.typeName)
  | some (.primitive defaults) =>
    pure [⟨netList.qualify (element.instanceName position), element.typeName,
      defaults.overlay element.attributes⟩]
  | some (.custom t) => expand netList (element.instanceName position) t element args

variable {budget : Nat} {library : Library} {t : Template}

theorem realizeCons (expand : Expand) (netList : NetList) (args : Option ScopeId) (position : Nat)
    (element : Element) (rest : List Element) :
    realize library expand netList args position (element :: rest) = (do
      let nodes ← elementNodes library expand netList args position element
      let others ← realize library expand netList args (position + 1) rest
      pure (nodes ++ others)) := by
  rw [realize]
  unfold find elementNodes
  cases library.get? element.typeName with
  | none => rfl
  | some found => cases found <;> rfl

variable {levels : Nat} {parent : Option NetList} {name : String} {placing : Option Element}
variable {enclosing : Option ScopeId}

theorem instantiatePlain (plain : t.isGeneric = false) :
    instantiate budget library (levels + 1) parent name t placing enclosing = (do
      let nodes ← realize library (expandInside budget library levels) (standing parent name t)
        none 0 t.circuit.elements
      pure ⟨standing parent name t, maxDepth - levels, none, nodes⟩ : Build Model) := by
  cases parent <;> rw [instantiate, plain] <;> rfl

theorem instantiateGeneric (generic : t.isGeneric = true) :
    instantiate budget library (levels + 1) parent name t placing enclosing = (do
      let args ← Action.mapError (.generics (standing parent name t).describe)
        (resolveArgs budget t placing enclosing)
      let circuit ← specialize budget library t (standing parent name t).describe args
      let nodes ← realize library (expandInside budget library levels) (standing parent name t)
        (some args) 0 circuit.elements
      pure ⟨standing parent name t, maxDepth - levels, some args, nodes⟩ : Build Model) := by
  cases parent <;> rw [instantiate, generic] <;> rfl

variable {state after : BuildState}

theorem specializeElementName {origin : String} {args : ScopeId} {element special : Element}
    (ended : specializeElement budget library t origin args element state = .done special after) :
    special.typeName = element.typeName := by
  unfold specializeElement at ended
  cases script : element.script? with
  | none =>
    rw [script] at ended
    cases ended
    rfl
  | some code =>
    rw [script] at ended
    obtain ⟨found, s₁, _, ended⟩ := Action.bindDone ended
    obtain ⟨tree, s₂, _, ended⟩ := Action.bindDone ended
    obtain ⟨scope, s₃, _, ended⟩ := Action.bindDone ended
    cases found with
    | custom inner =>
      obtain ⟨u, s₄, _, ended⟩ := Action.bindDone ended
      cases ended
      rfl
    | primitive defaults =>
      obtain ⟨handle, s₄, _, ended⟩ := Action.bindDone ended
      obtain ⟨u, s₅, _, ended⟩ := Action.bindDone ended
      obtain ⟨u, s₆, _, ended⟩ := Action.bindDone ended
      obtain ⟨attributes, s₇, _, ended⟩ := Action.bindDone ended
      cases ended
      rfl

theorem specializeAllNames {origin : String} {args : ScopeId} {elements specials : List Element}
    (ended : specializeAll budget library t origin args elements state = .done specials after) :
    specials.map (·.typeName) = elements.map (·.typeName) := by
  induction elements generalizing state specials with
  | nil =>
    cases ended
    rfl
  | cons first rest ih =>
    rw [specializeAll] at ended
    obtain ⟨special, s₁, own, ended⟩ := Action.bindDone ended
    obtain ⟨others, s₂, later, ended⟩ := Action.bindDone ended
    cases ended
    simp only [List.map_cons, specializeElementName own, ih later]

theorem specializeNames {origin : String} {args : ScopeId} {circuit : Circuit}
    (ended : specialize budget library t origin args state = .done circuit after) :
    circuit.elements.map (·.typeName) = t.circuit.elements.map (·.typeName) := by
  unfold specialize at ended
  obtain ⟨specials, s₁, all, ended⟩ := Action.bindDone ended
  cases ended
  show specials.map (·.typeName) = _
  rw [specializeAllNames all]
  simp [Circuit.unresolved, Function.comp_def]

end Build

end CircuitScript
