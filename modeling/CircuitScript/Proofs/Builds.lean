import CircuitScript.Proofs.Closed
import CircuitScript.Proofs.Instance

/-! Two builds side by side, whose stores stand for each other. Kept trees are what parsing would give, so
it makes no difference which of them the one or the other build has kept, and both run the same
scripts. -/
namespace CircuitScript

def BuildState.Faithful (state : BuildState) : Prop :=
  ∀ template code tree, (state.treesOf template).get? code = some tree → parseCode code = .ok tree

namespace BuildState

theorem emptyFaithful : empty.Faithful := by
  intro template code tree kept
  cases kept

theorem treesKept (state : BuildState) (template code other : String) (tree : Stmt) :
    (state.keep template code tree).treesOf other =
      if template = other then (state.treesOf template).insert code tree
      else state.treesOf other := by
  unfold treesOf keep
  rw [Table.getInsert]
  split <;> rfl

theorem Faithful.keep {state : BuildState} (faithful : state.Faithful) (template : String)
    {code : String} {tree : Stmt} (parsed : parseCode code = .ok tree) :
    (state.keep template code tree).Faithful := by
  intro other text found kept
  rw [treesKept] at kept
  split at kept
  · rw [Table.getInsert] at kept
    split at kept
    · rename_i same
      cases kept
      exact same ▸ parsed
    · exact faithful template text found kept
  · exact faithful other text found kept

theorem Faithful.unparsed {state : BuildState} (faithful : state.Faithful) (template : String)
    {code : String} {e : ParseError} (failed : parseCode code = .error e) :
    (state.treesOf template).get? code = none := by
  cases kept : (state.treesOf template).get? code with
  | none => rfl
  | some tree =>
    have parsed := faithful template code tree kept
    rw [failed] at parsed
    cases parsed

end BuildState

-- Beside running scripts, a build makes outermost scopes and attributes that a script can change.
structure BuildSimulation extends Simulation where
  root : ∀ {s s'}, Rel s s' → s'.newRoot.1 = places.scope s.newRoot.1 ∧ Rel s.newRoot.2 s'.newRoot.2 ∧
    Ok s.newRoot.2 (.scope s.newRoot.1)
  handle : ∀ {s s'} attributes, Rel s s' →
    (s'.newHandle attributes).1 = places.handle (s.newHandle attributes).1 ∧
      Rel (s.newHandle attributes).2 (s'.newHandle attributes).2 ∧
      Ok (s.newHandle attributes).2 (.attributes (s.newHandle attributes).1)

structure Mirrors (S : BuildSimulation) (alone later : BuildState) : Prop where
  store : S.Rel alone.store later.store
  alone : alone.Faithful
  later : later.Faithful

inductive Matches (S : BuildSimulation) {ε α β : Type} (start : BuildState) (held : α → List Value)
    (move : α → β) : Outcome BuildState ε α → Outcome BuildState ε β → Prop where
  | done {state state' : BuildState} (a : α) (grown : start.store.Grown state.store)
      (mirrors : Mirrors S state state') (ok : ∀ v ∈ held a, S.Ok state.store v) :
      Matches S start held move (.done a state) (.done (move a) state')
  | failed {state state' : BuildState} (e : ε) (grown : start.store.Grown state.store)
      (mirrors : Mirrors S state state') :
      Matches S start held move (.failed e state) (.failed e state')
  | spent : Matches S start held move .spent .spent

/-- Builds go together as scripts do, whichever trees have been kept for them. -/
def Agree (S : BuildSimulation) {ε α β : Type} (known : List Value) (held : α → List Value)
    (move : α → β) (x : Action BuildState ε α) (x' : Action BuildState ε β) : Prop :=
  ∀ state state', Mirrors S state state' → (∀ v ∈ known, S.Ok state.store v) →
    Matches S state held move (x state) (x' state')

variable {S : BuildSimulation} {ε δ α β γ : Type} {known : List Value} {held : α → List Value}
variable {move : α → β}

theorem Matches.since {start middle : BuildState} {x : Outcome BuildState ε α}
    {x' : Outcome BuildState ε β} (ends : Matches S middle held move x x')
    (grown : start.store.Grown middle.store) : Matches S start held move x x' := by
  cases ends with
  | done a more mirrors ok => exact .done a (grown.trans more) mirrors ok
  | failed e more mirrors => exact .failed e (grown.trans more) mirrors
  | spent => exact .spent

namespace Agree

theorem pure (a : α) (inside : held a ⊆ known) :
    Agree S known held move (Pure.pure a : Action BuildState ε α) (Pure.pure (move a)) :=
  fun state _ mirrors ok => .done a (.refl state.store) mirrors fun v member => ok v (inside member)

theorem fail (e : ε) : Agree S known held move (Action.fail e) (Action.fail e) :=
  fun state _ mirrors _ => .failed e (.refl state.store) mirrors

theorem bind {δ : Type} {held' : γ → List Value} {move' : γ → δ} {x : Action BuildState ε α}
    {x' : Action BuildState ε β} {f : α → Action BuildState ε γ} {f' : β → Action BuildState ε δ}
    (first : Agree S known held move x x')
    (second : ∀ a, Agree S (held a ++ known) held' move' (f a) (f' (move a))) :
    Agree S known held' move' (x >>= f) (x' >>= f') := by
  intro state state' mirrors ok
  have ended := first state state' mirrors ok
  rw [Action.bindApply, Action.bindApply]
  generalize x state = outcome at ended ⊢
  generalize x' state' = outcome' at ended ⊢
  cases ended with
  | done a grown mirrors now =>
    refine (second a _ _ mirrors fun v member => ?_).since grown
    rcases List.mem_append.mp member with new | old
    · exact now v new
    · exact S.grown grown (ok v old)
  | failed e grown mirrors => exact .failed e grown mirrors
  | spent => exact .spent

theorem mapError (f : ε → δ) {x : Action BuildState ε α} {x' : Action BuildState ε β}
    (same : Agree S known held move x x') :
    Agree S known held move (Action.mapError f x) (Action.mapError f x') := by
  intro state state' mirrors ok
  have ended := same state state' mirrors ok
  unfold Action.mapError
  generalize x state = outcome at ended ⊢
  generalize x' state' = outcome' at ended ⊢
  cases ended with
  | done a grown mirrors ok => exact .done a grown mirrors ok
  | failed e grown mirrors => exact .failed (f e) grown mirrors
  | spent => exact .spent

theorem onStore {x : Action Store ε α} {x' : Action Store ε β}
    (same : Together S.toSimulation known held move x x') :
    Agree S known held move (Build.onStore x) (Build.onStore x') := by
  rintro ⟨store, parsed⟩ ⟨store', parsed'⟩ ⟨rel, faithful, faithful'⟩ ok
  have ended := same store store' rel ok
  unfold Build.onStore
  dsimp only
  generalize x store = outcome at ended ⊢
  generalize x' store' = outcome' at ended ⊢
  cases ended with
  | done grown rel same =>
    obtain ⟨rfl, ok⟩ := same
    exact .done _ grown ⟨rel, faithful, faithful'⟩ ok
  | failed e grown rel => exact .failed e grown ⟨rel, faithful, faithful'⟩
  | spent => exact .spent

end Agree

theorem statementGives {state : BuildState} (faithful : state.Faithful) (template code : String) :
    (∃ tree next, parseCode code = .ok tree ∧ Build.statement template code state = .done tree next ∧
      next.store = state.store ∧ next.Faithful) ∨
    (∃ e, parseCode code = .error e ∧ Build.statement template code state = .failed e state) := by
  unfold Build.statement
  cases kept : (state.treesOf template).get? code with
  | some tree => exact .inl ⟨tree, state, faithful template code tree kept, rfl, rfl, faithful⟩
  | none =>
    cases parsed : parseCode code with
    | ok tree => exact .inl ⟨tree, _, rfl, rfl, rfl, faithful.keep template parsed⟩
    | error e => exact .inr ⟨e, rfl, rfl⟩

theorem agreeStatement (template code : String) :
    Agree S known (fun _ => []) id (Build.statement template code) (Build.statement template code) := by
  intro state state' mirrors _
  -- One build may find the tree kept where the other has to parse; both get what parsing gives.
  rcases statementGives mirrors.alone template code with
    ⟨tree, next, parsed, gives, store, faithful⟩ | ⟨e, failed, gives⟩
  · rcases statementGives mirrors.later template code with
      ⟨tree', next', parsed', gives', store', faithful'⟩ | ⟨e, failed, _⟩
    · cases parsed.symm.trans parsed'
      rw [gives, gives']
      refine .done tree (store ▸ .refl state.store) ⟨?_, faithful, faithful'⟩ (by simp)
      rw [store, store']
      exact mirrors.store
    · rw [parsed] at failed
      cases failed
  · rcases statementGives mirrors.later template code with ⟨tree, _, parsed, _⟩ | ⟨e', failed', gives'⟩
    · rw [parsed] at failed
      cases failed
    · cases failed.symm.trans failed'
      rw [gives, gives']
      exact .failed e (.refl state.store) mirrors

theorem Simulation.installStandard {S : Simulation} {s s' : Store} (rel : S.Rel s s') (id : ScopeId) :
    S.Rel (s.installStandard id) (s'.installStandard (S.places.scope id)) := by
  have ok : ∀ binding ∈ Builtin.standard.map fun b => (b.name, Value.func (.builtin b)),
      S.Ok s binding.2 := by
    intro binding member
    obtain ⟨b, _, rfl⟩ := List.mem_map.mp member
    exact S.builtin s b
  have bound := S.bindAll rel id ok
  rw [builtinsMoved] at bound
  exact bound

theorem togetherFreshRoot :
    Together S.toSimulation known (fun id => [.scope id]) S.places.scope
      (Script.freshRoot : Action Store ε ScopeId) Script.freshRoot := by
  refine .modifyGet (fun s => (s.grownNewScope none (.own "")).trans (Store.grownBindAll _ _ _)) ?_
  intro s s' rel _
  obtain ⟨id, made, ok⟩ := S.root rel
  have installed := S.installStandard made s.newRoot.1
  rw [← id] at installed
  refine ⟨id, installed, fun v member => ?_⟩
  cases List.mem_singleton.mp member
  exact S.grown (Store.grownBindAll _ _ _) ok

-- What a place that may be absent holds.
def scopeHeld (scope : Option ScopeId) : List Value := (scope.map Value.scope).toList

theorem agreeArgumentScope {enclosing : Option ScopeId} (around : scopeHeld enclosing ⊆ known) :
    Agree S known (fun id => [.scope id]) S.places.scope
      (Build.argumentScope enclosing : Action BuildState ε ScopeId)
      (Build.argumentScope (enclosing.map S.places.scope)) := by
  unfold Build.argumentScope
  refine .onStore (togetherFreshRoot.bind fun scope => ?_)
  cases enclosing with
  | none => exact .pure scope (by simp)
  | some args =>
    have there : Value.scope args ∈ known := around List.mem_cons_self
    exact (Together.binding scope Build.argsName (List.mem_cons_of_mem _ there)).bind
      fun _ => .pure scope (by simp)

theorem agreeRunScript (budget : Nat) {scope : ScopeId} (here : .scope scope ∈ known) (tree : Stmt) :
    Agree S known (fun _ => []) id (Build.runScript budget scope tree)
      (Build.runScript budget (S.places.scope scope) tree) := by
  have run : S.Plain known (Script.run budget scope tree) (Script.run budget (S.places.scope scope) tree) :=
    .ofMeets (fun t ok => (simulatedExec budget (ok _ here) tree).bind fun _ _ => .pure (rfl : () = ()))
      fun same => ⟨same.symm, by simp⟩
  exact .onStore (Together.mapError run)

def Element.moved (places : Places) (element : Element) : Element :=
  { element with args := element.args.map places.scope }

def Element.argsHeld (element : Element) : List Value := scopeHeld element.args

theorem agreeResolveArgs (budget : Nat) (template : Template) {placing : Option Element}
    {enclosing : Option ScopeId} (placed : scopeHeld (placing.bind Element.args) ⊆ known)
    (around : scopeHeld enclosing ⊆ known) :
    Agree S known (fun id => [.scope id]) S.places.scope
      (Build.resolveArgs budget template placing enclosing)
      (Build.resolveArgs budget template (placing.map (Element.moved S.places))
        (enclosing.map S.places.scope)) := by
  cases placing with
  | none => exact @agreeArgumentScope S _ known none (List.nil_subset known)
  | some element =>
    obtain ⟨typeName, attributes, args⟩ := element
    cases args with
    | some args => exact .pure args placed
    | none =>
      refine ((agreeStatement template.name _).mapError _).bind fun tree => ?_
      refine (agreeArgumentScope around).bind fun scope => ?_
      exact (agreeRunScript budget List.mem_cons_self tree).bind fun _ => .pure scope (by simp)

variable {budget : Nat} {library : Library}

theorem agreeFind (name : String) :
    Agree S known (fun _ => []) id (Build.find library name) (Build.find library name) := by
  unfold Build.find
  cases library.get? name with
  | some found => exact .pure found (by simp)
  | none => exact .fail _

theorem agreeSpecializeElement (template : Template) (origin : String) {args : ScopeId}
    (there : .scope args ∈ known) {element : Element} (own : element.argsHeld ⊆ known) :
    Agree S known Element.argsHeld (Element.moved S.places)
      (Build.specializeElement budget library template origin args element)
      (Build.specializeElement budget library template origin (S.places.scope args)
        (element.moved S.places)) := by
  have script : (element.moved S.places).script? = element.script? := rfl
  unfold Build.specializeElement
  rw [script]
  cases element.script? with
  | none => exact .pure element own
  | some code =>
    refine (agreeFind element.typeName).bind fun found => ?_
    refine ((agreeStatement template.name code).mapError _).bind fun tree => ?_
    refine (agreeArgumentScope (fun v member => List.mem_singleton.mp member ▸ there)).bind
      fun scope => ?_
    have run (more : List Value) : Agree S (more ++ .scope scope :: known) (fun _ => []) id
        (Action.mapError (NodeError.generics origin) (Build.runScript budget scope tree))
        (Action.mapError (.generics origin) (Build.runScript budget (S.places.scope scope) tree)) :=
      (agreeRunScript budget (by simp) tree).mapError _
    cases found with
    | custom inner =>
      exact (run []).bind fun _ =>
        .pure { element with args := some scope } (by simp [Element.argsHeld, scopeHeld])
    | primitive defaults =>
      have made : Together S.toSimulation (.scope scope :: known) (fun id => [.attributes id])
          S.places.handle
          (Action.modifyGet (·.newHandle element.attributes) : Action Store NodeError HandleId)
          (Action.modifyGet (·.newHandle element.attributes)) := by
        refine .modifyGet (fun s => s.grownNewHandle _) fun s s' rel _ => ?_
        have law := S.handle element.attributes rel
        exact ⟨law.1, law.2.1, fun v member => List.mem_singleton.mp member ▸ law.2.2⟩
      refine (Agree.onStore made).bind fun handle => ?_
      have bound : S.Plain (.attributes handle :: .scope scope :: known)
          (Action.modify (·.bind scope Build.thisName (.attributes handle)) :
            Action Store NodeError Unit) _ :=
        .binding scope Build.thisName List.mem_cons_self
      refine (Agree.onStore bound).bind fun _ => ?_
      refine (run [.attributes handle]).bind fun _ => ?_
      have left : S.Plain (.attributes handle :: .scope scope :: known)
          (fun s => .done (s.attributesOf handle) s : Action Store NodeError Attributes)
          (fun s => .done (s.attributesOf (S.places.handle handle)) s) := by
        intro s s' rel _
        dsimp only
        rw [(S.shown rel).attributes]
        exact .done (.refl s) rel ⟨rfl, by simp⟩
      refine (Agree.onStore left).bind fun attributes => ?_
      refine .pure { element with attributes := attributes } fun v member => ?_
      have old : v ∈ known := own member
      simp [old]

theorem agreeSpecializeAll (template : Template) (origin : String) {args : ScopeId}
    (there : .scope args ∈ known) {elements : List Element}
    (own : elements.flatMap Element.argsHeld ⊆ known) :
    Agree S known (List.flatMap Element.argsHeld) (List.map (Element.moved S.places))
      (Build.specializeAll budget library template origin args elements)
      (Build.specializeAll budget library template origin (S.places.scope args)
        (elements.map (Element.moved S.places))) := by
  induction elements generalizing known with
  | nil => exact .pure [] (by simp)
  | cons element rest ih =>
    rw [List.flatMap_cons, List.append_subset] at own
    refine (agreeSpecializeElement template origin there own.1).bind fun first => ?_
    have later : rest.flatMap Element.argsHeld ⊆ first.argsHeld ++ known :=
      List.Subset.trans own.2 (List.subset_append_right _ _)
    refine (ih (List.mem_append_right _ there) later).bind fun others => ?_
    exact .pure (first :: others) (by simp)

def Circuit.Unresolved (circuit : Circuit) : Prop :=
  ∀ element ∈ circuit.elements, element.args = none

/-- A generic circuit is copied without its resolved arguments, so only a plain one can carry any into a
build. -/
def Template.Unresolved (t : Template) : Prop :=
  t.isGeneric = false → t.circuit.Unresolved

def Library.Unresolved (library : Library) : Prop :=
  ∀ (name : String) (t : Template), library.get? name = some (.custom t) → t.Unresolved

theorem copyUnresolved (circuit : Circuit) : circuit.unresolved.Unresolved := by
  intro element member
  obtain ⟨original, _, rfl⟩ := List.mem_map.mp member
  rfl

theorem Element.movedUnresolved {element : Element} (unresolved : element.args = none)
    (places : Places) : element.moved places = element := by
  obtain ⟨typeName, attributes, args⟩ := element
  cases unresolved
  rfl

theorem Circuit.Unresolved.moved {circuit : Circuit} (unresolved : circuit.Unresolved)
    (places : Places) : circuit.elements.map (Element.moved places) = circuit.elements := by
  have same : ∀ element ∈ circuit.elements, element.moved places = element :=
    fun element member => element.movedUnresolved (unresolved element member) places
  rw [List.map_congr_left same, List.map_id']

theorem Circuit.Unresolved.argsHeld {circuit : Circuit} (unresolved : circuit.Unresolved) :
    circuit.elements.flatMap Element.argsHeld = [] := by
  refine List.flatMap_eq_nil_iff.mpr fun element member => ?_
  unfold Element.argsHeld
  rw [unresolved element member]
  rfl

def Circuit.moved (places : Places) (circuit : Circuit) : Circuit :=
  { circuit with elements := circuit.elements.map (Element.moved places) }

theorem agreeSpecialize (template : Template) (origin : String) {args : ScopeId}
    (there : .scope args ∈ known) :
    Agree S known (fun circuit => circuit.elements.flatMap Element.argsHeld) (Circuit.moved S.places)
      (Build.specialize budget library template origin args)
      (Build.specialize budget library template origin (S.places.scope args)) := by
  have copy := copyUnresolved template.circuit
  have all : Agree S known (List.flatMap Element.argsHeld) (List.map (Element.moved S.places))
      (Build.specializeAll budget library template origin args template.circuit.unresolved.elements)
      (Build.specializeAll budget library template origin (S.places.scope args)
        (template.circuit.unresolved.elements.map (Element.moved S.places))) :=
    agreeSpecializeAll template origin there (copy.argsHeld ▸ List.nil_subset known)
  rw [copy.moved] at all
  refine all.bind fun elements => ?_
  exact .pure (Circuit.mk _ _ elements)
    (List.subset_append_left (elements.flatMap Element.argsHeld) known)

def ExpandsAlike (S : BuildSimulation) (expand : Build.Expand) : Prop :=
  ∀ (known : List Value) netList name t element args, t.Unresolved → element.argsHeld ⊆ known →
    scopeHeld args ⊆ known →
    Agree S known (fun _ => []) id (expand netList name t element args)
      (expand netList name t (element.moved S.places) (args.map S.places.scope))

theorem agreeElement {expand : Build.Expand} (types : library.Unresolved)
    (alike : ExpandsAlike S expand) (netList : NetList) (args : Option ScopeId) (position : Nat)
    {element : Element} (own : element.argsHeld ⊆ known) (around : scopeHeld args ⊆ known) :
    Agree S known (fun _ => []) id (Build.elementNodes library expand netList args position element)
      (Build.elementNodes library expand netList (args.map S.places.scope) position
        (element.moved S.places)) := by
  have name : (element.moved S.places).typeName = element.typeName := rfl
  unfold Build.elementNodes
  rw [name]
  cases found : library.get? element.typeName with
  | none => exact .fail _
  | some type =>
    cases type with
    | primitive defaults => exact .pure _ (List.nil_subset known)
    | custom t => exact alike known netList _ t element args (types _ t found) own around

theorem agreeRealize {expand : Build.Expand} (types : library.Unresolved)
    (alike : ExpandsAlike S expand) (netList : NetList) (args : Option ScopeId) (position : Nat)
    {elements : List Element} (own : elements.flatMap Element.argsHeld ⊆ known)
    (around : scopeHeld args ⊆ known) :
    Agree S known (fun _ => []) id (Build.realize library expand netList args position elements)
      (Build.realize library expand netList (args.map S.places.scope) position
        (elements.map (Element.moved S.places))) := by
  induction elements generalizing position with
  | nil => exact .pure [] (List.nil_subset known)
  | cons element rest ih =>
    rw [List.flatMap_cons, List.append_subset] at own
    rw [List.map_cons, Build.realizeCons, Build.realizeCons]
    refine (agreeElement types alike netList args position own.1 around).bind fun nodes => ?_
    exact (ih (position + 1) own.2).bind fun others => .pure (nodes ++ others) (List.nil_subset known)

def Model.moved (places : Places) (model : Model) : Model :=
  { model with args := model.args.map places.scope }

def Model.argsHeld (model : Model) : List Value := scopeHeld model.args

theorem agreeInstantiate (types : library.Unresolved) (levels : Nat) (parent : Option NetList)
    (name : String) {t : Template} {placing : Option Element} {enclosing : Option ScopeId}
    (unresolved : t.Unresolved) (placed : scopeHeld (placing.bind Element.args) ⊆ known)
    (around : scopeHeld enclosing ⊆ known) :
    Agree S known Model.argsHeld (Model.moved S.places)
      (Build.instantiate budget library levels parent name t placing enclosing)
      (Build.instantiate budget library levels parent name t (placing.map (Element.moved S.places))
        (enclosing.map S.places.scope)) := by
  induction levels generalizing known parent name t placing enclosing with
  | zero => exact .fail _
  | succ levels ih =>
    have inside : ExpandsAlike S (Build.expandInside budget library levels) :=
      fun known outer name t element args unresolved own around =>
        (ih (some outer) name unresolved own around).bind
          fun model => .pure model.nodes (List.nil_subset _)
    cases kind : t.isGeneric with
    | false =>
      have own : t.circuit.elements.flatMap Element.argsHeld ⊆ known :=
        (unresolved kind).argsHeld ▸ List.nil_subset known
      have nodes := agreeRealize types inside (Build.standing parent name t) none 0 own
        (List.nil_subset known)
      rw [(unresolved kind).moved] at nodes
      rw [Build.instantiatePlain kind, Build.instantiatePlain kind]
      exact nodes.bind fun found => .pure (Model.mk _ _ none found) (List.nil_subset _)
    | true =>
      rw [Build.instantiateGeneric kind, Build.instantiateGeneric kind]
      refine ((agreeResolveArgs budget t placed around).mapError _).bind fun args => ?_
      refine (agreeSpecialize t _ List.mem_cons_self).bind fun circuit => ?_
      have here : Value.scope args ∈ circuit.elements.flatMap Element.argsHeld ++ .scope args :: known :=
        List.mem_append_right _ List.mem_cons_self
      have nodes := agreeRealize types inside (Build.standing parent name t) (some args) 0
        (List.subset_append_left _ _) (List.cons_subset.mpr ⟨here, List.nil_subset _⟩)
      exact nodes.bind fun found =>
        .pure (Model.mk _ _ (some args) found) (List.cons_subset.mpr ⟨here, List.nil_subset _⟩)

def Shift.builds (shift : Shift) : BuildSimulation where
  toSimulation := shift.simulation
  root rel := by
    obtain ⟨id, made⟩ := Shift.Rel.newScope rel none (.own "")
    exact ⟨id, made, trivial⟩
  handle attributes rel := by
    obtain ⟨id, made⟩ := Shift.Rel.newHandle rel attributes
    exact ⟨id, made, trivial⟩

def closedBuilds : BuildSimulation where
  toSimulation := closedRuns
  root := by
    rintro s s' ⟨rfl, closed⟩
    have there : (Value.scope s'.newRoot.1).There s'.newRoot.2 := by
      simp [Value.There, Store.newRoot, Store.newScope]
    refine ⟨rfl, ⟨rfl, closed.newScope ⟨?_, ?_⟩⟩, there⟩
    · intro outer found
      cases found
    · intro next found
      cases found
  handle := by
    rintro s s' attributes ⟨rfl, closed⟩
    exact ⟨rfl, ⟨rfl, closed.newHandle attributes⟩, by simp [closedRuns, Value.There, Store.newHandle]⟩

-- What every build needs of the state it begins in, and leaves to the next one.
structure BuildState.Sound (state : BuildState) : Prop where
  closed : state.store.Closed
  faithful : state.Faithful

theorem emptySound : BuildState.empty.Sound := ⟨emptyClosed, BuildState.emptyFaithful⟩

/-- A build beside itself, over a closed store: it leaves a closed one. -/
theorem Agree.sound {x : Action BuildState ε α} {x' : Action BuildState ε β} {state after : BuildState}
    {a : α} (runs : Agree closedBuilds known held move x x') (sound : state.Sound)
    (there : ∀ v ∈ known, v.There state.store) (ended : x state = .done a after) :
    after.Sound ∧ state.store.Grown after.store ∧ ∀ v ∈ held a, v.There after.store := by
  have matched := runs state state ⟨⟨rfl, sound.closed⟩, sound.faithful, sound.faithful⟩ there
  rw [ended] at matched
  generalize x' state = other at matched
  cases matched with
  | done a grown mirrors ok => exact ⟨⟨mirrors.store.2, mirrors.alone⟩, grown, ok⟩

end CircuitScript
