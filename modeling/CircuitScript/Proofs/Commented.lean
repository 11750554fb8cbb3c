import CircuitScript.Proofs.Comments
import CircuitScript.Proofs.Reserved

/-! Circuits in which comments stand for blank scripts, and two builds of them side by side. What the one
build has at some place the other may have at another one, and scopes that it has made ahead of time wait
there for the other to make them. -/
namespace CircuitScript

def Element.withScript (element : Element) (text : String) : Element :=
  { element with attributes := element.attributes.insert Attributes.scriptKey (.str text) }

/-- The same element, or a custom one whose blank script has been replaced by comments. -/
inductive Element.Commented (library : Library) (element : Element) : Element → Prop where
  | same : Commented library element element
  | comments {inner : Template} {text : String}
      (custom : library.get? element.typeName = some (.custom inner)) (blank : element.script? = none)
      (only : OnlyComments text.toList) : Commented library element (element.withScript text)

structure Template.Commented (library : Library) (t t' : Template) : Prop where
  file : t'.file = t.file
  attributes : t'.circuit.attributes = t.circuit.attributes
  elements : List.Forall₂ (Element.Commented library) t.circuit.elements t'.circuit.elements

inductive ElementType.Commented (library : Library) : ElementType → ElementType → Prop where
  | primitive (defaults : Attributes) : Commented library (.primitive defaults) (.primitive defaults)
  | custom {t t' : Template} (template : t.Commented library t') :
      Commented library (.custom t) (.custom t')

def Library.Commented (library library' : Library) : Prop :=
  ∀ name, Option.Rel (ElementType.Commented library) (library.get? name) (library'.get? name)

theorem Template.commentedSame (library : Library) (t : Template) : t.Commented library t :=
  ⟨rfl, rfl, List.forall₂_same.mpr fun _ _ => .same⟩

theorem Library.commentedSame (library : Library) : Library.Commented library library := by
  intro name
  cases library.get? name with
  | none => exact .none
  | some type =>
    cases type with
    | primitive defaults => exact .some (.primitive defaults)
    | custom t => exact .some (.custom (t.commentedSame library))

namespace Template.Commented

variable {library : Library} {t t' : Template} (template : t.Commented library t')
include template

theorem name : t'.name = t.name := by
  unfold Template.name
  rw [template.file]

theorem isGeneric : t'.isGeneric = t.isGeneric := by
  unfold Template.isGeneric Circuit.isGeneric
  rw [template.attributes]

theorem standing (parent : Option NetList) (name : String) :
    Build.standing parent name t' = Build.standing parent name t := by
  unfold Build.standing
  rw [template.file]

end Template.Commented

namespace Element

variable {element : Element} {text : String}

theorem withScriptLabel (element : Element) (text : String) :
    (element.withScript text).label = element.label := by
  have other : Attributes.scriptKey ≠ Attributes.labelKey := by decide
  unfold label Attributes.str? withScript
  rw [Table.getInsert, if_neg other]

theorem instanceNameSame {other : Element} (typeName : other.typeName = element.typeName)
    (label : other.label = element.label) (position : Nat) :
    other.instanceName position = element.instanceName position := by
  unfold instanceName
  rw [typeName, label]

theorem withScriptCode (element : Element) (only : OnlyComments text.toList) :
    (element.withScript text).script? = none ∨
      ∃ code, (element.withScript text).script? = some code ∧ OnlyComments code.toList := by
  have trimmed := only.trimmed
  unfold script? Attributes.str? withScript
  rw [Table.getInsert, if_pos rfl]
  dsimp only
  split
  · exact .inl rfl
  · exact .inr ⟨_, rfl, by simpa using trimmed⟩

theorem blankParsed (blank : element.script? = none) :
    parseCode (element.script?.getD "") = .ok (.block []) := by
  have only : OnlyComments "".toList := String.toList_empty ▸ .empty
  rw [blank]
  exact only.parsed

theorem withScriptParsed (element : Element) (only : OnlyComments text.toList) :
    parseCode ((element.withScript text).script?.getD "") = .ok (.block []) := by
  rcases element.withScriptCode only with none | ⟨code, script, only⟩
  · exact blankParsed none
  · rw [script]
    exact only.parsed

end Element

def Template.Grounded (base : Nat) (t : Template) : Prop :=
  ∀ element ∈ t.circuit.elements, ∀ scope ∈ element.args, scope.index < base

def Library.Grounded (base : Nat) (library : Library) : Prop :=
  ∀ (name : String) (t : Template), library.get? name = some (.custom t) → t.Grounded base

namespace Build

variable {ε : Type} {state : BuildState}

/-- What a new scope for a script holds. -/
def argumentsOf (args : ScopeId) : Scope where
  names := ((Builtin.standard.map fun b => (b.name, Value.func (.builtin b))).foldl
    (fun names entry => names.insert entry.1 entry.2) Store.coreNames).insert argsName (.scope args)
  parent := none
  output := .own ""

theorem argumentsMoved (places : Places) (args : ScopeId) :
    (argumentsOf args).moved places = argumentsOf (places.scope args) := by
  have standard := Table.insertAllMap (Value.moved places) Store.coreNames
    (Builtin.standard.map fun b => (b.name, Value.func (.builtin b)))
  rw [builtinsMoved, coreNamesMoved] at standard
  unfold Scope.moved argumentsOf
  dsimp only
  rw [← Table.insertMap, ← standard]
  rfl

theorem argumentsUnlinked (args link : ScopeId) : ¬(argumentsOf args).LinksTo link := by
  rintro (parent | output)
  · cases parent
  · cases output

theorem argumentsThere {store : Store} {args : ScopeId} (there : args.index < store.scopes.size) :
    (argumentsOf args).names.All (Value.There store) := by
  refine Table.All.insert (Table.allFoldInsert (fun entry member => ?_) ?_) argsName there
  · obtain ⟨b, _, rfl⟩ := List.mem_map.mp member
    exact builtinThere store b
  · exact coreNamesAll (builtinThere store)

theorem argumentScopeMakes (args : ScopeId) (state : BuildState) :
    (argumentScope (some args) : Action BuildState ε ScopeId) state =
      .done ⟨state.store.scopes.size⟩ ⟨state.store.pushed (argumentsOf args), state.parsed⟩ := by
  obtain ⟨store, parsed⟩ := state
  have made : store.newRoot.2.installStandard store.newRoot.1 = store.pushed _ :=
    store.bindAllPushed ⟨Store.coreNames, none, .own ""⟩ _
  have bound := store.bindPushed
    ⟨(Builtin.standard.map fun b => (b.name, Value.func (.builtin b))).foldl
      (fun names entry => names.insert entry.1 entry.2) Store.coreNames, none, .own ""⟩
    argsName (.scope args)
  rw [← made] at bound
  show Outcome.done _ (BuildState.mk ((store.newRoot.2.installStandard store.newRoot.1).bind
    store.newRoot.1 argsName (.scope args)) parsed) = _
  exact congrArg (fun store => Outcome.done _ (BuildState.mk store parsed)) bound

theorem runScriptEmpty {budget : Nat} (runs : 2 ≤ budget) (scope : ScopeId) (state : BuildState) :
    runScript budget scope (.block []) state = .done () state := by
  obtain ⟨n, rfl⟩ := Nat.exists_eq_add_of_le' runs
  rfl

theorem statementParsed (faithful : state.Faithful) (template : String) {code : String} {tree : Stmt}
    (parsed : parseCode code = .ok tree) :
    ∃ next, statement template code state = .done tree next ∧ next.store = state.store ∧
      next.Faithful := by
  rcases statementGives faithful template code with
    ⟨found, next, same, gives, store, later⟩ | ⟨e, failed, _⟩
  · cases parsed.symm.trans same
    exact ⟨next, gives, store, later⟩
  · rw [parsed] at failed
    cases failed

end Build

/-- Both builds fail with the same error, or both give a result in worlds that keep what was there. -/
inductive EndsAlike (world : World) (start : Store) {ε α β : Type}
    (result : World → Store → α → β → Prop) :
    Outcome BuildState ε α → Outcome BuildState ε β → Prop where
  | done {later : World} {state state' : BuildState} {a : α} {b : β}
      (grown : start.Grown state.store) (keeps : world.Keeps later start)
      (mirrors : Mirrors later.builds state state') (found : result later state.store a b) :
      EndsAlike world start result (.done a state) (.done b state')
  | failed {state state' : BuildState} (e : ε) :
      EndsAlike world start result (.failed e state) (.failed e state')
  | spent : EndsAlike world start result .spent .spent

section EndsAlike

variable {world : World} {start : Store} {ε δ α β γ ζ : Type}
variable {result : World → Store → α → β → Prop}

theorem World.Keeps.refl (world : World) (store : Store) : world.Keeps world store := fun _ _ => rfl

theorem World.Keeps.trans {middle last : World} {store later : Store} (first : world.Keeps middle store)
    (second : middle.Keeps last later) (grown : store.Grown later) : world.Keeps last store :=
  fun i inside => (second i (Nat.lt_of_lt_of_le inside grown.scopes)).trans (first i inside)

theorem Matches.alike {state : BuildState} {held : α → List Value} {move : α → β}
    {x : Outcome BuildState ε α} {x' : Outcome BuildState ε β}
    (ends : Matches world.builds state held move x x')
    (found : ∀ a store, (∀ v ∈ held a, v.There store) → result world store a (move a)) :
    EndsAlike world state.store result x x' := by
  cases ends with
  | done a grown mirrors ok => exact .done grown (.refl world _) mirrors (found a _ ok)
  | failed e grown mirrors => exact .failed e
  | spent => exact .spent

theorem EndsAlike.bind {result' : World → Store → γ → ζ → Prop} {x : Action BuildState ε α}
    {x' : Action BuildState ε β} {f : α → Action BuildState ε γ} {f' : β → Action BuildState ε ζ}
    {state state' : BuildState} (first : EndsAlike world start result (x state) (x' state'))
    (second : ∀ (later : World) (a : α) (b : β) (next next' : BuildState),
      start.Grown next.store → world.Keeps later start → Mirrors later.builds next next' →
      result later next.store a b → EndsAlike later next.store result' (f a next) (f' b next')) :
    EndsAlike world start result' ((x >>= f) state) ((x' >>= f') state') := by
  rw [Action.bindApply, Action.bindApply]
  generalize x state = outcome at first ⊢
  generalize x' state' = outcome' at first ⊢
  cases first with
  | done grown keeps mirrors found =>
    have ended := second _ _ _ _ _ grown keeps mirrors found
    dsimp only
    generalize f _ _ = outcome at ended ⊢
    generalize f' _ _ = outcome' at ended ⊢
    cases ended with
    | done more later mirrors found =>
      exact .done (grown.trans more) (keeps.trans later grown) mirrors found
    | failed e => exact .failed e
    | spent => exact .spent
  | failed e => exact .failed e
  | spent => exact .spent

theorem EndsAlike.mapError (f : ε → δ) {x : Action BuildState ε α} {x' : Action BuildState ε β}
    {state state' : BuildState} (ends : EndsAlike world start result (x state) (x' state')) :
    EndsAlike world start result (Action.mapError f x state) (Action.mapError f x' state') := by
  unfold Action.mapError
  generalize x state = outcome at ends ⊢
  generalize x' state' = outcome' at ends ⊢
  cases ends with
  | done grown keeps mirrors found => exact .done grown keeps mirrors found
  | failed e => exact .failed (f e)
  | spent => exact .spent

theorem EndsAlike.undropped {reserved : List (ScopeId × Scope)} {fewer : reserved.Sublist world.reserved}
    {x : Outcome BuildState ε α} {x' : Outcome BuildState ε β}
    (ends : EndsAlike (world.dropped fewer) start result x x') : EndsAlike world start result x x' := by
  cases ends with
  | done grown keeps mirrors found => exact .done grown keeps mirrors found
  | failed e => exact .failed e
  | spent => exact .spent

end EndsAlike

/-- The second element stands for the first one inside an instance with the given arguments. Where its own
arguments have been resolved ahead of time, they wait in the scope that is listed. -/
inductive Stands (library : Library) (world : World) (store : Store) (enclosing : Option ScopeId)
    (element : Element) : Element → List (ScopeId × Scope) → Prop where
  | same (there : ∀ scope ∈ element.args, scope.index < store.scopes.size) :
      Stands library world store enclosing element (element.moved world.places) []
  | idle {other : Element} {inner : Template}
      (custom : library.get? element.typeName = some (.custom inner))
      (typeName : other.typeName = element.typeName) (label : other.label = element.label)
      (there : ∀ scope ∈ element.args, scope.index < store.scopes.size)
      (args : other.args = element.args.map world.places.scope)
      (parsed : parseCode (element.script?.getD "") = .ok (.block []))
      (parsed' : parseCode (other.script?.getD "") = .ok (.block [])) :
      Stands library world store enclosing element other []
  | ahead {other : Element} {inner : Template} {args place : ScopeId}
      (custom : library.get? element.typeName = some (.custom inner))
      (typeName : other.typeName = element.typeName) (label : other.label = element.label)
      (unresolved : element.args = none) (blank : element.script? = none)
      (resolved : other.args = some place) (around : enclosing = some args)
      (there : args.index < store.scopes.size) :
      Stands library world store enclosing element other
        [(place, Build.argumentsOf (world.places.scope args))]

inductive AllStand (library : Library) (world : World) (store : Store) (enclosing : Option ScopeId) :
    List Element → List Element → List (ScopeId × Scope) → Prop where
  | nil : AllStand library world store enclosing [] [] []
  | cons {element other : Element} {rest others : List Element}
      {own waiting : List (ScopeId × Scope)}
      (first : Stands library world store enclosing element other own)
      (more : AllStand library world store enclosing rest others waiting) :
      AllStand library world store enclosing (element :: rest) (other :: others) (waiting ++ own)

section Stands

variable {library : Library} {world later : World} {store next : Store} {enclosing : Option ScopeId}
variable {element other : Element} {own : List (ScopeId × Scope)}

theorem World.Keeps.optional (keeps : world.Keeps later store) {id : Option ScopeId}
    (there : ∀ scope ∈ id, scope.index < store.scopes.size) :
    id.map later.places.scope = id.map world.places.scope := by
  cases id with
  | none => rfl
  | some scope => exact congrArg some (keeps.scope (there scope rfl))

theorem Stands.since (stands : Stands library world store enclosing element other own)
    (keeps : world.Keeps later store) (grown : store.Grown next) :
    Stands library later next enclosing element other own := by
  cases stands with
  | same there =>
    have moved : element.moved world.places = element.moved later.places := by
      unfold Element.moved
      rw [keeps.optional there]
    rw [moved]
    exact .same fun scope found => Nat.lt_of_lt_of_le (there scope found) grown.scopes
  | idle custom typeName label there args parsed parsed' =>
    rw [← keeps.optional there] at args
    exact .idle custom typeName label
      (fun scope found => Nat.lt_of_lt_of_le (there scope found) grown.scopes) args parsed parsed'
  | ahead custom typeName label unresolved blank resolved around there =>
    rw [← keeps.scope there]
    exact .ahead custom typeName label unresolved blank resolved around
      (Nat.lt_of_lt_of_le there grown.scopes)

theorem AllStand.since {rest others : List Element} {waiting : List (ScopeId × Scope)}
    (stand : AllStand library world store enclosing rest others waiting)
    (keeps : world.Keeps later store) (grown : store.Grown next) :
    AllStand library later next enclosing rest others waiting := by
  induction stand with
  | nil => exact .nil
  | cons first more ih => exact .cons (first.since keeps grown) ih

theorem Stands.typeName (stands : Stands library world store enclosing element other own) :
    other.typeName = element.typeName := by
  cases stands with
  | same there => rfl
  | idle custom typeName => exact typeName
  | ahead custom typeName => exact typeName

theorem Stands.instanceName (stands : Stands library world store enclosing element other own)
    (position : Nat) : other.instanceName position = element.instanceName position := by
  cases stands with
  | same there => rfl
  | idle custom typeName label => exact Element.instanceNameSame typeName label position
  | ahead custom typeName label => exact Element.instanceNameSame typeName label position

end Stands

end CircuitScript
