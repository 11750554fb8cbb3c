import CircuitScript.Proofs.Commented

/-! An element of a generic circuit gets its arguments ahead of time if it has a script, and on demand if it
has none. A script of comments makes the difference between the two ways and nothing else, so an instance
comes out the same with it and without it. -/
namespace CircuitScript

namespace Build

variable {budget : Nat} {library library' : Library} {world : World} {state state' : BuildState}
variable {enclosing : Option ScopeId}

-- Arguments that stand for each other, and what still waits when they are there.
def Resolved (waiting : List (ScopeId × Scope)) (later : World) (store : Store) (a b : ScopeId) : Prop :=
  b = later.places.scope a ∧ a.index < store.scopes.size ∧ later.reserved = waiting

theorem resolveNamed {t t' : Template} (named : t'.name = t.name) (placing : Option Element) :
    resolveArgs budget t' placing enclosing = resolveArgs budget t placing enclosing := by
  unfold resolveArgs
  rw [named]

theorem scopeHeldThere {scope : Option ScopeId} {store : Store}
    (there : ∀ id ∈ scope, id.index < store.scopes.size) : ∀ v ∈ scopeHeld scope, v.There store := by
  intro v member
  obtain ⟨id, found, rfl⟩ := Option.map_eq_some_iff.mp (Option.mem_toList.mp member)
  exact there id found

theorem resolveMoved (t : Template) {placing : Option Element}
    (mirrors : Mirrors world.builds state state')
    (placed : ∀ scope ∈ placing.bind Element.args, scope.index < state.store.scopes.size)
    (around : ∀ scope ∈ enclosing, scope.index < state.store.scopes.size) :
    EndsAlike world state.store (Resolved world.reserved)
      (resolveArgs budget t placing enclosing state)
      (resolveArgs budget t (placing.map (Element.moved world.places))
        (enclosing.map world.places.scope) state') := by
  have agreed : Matches world.builds state _ _ _ _ :=
    agreeResolveArgs budget t (List.subset_append_left _ _) (List.subset_append_right _ _) state state'
      mirrors fun v member => (List.mem_append.mp member).elim (scopeHeldThere placed v)
        (scopeHeldThere around v)
  exact agreed.alike fun a store held => ⟨rfl, held _ (List.mem_singleton_self _), rfl⟩

theorem resolvePicked (t : Template) {element : Element} {args : ScopeId}
    (resolved : element.args = some args) (state : BuildState) :
    resolveArgs budget t (some element) enclosing state = .done args state := by
  obtain ⟨typeName, attributes, found⟩ := element
  cases resolved
  rfl

-- What a script without statements makes of the arguments around it.
def withoutStatements (budget : Nat) (enclosing : Option ScopeId) :
    Action BuildState ScriptError ScopeId := do
  let scope ← argumentScope enclosing
  runScript budget scope (.block [])
  pure scope

theorem resolveOnDemand (budget : Nat) (enclosing : Option ScopeId) (t : Template)
    {element : Element} (unresolved : element.args = none)
    (parsed : parseCode (element.script?.getD "") = .ok (.block [])) (faithful : state.Faithful) :
    ∃ next, next.store = state.store ∧ next.Faithful ∧
      resolveArgs budget t (some element) enclosing state =
        withoutStatements budget enclosing next := by
  obtain ⟨next, gives, store, later⟩ := statementParsed faithful t.name parsed
  refine ⟨next, store, later, ?_⟩
  obtain ⟨typeName, attributes, found⟩ := element
  cases unresolved
  unfold resolveArgs
  dsimp only
  rw [Action.bindApply, Action.mapErrorDone.mpr gives]
  rfl

theorem agreeWithoutStatements (budget : Nat) (enclosing : Option ScopeId) :
    Agree world.builds (scopeHeld enclosing) (fun id => [.scope id]) world.places.scope
      (withoutStatements budget enclosing)
      (withoutStatements budget (enclosing.map world.places.scope)) :=
  (agreeArgumentScope (List.Subset.refl _)).bind fun scope =>
    (agreeRunScript budget List.mem_cons_self _).bind fun _ => .pure scope (by simp)

theorem resolveIdle (t : Template) {element other : Element}
    (mirrors : Mirrors world.builds state state')
    (there : ∀ scope ∈ element.args, scope.index < state.store.scopes.size)
    (around : ∀ scope ∈ enclosing, scope.index < state.store.scopes.size)
    (args : other.args = element.args.map world.places.scope)
    (parsed : parseCode (element.script?.getD "") = .ok (.block []))
    (parsed' : parseCode (other.script?.getD "") = .ok (.block [])) :
    EndsAlike world state.store (Resolved world.reserved)
      (resolveArgs budget t (some element) enclosing state)
      (resolveArgs budget t (some other) (enclosing.map world.places.scope) state') := by
  cases resolved : element.args with
  | some scope =>
    rw [resolved] at args
    rw [resolvePicked t resolved, resolvePicked t args]
    exact .done (.refl state.store) (.refl world state.store) mirrors ⟨rfl, there scope resolved, rfl⟩
  | none =>
    rw [resolved] at args
    obtain ⟨next, store, faithful, gives⟩ :=
      resolveOnDemand budget enclosing t resolved parsed mirrors.alone
    obtain ⟨next', store', faithful', gives'⟩ :=
      resolveOnDemand budget (enclosing.map world.places.scope) t args parsed' mirrors.later
    have begun : Mirrors world.builds next next' := by
      refine ⟨?_, faithful, faithful'⟩
      rw [store, store']
      exact mirrors.store
    have agreed := agreeWithoutStatements budget enclosing next next' begun
      (scopeHeldThere (store ▸ around))
    rw [gives, gives', ← store]
    exact agreed.alike fun a store held => ⟨rfl, held _ (List.mem_singleton_self _), rfl⟩

/-- On demand, the first build makes the scope that the second one has made ahead of time. -/
theorem resolveAhead (runs : 2 ≤ budget) (t : Template) {element other : Element} {args place : ScopeId}
    {before after : List (ScopeId × Scope)} (mirrors : Mirrors world.builds state state')
    (reserved : world.reserved =
      before ++ (place, argumentsOf (world.places.scope args)) :: after)
    (unresolved : element.args = none) (blank : element.script? = none)
    (resolved : other.args = some place) (there : args.index < state.store.scopes.size)
    (around : Option ScopeId) :
    EndsAlike world state.store (Resolved (before ++ after))
      (resolveArgs budget t (some element) (some args) state)
      (resolveArgs budget t (some other) around state') := by
  obtain ⟨next, store, faithful, gives⟩ :=
    resolveOnDemand budget (some args) t unresolved (Element.blankParsed blank) mirrors.alone
  have made : resolveArgs budget t (some element) (some args) state =
      .done ⟨state.store.scopes.size⟩ ⟨state.store.pushed (argumentsOf args), next.parsed⟩ := by
    rw [gives, ← store]
    exact Action.thenDone (argumentScopeMakes args next)
      (Action.thenDone (runScriptEmpty runs _ _) rfl)
  obtain ⟨keeps, rel⟩ := mirrors.store.claimed reserved (argumentsMoved world.places args)
    (argumentsUnlinked args) (argumentsThere there)
  rw [made, resolvePicked t resolved]
  refine .done (state.store.grownPushed _) keeps ⟨rel, faithful, mirrors.later⟩
    ⟨World.claimedAt _ reserved, ?_, rfl⟩
  simp [Store.pushed]

inductive Placed (library : Library) (world : World) (store : Store) (enclosing : Option ScopeId) :
    Option Element → Option Element → List (ScopeId × Scope) → Prop where
  | outermost : Placed library world store enclosing none none []
  | inside {element other : Element} {own : List (ScopeId × Scope)}
      (stands : Stands library world store enclosing element other own) :
      Placed library world store enclosing (some element) (some other) own

theorem resolveAlike (runs : 2 ≤ budget) {t t' : Template} (named : t'.name = t.name)
    {placing placing' : Option Element} {before own after : List (ScopeId × Scope)}
    (mirrors : Mirrors world.builds state state')
    (placed : Placed library world state.store enclosing placing placing' own)
    (around : ∀ scope ∈ enclosing, scope.index < state.store.scopes.size)
    (reserved : world.reserved = before ++ own ++ after) :
    EndsAlike world state.store (Resolved (before ++ after))
      (resolveArgs budget t placing enclosing state)
      (resolveArgs budget t' placing' (enclosing.map world.places.scope) state') := by
  rw [resolveNamed named]
  cases placed with
  | outermost =>
    rw [List.append_nil] at reserved
    exact reserved ▸ resolveMoved t mirrors nofun around
  | inside stands =>
    cases stands with
    | same there =>
      rw [List.append_nil] at reserved
      exact reserved ▸ resolveMoved t mirrors there around
    | idle custom typeName label there args parsed parsed' =>
      rw [List.append_nil] at reserved
      exact reserved ▸ resolveIdle t mirrors there around args parsed parsed'
    | ahead custom typeName label unresolved blank resolved same there =>
      subst same
      rw [List.append_assoc] at reserved
      exact resolveAhead runs t mirrors reserved unresolved blank resolved there _

-- The element and what waits for it, in front of what has waited before.
def Specialized (library : Library) (args : ScopeId) (waiting : List (ScopeId × Scope)) (later : World)
    (store : Store) (special special' : Element) : Prop :=
  ∃ own, later.reserved = own ++ waiting ∧ Stands library later store (some args) special special' own

-- Of the library, specializing reads only which types are custom.
theorem specializeTypes (types : library.Commented library') {t t' : Template} (named : t'.name = t.name)
    (origin : String) (args : ScopeId) (element : Element) :
    specializeElement budget library' t' origin args element =
      specializeElement budget library t origin args element := by
  unfold specializeElement find
  rw [named]
  cases element.script? with
  | none => rfl
  | some code =>
    have type := types element.typeName
    generalize library.get? element.typeName = found at type
    generalize library'.get? element.typeName = found' at type
    cases type with
    | none => rfl
    | some type =>
      cases type with
      | primitive defaults => rfl
      | custom template => rfl

theorem specializeUnscripted (t : Template) (origin : String) (args : ScopeId) {element : Element}
    (blank : element.script? = none) (state : BuildState) :
    specializeElement budget library t origin args element state = .done element state := by
  unfold specializeElement
  rw [blank]
  rfl

theorem specializeComments (runs : 2 ≤ budget) (t : Template) (origin : String) (args : ScopeId)
    {element : Element} {inner : Template} {code : String}
    (custom : library.get? element.typeName = some (.custom inner))
    (script : element.script? = some code) (only : OnlyComments code.toList)
    (faithful : state.Faithful) :
    ∃ next : BuildState, next.store = state.store.pushed (argumentsOf args) ∧ next.Faithful ∧
      specializeElement budget library t origin args element state =
        .done { element with args := some ⟨state.store.scopes.size⟩ } next := by
  obtain ⟨next, gives, store, later⟩ := statementParsed faithful t.name only.parsed
  refine ⟨⟨next.store.pushed (argumentsOf args), next.parsed⟩, by rw [store], later, ?_⟩
  have found : find library element.typeName state = .done (.custom inner) state := by
    unfold find
    rw [custom]
    rfl
  unfold specializeElement
  rw [script, ← store]
  exact Action.thenDone found <| Action.thenDone (Action.mapErrorDone.mpr gives) <|
    Action.thenDone (argumentScopeMakes args next) <|
    Action.thenDone (Action.mapErrorDone.mpr (runScriptEmpty runs _ _)) rfl

theorem specializeAlike (runs : 2 ≤ budget) (types : library.Commented library') {t t' : Template}
    (named : t'.name = t.name) (origin : String) {args : ScopeId} {element other : Element}
    (commented : element.Commented library other) (unresolved : element.args = none)
    (mirrors : Mirrors world.builds state state') (there : args.index < state.store.scopes.size) :
    EndsAlike world state.store (Specialized library args world.reserved)
      (specializeElement budget library t origin args element state)
      (specializeElement budget library' t' origin (world.places.scope args) other state') := by
  rw [specializeTypes types named]
  cases commented with
  | same =>
    have own : element.argsHeld ⊆ [Value.scope args] := by
      unfold Element.argsHeld
      rw [unresolved]
      exact List.nil_subset _
    have agreed : Agree world.builds [Value.scope args] Element.argsHeld (Element.moved world.places)
        (specializeElement budget library t origin args element)
        (specializeElement budget library t origin (world.places.scope args)
          (element.moved world.places)) :=
      agreeSpecializeElement t origin (List.mem_singleton_self _) own
    rw [Element.movedUnresolved unresolved] at agreed
    refine (agreed state state' mirrors fun v member => ?_).alike fun special store held => ?_
    · cases List.mem_singleton.mp member
      exact there
    · refine ⟨[], rfl, .same fun scope found => held (.scope scope) ?_⟩
      simp [Element.argsHeld, scopeHeld, Option.mem_def.mp found]
  | @comments inner text custom blank only =>
    rw [specializeUnscripted t origin args blank]
    have label := element.withScriptLabel text
    rcases element.withScriptCode only with none | ⟨code, script, only⟩
    · -- Nothing is left of the text, so the arguments are resolved on demand here too.
      rw [specializeUnscripted t origin _ none]
      refine .done (.refl _) (.refl world _) mirrors ⟨[], rfl, .idle custom rfl label
        (by simp [unresolved]) ?_ (Element.blankParsed blank) (Element.blankParsed none)⟩
      simp [Element.withScript, unresolved]
    · have custom' : library.get? (element.withScript text).typeName = some (.custom inner) := custom
      obtain ⟨next, store, faithful, gives⟩ :=
        specializeComments runs t origin (world.places.scope args) custom' script only mirrors.later
      obtain ⟨keeps, rel⟩ := mirrors.store.ahead (argumentsOf (world.places.scope args))
      rw [gives]
      refine .done (.refl _) keeps ⟨store ▸ rel, mirrors.alone, faithful⟩ ⟨[_], rfl, ?_⟩
      rw [← keeps.scope there]
      exact .ahead custom rfl label unresolved blank rfl rfl there

theorem specializeAllAlike (runs : 2 ≤ budget) (types : library.Commented library') {t t' : Template}
    (named : t'.name = t.name) (origin : String) {args : ScopeId} {elements others : List Element}
    (commented : List.Forall₂ (Element.Commented library) elements others)
    (unresolved : ∀ element ∈ elements, element.args = none)
    (mirrors : Mirrors world.builds state state') (there : args.index < state.store.scopes.size) :
    EndsAlike world state.store
      (fun later store specials specials' => ∃ waiting, later.reserved = waiting ++ world.reserved ∧
        AllStand library later store (some args) specials specials' waiting)
      (specializeAll budget library t origin args elements state)
      (specializeAll budget library' t' origin (world.places.scope args) others state') := by
  induction commented generalizing world state state' with
  | nil => exact .done (.refl _) (.refl world _) mirrors ⟨[], rfl, .nil⟩
  | cons first rest ih =>
    rw [List.forall_mem_cons] at unresolved
    refine (specializeAlike runs types named origin first unresolved.1 mirrors there).bind ?_
    rintro middle special special' next next' grown keeps mirrors ⟨own, reserved, stands⟩
    have inside := Nat.lt_of_lt_of_le there grown.scopes
    rw [← keeps.scope there]
    refine (ih unresolved.2 mirrors inside).bind ?_
    rintro later specials specials' final final' grown keeps mirrors ⟨waiting, behind, stand⟩
    refine .done (.refl _) (.refl later _) mirrors ⟨waiting ++ own, ?_, .cons ?_ stand⟩
    · rw [behind, reserved, List.append_assoc]
    · exact stands.since keeps grown

theorem commentedCopy {t t' : Template} (template : t.Commented library t') :
    List.Forall₂ (Element.Commented library) t.circuit.unresolved.elements
      t'.circuit.unresolved.elements := by
  unfold Circuit.unresolved
  refine List.forall₂_map_left_iff.mpr (List.forall₂_map_right_iff.mpr ?_)
  refine template.elements.imp fun element other commented => ?_
  cases commented with
  | same => exact .same
  | comments custom blank only => exact .comments custom blank only

theorem specializeCircuitAlike (runs : 2 ≤ budget) (types : library.Commented library') {t t' : Template}
    (template : t.Commented library t') (origin : String) {args : ScopeId}
    (mirrors : Mirrors world.builds state state') (there : args.index < state.store.scopes.size) :
    EndsAlike world state.store
      (fun later store circuit circuit' => ∃ waiting, later.reserved = waiting ++ world.reserved ∧
        AllStand library later store (some args) circuit.elements circuit'.elements waiting)
      (specialize budget library t origin args state)
      (specialize budget library' t' origin (world.places.scope args) state') := by
  refine (specializeAllAlike runs types template.name origin (commentedCopy template)
    (copyUnresolved t.circuit) mirrors there).bind ?_
  rintro later specials specials' next next' grown keeps mirrors stand
  exact .done (.refl _) (.refl later _) mirrors stand

/-- Two builds go on side by side, inside an instance with the given arguments. Scopes that are older than
both builds, which the library may name, are at their own places. -/
structure Beginning (base : Nat) (world : World) (state state' : BuildState)
    (enclosing : Option ScopeId) : Prop where
  mirrors : Mirrors world.builds state state'
  fixed : ∀ i < base, world.scopes.move i = i
  old : base ≤ state.store.scopes.size
  around : ∀ scope ∈ enclosing, scope.index < state.store.scopes.size

theorem Beginning.since {base : Nat} {later : World} {next next' : BuildState}
    (beginning : Beginning base world state state' enclosing)
    (grown : state.store.Grown next.store) (keeps : world.Keeps later state.store)
    (mirrors : Mirrors later.builds next next') : Beginning base later next next' enclosing where
  mirrors := mirrors
  fixed i below := by
    rw [keeps i (Nat.lt_of_lt_of_le below beginning.old), beginning.fixed i below]
  old := Nat.le_trans beginning.old grown.scopes
  around scope found := Nat.lt_of_lt_of_le (beginning.around scope found) grown.scopes

def ExpandsBeside (library : Library) (base : Nat) (expand expand' : Expand) : Prop :=
  ∀ {world : World} {state state' : BuildState} {enclosing : Option ScopeId} {t t' : Template}
    {element other : Element} {before own after : List (ScopeId × Scope)} (netList : NetList)
    (name : String), Beginning base world state state' enclosing → t.Commented library t' →
    t.Grounded base → Stands library world state.store enclosing element other own →
    world.reserved = before ++ own ++ after →
    EndsAlike world state.store
      (fun later _ nodes nodes' => nodes' = nodes ∧ later.reserved = before ++ after)
      (expand netList name t element enclosing state)
      (expand' netList name t' other (enclosing.map world.places.scope) state')

variable {base : Nat} {expand expand' : Expand}

theorem elementAlike (types : library.Commented library') (known : library.Grounded base)
    (beside : ExpandsBeside library base expand expand') (netList : NetList) (position : Nat)
    {element other : Element} {before own after : List (ScopeId × Scope)}
    (beginning : Beginning base world state state' enclosing)
    (stands : Stands library world state.store enclosing element other own)
    (reserved : world.reserved = before ++ own ++ after) :
    EndsAlike world state.store
      (fun later _ nodes nodes' => nodes' = nodes ∧ later.reserved = before ++ after)
      (elementNodes library expand netList enclosing position element state)
      (elementNodes library' expand' netList (enclosing.map world.places.scope) position other
        state') := by
  have type := types element.typeName
  unfold elementNodes
  rw [stands.typeName, stands.instanceName]
  cases found : library.get? element.typeName with
  | none =>
    rw [found] at type
    generalize library'.get? element.typeName = found' at type ⊢
    cases type
    exact .failed _
  | some kind =>
    rw [found] at type
    generalize library'.get? element.typeName = found' at type ⊢
    cases type with
    | some type =>
      cases type with
      | custom template =>
        exact beside netList _ beginning template (known _ _ found) stands reserved
      | primitive defaults =>
        -- Only the attributes of a custom element can differ, and none of those makes a node.
        cases stands with
        | same there =>
          rw [List.append_nil] at reserved
          exact .done (.refl _) (.refl world _) beginning.mirrors ⟨rfl, reserved⟩
        | idle custom => cases found.symm.trans custom
        | ahead custom => cases found.symm.trans custom

theorem realizeAlike (types : library.Commented library') (known : library.Grounded base)
    (beside : ExpandsBeside library base expand expand') (netList : NetList) (position : Nat)
    {elements others : List Element} {waiting after : List (ScopeId × Scope)}
    (beginning : Beginning base world state state' enclosing)
    (stand : AllStand library world state.store enclosing elements others waiting)
    (reserved : world.reserved = waiting ++ after) :
    EndsAlike world state.store
      (fun later _ nodes nodes' => nodes' = nodes ∧ later.reserved = after)
      (realize library expand netList enclosing position elements state)
      (realize library' expand' netList (enclosing.map world.places.scope) position others state') := by
  induction elements generalizing world state state' others waiting position with
  | nil =>
    cases stand
    exact .done (.refl _) (.refl world _) beginning.mirrors ⟨rfl, reserved⟩
  | cons element rest ih =>
    cases stand with
    | cons first more =>
      rw [realizeCons, realizeCons]
      refine (elementAlike types known beside netList position beginning first reserved).bind ?_
      rintro middle nodes nodes' next next' grown keeps mirrors ⟨rfl, reserved⟩
      rw [← keeps.optional beginning.around]
      refine (ih (position + 1) (beginning.since grown keeps mirrors) (more.since keeps grown)
        reserved).bind ?_
      rintro later others others' final final' grown keeps mirrors ⟨rfl, reserved⟩
      exact .done (.refl _) (.refl later _) mirrors ⟨rfl, reserved⟩

theorem Beginning.fixedOptional (beginning : Beginning base world state state' enclosing)
    {id : Option ScopeId} (below : ∀ scope ∈ id, scope.index < base) :
    id.map world.places.scope = id := by
  cases id with
  | none => rfl
  | some scope =>
    exact congrArg some (ScopeId.sameIndex (beginning.fixed scope.index (below scope rfl)))

theorem plainStands (beginning : Beginning base world state state' enclosing) {element other : Element}
    (commented : element.Commented library other)
    (grounded : ∀ scope ∈ element.args, scope.index < base) (around : Option ScopeId) :
    Stands library world state.store around element other [] := by
  have there : ∀ scope ∈ element.args, scope.index < state.store.scopes.size :=
    fun scope found => Nat.lt_of_lt_of_le (grounded scope found) beginning.old
  have args := beginning.fixedOptional grounded
  cases commented with
  | same =>
    have stands : Stands library world state.store around element (element.moved world.places) [] :=
      .same there
    unfold Element.moved at stands
    rw [args] at stands
    exact stands
  | @comments inner text custom blank only =>
    exact .idle custom rfl (element.withScriptLabel text) there args.symm (Element.blankParsed blank)
      (element.withScriptParsed only)

theorem plainStand (beginning : Beginning base world state state' enclosing)
    {elements others : List Element} (commented : List.Forall₂ (Element.Commented library) elements others)
    (grounded : ∀ element ∈ elements, ∀ scope ∈ element.args, scope.index < base) :
    AllStand library world state.store none elements others [] := by
  induction commented with
  | nil => exact .nil
  | cons first more ih =>
    rw [List.forall_mem_cons] at grounded
    exact .cons (plainStands beginning first grounded.1 none) (ih grounded.2)

-- Two models of the same nodes, and what still waits when they are made.
def SameNodes (waiting : List (ScopeId × Scope)) (later : World) (_ : Store) (model model' : Model) :
    Prop :=
  model'.nodes = model.nodes ∧ later.reserved = waiting

section Levels

variable {levels : Nat} {t t' : Template} {placing placing' : Option Element}
variable {before own after : List (ScopeId × Scope)}

theorem plainAlike (types : library.Commented library') (known : library.Grounded base)
    (beside : ExpandsBeside library base (expandInside budget library levels)
      (expandInside budget library' levels))
    (parent : Option NetList) (name : String) (beginning : Beginning base world state state' enclosing)
    (template : t.Commented library t') (grounded : t.Grounded base) (plain : t.isGeneric = false)
    (reserved : world.reserved = before ++ own ++ after) :
    EndsAlike world state.store (SameNodes (before ++ after))
      (instantiate budget library (levels + 1) parent name t placing enclosing state)
      (instantiate budget library' (levels + 1) parent name t' placing'
        (enclosing.map world.places.scope) state') := by
  -- Nothing claims the arguments of a plain instance.
  have fewer : (before ++ after).Sublist world.reserved := by
    rw [reserved, List.append_assoc]
    exact (List.sublist_append_right own after).append_left before
  have mirrors := beginning.mirrors
  have begun : Beginning base (world.dropped fewer) state state' none :=
    ⟨⟨mirrors.store.dropped fewer, mirrors.alone, mirrors.later⟩, beginning.fixed, beginning.old, nofun⟩
  have nodes := realizeAlike types known beside (standing parent name t) 0 begun
    (plainStand begun template.elements grounded) rfl
  rw [instantiatePlain plain, instantiatePlain (template.isGeneric.trans plain), template.standing]
  refine nodes.undropped.bind ?_
  rintro later nodes nodes' next next' grown keeps mirrors ⟨rfl, reserved⟩
  exact .done (.refl _) (.refl later _) mirrors ⟨rfl, reserved⟩

theorem genericAlike (runs : 2 ≤ budget) (types : library.Commented library')
    (known : library.Grounded base)
    (beside : ExpandsBeside library base (expandInside budget library levels)
      (expandInside budget library' levels))
    (parent : Option NetList) (name : String) (beginning : Beginning base world state state' enclosing)
    (template : t.Commented library t') (generic : t.isGeneric = true)
    (placed : Placed library world state.store enclosing placing placing' own)
    (reserved : world.reserved = before ++ own ++ after) :
    EndsAlike world state.store (SameNodes (before ++ after))
      (instantiate budget library (levels + 1) parent name t placing enclosing state)
      (instantiate budget library' (levels + 1) parent name t' placing'
        (enclosing.map world.places.scope) state') := by
  have resolved := resolveAlike runs template.name beginning.mirrors placed beginning.around reserved
  rw [instantiateGeneric generic, instantiateGeneric (template.isGeneric.trans generic),
    template.standing]
  refine (resolved.mapError _).bind ?_
  rintro world args args' state state' grown keeps mirrors ⟨rfl, there, reserved⟩
  have own := beginning.since grown keeps mirrors
  refine (specializeCircuitAlike runs types template _ mirrors there).bind ?_
  rintro world' circuit circuit' state state' grown keeps mirrors ⟨waiting, more, stand⟩
  have around : ∀ scope ∈ some args, scope.index < state.store.scopes.size := by
    intro scope same
    cases same
    exact Nat.lt_of_lt_of_le there grown.scopes
  have later := own.since grown keeps mirrors
  have begun : Beginning base world' state state' (some args) := ⟨mirrors, later.fixed, later.old, around⟩
  rw [reserved] at more
  rw [← keeps.scope there]
  refine (realizeAlike types known beside (standing parent name t) 0 begun stand more).bind ?_
  rintro last nodes nodes' next next' grown keeps mirrors ⟨rfl, reserved⟩
  exact .done (.refl _) (.refl last _) mirrors ⟨rfl, reserved⟩

end Levels

theorem instantiateAlike (runs : 2 ≤ budget) (types : library.Commented library')
    (known : library.Grounded base) (levels : Nat) (parent : Option NetList) (name : String)
    {t t' : Template} {placing placing' : Option Element} {before own after : List (ScopeId × Scope)}
    (beginning : Beginning base world state state' enclosing) (template : t.Commented library t')
    (grounded : t.Grounded base)
    (placed : Placed library world state.store enclosing placing placing' own)
    (reserved : world.reserved = before ++ own ++ after) :
    EndsAlike world state.store (SameNodes (before ++ after))
      (instantiate budget library levels parent name t placing enclosing state)
      (instantiate budget library' levels parent name t' placing' (enclosing.map world.places.scope)
        state') := by
  induction levels generalizing world state state' enclosing parent name t t' placing placing' before
    own after with
  | zero =>
    rw [instantiate, instantiate, template.file]
    exact .failed _
  | succ levels ih =>
    have beside : ExpandsBeside library base (expandInside budget library levels)
        (expandInside budget library' levels) := by
      intro world state state' enclosing t t' element other before own after netList name beginning
        template grounded stands reserved
      refine (ih (some netList) name beginning template grounded (.inside stands) reserved).bind ?_
      rintro later model model' next next' grown keeps mirrors ⟨same, reserved⟩
      exact .done (.refl _) (.refl later _) mirrors ⟨same, reserved⟩
    cases kind : t.isGeneric with
    | false => exact plainAlike types known beside parent name beginning template grounded kind reserved
    | true => exact genericAlike runs types known beside parent name beginning template kind placed reserved

end Build

-- The nodes or the error, unless the budget runs out.
def Outcome.nodes? (outcome : Outcome BuildState NodeError Model) : Option (Except NodeError (List Node)) :=
  outcome.answer?.map (Except.map Model.nodes)

theorem EndsAlike.nodes {world : World} {start : Store} {waiting : List (ScopeId × Scope)}
    {x x' : Outcome BuildState NodeError Model}
    (ends : EndsAlike world start (Build.SameNodes waiting) x x') : x.nodes? = x'.nodes? := by
  cases ends with
  | done grown keeps mirrors found => exact congrArg (some <| Except.ok ·) found.1.symm
  | failed e => rfl
  | spent => rfl

/-- With comments in place of blank scripts, in the template and anywhere in the library, an instance has
the same nodes or fails with the same error. A budget of two is enough to run a script of comments. -/
theorem commentsResolveAlike {budget : Nat} (runs : 2 ≤ budget) {library library' : Library}
    (types : library.Commented library') {t t' : Template} (template : t.Commented library t')
    {state : BuildState} (sound : state.Sound) (known : library.Grounded state.store.scopes.size)
    (grounded : t.Grounded state.store.scopes.size) (levels : Nat) (parent : Option NetList)
    (name : String) {placing : Option Element} {enclosing : Option ScopeId}
    (placed : ∀ scope ∈ placing.bind Element.args, scope.index < state.store.scopes.size)
    (around : ∀ scope ∈ enclosing, scope.index < state.store.scopes.size) :
    (Build.instantiate budget library levels parent name t placing enclosing state).nodes? =
      (Build.instantiate budget library' levels parent name t' placing enclosing state).nodes? := by
  have mirrors : Mirrors World.same.builds state state :=
    ⟨World.sameRel sound.closed, sound.faithful, sound.faithful⟩
  have beginning : Build.Beginning state.store.scopes.size .same state state enclosing :=
    ⟨mirrors, fun _ _ => rfl, Nat.le_refl _, around⟩
  have beside : Build.Placed library .same state.store enclosing placing placing [] := by
    cases placing with
    | none => exact .outermost
    | some element => exact .inside (Build.plainStands beginning .same placed enclosing)
  have nothing : World.same.reserved = [] ++ [] ++ [] := rfl
  have alike := Build.instantiateAlike runs types known levels parent name beginning template grounded
    beside nothing
  rw [beginning.fixedOptional around] at alike
  exact alike.nodes

def widerTemplate : Template :=
  ⟨"wider.dig", ⟨"wider.dig", Table.empty.insert Attributes.isGenericKey (.bool true),
    [Element.withScript ⟨"Register", .empty, none⟩ "this.width = args.args.width + 1;"]⟩, none⟩

-- The element hands its arguments on to the register inside it.
def bankTemplate (element : Element) : Template :=
  ⟨"bank.dig", ⟨"bank.dig", Table.empty.insert Attributes.isGenericKey (.bool true), [element]⟩, none⟩

def bankLibrary (element : Element) : Library :=
  Table.ofList [("Register", .primitive .empty), ("wider.dig", .custom widerTemplate),
    ("bank.dig", .custom (bankTemplate element))]

def widerElement : Element := ⟨"wider.dig", .empty, none⟩

def widerComment : String := "// the arguments around it\n"

-- The nodes of a bank with one element, in a library that may hold the bank with another.
def bankNodes (listed placed : Element) : Option (Except NodeError (List Node)) :=
  (Build.instantiate 20 (bankLibrary listed) 3 none "" (bankTemplate placed)
    (some (Element.withScript ⟨"bank.dig", .empty, none⟩ "width := 4;")) none .empty).nodes?

theorem bankTypes (element : Element) (name : String) :
    (bankLibrary element).get? name =
      if "bank.dig" = name then some (.custom (bankTemplate element))
      else if "wider.dig" = name then some (.custom widerTemplate)
      else if "Register" = name then some (.primitive .empty) else none := by
  simp only [bankLibrary, Table.ofList, List.foldl_cons, List.foldl_nil, Table.getInsert,
    Table.getEmpty]

theorem bankCommented : (bankTemplate widerElement).Commented (bankLibrary widerElement)
    (bankTemplate (widerElement.withScript widerComment)) := by
  have text : widerComment.toList = '/' :: '/' :: (" the arguments around it".toList ++ ['\n']) := by
    decide
  have only : OnlyComments widerComment.toList := by
    rw [text]
    exact .line (by decide) .empty
  have custom : (bankLibrary widerElement).get? widerElement.typeName = some (.custom widerTemplate) := by
    rw [bankTypes]
    rfl
  exact ⟨rfl, rfl, .cons (.comments custom rfl only) .nil⟩

theorem bankLibraryCommented :
    (bankLibrary widerElement).Commented (bankLibrary (widerElement.withScript widerComment)) := by
  intro name
  rw [bankTypes, bankTypes]
  split
  · exact .some (.custom bankCommented)
  · split
    · exact .some (.custom (widerTemplate.commentedSame _))
    · split
      · exact .some (.primitive .empty)
      · exact .none

theorem bankGrounded : (bankTemplate widerElement).Grounded 0 := by
  intro element member scope found
  cases List.mem_singleton.mp member
  cases found

theorem bankLibraryGrounded : Library.Grounded 0 (bankLibrary widerElement) := by
  intro name t found
  rw [bankTypes] at found
  split at found
  · cases found
    exact bankGrounded
  · split at found
    · cases found
      intro element member scope found
      cases List.mem_singleton.mp member
      cases found
    · split at found <;> cases found

theorem bankResolvesAlike :
    bankNodes widerElement widerElement = bankNodes widerElement (widerElement.withScript widerComment) ∧
      bankNodes widerElement widerElement =
        bankNodes (widerElement.withScript widerComment) (widerElement.withScript widerComment) ∧
      ((bankNodes widerElement widerElement).bind Except.toOption).map
        (List.map fun node => (node.name, Attributes.int? node.attributes "width")) =
          some [("wider.dig0/Register0", some 5)] := by
  have runs : 2 ≤ 20 := by decide
  refine ⟨?_, ?_, by decide +kernel⟩
  · exact commentsResolveAlike runs (Library.commentedSame _) bankCommented emptySound
      bankLibraryGrounded bankGrounded 3 none "" nofun nofun
  · exact commentsResolveAlike runs bankLibraryCommented bankCommented emptySound
      bankLibraryGrounded bankGrounded 3 none "" nofun nofun

end CircuitScript
