import CircuitScript.Proofs.Assigned
import CircuitScript.Proofs.Comments
import CircuitScript.Proofs.Scanning
import CircuitScript.Proofs.Siblings

/-! What `isPresent` says of the arguments. A script with arguments runs in a new scope that starts with the
built-in functions. Asked for a name of this scope later, from a script inside of the instance, `isPresent`
says whether the script has bound it, or the name is one that every such scope has. -/
namespace CircuitScript

namespace Builtin

def table : Table Value := Store.coreNames.insertAll (bindings standard)

theorem tableAll : table = Table.empty.insertAll (bindings (core ++ standard)) := by
  unfold bindings
  rw [List.map_append]
  exact List.foldl_append.symm

theorem tableAt (b : Builtin) : table.get? b.name = some (.func (.builtin b)) := by
  rw [tableAll]
  exact getBound (List.mem_append.mpr (coreOrStandard b)) .empty

theorem tableFree {key : String} (free : ∀ b : Builtin, b.name ≠ key) : table.get? key = none := by
  rw [tableAll]
  refine Table.getInsertAll (fun member => ?_) .empty
  rw [bindingNames] at member
  obtain ⟨b, _, same⟩ := List.mem_map.mp member
  exact free b same

theorem tableContains (key : String) : table.contains key = true ↔ ∃ b : Builtin, b.name = key := by
  unfold Table.contains
  constructor
  · intro there
    by_contra none
    rw [tableFree fun b same => none ⟨b, same⟩] at there
    cases there
  · rintro ⟨b, rfl⟩
    rw [tableAt]
    rfl

end Builtin

namespace Store

/-- The store with a new scope for a script, which sees the given arguments. -/
def arguments (store : Store) (enclosing : Option ScopeId) : Store :=
  let fresh := store.newRoot.2.installStandard ⟨store.scopes.size⟩
  match enclosing with
  | some args => fresh.bind ⟨store.scopes.size⟩ Build.argsName (.scope args)
  | none => fresh

variable {store : Store} {enclosing : Option ScopeId}

theorem freshScope (store : Store) (id : ScopeId) :
    (store.newRoot.2.installStandard ⟨store.scopes.size⟩).scope? id =
      if id.index = store.scopes.size then some ⟨Builtin.table, none, .own ""⟩ else store.scope? id := by
  unfold installStandard newRoot
  rw [scopeBoundAll, scopeAdded]
  by_cases new : id.index = store.scopes.size
  · have same : ScopeId.mk store.scopes.size = id := ScopeId.sameIndex new.symm
    rw [if_pos same, if_pos new, if_pos new]
    rfl
  · have apart : ScopeId.mk store.scopes.size ≠ id := fun same => new (same ▸ rfl)
    rw [if_neg apart, if_neg new, if_neg new]

theorem argumentsOlder (enclosing : Option ScopeId) {id : ScopeId} (old : id.index < store.scopes.size) :
    (store.arguments enclosing).scope? id = store.scope? id := by
  have fresh := store.freshScope id
  rw [if_neg (Nat.ne_of_lt old)] at fresh
  cases enclosing with
  | none => exact fresh
  | some args =>
    have apart : ScopeId.mk store.scopes.size ≠ id := fun same => Nat.ne_of_lt old (same ▸ rfl)
    unfold arguments Store.bind
    rw [scopeUpdated, if_neg apart, fresh]

theorem argumentsHere (store : Store) (enclosing : Option ScopeId) :
    ∃ names, (store.arguments enclosing).scope? ⟨store.scopes.size⟩ = some ⟨names, none, .own ""⟩ ∧
      (∀ key, key ≠ Build.argsName → names.get? key = Builtin.table.get? key) ∧
      ∀ args, enclosing = some args → names.get? Build.argsName = some (.scope args) := by
  have fresh := store.freshScope ⟨store.scopes.size⟩
  rw [if_pos rfl] at fresh
  cases enclosing with
  | none => exact ⟨Builtin.table, fresh, fun _ _ => rfl, nofun⟩
  | some args =>
    refine ⟨Builtin.table.insert Build.argsName (.scope args), ?_, fun key other => ?_, ?_⟩
    · unfold arguments Store.bind
      rw [scopeUpdated, if_pos rfl, fresh]
      rfl
    · rw [Table.getInsert, if_neg (Ne.symm other)]
    · rintro _ ⟨⟩
      rw [Table.getInsert, if_pos rfl]

theorem argumentsHidden (closed : store.Closed) (around : ∀ id ∈ enclosing, id.index < store.scopes.size) :
    (store.arguments enclosing).Within (· ≠ ⟨store.scopes.size⟩) := by
  have before : store.Within (· ≠ ⟨store.scopes.size⟩) := by
    refine (closed.held.imp fun value there => ?_).within
    cases value with
    | scope id =>
      rintro rfl
      exact Nat.lt_irrefl _ there
    | scalar s | list id | map id | func f | attributes id => trivial
  have fresh := freshRootWithin before
  cases enclosing with
  | none => exact fresh
  | some args =>
    have held : (Value.scope args).Within (· ≠ ⟨store.scopes.size⟩) := by
      rintro rfl
      exact Nat.lt_irrefl _ (around _ rfl)
    exact (fresh.holds.bind _ _ held).within

end Store

/-- `isPresent(args.key)`. -/
def Expr.askFor (key : String) : Expr :=
  .call (.ref (.var Builtin.isPresent.name)) [.ref (.field (.var Build.argsName) key)]

/-- In the scope, `args` and `isPresent` are what they are to a script, and the arguments have the name, or lack
it, as they were left. -/
structure Store.Asks (store : Store) (scope args : ScopeId) (left : Store) (key : String) : Prop where
  arguments : store.read scope Build.argsName = .ok (.scope args)
  function : store.read scope Builtin.isPresent.name = .ok (.func (.builtin .isPresent))
  around : store.parent? args = left.parent? args
  kept : (store.names args).contains key = (left.names args).contains key

section Asking

variable {scope args : ScopeId} {current left : Store} {n : Nat} {key : String}

theorem askReads (asks : current.Asks scope args left key) (enough : 5 ≤ n) :
    evalExpr n scope (.askFor key) current = .done (.bool (current.read args key).isOk) current := by
  obtain ⟨m, rfl⟩ := Nat.exists_eq_add_of_le' enough
  have callee : evalExpr (m + 4) scope (.ref (.var Builtin.isPresent.name)) current =
      .done (.func (.builtin .isPresent)) current := by
    show Eval.read scope Builtin.isPresent.name current = _
    rw [Eval.readLooks, asks.function]
    rfl
  have target : readReference (m + 1) scope (.var Build.argsName) current =
      .done (.scope args) current := by
    show Eval.read scope Build.argsName current = _
    rw [Eval.readLooks, asks.arguments]
    rfl
  have field : evalExpr (m + 3) scope (.ref (.field (.var Build.argsName) key)) current =
      Action.ofExcept (current.read args key) current := by
    show (readReference (m + 1) scope (.var Build.argsName) >>= fun found => Eval.readField found key)
      current = _
    rw [Action.bindApply, target]
    exact Eval.readFieldLooks (.scope args) key current
  rw [Expr.askFor, evalExpr, Action.bindApply, callee]
  show (Action.succeeds (evalExpr (m + 3) scope (.ref (.field (.var Build.argsName) key))) >>=
    fun present => (pure (.bool present) : Eval Value)) current = _
  rw [Action.bindApply, Action.succeeds, field]
  cases current.read args key <;> rfl

theorem askFinds (asks : current.Asks scope args left key) (alone : left.parent? args = none) :
    (current.read args key).isOk = true ↔ (left.names args).contains key = true ∨ key = "output" := by
  have root : current.parent? args = none := asks.around.trans alone
  rw [← asks.kept]
  unfold Store.read Table.contains
  rw [Store.lookupAlone (by simp [root])]
  cases (current.names args).get? key with
  | some value => simp [Except.isOk, Except.toBool]
  | none =>
    by_cases printed : key = "output"
    · simp [printed, Except.isOk, Except.toBool]
    · simp [printed, Except.isOk, Except.toBool]

end Asking

namespace Build

variable {ε : Type} {budget : Nat} {library : Library} {t : Template} {origin : String} {args : ScopeId}
variable {enclosing : Option ScopeId} {element special : Element} {code : String}
variable {state begun after : BuildState}

theorem argumentScopeGives (enclosing : Option ScopeId) (state : BuildState) :
    (argumentScope enclosing : Action BuildState ε ScopeId) state =
      .done ⟨state.store.scopes.size⟩ ⟨state.store.arguments enclosing, state.parsed⟩ := by
  obtain ⟨store, parsed⟩ := state
  cases enclosing <;> rfl

theorem statementDone (faithful : state.Faithful) {template : String} {tree : Stmt}
    (ended : statement template code state = .done tree after) :
    parseCode code = .ok tree ∧ after.store = state.store := by
  rcases statementGives faithful template code with ⟨found, next, parsed, gives, same, _⟩ | ⟨e, _, failed⟩
  · cases gives.symm.trans ended
    exact ⟨parsed, same⟩
  · cases failed.symm.trans ended

theorem findDone {name : String} {found : ElementType} (ended : find library name state = .done found after) :
    library.get? name = some found ∧ state = after := by
  unfold find at ended
  cases there : library.get? name with
  | none =>
    rw [there] at ended
    cases ended
  | some other =>
    rw [there] at ended
    cases ended
    exact ⟨rfl, rfl⟩

theorem runScriptEnds (scope : ScopeId) (tree : Stmt) (state : BuildState) :
    (runScript budget scope tree state).state? =
      (exec budget scope tree state.store).state?.map fun store => ⟨store, state.parsed⟩ := by
  obtain ⟨store, parsed⟩ := state
  unfold runScript onStore Action.mapError Script.run
  simp only [Action.bindApply]
  cases exec budget scope tree store <;> rfl

theorem runScriptDone {scope : ScopeId} {tree : Stmt} {u : Unit}
    (ended : runScript budget scope tree state = .done u after) :
    ∃ flow, exec budget scope tree state.store = .done flow after.store := by
  obtain ⟨store, parsed⟩ := state
  unfold runScript onStore Action.mapError Script.run at ended
  simp only [Action.bindApply] at ended
  cases ran : exec budget scope tree store with
  | done flow final =>
    rw [ran] at ended
    cases ended
    exact ⟨flow, rfl⟩
  | failed e final =>
    rw [ran] at ended
    cases ended
  | spent =>
    rw [ran] at ended
    cases ended

-- Only the script of a primitive element sees `this`.
def bindThis (found : ElementType) (scope : ScopeId) (element : Element) (store : Store) : Store :=
  match found with
  | .custom _ => store
  | .primitive _ =>
    (store.newHandle element.attributes).2.bind scope thisName (.attributes ⟨store.handles.size⟩)

/-- The store in which the script of an element begins. -/
def scriptStore (found : ElementType) (store : Store) (args : ScopeId) (element : Element) : Store :=
  bindThis found ⟨store.scopes.size⟩ element (store.arguments (some args))

-- What the script has done to the element.
def tookOver (found : ElementType) (scope : ScopeId) (handle : HandleId) (element : Element) : Build Element :=
  match found with
  | .custom _ => pure { element with args := some scope }
  | .primitive _ => do
    let attributes ← onStore fun store => .done (store.attributesOf handle) store
    pure { element with attributes := attributes }

theorem tookOverLooks (found : ElementType) (scope : ScopeId) (handle : HandleId) (element : Element)
    (state : BuildState) : (tookOver found scope handle element state).state? = some state := by
  cases found <;> rfl

theorem specializeScript {found : ElementType} {tree : Stmt} {next : BuildState}
    (script : element.script? = some code) (type : library.get? element.typeName = some found)
    (gives : statement t.name code state = .done tree next) (same : next.store = state.store) :
    specializeElement budget library t origin args element state =
      (do
        Action.mapError (.generics origin) (runScript budget ⟨state.store.scopes.size⟩ tree)
        tookOver found ⟨state.store.scopes.size⟩ ⟨(state.store.arguments (some args)).handles.size⟩ element :
        Build Element)
      ⟨scriptStore found state.store args element, next.parsed⟩ := by
  have looked : find library element.typeName state = .done found state := by
    unfold find
    rw [type]
    rfl
  have parsed : Action.mapError (fun e => NodeError.generics origin (.parse e)) (statement t.name code) state =
      .done tree next := Action.mapErrorDone.mpr gives
  unfold specializeElement
  simp only [script, Action.bindApply, looked, parsed, argumentScopeGives, same]
  unfold scriptStore
  generalize state.store.arguments (some args) = started
  cases found <;> rfl

theorem scriptRuns {found : ElementType} {tree : Stmt} (faithful : state.Faithful)
    (script : element.script? = some code) (type : library.get? element.typeName = some found)
    (parsed : parseCode code = .ok tree) :
    (specializeElement budget library t origin args element state).state?.map (·.store) =
      (exec budget ⟨state.store.scopes.size⟩ tree (scriptStore found state.store args element)).state? := by
  rcases statementGives faithful t.name code with ⟨other, next, parsed', gives, same, _⟩ | ⟨e, failed, _⟩
  · cases parsed.symm.trans parsed'
    rw [specializeScript script type gives same, Action.stateThen fun _ => tookOverLooks found _ _ element,
      Action.stateMapError, runScriptEnds, Option.map_map]
    cases (exec budget ⟨state.store.scopes.size⟩ tree (scriptStore found state.store args element)).state? <;>
      rfl
  · rw [parsed] at failed
    cases failed

/-- The arguments are those that a script computes, when the instance is expanded or ahead of that. -/
inductive Resolves (budget : Nat) (code : String) :
    Option ScopeId → BuildState → ScopeId → BuildState → Prop where
  | onDemand {t : Template} {element : Element} {enclosing : Option ScopeId} {state begun : BuildState}
      {args : ScopeId} (unresolved : element.args = none) (script : element.script?.getD "" = code)
      (ended : resolveArgs budget t (some element) enclosing state = .done args begun) :
      Resolves budget code enclosing state args begun
  | ahead {library : Library} {t inner : Template} {origin : String} {element special : Element}
      {around args : ScopeId} {state begun : BuildState} (script : element.script? = some code)
      (type : library.get? element.typeName = some (.custom inner))
      (ended : specializeElement budget library t origin around element state = .done special begun)
      (resolved : special.args = some args) : Resolves budget code (some around) state args begun

theorem Resolves.runs (resolves : Resolves budget code enclosing state args begun)
    (faithful : state.Faithful) :
    args = ⟨state.store.scopes.size⟩ ∧ ∃ tree flow, parseCode code = .ok tree ∧
      exec budget args tree (state.store.arguments enclosing) = .done flow begun.store := by
  cases resolves with
  | onDemand unresolved script ended =>
    unfold resolveArgs at ended
    simp only [unresolved, script] at ended
    obtain ⟨tree, s₁, parsed, ended⟩ := Action.bindDone ended
    obtain ⟨parsed, same⟩ := statementDone faithful (Action.mapErrorDone.mp parsed)
    obtain ⟨scope, s₂, made, ended⟩ := Action.bindDone ended
    rw [argumentScopeGives, same] at made
    cases made
    obtain ⟨u, s₃, ran, ended⟩ := Action.bindDone ended
    cases ended
    obtain ⟨flow, ran⟩ := runScriptDone ran
    exact ⟨rfl, tree, flow, parsed, ran⟩
  | @ahead library t inner origin element special around args state begun script type ended resolved =>
    have began := ended
    unfold specializeElement at began
    rw [script] at began
    obtain ⟨found, s₁, looked, began⟩ := Action.bindDone began
    obtain ⟨type', rfl⟩ := findDone looked
    cases type.symm.trans type'
    obtain ⟨tree, s₂, gives, _⟩ := Action.bindDone began
    have gives := Action.mapErrorDone.mp gives
    obtain ⟨parsed, same⟩ := statementDone faithful gives
    rw [specializeScript script type gives same] at ended
    obtain ⟨u, s₃, ran, ended⟩ := Action.bindDone ended
    cases ended
    cases resolved
    obtain ⟨flow, ran⟩ := runScriptDone (Action.mapErrorDone.mp ran)
    exact ⟨rfl, tree, flow, parsed, ran⟩

theorem bindThisScope (found : ElementType) {scope : ScopeId} (element : Element) {store : Store}
    {names : Table Value} {parent : Option ScopeId} {output : Output}
    (here : store.scope? scope = some ⟨names, parent, output⟩) :
    ∃ more, (bindThis found scope element store).scope? scope = some ⟨more, parent, output⟩ ∧
      ∀ key, key ≠ thisName → more.get? key = names.get? key := by
  cases found with
  | custom inner => exact ⟨names, here, fun _ _ => rfl⟩
  | primitive defaults =>
    have same : (store.newHandle element.attributes).2.scope? scope = store.scope? scope := rfl
    refine ⟨names.insert thisName (.attributes ⟨store.handles.size⟩), ?_, fun key other => ?_⟩
    · unfold bindThis Store.bind
      dsimp only
      rw [Store.scopeUpdated, if_pos rfl, same, here]
      rfl
    · rw [Table.getInsert, if_neg (Ne.symm other)]

theorem bindThisOther (found : ElementType) {scope other : ScopeId} (element : Element) (store : Store)
    (apart : scope ≠ other) : (bindThis found scope element store).scope? other = store.scope? other := by
  cases found with
  | custom inner => rfl
  | primitive defaults =>
    unfold bindThis Store.bind
    dsimp only
    rw [Store.scopeUpdated, if_neg apart]
    rfl

theorem scriptStoreAsks {left store : Store} (found : ElementType) (element : Element) {key : String}
    (there : args.index < store.scopes.size) (around : store.parent? args = left.parent? args)
    (kept : (store.names args).contains key = (left.names args).contains key) :
    (scriptStore found store args element).Asks ⟨store.scopes.size⟩ args left key := by
  obtain ⟨names, here, builtins, own⟩ := store.argumentsHere (some args)
  obtain ⟨more, now, others⟩ := bindThisScope found element here
  have seen {key : String} {value : Value} (ordinary : key ≠ thisName)
      (bound : names.get? key = some value) :
      (scriptStore found store args element).read ⟨store.scopes.size⟩ key = .ok value := by
    refine Store.readFound (Store.lookupOwn ?_)
    unfold Store.names scriptStore
    rw [now]
    exact (others key ordinary).trans bound
  have apart : ScopeId.mk store.scopes.size ≠ args := fun same => Nat.ne_of_lt there (same ▸ rfl)
  have same : (scriptStore found store args element).scope? args = store.scope? args :=
    (bindThisOther found element _ apart).trans (Store.argumentsOlder (some args) there)
  refine ⟨seen (by decide) (own args rfl), seen (by decide) ?_, ?_, ?_⟩
  · rw [builtins _ (by decide)]
    exact Builtin.tableAt .isPresent
  · rw [← around, Store.parent?, same, Store.parent?]
  · rw [← kept, Store.names, same, Store.names]

end Build

-- Every scope for a script has a value under these names.
def AlwaysPresent (key : String) : Prop := key = "output" ∨ ∃ b : Builtin, b.name = key

theorem performsNothing (budget : Nat) (scope : ScopeId) (store : Store) :
    performed budget scope (.block []) store = [] := by
  cases budget with
  | zero => rfl
  | succ n => cases n <;> rfl

theorem argumentNames {store : Store} {enclosing : Option ScopeId} {key : String}
    (other : key ≠ Build.argsName) :
    ((store.arguments enclosing).names ⟨store.scopes.size⟩).contains key = true ↔
      ∃ b : Builtin, b.name = key := by
  obtain ⟨names, here, builtins, _⟩ := store.argumentsHere enclosing
  rw [← Builtin.tableContains]
  unfold Table.contains Store.names
  rw [here]
  exact (congrArg (fun found => found.isSome = true) (builtins key other)).to_iff

/-- Let a script compute the arguments of an instance. Inside of the instance, `isPresent` is true of a name
of the arguments just if the script has assigned to it or declared a function under it, outside of function
bodies, or the name is `output` or that of a built-in function. This holds wherever `args` and `isPresent`
are what they were when the script of an element began, as long as nobody else has put the name into the
arguments. -/
theorem isPresentTestsWhatWasBound {budget : Nat} {code : String} {enclosing : Option ScopeId}
    {state begun : BuildState} {args : ScopeId} (sound : state.Sound)
    (around : ∀ id ∈ enclosing, id.index < state.store.scopes.size)
    (resolves : Build.Resolves budget code enclosing state args begun) :
    ∃ tree flow, parseCode code = .ok tree ∧
      exec budget args tree (state.store.arguments enclosing) = .done flow begun.store ∧
      (∀ (library : Library) (t : Template) (origin script : String) (element : Element) (found : ElementType)
        (inner : Stmt) (met : BuildState), library.get? element.typeName = some found →
        element.script? = some script → parseCode script = .ok inner → met.Faithful →
        args.index < met.store.scopes.size → met.store.parent? args = begun.store.parent? args →
        ∃ scope started,
          (∀ key, (met.store.names args).contains key = (begun.store.names args).contains key →
            started.Asks scope args begun.store key) ∧
          (Build.specializeElement budget library t origin args element met).state?.map (·.store) =
            (exec budget scope inner started).state?) ∧
      (∀ (n : Nat) (scope : ScopeId) (current : Store) (key : String), 5 ≤ n → key ≠ Build.argsName →
        current.Asks scope args begun.store key →
        ∃ present, evalExpr n scope (.askFor key) current = .done (.bool present) current ∧
          (present = true ↔ AlwaysPresent key ∨
            key ∈ boundNames (performed budget args tree (state.store.arguments enclosing)))) ∧
      (code = "" → boundNames (performed budget args tree (state.store.arguments enclosing)) = []) := by
  obtain ⟨rfl, tree, flow, parsed, ran⟩ := resolves.runs sound.faithful
  obtain ⟨names, here, _, _⟩ := state.store.argumentsHere enclosing
  have added := (performing budget).stmt _ tree _ _ flow (Store.argumentsHidden sound.closed around)
    (Store.scopeInside here) ran
  have alone : begun.store.parent? ⟨state.store.scopes.size⟩ = none := by
    rw [added.parent, Store.parent?, here]
    rfl
  refine ⟨tree, flow, parsed, ran, ?_, ?_, ?_⟩
  · intro library t origin script element found inner met type own parsed faithful there same
    exact ⟨_, _, fun key kept => Build.scriptStoreAsks found element there same kept,
      Build.scriptRuns faithful own type parsed⟩
  · intro n scope current key enough other asks
    refine ⟨_, askReads asks enough, ?_⟩
    rw [askFinds asks alone, added.names, argumentNames other]
    unfold AlwaysPresent
    tauto
  · rintro rfl
    have only : OnlyComments "".toList := String.toList_empty ▸ .empty
    cases parsed.symm.trans only.parsed
    rw [performsNothing]
    rfl

-- The names that code binds when it is run for the arguments of an outermost instance.
def boundBy (code : String) : List String :=
  match parseCode code with
  | .ok tree => boundNames (performed 20 ⟨0⟩ tree (Store.empty.arguments none))
  | .error _ => []

def askingElement : Element :=
  ⟨"Register", Table.empty.insert Attributes.scriptKey (.str "this.Seen = isPresent(args.width);"), none⟩

theorem askingParsed : ∃ tree, parseCode "this.Seen = isPresent(args.width);" = .ok tree :=
  okOfToBool (by decide +kernel)

theorem fourWideResolved :
    ∃ args begun, Build.resolveArgs 20 (registers []) (some fourWide) none .empty = .done args begun := by
  have answer : (Build.resolveArgs 20 (registers []) (some fourWide) none .empty).answer?.map Except.isOk =
      some true := by decide +kernel
  cases ended : Build.resolveArgs 20 (registers []) (some fourWide) none .empty with
  | done args begun => exact ⟨args, begun, rfl⟩
  | failed e begun =>
    rw [ended] at answer
    cases answer
  | spent =>
    rw [ended] at answer
    cases answer

theorem widthIsPresent :
    ∃ args begun scope started, BuildState.empty.Sound ∧
      Build.Resolves 20 "width := 4;" none .empty args begun ∧ (∀ key, started.Asks scope args begun.store key) ∧
      evalExpr 5 scope (.askFor "width") started = .done (.bool true) started ∧
      evalExpr 5 scope (.askFor "height") started = .done (.bool false) started := by
  obtain ⟨args, begun, resolved⟩ := fourWideResolved
  have resolves : Build.Resolves 20 "width := 4;" none .empty args begun :=
    .onDemand rfl (by decide +kernel) resolved
  obtain ⟨tree, flow, parsed, _, inside, present, _⟩ := isPresentTestsWhatWasBound emptySound (by simp)
    resolves
  obtain ⟨rfl, _⟩ := resolves.runs BuildState.emptyFaithful
  have script : askingElement.script? = some "this.Seen = isPresent(args.width);" := by decide +kernel
  obtain ⟨sound, there⟩ := Build.soundArguments emptySound (by simp [fourWide]) (by simp) resolved
  obtain ⟨inner, asking⟩ := askingParsed
  obtain ⟨scope, started, asks, _⟩ := inside registerTypes (registers []) "" _ askingElement _ inner begun rfl
    script asking sound.faithful there rfl
  have bound : boundNames (performed 20 ⟨BuildState.empty.store.scopes.size⟩ tree
      (BuildState.empty.store.arguments none)) = ["width"] := by
    have bound : boundBy "width := 4;" = ["width"] := by decide +kernel
    unfold boundBy at bound
    rw [parsed] at bound
    exact bound
  obtain ⟨width, asked, found⟩ := present 5 scope started "width" (Nat.le_refl 5) (by decide) (asks _ rfl)
  obtain ⟨height, asked', found'⟩ := present 5 scope started "height" (Nat.le_refl 5) (by decide) (asks _ rfl)
  rw [bound] at found found'
  have yes : width = true := found.mpr (.inr (List.mem_singleton_self _))
  have no : height = false := by
    refine Bool.eq_false_iff.mpr fun present => ?_
    rcases found'.mp present with (same | ⟨b, same⟩) | member
    · exact absurd same (by decide)
    · revert same
      cases b <;> decide
    · exact absurd member (by decide)
  exact ⟨_, begun, scope, started, emptySound, resolves, fun key => asks key rfl, yes ▸ asked, no ▸ asked'⟩

-- What the last script has seen, in an instance with empty arguments.
def seenLast (scripts : List String) : Option Bool :=
  let placing : Element := ⟨"pair.dig", Table.empty.insert Attributes.scriptKey (.str ""), none⟩
  match Build.instantiate 20 registerTypes 1 none "" (registers scripts) (some placing) none .empty with
  | .done model _ => model.nodes.getLast?.map fun node => Attributes.flag node.attributes "Seen"
  | _ => none

theorem isPresentOfUnboundNames :
    boundBy "" = [] ∧ seenLast ["this.Seen = isPresent(args.width);"] = some false ∧
    seenLast ["this.Seen = isPresent(args.max);"] = some true ∧
    seenLast ["this.Seen = isPresent(args.output);"] = some true ∧
    seenLast ["args.width = 8;", "this.Seen = isPresent(args.width);"] = some true :=
  ⟨by decide +kernel, by decide +kernel, by decide +kernel, by decide +kernel, by decide +kernel⟩

end CircuitScript
