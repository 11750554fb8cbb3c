import CircuitScript.CommandLine
import CircuitScript.Proofs.Run
import CircuitScript.Proofs.Scopes

/-! Which names a run can rebind. In a store where no scope is held as a value, a statement rebinds names
of the scope it runs in and of no older one, an expression those of no older scope at all. -/
namespace CircuitScript

def Store.NoScopeValues (store : Store) : Prop := store.Within fun _ => False

def Value.NoScope (value : Value) : Prop := value.Within fun _ => False

/-- What a run begun in `start` with `store` has left alone when it comes to a moment. The scopes of its
own calls are all younger than `store`. -/
structure Kept (allowed : ScopeId → Prop) (assigns : Bool) (start : ScopeId) (store : Store)
    (moment : Moment) : Prop where
  grown : store.scopes.size ≤ moment.store.scopes.size
  younger : ∀ frame ∈ moment.frames, store.scopes.size ≤ frame.index
  names : ∀ id : ScopeId, id.index < store.scopes.size → ¬allowed id → (assigns = true → id ≠ start) →
    moment.store.names id = store.names id
  parents : ∀ id : ScopeId, id.index < store.scopes.size → moment.store.parent? id = store.parent? id

variable {allowed : ScopeId → Prop} {assigns : Bool} {start : ScopeId} {store final : Store} {budget : Nat}

theorem Kept.move {m m' : Moment} (kept : Kept allowed assigns start store m)
    (move : Move allowed assigns start m m') : Kept allowed assigns start store m' := by
  cases move with
  | change frames made =>
    have same := made.scopes
    refine ⟨?_, kept.younger, fun id old hidden apart => ?_, fun id old => ?_⟩
    · rw [same]
      exact kept.grown
    · unfold Store.names Store.scope?
      rw [same]
      exact kept.names id old hidden apart
    · unfold Store.parent? Store.scope?
      rw [same]
      exact kept.parents id old
  | bind frames current name value own good =>
    refine ⟨?_, kept.younger, fun id old hidden apart => ?_, fun id old => ?_⟩
    · unfold Store.bind
      rw [Store.countUpdated]
      exact kept.grown
    · rw [Store.namesBound, kept.names id old hidden apart]
      -- The scope written to is the one the run started in, or that of a call and so too young.
      cases frames with
      | nil => exact apart (own.resolve_right fun h => h rfl)
      | cons frame frames =>
        have young := kept.younger frame List.mem_cons_self
        rintro rfl
        exact absurd old (Nat.not_lt.mpr young)
    · rw [Store.parentBound]
      exact kept.parents id old
  | bindIn frames current target name value held good =>
    refine ⟨?_, kept.younger, fun id old hidden apart => ?_, fun id old => ?_⟩
    · unfold Store.bind
      rw [Store.countUpdated]
      exact kept.grown
    · rw [Store.namesBound, kept.names id old hidden apart]
      rintro rfl
      exact hidden held
    · rw [Store.parentBound]
      exact kept.parents id old
  | print frames current text =>
    refine ⟨?_, kept.younger, fun id old hidden apart => ?_, fun id old => ?_⟩
    · unfold Store.print
      rw [Store.countUpdated]
      exact kept.grown
    · rw [Store.namesPrinted]
      exact kept.names id old hidden apart
    · rw [Store.parentPrinted]
      exact kept.parents id old
  | enter frames current id closure found =>
    refine ⟨?_, fun frame member => ?_, fun id old hidden apart => ?_, fun id old => ?_⟩
    · unfold Store.newFrame
      rw [Store.countAdded]
      exact Nat.le_succ_of_le kept.grown
    · rcases List.mem_cons.mp member with rfl | before
      · exact kept.grown
      · exact kept.younger frame before
    · unfold Store.newFrame
      rw [Store.namesOlder _ _ _ (Nat.lt_of_lt_of_le old kept.grown)]
      exact kept.names id old hidden apart
    · unfold Store.newFrame
      rw [Store.parentAdded, if_neg (Nat.ne_of_lt (Nat.lt_of_lt_of_le old kept.grown))]
      exact kept.parents id old
  | leave frame frames current =>
    exact ⟨kept.grown, fun f member => kept.younger f (List.mem_cons_of_mem _ member), kept.names,
      kept.parents⟩

theorem keptByRun {m : Moment} (passes : Passes allowed assigns start ⟨[], store⟩ m) :
    Kept allowed assigns start store m := by
  induction passes with
  | refl => exact ⟨Nat.le_refl _, by simp, fun _ _ _ _ => rfl, fun _ _ => rfl⟩
  | tail before move ih => exact ih.move move

theorem Follows.keeps {α : Type} {good : α → Prop} {x : Eval α}
    (follows : Follows (fun _ => False) assigns start good x) (plain : store.NoScopeValues)
    (ended : (x store).state? = some final) :
    final.NoScopeValues ∧ ∀ id : ScopeId, id.index < store.scopes.size →
      (assigns = true → id ≠ start) → final.names id = store.names id := by
  have passes : Passes (fun _ => False) assigns start ⟨[], store⟩ ⟨[], final⟩ := follows.ended plain ended
  exact ⟨passesWithin passes plain, fun id old => (keptByRun passes).names id old not_false⟩

theorem followsCallValues (f : FunctionId) {args : List Value} (held : ∀ value ∈ args, value.Within allowed) :
    Follows allowed false start (Value.Within allowed) (callValues budget start f args) :=
  (Upkeep.Upholds.checkArity f _).bind fun _ _ => followsInvoke allowed start budget f held

theorem builtinsWithin (builtins : List Builtin) :
    ∀ binding ∈ builtins.map fun b => (b.name, Value.func (.builtin b)),
      binding.2.Within allowed := by
  intro binding member
  obtain ⟨b, _, rfl⟩ := List.mem_map.mp member
  trivial

theorem emptyWithin (allowed : ScopeId → Prop) : Store.empty.Within allowed :=
  ⟨fun i _ found => by simp [Store.empty] at found, fun i _ found => by simp [Store.empty] at found,
    fun i _ found => by simp [Store.empty] at found⟩

theorem freshRootWithin (within : store.Within allowed) :
    (store.newRoot.2.installStandard store.newRoot.1).Within allowed :=
  ((within.holds.newScope builtinWithin none (.own "")).bindAll _
    (builtinsWithin Builtin.standard)).within

theorem runInPlain {scope : ScopeId} {template : Bool} {source : String}
    (plain : store.NoScopeValues)
    (ended : (Script.runIn budget scope template source store).state? = some final) :
    final.NoScopeValues := by
  unfold Script.runIn at ended
  simp only [Action.bindApply] at ended
  cases parsed : (if template then parseTemplate source else parseCode source) with
  | error e =>
    rw [parsed] at ended
    cases ended
    exact plain
  | ok tree =>
    rw [parsed] at ended
    refine ((followsStmt _ scope budget tree).keeps plain ?_).1
    change (Action.mapError ScriptError.eval (Script.run budget scope tree) store).state? = _ at ended
    unfold Action.mapError Script.run at ended
    rw [Action.bindApply] at ended
    cases outcome : exec budget scope tree store with
    | done flow last =>
      rw [outcome] at ended
      exact ended
    | failed e last =>
      rw [outcome] at ended
      exact ended
    | spent =>
      rw [outcome] at ended
      cases ended

theorem runFreshPlain {source : String}
    (ended : (Script.runFresh budget source .empty).state? = some final) : final.NoScopeValues := by
  unfold Script.runFresh at ended
  simp only [Action.bindApply, Script.freshRoot, Action.modifyGet] at ended
  have begun := freshRootWithin (emptyWithin fun _ => False)
  cases outcome : Script.runIn budget Store.empty.newRoot.1 false source
      (Store.empty.newRoot.2.installStandard Store.empty.newRoot.1) with
  | done u last =>
    rw [outcome] at ended
    cases ended
    exact runInPlain begun (congrArg Outcome.state? outcome)
  | failed e last =>
    rw [outcome] at ended
    cases ended
    exact runInPlain begun (congrArg Outcome.state? outcome)
  | spent =>
    rw [outcome] at ended
    cases ended

-- The store in which a command line runs its sources, and their scope.
def Config.prepared (config : Config) : ScopeId × Store :=
  (Store.empty.newRoot.1, (Store.empty.newRoot.2.installStandard Store.empty.newRoot.1).bindAll
    Store.empty.newRoot.1 (bindDefinitions config.definitions))

theorem preparedPlain (config : Config) : config.prepared.2.NoScopeValues := by
  refine ((freshRootWithin (emptyWithin _)).holds.bindAll _ fun binding member => ?_).within
  obtain ⟨definition, _, rfl⟩ := List.mem_map.mp member
  trivial

theorem runSourcesPlain {scope : ScopeId} {sources : List (Source × Bool)}
    (plain : store.NoScopeValues)
    (ended : CommandLine.runSources budget scope sources store = .ok final) :
    final.NoScopeValues := by
  induction sources generalizing store with
  | nil =>
    cases ended
    exact plain
  | cons first rest ih =>
    obtain ⟨source, template⟩ := first
    simp only [CommandLine.runSources] at ended
    cases outcome : Script.runIn budget scope template source.text store with
    | done u middle =>
      rw [outcome] at ended
      exact ih (runInPlain plain (congrArg Outcome.state? outcome)) ended
    | failed e middle =>
      rw [outcome] at ended
      cases ended
    | spent =>
      rw [outcome] at ended
      cases ended

theorem executeRuns (config : Config) (prelude : Option Source) (source : Source) :
    CommandLine.execute budget config prelude source =
      (CommandLine.runSources budget config.prepared.1
        ((prelude.map fun p => (p, false)).toList ++ [(source, config.template)])
        config.prepared.2).map fun final => final.outputText config.prepared.1 := rfl

theorem runsRebindOnlyTheirOwnScope (budget : Nat) :
    (∀ store : Store, store.NoScopeValues → ∀ ctx : ScopeId,
      (∀ (stmt : Stmt) (final : Store), (exec budget ctx stmt store).state? = some final →
        final.NoScopeValues ∧ ∀ id : ScopeId, id.index < store.scopes.size → id ≠ ctx →
          final.names id = store.names id) ∧
      (∀ (e : Expr) (final : Store), (evalExpr budget ctx e store).state? = some final →
        final.NoScopeValues ∧ ∀ id : ScopeId, id.index < store.scopes.size →
          final.names id = store.names id) ∧
      (∀ (f : FunctionId) (args : List Value) (final : Store), (∀ value ∈ args, value.NoScope) →
        (callValues budget ctx f args store).state? = some final →
        final.NoScopeValues ∧ ∀ id : ScopeId, id.index < store.scopes.size →
          final.names id = store.names id)) ∧
    (∀ (source : String) (final : Store),
      (Script.runFresh budget source .empty).state? = some final → final.NoScopeValues) ∧
    (∀ (config : Config) (prelude : Option Source) (source : Source) (text : String),
      CommandLine.execute budget config prelude source = .ok text →
      ∃ final : Store, final.NoScopeValues ∧ text = final.outputText config.prepared.1 ∧
        CommandLine.runSources budget config.prepared.1
          ((prelude.map fun p => (p, false)).toList ++ [(source, config.template)])
          config.prepared.2 = .ok final) := by
  refine ⟨fun store plain ctx => ⟨?_, ?_, ?_⟩, fun source final => runFreshPlain, ?_⟩
  · intro stmt final ended
    obtain ⟨later, names⟩ := (followsStmt _ ctx budget stmt).keeps plain ended
    exact ⟨later, fun id old apart => names id old fun _ => apart⟩
  · intro e final ended
    obtain ⟨later, names⟩ := (followsExpr _ ctx budget e).keeps plain ended
    exact ⟨later, fun id old => names id old nofun⟩
  · intro f args final held ended
    obtain ⟨later, names⟩ := (followsCallValues f held).keeps plain ended
    exact ⟨later, fun id old => names id old nofun⟩
  · intro config prelude source text ok
    rw [executeRuns] at ok
    cases ended : CommandLine.runSources budget config.prepared.1
        ((prelude.map fun p => (p, false)).toList ++ [(source, config.template)])
        config.prepared.2 with
    | error e =>
      rw [ended] at ok
      cases ok
    | ok final =>
      rw [ended] at ok
      cases ok
      exact ⟨final, runSourcesPlain (preparedPlain config) ended, rfl, rfl⟩

-- A function defined in scope 0, which binds `x` to 1; scope 1 inside it can call the function.
def callingStore (body : Stmt) : Store :=
  let outer := Store.empty.newRoot.2.bind ⟨0⟩ "x" (.int 1)
  let defined := (outer.newClosure ⟨"f", [], body, ⟨0⟩⟩).2
  (defined.newChild ⟨0⟩).2.bind ⟨1⟩ "f" (.func (.closure ⟨0⟩))

theorem callingStorePlain (body : Stmt) : (callingStore body).NoScopeValues := by
  have root := (emptyWithin fun _ => False).holds.newScope builtinWithin none (.own "")
  have outer := root.bind ⟨0⟩ "x" (scalarWithin (.int 1))
  have inner := (outer.newClosure ⟨"f", [], body, ⟨0⟩⟩).newScope builtinWithin (some ⟨0⟩) (.own "")
  have held : (Value.func (.closure ⟨0⟩)).NoScope := trivial
  exact (inner.bind ⟨1⟩ "f" held).within

theorem callKeepsTheDefinersName :
    let body : Stmt := .block [.assign (.var "x") (.literal (.int 2)), .ret (.ref (.var "x"))]
    let call : Expr := .call (.ref (.var "f")) []
    (callingStore body).NoScopeValues ∧
    (∃ final : Store, (exec 12 ⟨1⟩ (.assign (.var "y") call) (callingStore body)).state? = some final ∧
      final.names ⟨0⟩ = (callingStore body).names ⟨0⟩) ∧
    (∃ final : Store, (evalExpr 12 ⟨1⟩ call (callingStore body)).state? = some final ∧
      final.names ⟨1⟩ = (callingStore body).names ⟨1⟩) ∧
    (∃ final : Store,
      (callValues 12 ⟨1⟩ (.closure ⟨0⟩) [] (callingStore body)).state? = some final ∧
      final.names ⟨0⟩ = (callingStore body).names ⟨0⟩) ∧
    ∃ final : Store, (Script.runFresh 12 "x := 1;" .empty).state? = some final ∧
      final.NoScopeValues := by
  intro body call
  obtain ⟨kept, fresh, _⟩ := runsRebindOnlyTheirOwnScope 12
  obtain ⟨stmt, expr, calls⟩ := kept (callingStore body) (callingStorePlain body) ⟨1⟩
  refine ⟨callingStorePlain body, ?_, ?_, ?_, ?_⟩
  · obtain ⟨final, ended⟩ := Option.isSome_iff_exists.mp (by decide +kernel :
      (exec 12 ⟨1⟩ (.assign (.var "y") call) (callingStore body)).state?.isSome = true)
    exact ⟨final, ended, (stmt _ final ended).2 ⟨0⟩ (by decide +kernel) (by decide)⟩
  · obtain ⟨final, ended⟩ := Option.isSome_iff_exists.mp (by decide +kernel :
      (evalExpr 12 ⟨1⟩ call (callingStore body)).state?.isSome = true)
    exact ⟨final, ended, (expr _ final ended).2 ⟨1⟩ (by decide +kernel)⟩
  · obtain ⟨final, ended⟩ := Option.isSome_iff_exists.mp (by decide +kernel :
      (callValues 12 ⟨1⟩ (.closure ⟨0⟩) [] (callingStore body)).state?.isSome = true)
    exact ⟨final, ended, (calls _ [] final (by simp) ended).2 ⟨0⟩ (by decide +kernel)⟩
  · obtain ⟨final, ended⟩ := Option.isSome_iff_exists.mp (by decide +kernel :
      (Script.runFresh 12 "x := 1;" .empty).state?.isSome = true)
    exact ⟨final, ended, fresh _ final ended⟩

end CircuitScript
