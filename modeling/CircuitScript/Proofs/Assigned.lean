import CircuitScript.Proofs.Bindings
import CircuitScript.Proofs.Lookup

/-! The names that a run binds in its own scope. Where no value leads back to this scope, they are the names
of the assignments and function declarations that the run performs there, whatever else it evaluates and
calls. -/
namespace CircuitScript

/-- The name that the statement binds in the scope it is performed in. -/
def Stmt.boundName : Stmt → Option String
  | .assign target _ => target.boundName
  | .compound target _ _ => target.boundName
  | .func name _ _ => some name
  | _ => none

-- What comes after a computation, if it ends normally.
def Outcome.after {σ ε α β : Type} (outcome : Outcome σ ε α) (rest : α → σ → List β) : List β :=
  match outcome with
  | .done a state => rest a state
  | _ => []

theorem Outcome.afterDone {σ ε α β : Type} {outcome : Outcome σ ε α} {a : α} {state : σ}
    (ended : outcome = .done a state) (rest : α → σ → List β) : outcome.after rest = rest a state := by
  rw [ended]
  rfl

mutual

/-- The statements that a run performs in its own scope, one after the other. Loops and branches are replaced
by what they lead to; what is done inside of calls is left out. -/
def performed : Nat → ScopeId → Stmt → Store → List Stmt
  | 0, _, _, _ => []
  | n + 1, scope, stmt, store =>
    match stmt with
    | .block body => performedAll n scope body store
    | .ifThen condition yes no =>
      (evalCondition n scope condition store).after fun holds store =>
        if holds then performed n scope yes store
        else
          match no with
          | some stmt => performed n scope stmt store
          | none => []
    | .whileDo condition body =>
      (evalCondition n scope condition store).after fun holds store =>
        if holds then
          performed n scope body store ++ (exec n scope body store).after fun flow store =>
            match flow with
            | .returned _ => []
            | .next => performed n scope (.whileDo condition body) store
        else []
    | .repeatUntil body condition =>
      performed n scope body store ++ (exec n scope body store).after fun flow store =>
        match flow with
        | .returned _ => []
        | .next =>
          (evalCondition n scope condition store).after fun holds store =>
            if holds then [] else performed n scope (.repeatUntil body condition) store
    | .forLoop first condition step body =>
      performed n scope first store ++ (exec n scope first store).after fun _ store =>
        performedFor n scope condition step body store
    | single => [single]

def performedAll : Nat → ScopeId → List Stmt → Store → List Stmt
  | 0, _, _, _ => []
  | _ + 1, _, [], _ => []
  | n + 1, scope, stmt :: rest, store =>
    performed n scope stmt store ++ (exec n scope stmt store).after fun flow store =>
      match flow with
      | .returned _ => []
      | .next => performedAll n scope rest store

def performedFor : Nat → ScopeId → Expr → Stmt → Stmt → Store → List Stmt
  | 0, _, _, _, _, _ => []
  | n + 1, scope, condition, step, body, store =>
    (evalCondition n scope condition store).after fun holds store =>
      if holds then
        performed n scope body store ++ (exec n scope body store).after fun flow store =>
          match flow with
          | .returned _ => []
          | .next =>
            performed n scope step store ++ (exec n scope step store).after fun _ store =>
              performedFor n scope condition step body store
      else []

end

def boundNames (stmts : List Stmt) : List String := stmts.filterMap Stmt.boundName

theorem boundAppend (first second : List Stmt) :
    boundNames (first ++ second) = boundNames first ++ boundNames second := List.filterMap_append

variable {scope : ScopeId} {store middle final : Store} {n : Nat}

/-- On the way from the first store to the second, the scope has got some names more. No value leads to it. -/
structure Store.Adds (scope : ScopeId) (names : List String) (store final : Store) : Prop where
  hidden : final.Within (· ≠ scope)
  there : scope.index < final.scopes.size
  parent : final.parent? scope = store.parent? scope
  names : ∀ key, (final.names scope).contains key = true ↔
    (store.names scope).contains key = true ∨ key ∈ names

namespace Store.Adds

theorem trans {first second : List String} (before : store.Adds scope first middle)
    (after : middle.Adds scope second final) : store.Adds scope (first ++ second) final := by
  refine ⟨after.hidden, after.there, after.parent.trans before.parent, fun key => ?_⟩
  rw [after.names, before.names, List.mem_append, or_assoc]

theorem refl (hidden : store.Within (· ≠ scope)) (there : scope.index < store.scopes.size) :
    store.Adds scope [] store :=
  ⟨hidden, there, rfl, fun key => by simp⟩

theorem bind (hidden : store.Within (· ≠ scope)) (there : scope.index < store.scopes.size) (name : String)
    {value : Value} (held : value.Within (· ≠ scope)) :
    store.Adds scope [name] (store.bind scope name value) := by
  refine ⟨(hidden.holds.bind scope name held).within, ?_, parentBound _ _ _ _ _, fun key => ?_⟩
  · unfold Store.bind
    rwa [countUpdated]
  · rw [namesBoundHere there, Table.contains, Table.getInsert, List.mem_singleton]
    split
    · rename_i same
      simp [same]
    · rename_i apart
      simp [Table.contains, Ne.symm apart]

theorem nothing {α : Type} {good : α → Prop} {x : Eval α} {a : α}
    (follows : Follows (· ≠ scope) false scope good x) (hidden : store.Within (· ≠ scope))
    (there : scope.index < store.scopes.size) (ended : x store = .done a final) :
    store.Adds scope [] final ∧ good a := by
  have run := follows store hidden
  rw [ended] at run
  have kept := keptByRun run.1
  refine ⟨⟨passesWithin run.1 hidden, Nat.lt_of_lt_of_le there kept.grown, kept.parents scope there,
    fun key => ?_⟩, run.2⟩
  rw [show final.names scope = store.names scope from kept.names scope there (fun h => h rfl) nofun]
  simp

end Store.Adds

theorem writeAdds {r : Reference} {value : Value} {u : Unit} (hidden : store.Within (· ≠ scope))
    (there : scope.index < store.scopes.size) (held : value.Within (· ≠ scope))
    (ended : writeReference n scope r value store = .done u final) :
    store.Adds scope r.boundName.toList final := by
  have apart (quiet : r.boundName = none) : store.Adds scope [] final :=
    (Store.Adds.nothing ((following (· ≠ scope)).writeRef n rfl (.inr trivial) (.inr quiet) held) hidden there ended).1
  cases r with
  | var name =>
    cases n with
    | zero => cases ended
    | succ n =>
      cases ended
      exact .bind hidden there name held
  | index parent position => exact apart rfl
  | field parent key => exact apart rfl

structure Performing (n : Nat) : Prop where
  stmt : ∀ (scope : ScopeId) (stmt : Stmt) (store final : Store) (flow : Flow),
    store.Within (· ≠ scope) → scope.index < store.scopes.size →
    exec n scope stmt store = .done flow final →
    store.Adds scope (boundNames (performed n scope stmt store)) final
  stmts : ∀ (scope : ScopeId) (stmts : List Stmt) (store final : Store) (flow : Flow),
    store.Within (· ≠ scope) → scope.index < store.scopes.size →
    execAll n scope stmts store = .done flow final →
    store.Adds scope (boundNames (performedAll n scope stmts store)) final
  loop : ∀ (scope : ScopeId) (condition : Expr) (step body : Stmt) (store final : Store) (flow : Flow),
    store.Within (· ≠ scope) → scope.index < store.scopes.size →
    execFor n scope condition step body store = .done flow final →
    store.Adds scope (boundNames (performedFor n scope condition step body store)) final

theorem boundSingle (stmt : Stmt) : boundNames [stmt] = stmt.boundName.toList := by
  cases named : stmt.boundName <;> simp [boundNames, named]

theorem quietStmt {stmt : Stmt} (quiet : (Part.stmt stmt).Quiet) {flow : Flow}
    (hidden : store.Within (· ≠ scope)) (there : scope.index < store.scopes.size)
    (ended : exec (n + 1) scope stmt store = .done flow final) :
    store.Adds scope (boundNames (performed (n + 1) scope stmt store)) final := by
  have nothing := (Store.Adds.nothing (followsQuiet _ scope (n + 1) quiet) hidden there ended).1
  cases stmt with
  | block | ifThen | whileDo | repeatUntil | forLoop | func => exact quiet.elim
  | assign target e | compound target op e =>
    rw [show performed (n + 1) scope _ store = [_] from rfl, boundSingle, Stmt.boundName,
      show target.boundName = none from quiet]
    exact nothing
  | _ => exact nothing

namespace Performing

variable (below : Performing n)
include below

theorem branchNext (hidden : store.Within (· ≠ scope)) (there : scope.index < store.scopes.size)
    {condition : Expr} {yes : Stmt} {no : Option Stmt} {flow : Flow}
    (ended : exec (n + 1) scope (.ifThen condition yes no) store = .done flow final) :
    store.Adds scope (boundNames (performed (n + 1) scope (.ifThen condition yes no) store)) final := by
  obtain ⟨holds, s₁, tested, ended⟩ := Action.bindDone ended
  have quiet := (Store.Adds.nothing (followsCondition _ scope n condition) hidden there tested).1
  rw [performed, Outcome.afterDone tested]
  cases holds with
  | true => exact quiet.trans (below.stmt scope yes s₁ final flow quiet.hidden quiet.there ended)
  | false =>
    cases no with
    | some stmt => exact quiet.trans (below.stmt scope stmt s₁ final flow quiet.hidden quiet.there ended)
    | none =>
      cases ended
      exact quiet

theorem whileNext (hidden : store.Within (· ≠ scope)) (there : scope.index < store.scopes.size)
    {condition : Expr} {body : Stmt} {flow : Flow}
    (ended : exec (n + 1) scope (.whileDo condition body) store = .done flow final) :
    store.Adds scope (boundNames (performed (n + 1) scope (.whileDo condition body) store)) final := by
  obtain ⟨holds, s₁, tested, ended⟩ := Action.bindDone ended
  have quiet := (Store.Adds.nothing (followsCondition _ scope n condition) hidden there tested).1
  rw [performed, Outcome.afterDone tested]
  cases holds with
  | false =>
    cases ended
    exact quiet
  | true =>
    obtain ⟨flow', s₂, ran, ended⟩ := Action.bindDone ended
    have round := quiet.trans (below.stmt scope body s₁ s₂ flow' quiet.hidden quiet.there ran)
    show store.Adds scope (boundNames (_ ++ (exec n scope body s₁).after _)) final
    rw [boundAppend, Outcome.afterDone ran]
    cases flow' with
    | returned value =>
      cases ended
      exact round.trans (.refl round.hidden round.there)
    | next => exact round.trans (below.stmt scope _ s₂ final flow round.hidden round.there ended)

theorem repeatNext (hidden : store.Within (· ≠ scope)) (there : scope.index < store.scopes.size)
    {condition : Expr} {body : Stmt} {flow : Flow}
    (ended : exec (n + 1) scope (.repeatUntil body condition) store = .done flow final) :
    store.Adds scope (boundNames (performed (n + 1) scope (.repeatUntil body condition) store)) final := by
  obtain ⟨flow', s₁, ran, ended⟩ := Action.bindDone ended
  have round := below.stmt scope body store s₁ flow' hidden there ran
  rw [performed, boundAppend, Outcome.afterDone ran]
  cases flow' with
  | returned value =>
    cases ended
    exact round.trans (.refl round.hidden round.there)
  | next =>
    obtain ⟨holds, s₂, tested, ended⟩ := Action.bindDone ended
    have quiet := (Store.Adds.nothing (followsCondition _ scope n condition) round.hidden round.there
      tested).1
    show store.Adds scope (_ ++ boundNames ((evalCondition n scope condition s₁).after _)) final
    rw [Outcome.afterDone tested]
    cases holds with
    | true =>
      cases ended
      exact round.trans quiet
    | false =>
      exact round.trans (quiet.trans (below.stmt scope _ s₂ final flow quiet.hidden quiet.there ended))

theorem stmtNext (hidden : store.Within (· ≠ scope)) (there : scope.index < store.scopes.size)
    {stmt : Stmt} {flow : Flow} (ended : exec (n + 1) scope stmt store = .done flow final) :
    store.Adds scope (boundNames (performed (n + 1) scope stmt store)) final := by
  cases stmt with
  | block body => exact below.stmts scope body store final flow hidden there ended
  | assign target e =>
    obtain ⟨value, s₁, evaluated, ended⟩ := Action.bindDone ended
    obtain ⟨u, s₂, written, ended⟩ := Action.bindDone ended
    cases ended
    obtain ⟨quiet, held⟩ := Store.Adds.nothing (followsExpr _ scope n e) hidden there evaluated
    show store.Adds scope (boundNames [_]) final
    rw [boundSingle]
    exact quiet.trans (writeAdds quiet.hidden quiet.there held written)
  | compound target op e =>
    obtain ⟨current, s₁, seen, ended⟩ := Action.bindDone ended
    obtain ⟨operand, s₂, evaluated, ended⟩ := Action.bindDone ended
    obtain ⟨value, s₃, applied, ended⟩ := Action.bindDone ended
    obtain ⟨u, s₄, written, ended⟩ := Action.bindDone ended
    cases ended
    have first := (Store.Adds.nothing (followsReference _ scope n target) hidden there seen).1
    have second := (Store.Adds.nothing (followsExpr _ scope n e) first.hidden first.there evaluated).1
    obtain ⟨third, held⟩ := Store.Adds.nothing (.applyBinary op current operand) second.hidden second.there applied
    have quiet := (first.trans second).trans third
    show store.Adds scope (boundNames [_]) final
    rw [boundSingle]
    exact quiet.trans (writeAdds quiet.hidden quiet.there held written)
  | ifThen condition yes no => exact below.branchNext hidden there ended
  | whileDo condition body => exact below.whileNext hidden there ended
  | repeatUntil body condition => exact below.repeatNext hidden there ended
  | forLoop first condition step body =>
    obtain ⟨flow', s₁, ran, ended⟩ := Action.bindDone ended
    have begun := below.stmt scope first store s₁ flow' hidden there ran
    rw [performed, boundAppend, Outcome.afterDone ran]
    exact begun.trans (below.loop scope condition step body s₁ final flow begun.hidden begun.there ended)
  | func name params body =>
    obtain ⟨value, s₁, made, ended⟩ := Action.bindDone ended
    cases ended
    obtain ⟨quiet, held⟩ := Store.Adds.nothing (.newClosure name params rfl trivial) hidden there made
    exact quiet.trans (.bind quiet.hidden quiet.there name held)
  | ret | print | printf | fail | text | expr => exact quietStmt trivial hidden there ended

theorem stmtsNext (hidden : store.Within (· ≠ scope)) (there : scope.index < store.scopes.size)
    {stmts : List Stmt} {flow : Flow} (ended : execAll (n + 1) scope stmts store = .done flow final) :
    store.Adds scope (boundNames (performedAll (n + 1) scope stmts store)) final := by
  cases stmts with
  | nil =>
    cases ended
    exact .refl hidden there
  | cons stmt rest =>
    obtain ⟨flow', s₁, ran, ended⟩ := Action.bindDone ended
    have first := below.stmt scope stmt store s₁ flow' hidden there ran
    rw [performedAll, boundAppend, Outcome.afterDone ran]
    cases flow' with
    | returned value =>
      cases ended
      exact first.trans (.refl first.hidden first.there)
    | next => exact first.trans (below.stmts scope rest s₁ final flow first.hidden first.there ended)

theorem loopNext (hidden : store.Within (· ≠ scope)) (there : scope.index < store.scopes.size)
    {condition : Expr} {step body : Stmt} {flow : Flow}
    (ended : execFor (n + 1) scope condition step body store = .done flow final) :
    store.Adds scope (boundNames (performedFor (n + 1) scope condition step body store)) final := by
  obtain ⟨holds, s₁, tested, ended⟩ := Action.bindDone ended
  have quiet := (Store.Adds.nothing (followsCondition _ scope n condition) hidden there tested).1
  rw [performedFor, Outcome.afterDone tested]
  cases holds with
  | false =>
    cases ended
    exact quiet
  | true =>
    obtain ⟨flow', s₂, ran, ended⟩ := Action.bindDone ended
    have round := quiet.trans (below.stmt scope body s₁ s₂ flow' quiet.hidden quiet.there ran)
    show store.Adds scope (boundNames (_ ++ (exec n scope body s₁).after _)) final
    rw [boundAppend, Outcome.afterDone ran]
    cases flow' with
    | returned value =>
      cases ended
      exact round.trans (.refl round.hidden round.there)
    | next =>
      obtain ⟨passed, s₃, stepped, ended⟩ := Action.bindDone ended
      have step' := below.stmt scope step s₂ s₃ passed round.hidden round.there stepped
      show store.Adds scope (_ ++ boundNames (_ ++ (exec n scope step s₂).after _)) final
      rw [boundAppend, Outcome.afterDone stepped]
      exact round.trans
        (step'.trans (below.loop scope condition step body s₃ final flow step'.hidden step'.there ended))

theorem next : Performing (n + 1) where
  stmt _ _ _ _ _ hidden there ended := below.stmtNext hidden there ended
  stmts _ _ _ _ _ hidden there ended := below.stmtsNext hidden there ended
  loop _ _ _ _ _ _ _ hidden there ended := below.loopNext hidden there ended

end Performing

theorem performing (n : Nat) : Performing n := by
  induction n with
  | zero => exact ⟨fun _ _ _ _ _ _ _ ended => (by cases ended), fun _ _ _ _ _ _ _ ended => (by cases ended),
      fun _ _ _ _ _ _ _ _ _ ended => (by cases ended)⟩
  | succ n below => exact below.next

end CircuitScript
