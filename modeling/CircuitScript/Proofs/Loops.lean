import CircuitScript.Proofs.Budget
import CircuitScript.Proofs.WellRun

/-! Loops told by `while`. A counting loop and a loop that tests at its end come to what a block with a `while`
in it comes to, and braces around statements in a row make no difference. -/
namespace CircuitScript

open CircuitScript.Action (Extends)

/-- Whatever the one statement comes to, normally, by a return or by failing, the other comes to with some budget
as well, and the store is left the same. -/
def Stmt.BehavesAs (a b : Stmt) : Prop :=
  ∀ (scope : ScopeId) (store : Store) (outcome : Outcome Store EvalError Flow), outcome ≠ .spent →
    ((∃ n, exec n scope a store = outcome) ↔ ∃ n, exec n scope b store = outcome)

/-- Runs of the one statement are runs of the other, with a budget that is larger by a fixed amount. -/
def Stmt.Covered (a b : Stmt) (more : Nat) : Prop := ∀ n scope, Extends (exec n scope a) (exec (n + more) scope b)

theorem Stmt.Covered.run {a b : Stmt} {more : Nat} (covered : a.Covered b more) {n : Nat} {scope : ScopeId}
    {store : Store} (ended : exec n scope a store ≠ .spent) :
    exec (n + more) scope b store = exec n scope a store :=
  ((covered n scope store).resolve_left ended).symm

theorem Stmt.behavesAs {a b : Stmt} {more less : Nat} (there : a.Covered b more) (back : b.Covered a less) :
    a.BehavesAs b := by
  intro scope store outcome ended
  constructor
  · rintro ⟨n, rfl⟩
    exact ⟨n + more, there.run ended⟩
  · rintro ⟨n, rfl⟩
    exact ⟨n + less, back.run ended⟩

namespace Eval

/-- The second computation behind the first, unless that returns. -/
def followedBy (first rest : Eval Flow) : Eval Flow := do
  match ← first with
  | .returned value => pure (.returned value)
  | .next => rest

theorem followedByAssoc (a b c : Eval Flow) : (a.followedBy b).followedBy c = a.followedBy (b.followedBy c) := by
  funext store
  unfold followedBy
  simp only [Action.bindApply]
  cases a store with
  | done flow middle => cases flow <;> rfl
  | failed e middle => rfl
  | spent => rfl

theorem followedByNext (a : Eval Flow) : a.followedBy (pure .next) = a := by
  funext store
  unfold followedBy
  rw [Action.bindApply]
  cases a store with
  | done flow middle => cases flow <;> rfl
  | failed e middle => rfl
  | spent => rfl

end Eval

theorem Action.Extends.followedBy {a a' b b' : Eval Flow} (first : Extends a a') (second : Extends b b') :
    Extends (a.followedBy b) (a'.followedBy b') := by
  refine first.bind fun flow => ?_
  cases flow with
  | returned value => exact .refl _
  | next => exact second

section

variable {n : Nat} {scope : ScopeId}

theorem execLater (stmt : Stmt) {small large : Nat} (enough : small ≤ large) :
    Extends (exec small scope stmt) (exec large scope stmt) :=
  extendsAtLeast (fun n => execExtends n scope stmt) enough

theorem execAllLater (stmts : List Stmt) {small large : Nat} (enough : small ≤ large) :
    Extends (execAll small scope stmts) (execAll large scope stmts) :=
  extendsAtLeast (fun n => execAllExtends n scope stmts) enough

theorem evalConditionLater (e : Expr) {small large : Nat} (enough : small ≤ large) :
    Extends (evalCondition small scope e) (evalCondition large scope e) :=
  extendsAtLeast (fun n => conditionExtends n scope e) enough

theorem execAllCons (stmt : Stmt) (rest : List Stmt) :
    execAll (n + 1) scope (stmt :: rest) = (exec n scope stmt).followedBy (execAll n scope rest) := by
  rw [execAll]
  rfl

theorem execWhile (condition : Expr) (body : Stmt) :
    exec (n + 1) scope (.whileDo condition body) = (do
      if ← evalCondition n scope condition then
        (exec n scope body).followedBy (exec n scope (.whileDo condition body))
      else pure .next) := by
  rw [exec]
  rfl

theorem execAllSingle (stmt : Stmt) : execAll (n + 2) scope [stmt] = exec (n + 1) scope stmt := by
  rw [execAllCons]
  exact Eval.followedByNext _

theorem execAllJoin (inner after : List Stmt) {m k : Nat} (first : m ≤ k) (second : n ≤ k) :
    Extends ((execAll m scope inner).followedBy (execAll n scope after))
      (execAll (k + inner.length) scope (inner ++ after)) := by
  induction inner generalizing m with
  | nil =>
    cases m with
    | zero => exact .spent _
    | succ m => exact execAllLater after second
  | cons stmt rest ih =>
    cases m with
    | zero => exact .spent _
    | succ m =>
      have less : m ≤ k := Nat.le_of_succ_le first
      rw [execAllCons, Eval.followedByAssoc, List.length_cons, List.cons_append, ← Nat.add_assoc, execAllCons]
      exact (execLater stmt (Nat.le_add_right_of_le less)).followedBy (ih less)

theorem execAllSplit (inner after : List Stmt) :
    Extends (execAll n scope (inner ++ after)) ((execAll n scope inner).followedBy (execAll n scope after)) := by
  induction inner generalizing n with
  | nil =>
    cases n with
    | zero => exact .spent _
    | succ n => exact .refl _
  | cons stmt rest ih =>
    cases n with
    | zero => exact .spent _
    | succ n =>
      rw [List.cons_append, execAllCons, execAllCons, Eval.followedByAssoc]
      refine (Extends.refl _).followedBy (ih.trans ?_)
      exact (Extends.refl _).followedBy (execAllLater after (Nat.le_succ n))

theorem execAllBehind (before : List Stmt) {rest rest' : List Stmt} {more : Nat}
    (covered : ∀ n, Extends (execAll n scope rest) (execAll (n + more) scope rest')) (n : Nat) :
    Extends (execAll n scope (before ++ rest)) (execAll (n + more) scope (before ++ rest')) := by
  induction before generalizing n with
  | nil => exact covered n
  | cons stmt before ih =>
    cases n with
    | zero => exact .spent _
    | succ n =>
      rw [List.cons_append, List.cons_append, Nat.add_right_comm, execAllCons, execAllCons]
      exact (execLater stmt (Nat.le_add_right n more)).followedBy (ih n)

theorem coveredBlock {stmts stmts' : List Stmt} {more : Nat}
    (covered : ∀ n scope, Extends (execAll n scope stmts) (execAll (n + more) scope stmts')) :
    (Stmt.block stmts).Covered (.block stmts') more := by
  intro n scope
  cases n with
  | zero => exact .spent _
  | succ n =>
    rw [Nat.add_right_comm, exec, exec]
    exact covered n scope

theorem bracesOpened (before inner after : List Stmt) :
    (Stmt.block (before ++ .block inner :: after)).Covered (.block (before ++ (inner ++ after))) inner.length := by
  refine coveredBlock fun n scope => execAllBehind before (fun n => ?_) n
  cases n with
  | zero => exact .spent _
  | succ n =>
    rw [execAllCons]
    cases n with
    | zero => exact .spent _
    | succ n =>
      rw [exec]
      exact execAllJoin inner after (by omega) (by omega)

theorem bracesClosed (before inner after : List Stmt) :
    (Stmt.block (before ++ (inner ++ after))).Covered (.block (before ++ .block inner :: after)) 2 := by
  refine coveredBlock fun n scope => execAllBehind before (fun n => ?_) n
  rw [execAllCons, exec]
  refine (execAllSplit inner after).trans ?_
  exact (Extends.refl _).followedBy (execAllLater after (Nat.le_succ n))

theorem Stmt.Simple.thenAnything {stmt : Stmt} (simple : stmt.Simple) (rest : Eval Flow) :
    (do
      let _ ← exec n scope stmt
      rest) = (exec n scope stmt).followedBy rest := by
  funext store
  unfold Eval.followedBy
  rw [Action.bindApply, Action.bindApply]
  cases ended : exec n scope stmt store with
  | done flow middle =>
    cases flow with
    | returned value => exact absurd ended (simple.neverReturns value)
    | next => rfl
  | failed e middle => rfl
  | spent => rfl

theorem execForRound (condition : Expr) {step : Stmt} (simple : step.Simple) (body : Stmt) :
    execFor (n + 1) scope condition step body = (do
      if ← evalCondition n scope condition then
        (exec n scope body).followedBy
          ((exec n scope step).followedBy (execFor n scope condition step body))
      else pure .next) := by
  rw [execFor, ← simple.thenAnything]
  rfl

theorem execAllOne (stmt : Stmt) : Extends (execAll n scope [stmt]) (exec n scope stmt) := by
  cases n with
  | zero => exact .spent _
  | succ n =>
    cases n with
    | zero => exact .spent _
    | succ n =>
      rw [execAllSingle]
      exact execLater stmt (Nat.le_succ _)

theorem execTwo (a b : Stmt) :
    exec (n + 4) scope (.block [a, b]) = (exec (n + 2) scope a).followedBy (exec (n + 1) scope b) := by
  rw [exec, execAllCons, execAllSingle]

theorem execTwoWithin (a b : Stmt) :
    Extends (exec n scope (.block [a, b])) ((exec n scope a).followedBy (exec n scope b)) := by
  cases n with
  | zero => exact .spent _
  | succ n =>
    rw [exec]
    refine (execAllSplit [a] [b]).trans ?_
    exact ((execAllOne a).trans (execLater a (Nat.le_succ n))).followedBy
      ((execAllOne b).trans (execLater b (Nat.le_succ n)))

theorem roundsCovered (condition : Expr) {step : Stmt} (simple : step.Simple) (body : Stmt) (n : Nat) :
    Extends (execFor n scope condition step body)
      (exec (n + 4) scope (.whileDo condition (.block [body, step]))) := by
  induction n with
  | zero => exact .spent _
  | succ n ih =>
    rw [execForRound condition simple, Nat.add_right_comm, execWhile, execTwo, Eval.followedByAssoc]
    refine (evalConditionLater condition (Nat.le_add_right n 4)).bind fun held => ?_
    cases held with
    | true =>
      exact (execLater body (Nat.le_add_right n 2)).followedBy
        ((execLater step (Nat.le_succ n)).followedBy ih)
    | false => exact .refl _

theorem roundsWithin (condition : Expr) {step : Stmt} (simple : step.Simple) (body : Stmt) (n : Nat) :
    Extends (exec n scope (.whileDo condition (.block [body, step])))
      (execFor n scope condition step body) := by
  induction n with
  | zero => exact .spent _
  | succ n ih =>
    rw [execForRound condition simple, execWhile]
    refine (Extends.refl _).bind fun held => ?_
    cases held with
    | true =>
      have two : Extends (exec n scope (.block [body, step])) _ := execTwoWithin body step
      have round := two.followedBy ih
      rwa [Eval.followedByAssoc] at round
    | false => exact .refl _

end

theorem execForLoop {n : Nat} {scope : ScopeId} {first : Stmt} (simple : first.Simple) (condition : Expr)
    (step body : Stmt) : exec (n + 1) scope (.forLoop first condition step body) =
      (exec n scope first).followedBy (execFor n scope condition step body) := by
  rw [exec, ← simple.thenAnything]

theorem forCovered {first step : Stmt} (begins : first.Simple) (steps : step.Simple) (condition : Expr)
    (body : Stmt) : (Stmt.forLoop first condition step body).Covered
      (.block [first, .whileDo condition (.block [body, step])]) 6 := by
  intro n scope
  cases n with
  | zero => exact .spent _
  | succ n =>
    rw [execForLoop begins, Nat.add_right_comm, execTwo]
    exact (execLater first (by omega)).followedBy (roundsCovered condition steps body n)

theorem forWithin {first step : Stmt} (begins : first.Simple) (steps : step.Simple) (condition : Expr)
    (body : Stmt) : (Stmt.block [first, .whileDo condition (.block [body, step])]).Covered
      (.forLoop first condition step body) 1 := by
  intro n scope
  rw [execForLoop begins]
  exact (execTwoWithin first _).trans ((Extends.refl _).followedBy (roundsWithin condition steps body n))

section

variable {n : Nat} {scope : ScopeId}

/-- What a loop that tests at its end does behind its body. -/
def execUntil (n : Nat) (scope : ScopeId) (body : Stmt) (condition : Expr) : Eval Flow := do
  if ← evalCondition n scope condition then pure .next else exec n scope (.repeatUntil body condition)

theorem execRepeat (body : Stmt) (condition : Expr) :
    exec (n + 1) scope (.repeatUntil body condition) =
      (exec n scope body).followedBy (execUntil n scope body condition) := by
  rw [exec]
  rfl

theorem conditionNegated (e : Expr) :
    evalCondition (n + 2) scope (.unary .not e) = (do
      let held ← evalCondition (n + 1) scope e
      pure !held) := by
  funext store
  simp only [evalCondition, evalExpr, Action.bindApply]
  cases evalExpr n scope e store with
  | done value middle =>
    dsimp only [Store.applyUnary]
    cases value.toBool <;> rfl
  | failed e middle => rfl
  | spent => rfl

theorem whileNegated (condition : Expr) (body : Stmt) :
    exec (n + 3) scope (.whileDo (.unary .not condition) body) = (do
      if ← evalCondition (n + 1) scope condition then pure .next
      else
        (exec (n + 2) scope body).followedBy
          (exec (n + 2) scope (.whileDo (.unary .not condition) body))) := by
  rw [execWhile, conditionNegated]
  funext store
  simp only [Action.bindApply]
  cases evalCondition (n + 1) scope condition store with
  | done held middle => cases held <;> rfl
  | failed e middle => rfl
  | spent => rfl

theorem untilCovered (body : Stmt) (condition : Expr) (n : Nat) :
    Extends (execUntil n scope body condition) (exec (n + 3) scope (.whileDo (.unary .not condition) body)) := by
  induction n with
  | zero => exact .spent _
  | succ n ih =>
    rw [whileNegated]
    refine (evalConditionLater condition (Nat.le_succ _)).bind fun held => ?_
    cases held with
    | true => exact .refl _
    | false =>
      rw [execRepeat]
      exact (execLater body (by omega)).followedBy ih

theorem untilWithin (body : Stmt) (condition : Expr) (n : Nat) :
    Extends (exec n scope (.whileDo (.unary .not condition) body)) (execUntil n scope body condition) := by
  induction n with
  | zero => exact .spent _
  | succ n ih =>
    cases n with
    | zero => exact .spent _
    | succ n =>
      cases n with
      | zero => exact .spent _
      | succ n =>
        rw [whileNegated]
        refine (evalConditionLater condition (by omega)).bind fun held => ?_
        cases held with
        | true => exact .refl _
        | false =>
          rw [execRepeat]
          exact (Extends.refl _).followedBy ih

end

theorem repeatCovered (body : Stmt) (condition : Expr) :
    (Stmt.repeatUntil body condition).Covered (.block [body, .whileDo (.unary .not condition) body]) 5 := by
  intro n scope
  cases n with
  | zero => exact .spent _
  | succ n =>
    rw [execRepeat, Nat.add_right_comm, execTwo]
    exact (execLater body (by omega)).followedBy (untilCovered body condition n)

theorem repeatWithin (body : Stmt) (condition : Expr) :
    (Stmt.block [body, .whileDo (.unary .not condition) body]).Covered (.repeatUntil body condition) 1 := by
  intro n scope
  rw [execRepeat]
  exact (execTwoWithin body _).trans ((Extends.refl _).followedBy (untilWithin body condition n))

/-- Loops are blocks with a `while`, and a block inside of a block is as good as its statements. -/
theorem loopsAreWhileLoops :
    (∀ first condition step body, first.Simple → step.Simple →
      (Stmt.forLoop first condition step body).BehavesAs
        (.block [first, .whileDo condition (.block [body, step])])) ∧
    (∀ body condition, (Stmt.repeatUntil body condition).BehavesAs
      (.block [body, .whileDo (.unary .not condition) body])) ∧
    ∀ before inner after, (Stmt.block (before ++ .block inner :: after)).BehavesAs
      (.block (before ++ inner ++ after)) := by
  refine ⟨fun first condition step body begins steps => ?_, fun body condition => ?_, fun before inner after => ?_⟩
  · exact Stmt.behavesAs (forCovered begins steps condition body) (forWithin begins steps condition body)
  · exact Stmt.behavesAs (repeatCovered body condition) (repeatWithin body condition)
  · rw [List.append_assoc]
    exact Stmt.behavesAs (bracesOpened before inner after) (bracesClosed before inner after)

def Outcome.returnedInt? : Outcome Store EvalError Flow → Option Int64
  | .done (.returned (.scalar (.int n))) _ => some n
  | _ => none

theorem Outcome.returnedInt {outcome : Outcome Store EvalError Flow} {n : Int64}
    (found : outcome.returnedInt? = some n) : ∃ final, outcome = .done (.returned (.int n)) final := by
  unfold returnedInt? at found
  split at found
  · cases found
    exact ⟨_, rfl⟩
  · cases found

theorem seekingLoopIsWhile :
    let i : Expr := .ref (.var "i")
    let first : Stmt := .assign (.var "i") (.literal (.int 0))
    let condition : Expr := .binary .lt i (.literal (.int 3))
    let step : Stmt := .compound (.var "i") .add (.literal (.int 1))
    let body : Stmt := .ifThen (.binary .eq i (.literal (.int 1))) (.ret i) none
    first.Simple ∧ step.Simple ∧ ∃ n final,
      exec n ⟨0⟩ (.block [first, .whileDo condition (.block [body, step])]) Store.empty.newRoot.2 =
        .done (.returned (.int 1)) final := by
  intro i first condition step body
  obtain ⟨final, ran⟩ : ∃ final,
      exec 12 ⟨0⟩ (.forLoop first condition step body) Store.empty.newRoot.2 = .done (.returned (.int 1)) final :=
    Outcome.returnedInt (by decide +kernel)
  have law := loopsAreWhileLoops.1 first condition step body trivial trivial ⟨0⟩ Store.empty.newRoot.2
    (.done (.returned (.int 1)) final) (by simp)
  obtain ⟨n, same⟩ := law.mp ⟨12, ran⟩
  exact ⟨trivial, trivial, n, final, same⟩

end CircuitScript
