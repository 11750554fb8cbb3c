import CircuitScript.Eval
import CircuitScript.Grammar

/-! Running scripts: expressions, references, calls and statements. Each takes a budget that every step
down lowers by one; a run that ends does so with any larger budget too. -/
namespace CircuitScript

inductive Flow where
  | next
  | returned (value : Value)

def Expr.describe : Expr → String
  | .ref r => r.describe
  | .literal s => s.kind.text
  | _ => "expression"

mutual

def evalExpr : Nat → ScopeId → Expr → Eval Value
  | 0, _, _ => Action.spent
  | n + 1, scope, e =>
    match e with
    | .literal s => pure (.scalar s)
    | .ref r => readReference n scope r
    | .unary op operand => do
      let value ← evalExpr n scope operand
      Action.ofExcept (Store.applyUnary op value)
    | .binary .and left right => do
      if ← evalCondition n scope left then
        let b ← evalCondition n scope right
        pure (.bool b)
      else pure (.bool false)
    | .binary .or left right => do
      if ← evalCondition n scope left then pure (.bool true)
      else
        let b ← evalCondition n scope right
        pure (.bool b)
    | .binary op left right => do
      let a ← evalExpr n scope left
      let b ← evalExpr n scope right
      Eval.applyBinary op a b
    | .call callee args => do
      match ← evalExpr n scope callee with
      | .func f => call n scope f args
      | _ => Action.fail (.notCallable callee.describe)
    | .list items => do
      let values ← evalAll n scope items
      Eval.newList values
    | .map entries => do
      let values ← evalAll n scope (entries.map (·.2))
      Eval.newMap ((entries.map (·.1)).zip values)
    | .func params body => Eval.newClosure ⟨"<anonymous>", params, body, scope⟩

def evalCondition : Nat → ScopeId → Expr → Eval Bool
  | 0, _, _ => Action.spent
  | n + 1, scope, e => do
    let value ← evalExpr n scope e
    Action.ofExcept value.toBool

def evalAll : Nat → ScopeId → List Expr → Eval (List Value)
  | 0, _, _ => Action.spent
  | _ + 1, _, [] => pure []
  | n + 1, scope, e :: rest => do
    let value ← evalExpr n scope e
    let values ← evalAll n scope rest
    pure (value :: values)

def readReference : Nat → ScopeId → Reference → Eval Value
  | 0, _, _ => Action.spent
  | n + 1, scope, r =>
    match r with
    | .var name => Eval.read scope name
    | .index parent position => do
      let target ← readReference n scope parent
      let list ← Action.ofExcept target.toList
      let i ← evalPosition n scope position
      Eval.readItem list i
    | .field parent key => do
      let target ← readReference n scope parent
      Eval.readField target key

def writeReference : Nat → ScopeId → Reference → Value → Eval Unit
  | 0, _, _, _ => Action.spent
  | n + 1, scope, r, value =>
    match r with
    | .var name => Action.modify (·.bind scope name value)
    | .index parent position => do
      let target ← readReference n scope parent
      let list ← Action.ofExcept target.toList
      let i ← evalPosition n scope position
      Eval.writeItem list i value
    | .field parent key => do
      let target ← readReference n scope parent
      Eval.writeField target key value

def evalPosition : Nat → ScopeId → Expr → Eval Int64
  | 0, _, _ => Action.spent
  | n + 1, scope, e => do
    let value ← evalExpr n scope e
    Action.ofExcept value.toInt

/-- A call with arguments still to be evaluated. Only `isPresent` does not evaluate its own, but asks
whether that succeeds. -/
def call : Nat → ScopeId → FunctionId → List Expr → Eval Value
  | 0, _, _, _ => Action.spent
  | n + 1, scope, f, args => do
    Eval.checkArity f args.length
    match f, args with
    | .builtin .isPresent, [e] => do
      let present ← Action.succeeds (evalExpr n scope e)
      pure (.bool present)
    | f, args => do
      let values ← evalAll n scope args
      invoke n scope f values

def invoke : Nat → ScopeId → FunctionId → List Value → Eval Value
  | 0, _, _, _ => Action.spent
  | n + 1, scope, f, args =>
    match f with
    | .builtin b => b.apply args
    | .closure id => do
      match (← Action.get).closure? id with
      | none => Action.fail (.notCallable "function")
      | some closure =>
        let frame ← Action.modifyGet (·.newFrame closure.scope scope)
        Action.modify (·.bindAll frame (closure.params.zip args))
        match ← exec n frame closure.body with
        | .returned value => pure value
        | .next => pure (.str "")

def exec : Nat → ScopeId → Stmt → Eval Flow
  | 0, _, _ => Action.spent
  | n + 1, scope, stmt =>
    match stmt with
    | .block body => execAll n scope body
    | .assign target e => do
      let value ← evalExpr n scope e
      writeReference n scope target value
      pure .next
    | .compound target op e => do
      let current ← readReference n scope target
      let operand ← evalExpr n scope e
      let value ← Eval.applyBinary op current operand
      writeReference n scope target value
      pure .next
    | .ifThen condition yes no => do
      if ← evalCondition n scope condition then exec n scope yes
      else
        match no with
        | some stmt => exec n scope stmt
        | none => pure .next
    | .whileDo condition body => do
      if ← evalCondition n scope condition then
        match ← exec n scope body with
        | .returned value => pure (.returned value)
        | .next => exec n scope (.whileDo condition body)
      else pure .next
    | .repeatUntil body condition => do
      match ← exec n scope body with
      | .returned value => pure (.returned value)
      | .next =>
        if ← evalCondition n scope condition then pure .next
        else exec n scope (.repeatUntil body condition)
    | .forLoop first condition step body => do
      let _ ← exec n scope first
      execFor n scope condition step body
    | .func name params body => do
      let value ← Eval.newClosure ⟨name, params, body, scope⟩
      Action.modify (·.bind scope name value)
      pure .next
    | .ret e => do
      let value ← evalExpr n scope e
      pure (.returned value)
    | .print args => do
      execPrint n scope args
      pure .next
    | .printf args => do
      match ← evalAll n scope args with
      | [] => Action.fail (.arityMismatch "printf" (.atLeast 1) 0)
      | form :: rest =>
        let form ← Eval.text form
        let text ← Eval.format form rest
        Eval.print scope text
        pure .next
    | .fail e => do
      let value ← evalExpr n scope e
      let message ← Eval.text value
      Action.fail (.raised message)
    | .text s => do
      Eval.print scope s
      pure .next
    | .expr e => do
      let _ ← evalExpr n scope e
      pure .next

def execAll : Nat → ScopeId → List Stmt → Eval Flow
  | 0, _, _ => Action.spent
  | _ + 1, _, [] => pure .next
  | n + 1, scope, stmt :: rest => do
    match ← exec n scope stmt with
    | .returned value => pure (.returned value)
    | .next => execAll n scope rest

/-- The rounds of a counting loop. A return of its step is not one of the loop. -/
def execFor : Nat → ScopeId → Expr → Stmt → Stmt → Eval Flow
  | 0, _, _, _, _ => Action.spent
  | n + 1, scope, condition, step, body => do
    if ← evalCondition n scope condition then
      match ← exec n scope body with
      | .returned value => pure (.returned value)
      | .next =>
        let _ ← exec n scope step
        execFor n scope condition step body
    else pure .next

def execPrint : Nat → ScopeId → List Expr → Eval Unit
  | 0, _, _ => Action.spent
  | _ + 1, _, [] => pure ()
  | n + 1, scope, e :: rest => do
    let value ← evalExpr n scope e
    let text ← Eval.text value
    Eval.print scope text
    execPrint n scope rest

end

def callValues (budget : Nat) (scope : ScopeId) (f : FunctionId) (args : List Value) :
    Eval Value := do
  Eval.checkArity f args.length
  invoke budget scope f args

theorem callValuesBuiltin {b : Builtin} {args : List Value} (fits : b.arity.accepts args.length = true)
    (budget : Nat) (scope : ScopeId) (store : Store) :
    callValues (budget + 1) scope (.builtin b) args store = b.apply args store := by
  have checked : Eval.checkArity (.builtin b) args.length store = .done () store := if_pos fits
  rw [callValues, Action.bindApply, checked, invoke]

end CircuitScript
