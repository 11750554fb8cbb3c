import CircuitScript.Evaluation
import CircuitScript.Text.Quoted

/-! Whole scripts: parsed and run in a scope. -/
namespace CircuitScript

inductive ScriptError where
  | parse (e : ParseError)
  | eval (e : EvalError)

def ScriptError.message : ScriptError → String
  | parse e => "parse error: " ++ e.message
  | eval e => e.message

namespace Script

def ample : Nat := Nat.pow 2 60

/-- Runs a tree in a scope. A return at the top ends it early. -/
def run (budget : Nat) (scope : ScopeId) (tree : Stmt) : Eval Unit := do
  let _ ← exec budget scope tree
  pure ()

def freshRoot {ε : Type} : Action Store ε ScopeId := Action.modifyGet fun store =>
  let (root, store) := store.newRoot
  (root, store.installStandard root)

def runIn (budget : Nat) (scope : ScopeId) (template : Bool) (source : String) :
    Action Store ScriptError Unit := do
  let parsed := if template then parseTemplate source else parseCode source
  let tree ← Action.ofExcept (parsed.mapError .parse)
  Action.mapError .eval (run budget scope tree)

def runFresh (budget : Nat) (source : String) : Action Store ScriptError ScopeId := do
  let root ← freshRoot
  runIn budget root false source
  pure root

end Script

namespace Store

def summary (store : Store) (scope : ScopeId) : String :=
  let shown (b : Bool) : String := if b then "true" else "false"
  "Context \x7b names: [" ++ ", ".intercalate ((store.names scope).keys.map Text.quoted) ++
    "], owns_output: " ++ shown (store.ownText? scope).isSome ++
    ", has_parent: " ++ shown (store.parent? scope).isSome ++ " \x7d"

end Store

end CircuitScript
