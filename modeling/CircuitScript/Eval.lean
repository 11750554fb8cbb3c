import CircuitScript.Action
import CircuitScript.Directive
import CircuitScript.Operator
import CircuitScript.Text.Casing
import CircuitScript.Text.Word

/-! Steps of evaluation on the store, and the built-in functions. -/
namespace CircuitScript

abbrev Eval := Action Store EvalError

namespace Eval

def read (scope : ScopeId) (name : String) : Eval Value := fun store =>
  match store.read scope name with
  | .ok value => .done value store
  | .error e => .failed e store

def readField (target : Value) (key : String) : Eval Value := fun store =>
  match store.readField target key with
  | .ok value => .done value store
  | .error e => .failed e store

/-- Maps take any value, scopes bind it, attribute sets take scalars. -/
def writeField (target : Value) (key : String) (value : Value) : Eval Unit :=
  match target with
  | .map id => Action.modify (·.setEntry id key value)
  | .scope id => Action.modify (·.bind id key value)
  | .attributes id => do
    let s ← Action.ofExcept value.toScalar
    Action.modify (·.setAttribute id key s)
  | other => Action.ofExcept (other.mismatch .map)

def itemCount (list : ListId) : Eval Nat := fun store => .done (store.items list).size store

def item? (list : ListId) (position : Nat) : Eval (Option Value) := fun store =>
  .done (store.items list)[position]? store

def readItem (list : ListId) (position : Int64) : Eval Value := do
  if 0 ≤ position then
    match ← item? list position.toInt.toNat with
    | some value => pure value
    | none => Action.fail (.indexOutOfBounds position)
  else Action.fail (.indexOutOfBounds position)

def shownPosition (position : Nat) : Int64 :=
  if position < Nat.pow 2 63 then Int64.ofNat position else Int64.maxValue

/-- Writing behind the last item appends; writing further behind is refused. -/
def putItem (list : ListId) (position : Nat) (value : Value) : Eval Unit := do
  if position ≤ (← itemCount list) then Action.modify (·.putItem list position value)
  else Action.fail (.indexOutOfBounds (shownPosition position))

def writeItem (list : ListId) (position : Int64) (value : Value) : Eval Unit :=
  if 0 ≤ position then putItem list position.toInt.toNat value
  else Action.fail (.indexOutOfBounds position)

def newList (items : List Value) : Eval Value := do
  let id ← Action.modifyGet (·.newList items.toArray)
  pure (.list id)

def newMap (entries : List (String × Value)) : Eval Value := do
  let id ← Action.modifyGet (·.newMap (Table.ofList entries))
  pure (.map id)

def newClosure (closure : Closure) : Eval Value := do
  let id ← Action.modifyGet (·.newClosure closure)
  pure (.func (.closure id))

def print (scope : ScopeId) (text : String) : Eval Unit := Action.modify (·.print scope text)

def text (value : Value) : Eval String := fun store => .done (store.text value) store

def format (text : String) (args : List Value) : Eval String := fun store =>
  match store.format text args with
  | .ok s => .done s store
  | .error e => .failed e store

def applyBinary (op : BinaryOp) (a b : Value) : Eval Value := fun store =>
  match store.applyBinary op a b with
  | .ok value => .done value store
  | .error e => .failed e store

def checkArity (f : FunctionId) (found : Nat) : Eval Unit := fun store =>
  if (store.functionArity f).accepts found then .done () store
  else .failed (.arityMismatch (store.functionName f) (store.functionArity f) found) store

end Eval

namespace Builtin

def pick (wanted : Ordering) : Value → List Value → Except EvalError Value
  | best, [] => .ok best
  | best, value :: rest => do
    let found ← value.order best
    pick wanted (if found = wanted then value else best) rest

def bitCount (n : Int64) : Nat := n.toUInt64.toNat.log2 + 1

def isPlainWordPart (c : Char) : Bool := c.isAlphanum || c == '_'

/-- A text as a name: other characters than ASCII letters, digits and underscores become underscores,
and one is put in front where a name could not begin. -/
def identifierOf (text : List Char) : List Char :=
  let plain := text.map fun c => if isPlainWordPart c then c else '_'
  match plain with
  | [] => ['_']
  | c :: rest => if c.isDigit then '_' :: c :: rest else c :: rest

def isSeparator (c : Char) : Bool := c == ',' || Text.isBlank c

def splitWords (text : List Char) : List (List Char) :=
  (text.splitBy fun a b => isSeparator a == isSeparator b).filter fun part =>
    !(part.head?.map isSeparator).getD true

def apply (b : Builtin) (args : List Value) : Eval Value :=
  match b, args with
  | format, value :: rest => do
    let form ← Eval.text value
    let text ← Eval.format form rest
    pure (.str text)
  | isPresent, [_] => pure (.bool true)
  | sizeOf, [value] => do
    let list ← Action.ofExcept value.toList
    let count ← Eval.itemCount list
    pure (.int (Int64.ofNat count))
  | newMap, [] => Eval.newMap []
  | newList, [] => Eval.newList []
  | int, [value] => Action.ofExcept (value.toInt.map .int)
  | float, [value] => Action.ofExcept (value.toFloat.map .float)
  | abs, [.scalar (.int n)] => pure (.int n.abs)
  | abs, [value] => Action.ofExcept (value.toFloat.map fun x => .float x.abs)
  | min, value :: rest => Action.ofExcept (pick .lt value rest)
  | max, value :: rest => Action.ofExcept (pick .gt value rest)
  | ceil, [value] => Action.ofExcept (value.toFloat.map fun x => .int x.ceil.toInt64)
  | floor, [value] => Action.ofExcept (value.toFloat.map fun x => .int x.floor.toInt64)
  | round, [value] => Action.ofExcept (value.toFloat.map fun x => .int x.round.toInt64)
  | bitsNeededFor, [value] =>
    Action.ofExcept (value.toInt.map fun n => .int (Int64.ofNat (bitCount n)))
  | log2, [value] => Action.ofExcept (value.toFloat.map fun x => .float x.log2)
  | identifier, [value] => do
    let text ← Eval.text value
    pure (.str (String.ofList (identifierOf text.toList)))
  | splitString, [value] => do
    let text ← Eval.text value
    Eval.newList ((splitWords text.toList).map fun word => .str (String.ofList word))
  | toUpper, [value] => do
    let text ← Eval.text value
    pure (.str (String.ofList (Text.upperCase text.toList)))
  | toLower, [value] => do
    let text ← Eval.text value
    pure (.str (String.ofList (Text.lowerCase text.toList)))
  | b, args => Action.fail (.arityMismatch b.name b.arity args.length)

end Builtin

end CircuitScript
