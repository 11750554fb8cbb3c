import CircuitScript.EvalError
import CircuitScript.Numeral.Decimal
import CircuitScript.Text.Blank
import CircuitScript.Tree

/-! Values of the language. Lists, maps, scopes, attribute sets and written functions are shared: a value
names one of them by its place in the store. -/
namespace CircuitScript

structure ListId where
  index : Nat
  deriving DecidableEq, Repr

structure MapId where
  index : Nat
  deriving DecidableEq, Repr

structure ScopeId where
  index : Nat
  deriving DecidableEq, Repr

structure HandleId where
  index : Nat
  deriving DecidableEq, Repr

structure ClosureId where
  index : Nat
  deriving DecidableEq, Repr

inductive FunctionId where
  | builtin (b : Builtin)
  | closure (id : ClosureId)
  deriving DecidableEq, Repr

inductive Value where
  | scalar (s : Scalar)
  | list (id : ListId)
  | map (id : MapId)
  | func (f : FunctionId)
  | scope (id : ScopeId)
  | attributes (id : HandleId)
  deriving DecidableEq

instance : Inhabited Value := ⟨.scalar (.str "")⟩

def Scalar.kind : Scalar → Kind
  | int _ => .integer
  | float _ => .float
  | bool _ => .boolean
  | str _ => .string

def Scalar.text : Scalar → String
  | int n => String.ofList (Numeral.integerText n)
  | float x => String.ofList (Numeral.floatText x)
  | bool b => if b then "true" else "false"
  | str s => s

def Scalar.same : Scalar → Scalar → Bool
  | int a, int b => a == b
  | float a, float b => a == b
  | bool a, bool b => a == b
  | str a, str b => a == b
  | _, _ => false

namespace Value

def int (n : Int64) : Value := scalar (.int n)

def float (x : Float) : Value := scalar (.float x)

def bool (b : Bool) : Value := scalar (.bool b)

def str (s : String) : Value := scalar (.str s)

def kind : Value → Kind
  | scalar s => s.kind
  | list _ => .list
  | map _ => .map
  | func _ => .function
  | scope _ => .context
  | attributes _ => .attributes

def mismatch {α : Type} (value : Value) (needed : Needed) : Except EvalError α :=
  .error (.typeMismatch needed value.kind)

end Value

inductive Number where
  | int (n : Int64)
  | float (x : Float)

namespace Number

def toFloat : Number → Float
  | int n => n.toFloat
  | float x => x

/-- The whole part; beyond 64 bits the nearest end of the range, and 0 for no number. -/
def toInt : Number → Int64
  | int n => n
  | float x => x.toInt64

def toValue : Number → Value
  | int n => .int n
  | float x => .float x

def ofText? (text : String) : Option Number :=
  let trimmed := Text.trimBlank text.toList
  match Numeral.readInteger? trimmed with
  | some n => some (int n)
  | none => (Numeral.readFloat? trimmed).map float

end Number

namespace Value

def toNumber : Value → Except EvalError Number
  | scalar (.int n) => .ok (.int n)
  | scalar (.float x) => .ok (.float x)
  | scalar (.str s) =>
    match Number.ofText? s with
    | some n => .ok n
    | none => (str s).mismatch .number
  | value => value.mismatch .number

def toInt : Value → Except EvalError Int64
  | scalar (.bool b) => .ok (if b then 1 else 0)
  | value => value.toNumber.map Number.toInt

def toFloat (value : Value) : Except EvalError Float := value.toNumber.map Number.toFloat

def toBool : Value → Except EvalError Bool
  | scalar (.bool b) => .ok b
  | scalar (.int n) => .ok (n != 0)
  | value => value.mismatch .boolean

def toList : Value → Except EvalError ListId
  | list id => .ok id
  | value => value.mismatch .list

def toFunction : Value → Except EvalError FunctionId
  | func f => .ok f
  | value => .error (.notCallable value.kind.text)

def toScalar : Value → Except EvalError Scalar
  | scalar s => .ok s
  | value => value.mismatch .attributeValue

end Value

end CircuitScript
