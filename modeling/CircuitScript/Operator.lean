import CircuitScript.Numeral.Binary64
import CircuitScript.Store.Display
import CircuitScript.Store.Equality

/-! What the operators do to values. Integers wrap around at 64 bits; an integer beside a
floating-point number becomes one. -/
namespace CircuitScript

namespace Bits

def shiftAmount (n : Int64) : UInt64 := n.toUInt64 &&& 63

def shiftedLeft (n amount : Int64) : Int64 := (n.toUInt64 <<< shiftAmount amount).toInt64

def shiftedRight (n amount : Int64) : Int64 := n >>> (shiftAmount amount).toInt64

def shiftedRightUnsigned (n amount : Int64) : Int64 := (n.toUInt64 >>> shiftAmount amount).toInt64

end Bits

namespace Number

def combine (ints : Int64 → Int64 → Int64) (floats : Float → Float → Float) :
    Number → Number → Number
  | int a, int b => int (ints a b)
  | a, b => float (floats a.toFloat b.toFloat)

def divide (ints : Int64 → Int64 → Int64) (floats : Float → Float → Float) :
    Number → Number → Except EvalError Number
  | int a, int b => if b = 0 then .error .divisionByZero else .ok (int (ints a b))
  | a, b => .ok (float (floats a.toFloat b.toFloat))

/-- The order of two numbers. What is no number stands level with everything. -/
def order : Number → Number → Ordering
  | int a, int b => if a < b then .lt else if a = b then .eq else .gt
  | a, b =>
    if a.toFloat < b.toFloat then .lt else if b.toFloat < a.toFloat then .gt else .eq

def neg : Number → Number
  | int n => int (-n)
  | float x => float (-x)

end Number

namespace Value

def arithmetic (op : Number → Number → Except EvalError Number) (a b : Value) :
    Except EvalError Value := do
  let x ← a.toNumber
  let y ← b.toNumber
  let z ← op x y
  .ok z.toValue

def bitwise (bools : Bool → Bool → Bool) (ints : Int64 → Int64 → Int64) (a b : Value) :
    Except EvalError Value :=
  match a, b with
  | scalar (.bool x), scalar (.bool y) => .ok (bool (bools x y))
  | _, _ => do
    let x ← a.toInt
    let y ← b.toInt
    .ok (int (ints x y))

def shift (op : Int64 → Int64 → Int64) (a b : Value) : Except EvalError Value := do
  let x ← a.toInt
  let y ← b.toInt
  .ok (int (op x y))

def order (a b : Value) : Except EvalError Ordering :=
  match a, b with
  | scalar (.str x), scalar (.str y) => .ok (if x < y then .lt else if x = y then .eq else .gt)
  | _, _ => do
    let x ← a.toNumber
    let y ← b.toNumber
    .ok (x.order y)

def compareBy (holds : Ordering → Bool) (a b : Value) : Except EvalError Value := do
  let found ← a.order b
  .ok (bool (holds found))

def negate (value : Value) : Except EvalError Value := value.toNumber.map fun n => n.neg.toValue

def invert : Value → Except EvalError Value
  | scalar (.bool b) => .ok (bool !b)
  | value => value.toInt.map fun n => int (~~~n)

def isStr : Value → Bool
  | scalar (.str _) => true
  | _ => false

end Value

namespace Store

def add (store : Store) (a b : Value) : Except EvalError Value :=
  if a.isStr || b.isStr then .ok (.str (store.text a ++ store.text b))
  else Value.arithmetic (fun x y => .ok (x.combine (· + ·) (· + ·) y)) a b

/-- Equality in the language: numbers by their value, a string and a number by their text. -/
def equal (store : Store) (a b : Value) : Bool :=
  match a, b with
  | .scalar (.int x), .scalar (.int y) => (Number.int x).order (.int y) == .eq
  | .scalar (.int x), .scalar (.float y) => (Number.int x).order (.float y) == .eq
  | .scalar (.float x), .scalar (.int y) => (Number.float x).order (.int y) == .eq
  | .scalar (.float x), .scalar (.float y) => (Number.float x).order (.float y) == .eq
  | .scalar (.str x), .scalar (.int y) => x == (Scalar.int y).text
  | .scalar (.str x), .scalar (.float y) => x == (Scalar.float y).text
  | .scalar (.int x), .scalar (.str y) => (Scalar.int x).text == y
  | .scalar (.float x), .scalar (.str y) => (Scalar.float x).text == y
  | _, _ => store.same a b

/-- A binary operator on two values. The logical ones need the second value only as far as the first
leaves the result open. -/
def applyBinary (store : Store) (op : BinaryOp) (a b : Value) : Except EvalError Value :=
  match op with
  | .add => store.add a b
  | .sub => Value.arithmetic (fun x y => .ok (x.combine (· - ·) (· - ·) y)) a b
  | .mul => Value.arithmetic (fun x y => .ok (x.combine (· * ·) (· * ·) y)) a b
  | .div => Value.arithmetic (Number.divide (· / ·) (· / ·)) a b
  | .rem => Value.arithmetic (Number.divide (· % ·) Numeral.remainder) a b
  | .eq => .ok (.bool (store.equal a b))
  | .ne => .ok (.bool !(store.equal a b))
  | .lt => Value.compareBy (· == .lt) a b
  | .le => Value.compareBy (· != .gt) a b
  | .gt => Value.compareBy (· == .gt) a b
  | .ge => Value.compareBy (· != .lt) a b
  | .and => do
    let x ← a.toBool
    if x then b.toBool.map .bool else .ok (.bool false)
  | .or => do
    let x ← a.toBool
    if x then .ok (.bool true) else b.toBool.map .bool
  | .bitAnd => Value.bitwise (· && ·) (· &&& ·) a b
  | .bitOr => Value.bitwise (· || ·) (· ||| ·) a b
  | .bitXor => Value.bitwise (· ^^ ·) (· ^^^ ·) a b
  | .shl => Value.shift Bits.shiftedLeft a b
  | .shr => Value.shift Bits.shiftedRight a b
  | .ushr => Value.shift Bits.shiftedRightUnsigned a b

def applyUnary (op : UnaryOp) (value : Value) : Except EvalError Value :=
  match op with
  | .neg => value.negate
  | .not => value.toBool.map fun b => .bool !b
  | .bitNot => value.invert

end Store

end CircuitScript
