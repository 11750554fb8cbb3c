import CircuitScript.Numeral.Radix
import CircuitScript.Numeral.Binary64

/-! Numbers read from text: 64-bit integers in decimal, and floating-point numbers. -/
namespace CircuitScript.Numeral

def splitSign : List Char → Bool × List Char
  | '-' :: rest => (true, rest)
  | '+' :: rest => (false, rest)
  | text => (false, text)

def signed? (negative : Bool) (size : Nat) : Option Int64 :=
  if negative then if size ≤ Nat.pow 2 63 then some (Int64.ofInt (-size)) else none
  else if size < Nat.pow 2 63 then some (Int64.ofNat size) else none

def readInteger? (text : List Char) : Option Int64 :=
  let (negative, digits) := splitSign text
  if digits ≠ [] ∧ digits.all Radix.decimal.hasDigit then
    signed? negative (value .decimal digits)
  else none

def integerText (n : Int64) : List Char :=
  if n < 0 then '-' :: write .decimal n.toInt.natAbs else write .decimal n.toInt.natAbs

/-- `digits * 10 ^ exponent`, correctly rounded. Exponents far outside the range are settled first. -/
def scaled (digits : List Char) (exponent : Int) : Float :=
  let significant := digits.dropWhile (· == '0')
  let leading := significant.length + exponent
  if significant = [] ∨ leading < -400 then 0.0
  else if 400 < leading then 1.0 / 0.0
  else Float.ofScientific (value .decimal significant) (exponent < 0) exponent.natAbs

def readExponent? : List Char → Option Int
  | [] => some 0
  | mark :: rest =>
    let (negative, digits) := splitSign rest
    if (mark = 'e' ∨ mark = 'E') ∧ digits ≠ [] ∧ digits.all Radix.decimal.hasDigit then
      some (if negative then -(value .decimal digits : Int) else value .decimal digits)
    else none

def splitFraction : List Char → List Char × List Char
  | '.' :: rest => (rest.takeWhile Radix.decimal.hasDigit, rest.dropWhile Radix.decimal.hasDigit)
  | text => ([], text)

def readMagnitude? (text : List Char) : Option Float :=
  let word := String.ofList (text.map Char.toLower)
  if word = "inf" ∨ word = "infinity" then some (1.0 / 0.0)
  else if word = "nan" then some (0.0 / 0.0)
  else
    let whole := text.takeWhile Radix.decimal.hasDigit
    let (fraction, rest) := splitFraction (text.dropWhile Radix.decimal.hasDigit)
    if whole ++ fraction = [] then none
    else (readExponent? rest).map fun e => scaled (whole ++ fraction) (e - fraction.length)

def readFloat? (text : List Char) : Option Float :=
  let (negative, rest) := splitSign text
  (readMagnitude? rest).map fun x => if negative then -x else x

end CircuitScript.Numeral
