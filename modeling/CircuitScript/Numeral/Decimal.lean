import CircuitScript.Numeral.Radix
import CircuitScript.Numeral.Binary64

/-! Floating-point numbers as decimal text without exponent: with the fewest digits that read back, or
with a given number of places. -/
namespace CircuitScript.Numeral

structure Decimal where
  coefficient : Nat
  exponent : Int
  deriving DecidableEq, Repr

def Quotient.inUnits (q : Quotient) (exponent : Int) : Quotient :=
  if 0 ≤ exponent then ⟨q.numerator, q.denominator * Nat.pow 10 exponent.toNat⟩
  else ⟨q.numerator * Nat.pow 10 (-exponent).toNat, q.denominator⟩

def digitCount (n : Nat) : Nat := (write .decimal n).length

/-- The exponent `k` with `10 ^ (k - 1) ≤ q < 10 ^ k`, for a positive quotient. -/
def Quotient.leading (q : Quotient) : Int :=
  let k : Int := digitCount q.numerator - digitCount q.denominator
  let scaled := q.inUnits k
  if scaled.denominator ≤ scaled.numerator then k + 1 else k

structure Interval where
  low : Quotient
  high : Quotient
  closed : Bool
  deriving DecidableEq, Repr

def roundingInterval (significand : Nat) (exponent : Int) : Interval where
  low :=
    if significand = Nat.pow 2 52 ∧ exponent ≠ -1074 then dyadic (4 * significand - 1) (exponent - 2)
    else dyadic (4 * significand - 2) (exponent - 2)
  high := dyadic (4 * significand + 2) (exponent - 2)
  closed := significand % 2 == 0

def Interval.has (interval : Interval) (n : Nat) (exponent : Int) : Bool :=
  let low := interval.low.inUnits exponent
  let high := interval.high.inUnits exponent
  if interval.closed then
    low.numerator ≤ n * low.denominator && n * high.denominator ≤ high.numerator
  else
    low.numerator < n * low.denominator && n * high.denominator < high.numerator

/-- The multiple of `10 ^ exponent` that is nearest to the quotient among those in the interval next to
it. A tie goes up. -/
def nearestWithin (interval : Interval) (q : Quotient) (exponent : Int) : Option Nat :=
  let units := q.inUnits exponent
  let below := units.numerator / units.denominator
  let rest := units.numerator % units.denominator
  match interval.has below exponent, interval.has (below + 1) exponent with
  | true, true => some (if units.denominator ≤ 2 * rest then below + 1 else below)
  | true, false => some below
  | false, true => some (below + 1)
  | false, false => none

/-- The decimal with the fewest digits that reads back as `significand * 2 ^ exponent`. Seventeen digits
always do. -/
def shortest (significand : Nat) (exponent : Int) : Decimal :=
  if significand = 0 then ⟨0, 0⟩
  else
    let q := dyadic significand exponent
    let interval := roundingInterval significand exponent
    let leading := q.leading
    let found := (List.range 17).findSome? fun (more : Nat) =>
      let unit := leading - more - 1
      (nearestWithin interval q unit).map fun n => Decimal.mk n unit
    found.getD ⟨0, 0⟩

def withPoint (digits : List Char) (places : Nat) : List Char :=
  if places = 0 then digits
  else
    let padded := List.replicate (places + 1 - digits.length) '0' ++ digits
    padded.take (padded.length - places) ++ '.' :: padded.drop (padded.length - places)

def Decimal.plain (d : Decimal) : List Char :=
  if 0 ≤ d.exponent then write .decimal (d.coefficient * Nat.pow 10 d.exponent.toNat)
  else
    let digits := write .decimal d.coefficient
    let kept := (digits.reverse.dropWhile (· == '0')).reverse
    let dropped := digits.length - kept.length
    let places := (-d.exponent).toNat
    if dropped ≤ places then withPoint kept (places - dropped)
    else kept ++ List.replicate (dropped - places) '0'

def Quotient.round (q : Quotient) : Nat :=
  let below := q.numerator / q.denominator
  let twice := 2 * (q.numerator % q.denominator)
  if q.denominator < twice ∨ q.denominator = twice ∧ below % 2 = 1 then below + 1 else below

def writeFloat (finite : Nat → Int → List Char) (x : Float) : List Char :=
  let sign := if isNegative x then ['-'] else []
  match magnitude x with
  | .finite significand exponent => sign ++ finite significand exponent
  | .infinite => sign ++ "inf".toList
  | .notANumber => "NaN".toList

def plainText (x : Float) : List Char :=
  writeFloat (fun significand exponent => (shortest significand exponent).plain) x

def fixedText (places : Nat) (x : Float) : List Char :=
  writeFloat
    (fun significand exponent =>
      withPoint (write .decimal ((dyadic significand exponent).inUnits (-places)).round) places) x

/-- The text of a number as a value: a whole one below `10 ^ 15` shows one place. -/
def floatText (x : Float) : List Char :=
  if x - x.toInt64.toFloat == 0.0 && x.abs < 1e15 then fixedText 1 x else plainText x

end CircuitScript.Numeral
