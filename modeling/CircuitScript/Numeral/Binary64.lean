/-! Binary floating-point numbers taken apart: a finite one is a significand times a power of two. -/
namespace CircuitScript.Numeral

inductive Magnitude where
  | finite (significand : Nat) (exponent : Int)
  | infinite
  | notANumber
  deriving DecidableEq, Repr

def magnitude (x : Float) : Magnitude :=
  let bits := x.toBits.toNat
  let exponent : Nat := bits / Nat.pow 2 52 % Nat.pow 2 11
  let fraction : Nat := bits % Nat.pow 2 52
  if exponent = 0 then .finite fraction (-1074)
  else if exponent = 2047 then if fraction = 0 then .infinite else .notANumber
  else .finite (Nat.pow 2 52 + fraction) ((exponent : Int) - 1075)

def isNegative (x : Float) : Bool := Nat.pow 2 63 ≤ x.toBits.toNat

structure Quotient where
  numerator : Nat
  denominator : Nat
  deriving DecidableEq, Repr

def dyadic (significand : Nat) (exponent : Int) : Quotient :=
  if 0 ≤ exponent then ⟨significand * Nat.pow 2 exponent.toNat, 1⟩
  else ⟨significand, Nat.pow 2 (-exponent).toNat⟩

/-- The number `significand * 2 ^ exponent`, for a significand below `2 ^ 53` and an exponent of at
least -1074, so that no digit is lost. -/
def ofDyadic (significand : Nat) (exponent : Int) : Float :=
  if significand = 0 then 0.0
  else
    let shift := min (52 - Nat.log2 significand) (exponent + 1074).toNat
    let lifted := (exponent + 1074).toNat - shift
    Float.ofBits (UInt64.ofNat (significand * Nat.pow 2 shift + lifted * Nat.pow 2 52))

/-- What is left of `x` after taking away `y` as often as it fits, exactly and with the sign of `x`. -/
def remainder (x y : Float) : Float :=
  match magnitude x, magnitude y with
  | .finite m p, .finite n q =>
    if n = 0 then 0.0 / 0.0
    else
      let unit := min p q
      let left := m * Nat.pow 2 (p - unit).toNat % (n * Nat.pow 2 (q - unit).toNat)
      let size := ofDyadic left unit
      if isNegative x then -size else size
  | .finite _ _, .infinite => x
  | _, _ => 0.0 / 0.0

end CircuitScript.Numeral
