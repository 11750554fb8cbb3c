/-! Whole numbers in positional notation: writing them, and the value of a row of digits. -/
namespace CircuitScript.Numeral

inductive Radix where
  | binary
  | octal
  | decimal
  | hexadecimal
  deriving DecidableEq, Repr

def Radix.base : Radix → Nat
  | binary => 2
  | octal => 8
  | decimal => 10
  | hexadecimal => 16

theorem Radix.oneLtBase (radix : Radix) : 1 < radix.base := by
  cases radix <;> decide

def digitChar (value : Nat) : Char :=
  if value < 10 then Char.ofNat (48 + value) else Char.ofNat (87 + value)

/-- The value of a digit; letters count in either case. -/
def digitValue (c : Char) : Option Nat :=
  if '0' ≤ c ∧ c ≤ '9' then some (c.toNat - 48)
  else if 'a' ≤ c ∧ c ≤ 'f' then some (c.toNat - 87)
  else if 'A' ≤ c ∧ c ≤ 'F' then some (c.toNat - 55)
  else none

theorem isDigitIff {c : Char} : c.isDigit = true ↔ '0' ≤ c ∧ c ≤ '9' := by
  simp [Char.isDigit, Char.le_def]

def Radix.hasDigit (radix : Radix) (c : Char) : Bool :=
  match digitValue c with
  | some value => value < radix.base
  | none => false

def write (radix : Radix) (n : Nat) : List Char :=
  if n < radix.base then [digitChar n]
  else write radix (n / radix.base) ++ [digitChar (n % radix.base)]
termination_by n
decreasing_by
  have := radix.oneLtBase
  exact Nat.div_lt_self (by omega) this

def value (radix : Radix) (digits : List Char) : Nat :=
  digits.foldl (fun total c => total * radix.base + (digitValue c).getD 0) 0

end CircuitScript.Numeral
