/-! Sets of code points given as closed intervals, the form in which the character classes are kept. -/
namespace CircuitScript.Text

/-- Closed intervals of code points, in ascending order. -/
abbrev Ranges := List (Nat × Nat)

def Ranges.has (ranges : Ranges) (code : Nat) : Bool :=
  ranges.any fun range => range.1 ≤ code && code ≤ range.2

end CircuitScript.Text
