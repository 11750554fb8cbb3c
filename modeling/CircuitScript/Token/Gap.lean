import CircuitScript.ParseError
import CircuitScript.Text.Blank

/-! What stands between tokens: white space, comments to the end of a line, and comments in marks. -/
namespace CircuitScript

def lineAfter (line : Nat) (c : Char) : Nat := if c = '\n' then line + 1 else line

inductive Gap where
  | blank
  | lineComment
  | blockComment (start : Nat)

def skipGap : Gap → Nat → List Char → Except ParseError (Nat × List Char)
  | .blank, line, [] => .ok (line, [])
  | .blank, line, '/' :: '/' :: rest => skipGap .lineComment line rest
  | .blank, line, '/' :: '*' :: rest => skipGap (.blockComment line) line rest
  | .blank, line, c :: rest =>
    if Text.isBlank c then skipGap .blank (lineAfter line c) rest else .ok (line, c :: rest)
  | .lineComment, line, [] => .ok (line, [])
  | .lineComment, line, c :: rest =>
    if c = '\n' then skipGap .blank (line + 1) rest else skipGap .lineComment line rest
  | .blockComment start, _, [] => .error ⟨start, .unterminatedComment⟩
  | .blockComment _, line, '*' :: '/' :: rest => skipGap .blank line rest
  | .blockComment start, line, c :: rest => skipGap (.blockComment start) (lineAfter line c) rest

theorem skipGapLength {gap : Gap} {line : Nat} {text : List Char} {after : Nat × List Char}
    (skipped : skipGap gap line text = .ok after) : after.2.length ≤ text.length := by
  fun_induction skipGap gap line text generalizing after <;> grind

end CircuitScript
