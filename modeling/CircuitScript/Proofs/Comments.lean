import Mathlib.Data.List.DropRight
import CircuitScript.Grammar

/-! Scripts that hold nothing but comments. Such a text has no token, so its tree is the empty script, and
it still holds nothing but comments without the white space at its ends. -/
namespace CircuitScript

/-- White space, comments up to the end of a line and comments in marks, in any order. -/
inductive OnlyComments : List Char → Prop where
  | empty : OnlyComments []
  | blank {c : Char} {rest : List Char} (white : Text.isBlank c) (more : OnlyComments rest) :
      OnlyComments (c :: rest)
  | line {comment rest : List Char} (inside : '\n' ∉ comment) (more : OnlyComments rest) :
      OnlyComments ('/' :: '/' :: (comment ++ '\n' :: rest))
  | lastLine {comment : List Char} (inside : '\n' ∉ comment) : OnlyComments ('/' :: '/' :: comment)
  | block {comment rest : List Char} (inside : ¬['*', '/'] <:+: comment) (more : OnlyComments rest) :
      OnlyComments ('/' :: '*' :: (comment ++ '*' :: '/' :: rest))

theorem skipBlank {c : Char} (white : Text.isBlank c) (line : Nat) (rest : List Char) :
    skipGap .blank line (c :: rest) = skipGap .blank (lineAfter line c) rest := by
  have other : c ≠ '/' := by
    rintro rfl
    exact absurd white (by decide)
  rw [skipGap, if_pos white]
  · simp [other]
  · simp [other]

theorem skipLine {comment : List Char} (inside : '\n' ∉ comment) (line : Nat) (rest : List Char) :
    skipGap .lineComment line (comment ++ rest) = skipGap .lineComment line rest := by
  induction comment with
  | nil => rfl
  | cons c comment ih =>
    simp only [List.mem_cons, not_or] at inside
    obtain ⟨other, inside⟩ := inside
    rw [List.cons_append, skipGap, if_neg (Ne.symm other), ih inside]

theorem skipBlock {comment : List Char} (inside : ¬['*', '/'] <:+: comment) (start line : Nat)
    (rest : List Char) :
    ∃ last, skipGap (.blockComment start) line (comment ++ '*' :: '/' :: rest) =
      skipGap .blank last rest := by
  induction comment generalizing line with
  | nil => exact ⟨line, rfl⟩
  | cons c comment ih =>
    have later : ¬['*', '/'] <:+: comment := fun found => inside (List.infix_cons found)
    obtain ⟨last, skipped⟩ := ih later (lineAfter line c)
    refine ⟨last, ?_⟩
    rw [List.cons_append, skipGap, skipped]
    -- The mark that ends the comment does not begin at `c`, nor does it begin with `c` and end behind it.
    rintro behind rfl same
    cases comment with
    | nil => simp at same
    | cons d comment =>
      obtain ⟨rfl, _⟩ := List.cons.inj same
      exact inside (List.prefix_append ['*', '/'] comment).isInfix

theorem OnlyComments.skipped {text : List Char} (only : OnlyComments text) (line : Nat) :
    ∃ last, skipGap .blank line text = .ok (last, []) := by
  induction only generalizing line with
  | empty => exact ⟨line, rfl⟩
  | blank white more ih =>
    rw [skipBlank white]
    exact ih _
  | line inside more ih =>
    rw [skipGap, skipLine inside, skipGap, if_pos rfl]
    exact ih _
  | @lastLine comment inside =>
    have ends := skipLine inside line []
    rw [List.append_nil] at ends
    rw [skipGap, ends]
    exact ⟨line, rfl⟩
  | @block comment rest inside more ih =>
    obtain ⟨last, skipped⟩ := skipBlock inside line line rest
    rw [skipGap, skipped]
    exact ih last

theorem OnlyComments.parsed {code : String} (only : OnlyComments code.toList) :
    parseCode code = .ok (.block []) := by
  obtain ⟨last, skipped⟩ := only.skipped 1
  have next : Scan.next false ⟨.code, 1, code.toList⟩ = .ok (⟨last, .eof⟩, ⟨.code, last, []⟩) := by
    unfold Scan.next Scan.nextCode
    simp [skipped, bind, Except.bind]
  have tokens : tokenizeCode code = .ok [⟨last, .eof⟩] := by
    unfold tokenizeCode
    rw [Scan.tokens]
    split
    · rename_i failed
      rw [next] at failed
      cases failed
    · rename_i read
      rw [next] at read
      cases read
      rfl
  unfold parseCode
  rw [tokens]
  rfl

theorem rdropWhileAppend (first second : List Char) :
    (first ++ second).rdropWhile Text.isBlank =
      if second.rdropWhile Text.isBlank = [] then first.rdropWhile Text.isBlank
      else first ++ second.rdropWhile Text.isBlank := by
  unfold List.rdropWhile
  rw [List.reverse_append, List.dropWhile_append]
  simp only [List.isEmpty_iff, List.reverse_eq_nil_iff]
  split <;> simp

theorem OnlyComments.begun {text : List Char} (only : OnlyComments text) :
    OnlyComments (text.dropWhile Text.isBlank) := by
  induction only with
  | empty => exact .empty
  | blank white more ih =>
    rw [List.dropWhile_cons_of_pos white]
    exact ih
  | line inside more ih => exact .line inside more
  | lastLine inside => exact .lastLine inside
  | block inside more ih => exact .block inside more

theorem OnlyComments.lastTrimmed {comment : List Char} (inside : '\n' ∉ comment) :
    OnlyComments (('/' :: '/' :: comment).rdropWhile Text.isBlank) := by
  have begun := rdropWhileAppend ['/', '/'] comment
  simp only [List.cons_append, List.nil_append] at begun
  rw [begun]
  split
  · exact .lastLine List.not_mem_nil
  · exact .lastLine fun found => inside ((List.rdropWhile_prefix _ comment).subset found)

theorem OnlyComments.ended {text : List Char} (only : OnlyComments text) :
    OnlyComments (text.rdropWhile Text.isBlank) := by
  induction only with
  | empty => exact .empty
  | @blank c rest white more ih =>
    have trimmed := rdropWhileAppend [c] rest
    rw [List.singleton_append] at trimmed
    rw [trimmed]
    split
    · have alone : [c].rdropWhile Text.isBlank = [] := by simp [List.rdropWhile, white]
      rw [alone]
      exact .empty
    · exact .blank white ih
  | @line comment rest inside more ih =>
    -- With nothing behind it, the comment loses its end of line too and becomes the last one.
    have trimmed := rdropWhileAppend ('/' :: '/' :: comment ++ ['\n']) rest
    have short := rdropWhileAppend ('/' :: '/' :: comment) ['\n']
    rw [if_pos (by decide)] at short
    simp only [List.cons_append, List.append_assoc, List.nil_append] at trimmed short
    rw [trimmed, short]
    split
    · exact lastTrimmed inside
    · exact .line inside ih
  | lastLine inside => exact lastTrimmed inside
  | @block comment rest inside more ih =>
    have trimmed := rdropWhileAppend ('/' :: '*' :: comment ++ ['*', '/']) rest
    have closed := rdropWhileAppend ('/' :: '*' :: comment) ['*', '/']
    rw [if_neg (by decide)] at closed
    simp only [List.cons_append, List.append_assoc, List.nil_append] at trimmed closed
    rw [trimmed]
    split
    · rw [closed]
      exact .block inside .empty
    · exact .block inside ih

theorem OnlyComments.trimmed {text : List Char} (only : OnlyComments text) :
    OnlyComments (Text.trimBlank text) :=
  only.begun.ended

end CircuitScript
