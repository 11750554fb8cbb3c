import CircuitScript.Proofs.Cuts
import CircuitScript.Proofs.Scanning

/-! Sources joined by a line break. The tokens of two sources with a line break between them are those of the
first, without its end, and those of the second, on later lines. -/
namespace CircuitScript

def lineBreaks (text : List Char) : Nat := text.count '\n'

@[simp] theorem lineBreaksNil : lineBreaks [] = 0 := rfl

theorem lineBreaksCons (line : Nat) (c : Char) (rest : List Char) :
    line + lineBreaks (c :: rest) = lineAfter line c + lineBreaks rest := by
  unfold lineBreaks lineAfter
  rw [List.count_cons]
  by_cases newline : c = '\n'
  · simp [newline]
    omega
  · simp [newline]

theorem lineBreaksPlain {c : Char} (plain : c ≠ '\n') (rest : List Char) :
    lineBreaks (c :: rest) = lineBreaks rest := by
  simp [lineBreaks, plain]

theorem lineBreaksBlind : Blind lineBreaks := fun _ rest _ _ plain => lineBreaksPlain plain rest

theorem skipGapBreaks {gap : Gap} {line last : Nat} {text rest : List Char}
    (skipped : skipGap gap line text = .ok (last, rest)) :
    last + lineBreaks rest = line + lineBreaks text := by
  fun_induction skipGap gap line text with
  | case1 | case6 =>
    cases skipped
    rfl
  | case2 line text ih =>
    rw [ih skipped, lineBreaksPlain (by decide), lineBreaksPlain (by decide)]
  | case3 line text ih =>
    rw [ih skipped, lineBreaksPlain (by decide), lineBreaksPlain (by decide)]
  | case4 line c text _ _ _ ih => rw [ih skipped, lineBreaksCons]
  | case5 =>
    cases skipped
    rfl
  | case7 line text ih =>
    rw [ih skipped, lineBreaksCons]
    rfl
  | case8 line c text other ih => rw [ih skipped, lineBreaksPlain other]
  | case9 => cases skipped
  | case10 start line text ih =>
    rw [ih skipped, lineBreaksPlain (by decide), lineBreaksPlain (by decide)]
  | case11 start line c text _ ih => rw [ih skipped, lineBreaksCons]

theorem readQuotedBreaks {line : Nat} {text : List Char} {read : List Char × Nat × List Char}
    (ok : readQuoted line text = some read) :
    read.2.1 + lineBreaks read.2.2 = line + lineBreaks text := by
  fun_induction readQuoted line text generalizing read with
  | case1 | case3 => cases ok
  | case2 line rest =>
    cases ok
    rw [lineBreaksPlain (by decide)]
  | case4 line c rest ih =>
    obtain ⟨inner, found, rfl⟩ := Option.map_eq_some_iff.mp ok
    have lines := ih found
    rw [lineBreaksPlain (by decide), lineBreaksCons]
    exact lines
  | case5 line c rest _ _ _ ih =>
    obtain ⟨inner, found, rfl⟩ := Option.map_eq_some_iff.mp ok
    have lines := ih found
    rw [lineBreaksCons]
    exact lines

theorem readTokenBreaks {line : Nat} {c : Char} {rest : List Char} {read : Token × Nat × List Char}
    (ok : readToken line c rest = .ok read) (filled : Text.isBlank c = false) :
    read.2.1 + lineBreaks read.2.2 = line + lineBreaks (c :: rest) := by
  have plain : c ≠ '\n' := by
    rintro rfl
    exact absurd filled (by decide)
  rw [lineBreaksPlain plain]
  by_cases quote : c = '"'
  · subst quote
    obtain ⟨found, quoted, rfl⟩ := readTokenQuoted ok
    exact readQuotedBreaks quoted
  · obtain ⟨keeps, same⟩ := readTokenKeeps lineBreaksBlind ok quote
    rw [keeps, same]

def Lexeme.lower (lines : Nat) (lexeme : Lexeme) : Lexeme := ⟨lexeme.line + lines, lexeme.token⟩

namespace Scan

variable {line : Nat} {source : List Char} {row : List Lexeme}

theorem nextRead {last : Nat} {c : Char} {rest : List Char} {read : Token × Nat × List Char}
    (skipped : skipGap .blank line source = .ok (last, c :: rest)) (ok : readToken last c rest = .ok read) :
    next false ⟨.code, line, source⟩ = .ok (⟨last, read.1⟩, ⟨.code, read.2.1, read.2.2⟩) := by
  rw [nextInCode .code (by decide), nextCode]
  simp only [skipped, bind, Except.bind, ok]

theorem tokensBefore (read : tokens false ⟨.code, line, source⟩ = .ok row) {more rest : List Char}
    {skipped : Nat} (severed : Severed more)
    (resumes : ∀ ending last, ending = .blank ∨ ending = .lineComment →
      skipGap ending last more = skipGap .blank (last + skipped) rest) (lines : Nat) :
    ∃ body last, row = body ++ [⟨last, .eof⟩] ∧ last = line + lineBreaks source ∧
      tokens false ⟨.code, line + lines, source ++ more⟩ =
        (tokens false ⟨.code, last + lines + skipped, rest⟩).map (body.map (Lexeme.lower lines) ++ ·) := by
  induction row generalizing line source with
  | nil => exact absurd read tokensFilled
  | cons first row ih =>
    obtain ⟨last, left, gap, shape⟩ := firstTokenCases read
    have breaks := skipGapBreaks gap
    obtain ⟨ending, last', later, kind, _, gap'⟩ := skipGapBefore gap 0 (line + lines)
    have gap' : skipGap .blank (line + lines) (source ++ more) = skipGap ending last' (left ++ more) := gap' more
    obtain rfl : last' = last + lines := by omega
    rcases shape with ⟨rfl, rfl, rfl⟩ | ⟨c, behind, token, there, left, rfl, taken, rfl, notEof, inside⟩
    · refine ⟨[], last, rfl, by simpa using breaks, ?_⟩
      have resumed := resumes ending (last + lines) (kind.imp_right And.left)
      rw [tokensAfterGap (by decide) (gap'.trans resumed)]
      cases tokens false ⟨.code, last + lines + skipped, rest⟩ <;> rfl
    · obtain rfl : ending = .blank := kind.resolve_right nofun
      rw [List.cons_append, skipGapEnded gap severed] at gap'
      obtain ⟨there', lower, taken'⟩ := readTokenBefore severed.parted taken (last + lines)
      obtain rfl : there' = there + lines := by
        simp only at lower
        omega
      have taken'' := readTokenBreaks taken (skipGapStops gap).1
      obtain ⟨body, final, rfl, total, ran⟩ := ih inside
      refine ⟨⟨last, token⟩ :: body, final, rfl, ?_, ?_⟩
      · simp only at taken''
        omega
      · rw [tokensMore (nextRead gap' taken') notEof, ran]
        cases tokens false ⟨.code, final + lines + skipped, rest⟩ <;> rfl

end Scan

theorem lineBreakResumes (rest : List Char) (ending : Gap) (last : Nat)
    (kind : ending = .blank ∨ ending = .lineComment) :
    skipGap ending last ('\n' :: rest) = skipGap .blank (last + 1) rest := by
  rcases kind with rfl | rfl <;> rfl

theorem endResumes (ending : Gap) (last : Nat) (kind : ending = .blank ∨ ending = .lineComment) :
    skipGap ending last [] = skipGap .blank (last + 0) [] := by
  rcases kind with rfl | rfl <;> rfl

theorem Scan.tokensAtEnd (line : Nat) : tokens false ⟨.code, line, []⟩ = .ok [⟨line, .eof⟩] := by
  rw [tokens]
  rfl

theorem Scan.tokensLower {line : Nat} {source : List Char} {row : List Lexeme}
    (read : tokens false ⟨.code, line, source⟩ = .ok row) (lines : Nat) :
    tokens false ⟨.code, line + lines, source⟩ = .ok (row.map (Lexeme.lower lines)) := by
  obtain ⟨body, last, rfl, _, ran⟩ := tokensBefore read severedNil endResumes lines
  rw [List.append_nil, tokensAtEnd] at ran
  rw [ran, List.map_append]
  rfl

theorem joinedTokens {first second : String} {row row' : List Lexeme} (read : tokenizeCode first = .ok row)
    (read' : tokenizeCode second = .ok row') :
    ∃ body last, row = body ++ [last] ∧ last.token = .eof ∧
      tokenizeCode (first ++ "\n" ++ second) =
        .ok (body ++ row'.map (Lexeme.lower (1 + first.toList.count '\n'))) := by
  have severed : Severed ('\n' :: second.toList) := breaksNewline.severed _
  obtain ⟨body, last, rfl, total, ran⟩ := Scan.tokensBefore read severed (lineBreakResumes _) 0
  have lower := Scan.tokensLower read' (1 + first.toList.count '\n')
  have text : (first ++ "\n" ++ second).toList = first.toList ++ '\n' :: second.toList := by simp
  refine ⟨body, ⟨last, .eof⟩, rfl, rfl, ?_⟩
  have there : last + 0 + 1 = 1 + (1 + first.toList.count '\n') := by
    rw [total, lineBreaks]
    omega
  have still : body.map (Lexeme.lower 0) = body := List.map_id body
  rw [tokenizeCode, text, ran, there, lower, still]
  rfl

theorem stringAndCommentJoined :
    ∃ row row', tokenizeCode "s := \"a\nb\" // 1." = .ok row ∧ tokenizeCode "5e\n+ s" = .ok row' ∧
      ∃ body last, row = body ++ [last] ∧ last.token = .eof ∧
        tokenizeCode ("s := \"a\nb\" // 1." ++ "\n" ++ "5e\n+ s") =
          .ok (body ++ row'.map (Lexeme.lower 2)) := by
  obtain ⟨row, read⟩ := okOfToBool (show (tokenizeCode "s := \"a\nb\" // 1.").toBool = true by decide +kernel)
  obtain ⟨row', read'⟩ := okOfToBool (show (tokenizeCode "5e\n+ s").toBool = true by decide +kernel)
  exact ⟨row, row', read, read', joinedTokens read read'⟩

end CircuitScript
