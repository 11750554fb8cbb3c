import CircuitScript.Proofs.Cuts
import CircuitScript.Proofs.Scanning

/-! Reading a section of template text. The tokens of an expression are the same whether it stands alone or
before the end of its section, and text between sections is one token. -/
namespace CircuitScript

theorem regionBlind : Blind Region.code.after := fun _ rest slash quote _ => Region.afterPlain slash quote rest

theorem readQuotedRegion {line : Nat} {text : List Char} {read : List Char × Nat × List Char}
    (ok : readQuoted line text = some read) : Region.code.after read.2.2 = Region.quoted.after text := by
  fun_induction readQuoted line text generalizing read with
  | case1 | case3 => cases ok
  | case2 line rest =>
    cases ok
    rfl
  | case4 line c rest ih =>
    obtain ⟨inner, found, rfl⟩ := Option.map_eq_some_iff.mp ok
    have region := ih found
    exact region
  | case5 line c rest quote lone escape ih =>
    obtain ⟨inner, found, rfl⟩ := Option.map_eq_some_iff.mp ok
    have plain : c ≠ '\\' := by
      rintro rfl
      cases rest with
      | nil => exact lone rfl rfl
      | cons d rest => exact escape d rest rfl rfl
    rw [ih found, Region.after]
    all_goals simp_all

theorem readTokenRegion {line : Nat} {c : Char} {rest : List Char} {read : Token × Nat × List Char}
    (ok : readToken line c rest = .ok read)
    (noComment : c = '/' → rest.head? ≠ some '/' ∧ rest.head? ≠ some '*') :
    Region.code.after read.2.2 = Region.code.after (c :: rest) := by
  by_cases quote : c = '"'
  · subst quote
    obtain ⟨found, quoted, rfl⟩ := readTokenQuoted ok
    exact readQuotedRegion quoted
  · rw [(readTokenKeeps regionBlind ok quote).1, Region.after]
    all_goals
      intros
      simp_all

namespace Scan

variable {templated : Bool} {scan after : Scan} {lexeme : Lexeme} {row : List Lexeme}

theorem unknownQuestion (line : Nat) (rest : List Char) :
    readToken line '?' rest = .ok (.unknown '?', line, rest) := by
  have word : Text.isWordStart '?' = false := by decide +kernel
  unfold readToken
  rw [if_neg (by decide), if_neg (by decide), if_neg (by simp [word])]
  rfl

/-- The token that the end of a section becomes. -/
def closing (mode : Mode) : Token := if mode = .echo then .echoClose else .mark .semicolon

theorem nextInSection {mode : Mode} (code : mode ≠ .text) {line last there : Nat} {text rest left : List Char}
    {c : Char} {token : Token} (skipped : skipGap .blank line text = .ok (last, c :: rest)) (other : c ≠ '?')
    (read : readToken last c rest = .ok (token, there, left)) :
    next true ⟨mode, line, text⟩ = .ok (⟨last, token⟩, ⟨mode, there, left⟩) := by
  rw [nextInCode mode code, nextCode]
  simp only [skipped, bind, Except.bind]
  split
  · simp_all
  · simp_all
  · rename_i shape _
    cases shape
    rw [read]

theorem nextClosing {mode : Mode} (code : mode ≠ .text) {line last : Nat} {text rest : List Char}
    (skipped : skipGap .blank line text = .ok (last, '?' :: '>' :: rest)) :
    next true ⟨mode, line, text⟩ = .ok (⟨last, closing mode⟩, ⟨.text, last, rest⟩) := by
  rw [nextInCode mode code, nextCode]
  simp only [skipped, bind, Except.bind]
  rfl

theorem closingTokens {mode : Mode} (code : mode ≠ .text) (line : Nat) (rest : List Char) :
    tokens true ⟨mode, line, '?' :: '>' :: rest⟩ =
      (tokens true ⟨.text, line, rest⟩).map (⟨line, closing mode⟩ :: ·) := by
  refine tokensMore (nextClosing code rfl) ?_
  unfold closing
  split <;> rfl

theorem sectionTokens {mode : Mode} (code : mode ≠ .text) {line : Nat} {source more : List Char}
    (read : tokens false ⟨.code, line, source⟩ = .ok row)
    (known : ∀ lexeme ∈ row, ∀ u, lexeme.token ≠ .unknown u) (severed : Severed more) (line' : Nat) :
    ∃ body last ending, row.map Lexeme.token = body.map Lexeme.token ++ [.eof] ∧
      (ending = .blank ∨ ending = .lineComment) ∧ ending.region = Region.code.after source ∧
      ∀ last' rest, skipGap ending last more = skipGap .blank last' rest →
        tokens true ⟨mode, line', source ++ more⟩ = (tokens true ⟨mode, last', rest⟩).map (body ++ ·) := by
  induction row generalizing line source line' with
  | nil => exact absurd read tokensFilled
  | cons first row ih =>
    obtain ⟨last, rest, skipped, shape⟩ := firstTokenCases read
    obtain ⟨ending, last', _, kind, region, gap⟩ := skipGapBefore skipped 0 line'
    have gap : skipGap .blank line' (source ++ more) = skipGap ending last' (rest ++ more) := gap _
    rcases shape with ⟨rfl, rfl, rfl⟩ | ⟨c, behind, token, there, left, rfl, taken, rfl, notEof, inside⟩
    · refine ⟨[], last', ending, rfl, kind.imp_right And.left, region, fun final rest resumed => ?_⟩
      rw [tokensAfterGap code (gap.trans resumed)]
      cases tokens true ⟨mode, final, rest⟩ <;> rfl
    · obtain ⟨knownFirst, knownLater⟩ := List.forall_mem_cons.mp known
      have other : c ≠ '?' := by
        rintro rfl
        cases taken.symm.trans (unknownQuestion last behind)
        exact knownFirst '?' rfl
      obtain rfl : ending = .blank := kind.resolve_right nofun
      rw [List.cons_append, skipGapEnded skipped severed] at gap
      obtain ⟨there', _, taken'⟩ := readTokenBefore severed.parted taken last'
      obtain ⟨body, final, ending, spells, kind, region', ran⟩ := ih inside knownLater there'
      refine ⟨⟨last', token⟩ :: body, final, ending, by simp [spells], kind, ?_, fun end' rest resumed => ?_⟩
      · rw [region', readTokenRegion taken (skipGapStops skipped).2]
        exact region
      · rw [tokensMore (nextInSection code gap other taken') notEof, ran end' rest resumed]
        cases tokens true ⟨mode, end', rest⟩ <;> rfl

theorem closedSection {mode : Mode} (code : mode ≠ .text) {line : Nat} {source : List Char}
    (read : tokens false ⟨.code, line, source⟩ = .ok row)
    (known : ∀ lexeme ∈ row, ∀ u, lexeme.token ≠ .unknown u)
    (closed : Region.code.after source ≠ .lineComment) (line' : Nat) (more : List Char) :
    ∃ body last, row.map Lexeme.token = body.map Lexeme.token ++ [.eof] ∧
      tokens true ⟨mode, line', source ++ '?' :: '>' :: more⟩ =
        (tokens true ⟨.text, last, more⟩).map (body ++ ⟨last, closing mode⟩ :: ·) := by
  obtain ⟨body, last, ending, spells, kind, region, ran⟩ :=
    sectionTokens code read known (breaksQuestion.severed ('>' :: more)) line'
  rcases kind with rfl | rfl
  · refine ⟨body, last, spells, ?_⟩
    rw [ran last _ rfl, closingTokens code]
    cases tokens true ⟨.text, last, more⟩ <;> rfl
  · exact absurd region.symm closed

theorem openTokens (line : Nat) (rest : List Char) :
    tokens true ⟨.text, line, '<' :: '?' :: '=' :: rest⟩ =
      (tokens true ⟨.echo, line, rest⟩).map (⟨line, .echoOpen⟩ :: ·) :=
  tokensMore rfl rfl

theorem endTokens (line : Nat) : tokens true ⟨.text, line, []⟩ = .ok [⟨line, .eof⟩] := by
  rw [tokens]
  rfl

end Scan

theorem splitTextBefore {text rest : List Char} (plain : ¬['<', '?'] <:+: text)
    (stops : rest = [] ∨ ∃ more, rest = '<' :: '?' :: more) : splitText (text ++ rest) = (text, rest) := by
  induction text with
  | nil => rcases stops with rfl | ⟨more, rfl⟩ <;> rfl
  | cons c text ih =>
    have later := ih fun inside => plain (List.infix_cons inside)
    rw [List.cons_append, splitText, later]
    -- An opening that began at the last character would need a question mark after it.
    rintro more rfl next
    cases text with
    | nil => rcases stops with rfl | ⟨_, rfl⟩ <;> simp at next
    | cons d text =>
      cases next
      exact plain ⟨[], text, rfl⟩

theorem Scan.textTokens {text rest : List Char} (plain : ¬['<', '?'] <:+: text) (filled : text ≠ [])
    (stops : rest = [] ∨ ∃ more, rest = '<' :: '?' :: more) (line : Nat) :
    ∃ last, tokens true ⟨.text, line, text ++ rest⟩ =
      (tokens true ⟨.text, last, rest⟩).map (⟨line, .text (String.ofList text)⟩ :: ·) := by
  refine ⟨text.foldl lineAfter line, tokensMore ?_ rfl⟩
  have opens : ∀ more, text ++ rest ≠ '<' :: '?' :: more := by
    intro more same
    have whole := splitTextBefore plain stops
    rw [same] at whole
    exact filled (congrArg Prod.fst whole).symm
  unfold next
  split
  · simp_all
  · simp_all
  · simp_all
  · rw [splitTextBefore plain stops]
  · simp_all

end CircuitScript
