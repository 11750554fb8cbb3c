import CircuitScript.Proofs.CodeSections
import CircuitScript.Proofs.Roles
import CircuitScript.Proofs.Written

/-! The semicolon that a source ends with, and the source without it. Everything in front of it is read as before, so it
can be left out where it ends a statement. Where it is a statement, a pair of braces can stand for it; and behind a
return without a value it is the only token that will do. -/
namespace CircuitScript

theorem skipGapTaken {gap : Gap} {line last : Nat} {text rest : List Char} {c : Char}
    (skipped : skipGap gap line text = .ok (last, c :: rest)) :
    ∃ before, text = before ++ c :: rest ∧
      ∀ more, skipGap gap line (before ++ more) = skipGap .blank last more := by
  fun_induction skipGap gap line text with
  | case1 | case6 | case9 => cases skipped
  | case2 line text ih =>
    obtain ⟨before, rfl, same⟩ := ih skipped
    exact ⟨'/' :: '/' :: before, rfl, same⟩
  | case3 line text ih =>
    obtain ⟨before, rfl, same⟩ := ih skipped
    exact ⟨'/' :: '*' :: before, rfl, same⟩
  | case4 line d text _ _ blank ih =>
    have plain : d ≠ '/' := by
      rintro rfl
      cases blank
    obtain ⟨before, rfl, same⟩ := ih skipped
    refine ⟨d :: before, rfl, fun more => ?_⟩
    rw [← same more, List.cons_append, skipGap, if_pos blank]
    all_goals simp [plain]
  | case5 =>
    cases skipped
    exact ⟨[], rfl, fun _ => rfl⟩
  | case7 line text ih =>
    obtain ⟨before, rfl, same⟩ := ih skipped
    exact ⟨'\n' :: before, rfl, same⟩
  | case8 line d text other ih =>
    obtain ⟨before, rfl, same⟩ := ih skipped
    refine ⟨d :: before, rfl, fun more => ?_⟩
    rw [← same more, List.cons_append, skipGap, if_neg other]
  | case10 start line text ih =>
    obtain ⟨before, rfl, same⟩ := ih skipped
    exact ⟨'*' :: '/' :: before, rfl, same⟩
  | case11 start line d text inside ih =>
    obtain ⟨before, rfl, same⟩ := ih skipped
    refine ⟨d :: before, rfl, fun more => ?_⟩
    rw [← same more, List.cons_append, skipGap]
    -- The comment is still open, so its end is in the gap and not behind it.
    intro behind star next
    cases before with
    | nil => cases same []
    | cons e before =>
      obtain rfl : e = '/' := (List.cons.inj next).1
      exact inside _ star rfl

theorem readQuotedShorter {line : Nat} {text : List Char} {read : List Char × Nat × List Char}
    (ok : readQuoted line text = some read) : read.2.2.length < text.length := by
  fun_induction readQuoted line text generalizing read with
  | case1 | case3 => cases ok
  | case2 line rest =>
    cases ok
    exact Nat.lt_succ_self _
  | case4 line c rest ih =>
    obtain ⟨inner, found, rfl⟩ := Option.map_eq_some_iff.mp ok
    have shorter := ih found
    exact Nat.lt_succ_of_lt (Nat.lt_succ_of_lt shorter)
  | case5 line c rest _ _ _ ih =>
    obtain ⟨inner, found, rfl⟩ := Option.map_eq_some_iff.mp ok
    have shorter := ih found
    exact Nat.lt_succ_of_lt shorter

theorem readQuotedOpen {line : Nat} {text more : List Char} {read : List Char × Nat × List Char}
    (unclosed : readQuoted line text = none) (ok : readQuoted line (text ++ more) = some read) :
    read.2.2.length < more.length := by
  fun_induction readQuoted line text generalizing read with
  | case1 line => exact readQuotedShorter ok
  | case2 => cases unclosed
  | case3 line =>
    cases more with
    | nil => cases ok
    | cons c more =>
      obtain ⟨inner, found, rfl⟩ := Option.map_eq_some_iff.mp (show Option.map _ (readQuoted _ more) = _ from ok)
      have shorter := readQuotedShorter found
      exact Nat.lt_succ_of_lt shorter
  | case4 line c rest ih =>
    obtain ⟨inner, found, rfl⟩ :=
      Option.map_eq_some_iff.mp (show Option.map _ (readQuoted _ (rest ++ more)) = _ from ok)
    have shorter := ih (Option.map_eq_none_iff.mp unclosed) found
    exact shorter
  | case5 line c rest quote lone escape ih =>
    have plain := noEscape lone escape
    rw [List.cons_append, readQuoted] at ok
    · obtain ⟨inner, found, rfl⟩ := Option.map_eq_some_iff.mp ok
      have shorter := ih (Option.map_eq_none_iff.mp unclosed) found
      exact shorter
    all_goals simp_all

theorem readTokenAlone {line : Nat} {c : Char} {rest more : List Char} {read : Token × Nat × List Char}
    (parted : Parted more) (ok : readToken line c (rest ++ more) = .ok read) (left : more.length ≤ read.2.2.length) :
    ∃ behind, readToken line c rest = .ok (read.1, read.2.1, behind) ∧ read.2.2 = behind ++ more := by
  cases alone : readToken line c rest with
  | ok found =>
    obtain ⟨last, lines, same⟩ := readTokenBefore parted alone line
    obtain rfl : last = found.2.1 := by omega
    cases same.symm.trans ok
    exact ⟨found.2.2, rfl, rfl⟩
  | error e =>
    unfold readToken at alone ok
    split at alone
    · rename_i digit
      have same := readNumberBefore parted (List.cons_ne_nil c rest) line line
      rw [if_pos digit, ← List.cons_append] at ok
      cases number : readNumber line (c :: rest) with
      | ok found => simp [number, Except.map] at alone
      | error e =>
        rw [number] at same
        cases number' : readNumber line (c :: rest ++ more) with
        | error e =>
          rw [number'] at ok
          cases ok
        | ok found =>
          rw [number'] at same
          cases same
    · rename_i noDigit
      rw [if_neg noDigit] at ok
      split at alone
      · rename_i quote
        rw [if_pos quote] at ok
        cases unclosed : readQuoted line rest with
        | some found => simp [unclosed] at alone
        | none =>
          cases quoted : readQuoted line (rest ++ more) with
          | none => simp [quoted] at ok
          | some found =>
            have shorter := readQuotedOpen unclosed quoted
            simp only [quoted, Except.ok.injEq] at ok
            subst ok
            exact absurd shorter (Nat.not_lt.mpr left)
      · split at alone
        · cases alone
        · split at alone <;> cases alone

theorem growSemicolon {mark : Mark} {text after : List Char} (grown : mark.grow text = (.semicolon, after)) :
    mark = .semicolon ∧ after = text := by
  fun_induction Mark.grow mark text with
  | case1 mark =>
    cases grown
    exact ⟨rfl, rfl⟩
  | case2 mark c rest longer extends' ih =>
    obtain ⟨rfl, _⟩ := ih grown
    unfold Mark.extend? at extends'
    split at extends' <;> cases extends'
  | case3 mark c rest stops =>
    cases grown
    exact ⟨rfl, rfl⟩

theorem readTokenSemicolon {line there : Nat} {c : Char} {rest left : List Char}
    (ok : readToken line c rest = .ok (.mark .semicolon, there, left)) : c = ';' ∧ there = line ∧ left = rest := by
  unfold readToken at ok
  split at ok
  · cases number : readNumber line (c :: rest) with
    | error e => simp [number, Except.map] at ok
    | ok found =>
      simp only [number, Except.map, Except.ok.injEq] at ok
      rcases readNumberIsNumber number with ⟨n, same⟩ | ⟨x, same⟩
      · rw [same] at ok
        cases ok
      · rw [same] at ok
        cases ok
  · split at ok
    · split at ok <;> cases ok
    · split at ok
      · cases ok
      · split at ok
        · rename_i mark found
          simp only [Except.ok.injEq, Prod.mk.injEq, Token.mark.injEq] at ok
          obtain ⟨kind, rfl, rfl⟩ := ok
          obtain ⟨rfl, same⟩ := growSemicolon (Prod.ext kind rfl)
          refine ⟨?_, rfl, same⟩
          unfold Mark.ofChar? at found
          split at found <;> first | rfl | cases found
        · cases ok

theorem Scan.tokensCut {line place : Nat} {source : List Char} {row : List Lexeme} {stop : Lexeme}
    (read : tokens false ⟨.code, line, source⟩ = .ok (row ++ [⟨place, .mark .semicolon⟩, stop]))
    (steady : row.getLast?.map Lexeme.token ≠ some (.mark .slash)) :
    ∃ before after, source = before ++ ';' :: after ∧ tokens false ⟨.code, place, after⟩ = .ok [stop] ∧
      ∀ more, Parted more → tokens false ⟨.code, line, before ++ more⟩ =
        (tokens false ⟨.code, place, more⟩).map (row ++ ·) := by
  induction row generalizing line source with
  | nil =>
    obtain ⟨last, rest, gap, ⟨_, same, _⟩ | ⟨c, behind, token, there, left, rfl, taken, same, _, inside⟩⟩ :=
      firstTokenCases read
    · cases same
    · cases same
      obtain ⟨rfl, rfl, rfl⟩ := readTokenSemicolon taken
      obtain ⟨before, rfl, skips⟩ := skipGapTaken gap
      refine ⟨before, left, rfl, inside, fun more _ => ?_⟩
      rw [tokensAfterGap (by decide) (skips more)]
      cases tokens false ⟨.code, there, more⟩ <;> rfl
  | cons first row ih =>
    obtain ⟨last, rest, gap, ⟨_, _, same⟩ | ⟨c, behind, token, there, left, rfl, taken, rfl, notEof, inside⟩⟩ :=
      firstTokenCases read
    · simp at same
    have steady' : row.getLast?.map Lexeme.token ≠ some (.mark .slash) := by
      cases row with
      | nil => simp
      | cons next row => simpa [List.getLast?_cons] using steady
    obtain ⟨before, after, rfl, ends, same⟩ := ih inside steady'
    obtain ⟨text, rfl⟩ := readTokenSuffix taken
    have parted : Parted (';' :: after) := ((breaksPunctuation (by decide)).severed after).parted
    rw [← List.append_assoc] at taken
    obtain ⟨behind, alone, split⟩ := readTokenAlone parted taken (by simp)
    obtain rfl : before = behind := List.append_cancel_right split
    obtain ⟨start, rfl, skips⟩ := skipGapTaken gap
    refine ⟨start ++ c :: (text ++ before), after, by simp, ends, fun more parted => ?_⟩
    have stands : skipGap .blank last (c :: (text ++ before ++ more)) = .ok (last, c :: (text ++ before ++ more)) := by
      obtain ⟨filled, apart⟩ := skipGapStops gap
      refine skipGapStands filled (fun slash => ?_) last
      cases shape : text ++ before with
      | cons d rest =>
        have apart := apart slash
        rw [← List.append_assoc, shape] at apart
        exact apart
      | nil =>
        -- Then the slash is the last token of the row.
        obtain ⟨rfl, rfl⟩ := List.append_eq_nil_iff.mp shape
        subst slash
        cases alone
        have none := same [] severedNil.parted
        rw [List.nil_append, tokensAtEnd, tokensAtEnd] at none
        obtain rfl : row = [] := by simpa using congrArg List.length (Except.ok.inj none)
        exact absurd rfl steady
    have gap' : skipGap .blank line (start ++ c :: (text ++ before) ++ more) =
        .ok (last, c :: (text ++ before ++ more)) := by
      rw [List.append_assoc, skips]
      exact stands
    obtain ⟨there', lines, taken'⟩ := readTokenBefore parted alone last
    obtain rfl : there' = there := by
      simp only at lines
      omega
    rw [tokensMore (nextRead gap' taken') notEof, same more parted]
    cases tokens false ⟨.code, place, more⟩ <;> rfl

theorem partingSlash : Parting '/' where
  digits radix := by cases radix <;> decide
  digit := by decide
  words := by decide +kernel
  marks mark := by cases mark <;> rfl
  point := by decide

theorem gapParted {line : Nat} {after : List Char} {stop : Lexeme}
    (read : Scan.tokens false ⟨.code, line, after⟩ = .ok [stop]) : Parted after := by
  obtain ⟨last, rest, gap, ⟨rfl, _, _⟩ | ⟨c, behind, token, there, left, _, _, _, _, inside⟩⟩ :=
    Scan.firstTokenCases read
  · intro c behind same
    subst same
    cases blank : Text.isBlank c with
    | true => exact (breaksBlank blank).toParting
    | false =>
      by_cases slash : c = '/'
      · exact slash ▸ partingSlash
      · cases (skipNothing blank slash line behind).symm.trans gap
  · exact absurd inside Scan.tokensFilled

def Ending.text : Ending → String
  | semicolon => ";"
  | nothing => ""
  | braces => "\x7b\x7d"
  | quotes => "\"\""

theorem endingRead (code : Code) {after : List Char}
    (read : Scan.tokens false ⟨.code, code.line, after⟩ = .ok [⟨code.final, .eof⟩]) (ending : Ending) :
    Parted (ending.text.toList ++ after) ∧
      Scan.tokens false ⟨.code, code.line, ending.text.toList ++ after⟩ = .ok (code.ending ending) := by
  have mark {m : Mark} (solid : m ≠ .slash) (single : ∀ c, m.extend? c = none) (more : List Char) :
      Scan.tokens false ⟨.code, code.line, m.spelling.toList ++ more⟩ =
        (Scan.tokens false ⟨.code, code.line, more⟩).map (⟨code.line, .mark m⟩ :: ·) :=
    Scan.tokensMore (Scan.nextMark m solid (fun c _ _ => single c) code.line) rfl
  cases ending with
  | semicolon =>
    refine ⟨((breaksPunctuation (by decide)).severed after).parted, ?_⟩
    refine (mark (m := .semicolon) (by decide) (fun _ => rfl) after).trans ?_
    rw [read]
    rfl
  | nothing => exact ⟨gapParted read, read⟩
  | braces =>
    refine ⟨((breaksPunctuation (by decide)).severed _).parted, ?_⟩
    refine (mark (m := .lBrace) (by decide) (fun _ => rfl) ('}' :: after)).trans ?_
    rw [show '}' :: after = Mark.rBrace.spelling.toList ++ after from rfl, mark (by decide) (fun _ => rfl), read]
    rfl
  | quotes =>
    refine ⟨((breaksPunctuation (by decide)).severed _).parted, ?_⟩
    have quoted : readToken code.line '"' ('"' :: after) = .ok (.str "", code.line, after) := rfl
    refine (Scan.tokensMore (Scan.nextRead (skipNothing (by decide) (by decide) code.line _) quoted) rfl).trans ?_
    rw [read]
    rfl

theorem otherEndings {source : String} (code : Code)
    (read : tokenizeCode source = .ok (code.row ++ code.ending .semicolon))
    (steady : code.last? ≠ some (.mark .slash)) :
    ∃ before after : String, source = before ++ ";" ++ after ∧
      ∀ ending : Ending, tokenizeCode (before ++ ending.text ++ after) = .ok (code.row ++ code.ending ending) := by
  obtain ⟨before, after, text, ends, same⟩ := Scan.tokensCut read steady
  refine ⟨String.ofList before, String.ofList after, String.toList_inj.mp (by simp [text]), fun ending => ?_⟩
  obtain ⟨parted, behind⟩ := endingRead code ends ending
  rw [tokenizeCode, String.toList_append, String.toList_append, String.toList_ofList, String.toList_ofList,
    List.append_assoc, same _ parted, behind]
  rfl

/-- A source without its last semicolon has the same tree, with the semicolon replaced by braces it does not; or it is
the other way round, where the semicolon is a statement by itself. The exception is a return without a value: an empty
string can stand for its semicolon, and without it the return is refused. -/
theorem lastSemicolonIsOptional {source : String} {row : List Lexeme} {line : Nat} {stop : Lexeme} {tree : Stmt}
    (read : tokenizeCode source = .ok (row ++ [⟨line, .mark .semicolon⟩, stop]))
    (parsed : parseCode source = .ok tree) :
    ∃ before after : String, source = before ++ ";" ++ after ∧ tokenizeCode (before ++ after) = .ok (row ++ [stop]) ∧
      (parseCode (before ++ after) = .ok tree ∧ parseCode (before ++ "\x7b\x7d" ++ after) ≠ .ok tree ∨
        parseCode (before ++ "\x7b\x7d" ++ after) = .ok tree ∧ parseCode (before ++ after) ≠ .ok tree ∨
        row.getLast?.map Lexeme.token = some (.ident "return") ∧ parseCode (before ++ "\"\"" ++ after) = .ok tree ∧
          parseCode (before ++ after) = .error ⟨stop.line, .expected .expression .eof⟩) := by
  obtain ⟨body, final, stmts, last, read', stops, _, rfl, ran⟩ := codeAccepted parsed
  have row' : body ++ [final] = row ++ [⟨line, .mark .semicolon⟩] ++ [stop] := by
    simpa using Except.ok.inj (read'.symm.trans read)
  obtain ⟨rfl, same⟩ := List.append_inj' row' rfl
  cases same
  obtain ⟨stopLine, token⟩ := stop
  obtain rfl : token = .eof := stops
  rw [List.append_assoc] at ran
  obtain ⟨steady, roles⟩ := endingsParse ⟨row, line, stopLine⟩ ran rfl
  obtain ⟨before, after, text, tokens⟩ := otherEndings ⟨row, line, stopLine⟩ read steady
  have parses (ending : Ending) : parseCode (before ++ ending.text ++ after) =
      parseTokens (row ++ Code.ending ⟨row, line, stopLine⟩ ending) := by
    rw [parseCode, tokens]
    rfl
  have whole : before ++ Ending.nothing.text ++ after = before ++ after := by simp [Ending.text]
  refine ⟨before, after, text, ?_, ?_⟩
  · rw [← whole, tokens]
    rfl
  · rw [← parses .nothing, ← parses .braces, ← parses .quotes, whole] at roles
    exact roles

theorem buriedSemicolonIsOptional :
    ∃ row stop tree,
      tokenizeCode "while (a) if (b) x := func() return -1; // done" =
        .ok (row ++ [⟨1, .mark .semicolon⟩, stop]) ∧
      parseCode "while (a) if (b) x := func() return -1; // done" = .ok tree ∧
      ∃ before after : String, "while (a) if (b) x := func() return -1; // done" = before ++ ";" ++ after ∧
        tokenizeCode (before ++ after) = .ok (row ++ [stop]) ∧
        parseCode (before ++ after) = .ok tree ∧ parseCode (before ++ "\x7b\x7d" ++ after) ≠ .ok tree := by
  let row : List Lexeme := [.ident "while", .mark .lParen, .ident "a", .mark .rParen, .ident "if", .mark .lParen,
    .ident "b", .mark .rParen, .ident "x", .mark .declare, .ident "func", .mark .lParen, .mark .rParen, .ident "return",
    .mark .minus, .int 1].map (Lexeme.mk 1)
  have taken : tokenizeCode "while (a) if (b) x := func() return -1; // done" =
    .ok (row ++ [⟨1, .mark .semicolon⟩, ⟨1, .eof⟩]) := by with_unfolding_all rfl
  have parsed := parseCodeOf _ taken rfl
  obtain ⟨before, after, text, tokens, roles⟩ := lastSemicolonIsOptional taken parsed
  rcases roles with optional | ⟨_, other⟩ | ⟨word, _⟩
  · exact ⟨row, ⟨1, .eof⟩, _, taken, parsed, before, after, text, tokens, optional⟩
  · refine absurd ?_ other
    rw [parseCode, tokens]
    rfl
  · cases word

theorem bareReturnNeedsItsSemicolon :
    parseCode "return;" = .ok (.block [.ret (.literal (.str ""))]) ∧
      parseCode "return\x7b\x7d" = .ok (.block [.ret (.map [])]) ∧
      parseCode "return" = .error ⟨1, .expected .expression .eof⟩ := by
  refine ⟨?_, ?_, ?_⟩
  · exact parseCodeOf ([.ident "return", .mark .semicolon, .eof].map (Lexeme.mk 1)) (by with_unfolding_all rfl) rfl
  · exact parseCodeOf ([.ident "return", .mark .lBrace, .mark .rBrace, .eof].map (Lexeme.mk 1))
      (by with_unfolding_all rfl) rfl
  · have taken : tokenizeCode "return" = .ok ([.ident "return", .eof].map (Lexeme.mk 1)) := by
      with_unfolding_all rfl
    rw [parseCode, taken]
    rfl

end CircuitScript
