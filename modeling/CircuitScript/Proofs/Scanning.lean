import CircuitScript.Token.Scan

/-! The tokens of a source one after the other: the last of them is the end of input and no other is, and
every name among them is a word. -/
namespace CircuitScript

theorem okOfToBool {ε α : Type} {result : Except ε α} (accepted : result.toBool = true) :
    ∃ a, result = .ok a := by
  cases result with
  | ok a => exact ⟨a, rfl⟩
  | error e => cases accepted

theorem okOfToOption {ε α : Type} {result : Except ε α} {a : α} (given : result.toOption = some a) :
    result = .ok a := by
  cases result with
  | ok b => cases given; rfl
  | error e => cases given

theorem readNumberIsNumber {line : Nat} {text : List Char} {read : Token × List Char}
    (ok : readNumber line text = .ok read) : (∃ n, read.1 = .int n) ∨ ∃ x, read.1 = .float x := by
  unfold readNumber at ok
  split at ok
  case h_5 =>
    unfold readDecimal at ok
    dsimp only at ok
    split at ok
    · split at ok <;> cases ok
      exact .inl ⟨_, rfl⟩
    · cases ok
      exact .inr ⟨_, rfl⟩
  all_goals
    unfold readPrefixed at ok
    dsimp only at ok
    split at ok <;> cases ok
    exact .inl ⟨_, rfl⟩

/-- A token as reading makes it: a name is a word. -/
def Token.Lexed : Token → Prop
  | .ident word => Text.isIdentifier word.toList = true
  | _ => True

theorem readTokenLexed {line : Nat} {c : Char} {rest : List Char} {read : Token × Nat × List Char}
    (ok : readToken line c rest = .ok read) : read.1 ≠ .eof ∧ read.1.Lexed := by
  unfold readToken at ok
  split at ok
  · cases number : readNumber line (c :: rest) with
    | error e => simp [number, Except.map] at ok
    | ok found =>
      simp only [number, Except.map, Except.ok.injEq] at ok
      subst ok
      rcases readNumberIsNumber number with ⟨n, same⟩ | ⟨x, same⟩
      · simp [same, Token.Lexed]
      · simp [same, Token.Lexed]
  · split at ok
    · split at ok <;> cases ok
      exact ⟨nofun, trivial⟩
    · split at ok
      · rename_i start
        cases ok
        refine ⟨nofun, ?_⟩
        simp only [Token.Lexed, String.toList_ofList, Text.isIdentifier, start, Bool.true_and]
        exact List.all_takeWhile
      · split at ok <;> cases ok
        · exact ⟨nofun, trivial⟩
        · exact ⟨nofun, trivial⟩

namespace Scan

variable {templated : Bool} {scan after : Scan} {lexeme : Lexeme} {row : List Lexeme}

theorem tokensMore (read : scan.next templated = .ok (lexeme, after)) (more : lexeme.token.isEof = false) :
    scan.tokens templated = (after.tokens templated).map (lexeme :: ·) := by
  rw [tokens]
  split
  · simp_all
  · rename_i read'
    cases read.symm.trans read'
    rw [dif_pos more]

theorem tokensCases (read : scan.tokens templated = .ok row) :
    ∃ lexeme after, scan.next templated = .ok (lexeme, after) ∧
      ((lexeme.token = .eof ∧ row = [lexeme]) ∨
        lexeme.token.isEof = false ∧ ∃ rest, after.tokens templated = .ok rest ∧ row = lexeme :: rest) := by
  rw [tokens] at read
  split at read
  · cases read
  · rename_i lexeme after found
    refine ⟨lexeme, after, found, ?_⟩
    split at read
    · rename_i more
      cases later : after.tokens templated with
      | error e => simp [later, Except.map] at read
      | ok rest =>
        simp only [later, Except.map, Except.ok.injEq] at read
        exact .inr ⟨more, rest, rfl, read.symm⟩
    · rename_i ended
      cases read
      refine .inl ⟨?_, rfl⟩
      cases shape : lexeme.token <;> simp_all [Token.isEof]

theorem tokensFilled : scan.tokens templated ≠ .ok [] := by
  intro read
  obtain ⟨_, _, _, ⟨_, same⟩ | ⟨_, _, _, same⟩⟩ := tokensCases read <;> cases same

theorem nextInCode (mode : Mode) (code : mode ≠ .text) (line : Nat) (rest : List Char) :
    next templated ⟨mode, line, rest⟩ = nextCode templated ⟨mode, line, rest⟩ := by
  unfold next
  cases mode <;> simp_all

theorem tokensAfterGap {mode : Mode} (code : mode ≠ .text) {line line' : Nat} {source source' : List Char}
    (same : skipGap .blank line source = skipGap .blank line' source') :
    tokens templated ⟨mode, line, source⟩ = tokens templated ⟨mode, line', source'⟩ := by
  have next : next templated ⟨mode, line, source⟩ = next templated ⟨mode, line', source'⟩ := by
    rw [nextInCode mode code, nextInCode mode code, nextCode, nextCode]
    simp only [same]
  rw [tokens, tokens, next]

theorem nextCodeCases {line : Nat} {source : List Char}
    (read : nextCode false ⟨.code, line, source⟩ = .ok (lexeme, after)) :
    ∃ last rest, skipGap .blank line source = .ok (last, rest) ∧
      ((rest = [] ∧ lexeme = ⟨last, .eof⟩) ∨
        ∃ c behind token there left, rest = c :: behind ∧ readToken last c behind = .ok (token, there, left) ∧
          lexeme = ⟨last, token⟩ ∧ after = ⟨.code, there, left⟩) := by
  unfold nextCode at read
  cases skipped : skipGap .blank line source with
  | error e => simp [skipped, bind, Except.bind] at read
  | ok found =>
    obtain ⟨last, rest⟩ := found
    refine ⟨last, rest, rfl, ?_⟩
    simp only [skipped, bind, Except.bind] at read
    cases rest with
    | nil =>
      cases read
      exact .inl ⟨rfl, rfl⟩
    | cons c behind =>
      cases token : readToken last c behind with
      | error e => simp [token] at read
      | ok found =>
        obtain ⟨token', there, left⟩ := found
        simp only [token] at read
        cases read
        exact .inr ⟨c, behind, token', there, left, rfl, token, rfl, rfl⟩

theorem firstTokenCases {line : Nat} {source : List Char}
    (read : tokens false ⟨.code, line, source⟩ = .ok (lexeme :: row)) :
    ∃ last rest, skipGap .blank line source = .ok (last, rest) ∧
      ((rest = [] ∧ lexeme = ⟨last, .eof⟩ ∧ row = []) ∨
        ∃ c behind token there left, rest = c :: behind ∧ readToken last c behind = .ok (token, there, left) ∧
          lexeme = ⟨last, token⟩ ∧ token.isEof = false ∧ tokens false ⟨.code, there, left⟩ = .ok row) := by
  obtain ⟨first, after, found, ended⟩ := tokensCases read
  rw [nextInCode .code (by decide)] at found
  obtain ⟨last, rest, skipped, ⟨rfl, rfl⟩ | ⟨c, behind, token, there, left, rfl, taken, rfl, rfl⟩⟩ :=
    nextCodeCases found
  · obtain ⟨_, same⟩ | ⟨unended, _⟩ := ended
    · cases same
      exact ⟨last, [], skipped, .inl ⟨rfl, rfl, rfl⟩⟩
    · cases unended
  · obtain ⟨isEof, _⟩ | ⟨more, row', inside, same⟩ := ended
    · exact absurd isEof (readTokenLexed taken).1
    · cases same
      exact ⟨last, _, skipped, .inr ⟨c, behind, token, there, left, rfl, taken, rfl, more, inside⟩⟩

theorem nextCodeLexed (read : nextCode templated scan = .ok (lexeme, after)) : lexeme.token.Lexed := by
  unfold nextCode at read
  cases skipped : skipGap .blank scan.line scan.rest with
  | error e => simp [skipped, bind, Except.bind] at read
  | ok found =>
    simp only [skipped, bind, Except.bind] at read
    split at read
    · cases read
      dsimp only
      split <;> trivial
    · cases read
      trivial
    · split at read
      · cases read
      · rename_i token
        cases read
        exact (readTokenLexed token).2

theorem nextLexed (read : scan.next templated = .ok (lexeme, after)) : lexeme.token.Lexed := by
  unfold next at read
  split at read
  · cases read
    trivial
  · cases read
    trivial
  · exact nextCodeLexed read
  · cases read
    trivial
  · exact nextCodeLexed read

theorem tokensEnd (read : scan.tokens templated = .ok row) :
    (∀ lexeme ∈ row, lexeme.token.Lexed) ∧ ∃ body last, row = body ++ [last] ∧ last.token = .eof ∧
      ∀ lexeme ∈ body, lexeme.token ≠ .eof := by
  induction row generalizing scan with
  | nil => exact absurd read tokensFilled
  | cons first row ih =>
    obtain ⟨lexeme, after, found, ⟨ended, same⟩ | ⟨more, rest, later, same⟩⟩ := tokensCases read
    · cases same
      exact ⟨by simpa using nextLexed found, [], first, rfl, ended, nofun⟩
    · cases same
      obtain ⟨lexed, body, last, rfl, ended, inside⟩ := ih later
      refine ⟨List.forall_mem_cons.mpr ⟨nextLexed found, lexed⟩, first :: body, last, rfl, ended, ?_⟩
      refine List.forall_mem_cons.mpr ⟨fun isEof => ?_, inside⟩
      rw [isEof] at more
      cases more

end Scan

end CircuitScript
