import CircuitScript.Proofs.Accepted
import CircuitScript.Proofs.Canonical

/-! Sources that the grammar refuses, and the line a refusal carries. It is the line of the token that the refusal
tells of, but where the token has been passed before it is looked at, it is the line of the one behind it. -/
namespace CircuitScript

theorem Cursor.skipLine (previous : Option Lexeme) (before : List Lexeme) (lexeme : Lexeme) (after : List Lexeme) :
    ((Cursor.mk previous (before ++ lexeme :: after)).skip before.length).line = lexeme.line := by
  obtain ⟨last, there⟩ := skipPassed previous before (lexeme :: after)
  rw [there]
  rfl

theorem Cursor.skipLineBehind (previous : Option Lexeme) (before : List Lexeme) (lexeme : Lexeme)
    (after : List Lexeme) :
    ((Cursor.mk previous (before ++ lexeme :: after)).skip (before.length + 1)).line =
      (after.headD lexeme).line := by
  obtain ⟨last, there⟩ := skipPassed previous before (lexeme :: after)
  rw [← skipSkip, there]
  cases after <;> rfl

/-- The line of a refusal of the token in front of `after`. -/
def Wanted.refusalLine (wanted : Wanted) (lexeme : Lexeme) (after : List Lexeme) : Nat :=
  if wanted.late then (after.headD lexeme).line else lexeme.line

theorem Wanted.refusalLineHere (wanted : Wanted) (lexeme : Lexeme) (after : List Lexeme) :
    wanted.refusalLine lexeme after = lexeme.line ↔
      wanted.late = false ∨ ∀ next ∈ after.head?, next.line = lexeme.line := by
  unfold refusalLine
  cases wanted.late with
  | false => simp
  | true => cases after <;> simp

theorem refusedRow {body : List Lexeme} {last : Lexeme} {e : ParseError} {wanted : Wanted} {found : Token}
    (lexed : ∀ lexeme ∈ body ++ [last], lexeme.token.Lexed) (ended : last.token = .eof)
    (ran : parseTokens (body ++ [last]) = .error e) (cause : e.cause = .expected wanted found) :
    ∃ before lexeme after, body ++ [last] = before ++ lexeme :: after ∧ lexeme.token = found ∧
      ∀ before' lexeme' after', before'.map Lexeme.token = before.map Lexeme.token → lexeme'.token = found →
        after'.map Lexeme.token = after.map Lexeme.token →
        parseTokens (before' ++ lexeme' :: after') =
          .error ⟨wanted.refusalLine lexeme' after', .expected wanted found⟩ := by
  obtain ⟨course, judged, accounts⟩ := Parser.rowCourse lexed
  have here := judged (body ++ [last]) rfl
  unfold parseTokens at ran
  rw [here] at ran
  cases course with
  | ok stmts passed => cases ran
  | spent => cases ran; cases cause
  | refused place reason =>
    cases ran
    obtain rfl : reason = .expected wanted found := cause
    obtain ⟨⟨stack, walked⟩, told⟩ := accounts
    -- The end of input is never passed before the refusal, so its place lies inside the row.
    have le := walkedWithin ended walked
    obtain ⟨before, lexeme, after, split, rfl⟩ :=
      splitAtPlace (show place < (body ++ [last]).length by simp; omega)
    have told : ((View.mk none ((body ++ [last]).map Lexeme.token)).skip before.length).token = found := told found rfl
    rw [split, tokenAtPlace] at told
    refine ⟨before, lexeme, after, split, told, fun before' lexeme' after' front same back => ?_⟩
    have tokens : (before' ++ lexeme' :: after').map Lexeme.token = (body ++ [last]).map Lexeme.token := by
      rw [split, List.map_append, List.map_append, List.map_cons, List.map_cons, front, same, told, back]
    have length : before.length = before'.length := by simpa using (congrArg List.length front).symm
    unfold parseTokens
    rw [judged _ tokens, length]
    unfold Course.parsed Wanted.refusalLine ParseError.Cause.delay
    dsimp only
    split
    · rw [Cursor.skipLineBehind]
    · rw [Nat.add_zero, Cursor.skipLine]

/-- The token told of, wherever it stands: with other lines for the same tokens the refusal would carry the line of
this token, or of the one behind it. -/
theorem refusalCarriesLine {template : Bool} {source : String} {row : List Lexeme} {e : ParseError}
    {wanted : Wanted} {found : Token} (read : tokenize template source = .ok row)
    (refused : parse template source = .error e) (cause : e.cause = .expected wanted found) :
    ∃ before lexeme after, row = before ++ lexeme :: after ∧ lexeme.token = found ∧
      (∀ before' lexeme' after', before'.map Lexeme.token = before.map Lexeme.token → lexeme'.token = found →
        after'.map Lexeme.token = after.map Lexeme.token →
        parseTokens (before' ++ lexeme' :: after') =
          .error ⟨wanted.refusalLine lexeme' after', .expected wanted found⟩) ∧
      (e.line = lexeme.line ↔ wanted.late = false ∨ ∀ next ∈ after.head?, next.line = lexeme.line) := by
  obtain ⟨lexed, body, last, rfl, ended, _⟩ := tokenizeEnd read
  have ran : parseTokens (body ++ [last]) = .error e := by
    rw [parseTokenized, read] at refused
    exact refused
  obtain ⟨before, lexeme, after, split, told, anyLines⟩ := refusedRow lexed ended ran cause
  refine ⟨before, lexeme, after, split, told, anyLines, ?_⟩
  have these := anyLines before lexeme after rfl told rfl
  rw [← split, ran] at these
  cases these
  exact wanted.refusalLineHere lexeme after

theorem missingSemicolonCarriesLine :
    ∃ row before lexeme after, tokenize false "a := 1\nb := 2;" = .ok row ∧
      parse false "a := 1\nb := 2;" = .error ⟨2, .expected (.mark .semicolon) (.ident "b")⟩ ∧
      row = before ++ lexeme :: after ∧ lexeme.token = .ident "b" ∧ lexeme.line = 2 := by
  have read : tokenize false "a := 1\nb := 2;" =
      .ok [⟨1, .ident "a"⟩, ⟨1, .mark .declare⟩, ⟨1, .int 1⟩, ⟨2, .ident "b"⟩, ⟨2, .mark .declare⟩, ⟨2, .int 2⟩,
        ⟨2, .mark .semicolon⟩, ⟨2, .eof⟩] := by with_unfolding_all rfl
  have refused : parse false "a := 1\nb := 2;" = .error ⟨2, .expected (.mark .semicolon) (.ident "b")⟩ := by
    rw [parseTokenized, read]
    rfl
  obtain ⟨before, lexeme, after, split, told, _, line⟩ := refusalCarriesLine read refused rfl
  exact ⟨_, before, lexeme, after, read, refused, split, told, (line.mpr (.inl rfl)).symm⟩

theorem missingValueCarriesNextLine :
    tokenize false "a := ;\nb" =
        .ok [⟨1, .ident "a"⟩, ⟨1, .mark .declare⟩, ⟨1, .mark .semicolon⟩, ⟨2, .ident "b"⟩, ⟨2, .eof⟩] ∧
      parse false "a := ;\nb" = .error ⟨2, .expected .expression (.mark .semicolon)⟩ := by
  have read : tokenize false "a := ;\nb" =
      .ok [⟨1, .ident "a"⟩, ⟨1, .mark .declare⟩, ⟨1, .mark .semicolon⟩, ⟨2, .ident "b"⟩, ⟨2, .eof⟩] := by
    with_unfolding_all rfl
  refine ⟨read, ?_⟩
  rw [parseTokenized, read]
  rfl

end CircuitScript
