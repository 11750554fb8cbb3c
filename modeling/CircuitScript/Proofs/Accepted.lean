import CircuitScript.Proofs.Descent

/-! Sources that the grammar accepts: all of their tokens are read, and the brackets among them are nested. -/
namespace CircuitScript

/-- The tokens of a source, read as code or as template text. -/
def tokenize (template : Bool) (source : String) : Except ParseError (List Lexeme) :=
  if template then tokenizeTemplate source else tokenizeCode source

/-- The tree of a source, read as code or as template text. -/
def parse (template : Bool) (source : String) : Except ParseError Stmt :=
  if template then parseTemplate source else parseCode source

theorem parseTokenized (template : Bool) (source : String) :
    parse template source = tokenize template source >>= parseTokens := by
  cases template <;> rfl

theorem tokenizeEnd {template : Bool} {source : String} {row : List Lexeme}
    (read : tokenize template source = .ok row) :
    (∀ lexeme ∈ row, lexeme.token.Lexed) ∧ ∃ body last, row = body ++ [last] ∧ last.token = .eof ∧
      ∀ lexeme ∈ body, lexeme.token ≠ .eof := by
  cases template <;> exact Scan.tokensEnd read

theorem parseOk {template : Bool} {source : String} {tree : Stmt} (parsed : parse template source = .ok tree) :
    ∃ row, tokenize template source = .ok row ∧ parseTokens row = .ok tree := by
  rw [parseTokenized] at parsed
  cases read : tokenize template source with
  | error e => rw [read] at parsed; cases parsed
  | ok row => exact ⟨row, rfl, by rw [read] at parsed; exact parsed⟩

def Standing.start {row : List Lexeme} (lexed : ∀ lexeme ∈ row, lexeme.token.Lexed) : Standing :=
  ⟨⟨none, row.map Lexeme.token⟩, [], by simpa using lexed⟩

theorem Parser.rowCourse {row : List Lexeme} (lexed : ∀ lexeme ∈ row, lexeme.token.Lexed) :
    ∃ course : Course (List Stmt),
      (∀ other : List Lexeme, other.map Lexeme.token = row.map Lexeme.token →
        statements (budget other.length) ⟨none, other⟩ = course.parsed ⟨none, other⟩) ∧
      course.Accounts (.start lexed) fun next body => next.stack = [] ∧ next.view.token = .eof ∧
        ∀ stmt ∈ body, (Part.stmt stmt).Everywhere Part.Regular := by
  obtain ⟨course, ran, accounts⟩ := leadsStatements (budget row.length) (.start lexed) rfl
  refine ⟨course, fun other same => ?_, accounts⟩
  have length : other.length = row.length := by simpa using congrArg List.length same
  rw [length]
  exact ran ⟨none, other⟩ (by rw [Cursor.view, same]; rfl)

theorem walkedWithin {body : List Lexeme} {last : Lexeme} {before after : List Bracket} {passed : Nat}
    (ended : last.token = .eof)
    (walked : walk before (((body ++ [last]).map Lexeme.token).take passed) = some after) :
    passed ≤ body.length := by
  refine Nat.le_of_not_lt fun beyond => ?_
  have all : ((body ++ [last]).map Lexeme.token).take passed = (body ++ [last]).map Lexeme.token :=
    List.take_of_length_le (by simp; omega)
  rw [all] at walked
  have known := walkKnown walked last.token (List.mem_map_of_mem (by simp))
  rw [ended] at known
  cases known

theorem splitAtPlace {α : Type} {row : List α} {place : Nat} (there : place < row.length) :
    ∃ before a after, row = before ++ a :: after ∧ before.length = place :=
  ⟨row.take place, row[place], row.drop (place + 1), by simp, by simp; omega⟩

theorem tokenAtPlace (previous : Option Token) (before : List Lexeme) (lexeme : Lexeme) (after : List Lexeme) :
    ((View.mk previous ((before ++ lexeme :: after).map Lexeme.token)).skip before.length).token =
      lexeme.token := by
  simp [View.token, View.skipAhead]

theorem Cursor.skipPassed (previous : Option Lexeme) (body rest : List Lexeme) :
    ∃ last, (Cursor.mk previous (body ++ rest)).skip body.length = ⟨last, rest⟩ := by
  induction body generalizing previous with
  | nil => exact ⟨previous, rfl⟩
  | cons lexeme body ih => exact ih (some lexeme)

theorem acceptedRow {body : List Lexeme} {last : Lexeme} {tree : Stmt}
    (lexed : ∀ lexeme ∈ body ++ [last], lexeme.token.Lexed) (ended : last.token = .eof)
    (inside : ∀ lexeme ∈ body, lexeme.token ≠ .eof) (ran : parseTokens (body ++ [last]) = .ok tree) :
    ∃ stmts previous, tree = .block stmts ∧ (∀ stmt ∈ stmts, (Part.stmt stmt).Everywhere Part.Regular) ∧
      Parser.statements (Parser.budget (body ++ [last]).length) ⟨none, body ++ [last]⟩ =
        .ok stmts ⟨previous, [last]⟩ ∧
      walk [] (body.map Lexeme.token) = some [] := by
  obtain ⟨course, judged, accounts⟩ := Parser.rowCourse lexed
  have judged := judged (body ++ [last]) rfl
  unfold parseTokens at ran
  rw [judged] at ran
  cases course with
  | refused place cause => cases ran
  | spent => cases ran
  | ok stmts passed =>
    cases ran
    obtain ⟨_, walked, rfl, atEnd, regular⟩ := accounts
    have le := walkedWithin ended walked
    have atEnd : ((View.mk none ((body ++ [last]).map Lexeme.token)).skip passed).token = .eof := atEnd
    -- Reading stopped at an end of input, and in front of the last token there is none.
    rcases Nat.lt_or_eq_of_le le with less | rfl
    · obtain ⟨before, lexeme, after, rfl, rfl⟩ := splitAtPlace less
      rw [List.append_assoc, List.cons_append, tokenAtPlace] at atEnd
      exact absurd atEnd (inside lexeme (by simp))
    obtain ⟨previous, rest⟩ := Cursor.skipPassed none body [last]
    refine ⟨stmts, previous, rfl, regular, ?_, ?_⟩
    · rw [judged, Course.parsed, rest]
    · simpa [Standing.start] using walked

theorem acceptedNested {template : Bool} {source : String} {tree : Stmt}
    (parsed : parse template source = .ok tree) :
    ∃ tokens last, tokenize template source = .ok (tokens ++ [last]) ∧ last.token = .eof ∧
      (∃ stmts previous, tree = .block stmts ∧
        Parser.statements (Parser.budget (tokens ++ [last]).length) ⟨none, tokens ++ [last]⟩ =
          .ok stmts ⟨previous, [last]⟩) ∧
      (∀ lexeme ∈ tokens, lexeme.token ≠ .eof ∧ ∀ c, lexeme.token ≠ .unknown c) ∧
      Nested (tokens.map Lexeme.token) := by
  obtain ⟨row, read, ran⟩ := parseOk parsed
  obtain ⟨lexed, tokens, last, rfl, ended, inside⟩ := tokenizeEnd read
  obtain ⟨stmts, previous, rfl, _, consumed, walked⟩ := acceptedRow lexed ended inside ran
  refine ⟨tokens, last, read, ended, ⟨stmts, previous, rfl, consumed⟩, fun lexeme member => ?_, walkUnwinds walked⟩
  refine ⟨inside lexeme member, fun c unknown => ?_⟩
  have known := walkKnown walked _ (List.mem_map_of_mem member)
  rw [unknown] at known
  cases known

theorem templateNested :
    ∃ tree tokens last,
      parse true "<? f := func(x) \x7b return [x, \x7ba: (1)\x7d]; \x7d ?>text<?= f(2) ?>" = .ok tree ∧
      tokenize true "<? f := func(x) \x7b return [x, \x7ba: (1)\x7d]; \x7d ?>text<?= f(2) ?>" =
        .ok (tokens ++ [last]) ∧
      Nested (tokens.map Lexeme.token) := by
  obtain ⟨tree, parsed⟩ := okOfToBool (show
    (parse true "<? f := func(x) \x7b return [x, \x7ba: (1)\x7d]; \x7d ?>text<?= f(2) ?>").toBool = true by
      decide +kernel)
  obtain ⟨tokens, last, read, _, _, _, nested⟩ := acceptedNested parsed
  exact ⟨tree, tokens, last, parsed, read, nested⟩

end CircuitScript
