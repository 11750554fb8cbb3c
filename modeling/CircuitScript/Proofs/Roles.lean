import CircuitScript.Proofs.Endings

/-! What the last semicolon is for. Each parser is followed up to it, with the endings that can stand in its place: it
ends a statement, it is one, or it ends a return without a value. -/
namespace CircuitScript

open CircuitScript.Parser

variable {code : Code}

theorem bracesCome (n : Nat) {previous : Option Lexeme} :
    code.Comes (.block []) (statement (n + 1) (Spot.cursor ⟨previous, []⟩ (code.ending .braces))) := by
  cases n with
  | zero => exact .inl rfl
  | succ n =>
    cases n with
    | zero => exact .inl rfl
    | succ n => exact .inr ⟨_, rfl, rfl⟩

theorem quotesCome (n : Nat) {previous : Option Lexeme} :
    code.Comes (.literal (.str "")) (returned n (Spot.cursor ⟨previous, []⟩ (code.ending .quotes))) := by
  have whole : returned 30 (Spot.cursor ⟨previous, []⟩ (code.ending .quotes)) =
    .ok (.literal (.str "")) ⟨some ⟨code.line, .str ""⟩, code.ending .nothing⟩ := rfl
  rcases returnedProceeds.settles n whole (fun spent => by cases spent) with spent | same
  · exact .inl spent
  · exact .inr ⟨_, same, rfl⟩

theorem valueLacks (n : Nat) {previous : Option Lexeme} :
    code.Lacks (returned n (Spot.cursor ⟨previous, []⟩ (code.ending .nothing))) :=
  returnedProceeds.settles n (m := 30) rfl fun spent => by cases spent

theorem bareReturn (n : Nat) {previous : Option Lexeme} (has : code.Has ⟨previous, []⟩)
    (word : code.last? = some (.ident "return")) {post : code.Time → Stmt → Prop}
    (got : post .ended (.ret (.literal (.str "")))) :
    Mends code (do
      let value ← returned n
      endStatement
      pure (.ret value) : Parser Stmt) ⟨previous, []⟩ post := by
  intro a rest ran
  cases n with
  | zero => cases ran
  | succ n =>
    cases ran
    refine .behind rfl (has.ready rfl) (.bare word ?_ ?_) got
    · refine Code.Comes.bind (quotesCome (n + 1)) fun c ended => ⟨c, ?_, ended⟩
      exact bindEqOk.mpr ⟨(), c, ended.endStatement, rfl⟩
    · exact (valueLacks (n + 1)).bind _

/-- The semicolon would be a statement of its own, and the block is never closed. -/
theorem unclosedBody (n : Nat) {previous : Option Lexeme} (a : List Stmt) (rest : Cursor) :
    blockBody (n + 1) (Spot.cursor ⟨previous, []⟩ (code.ending .semicolon)) ≠ .ok a rest := by
  intro ran
  rw [blockBody, eatLeft rfl] at ran
  obtain ⟨first, middle, ran₁, ran₂⟩ := bindEqOk.mp (show (statement n >>= _) _ = .ok a rest from ran)
  cases n with
  | zero => cases ran₁
  | succ n =>
    cases (emptyStatement n rfl).symm.trans ran₁
    exact (blockBodyNeeds (n + 1)).bind _ _ rfl a rest ran₂

/-- Code up to its last semicolon, with all endings that can stand in its place. -/
def closing (code : Code) : Manner where
  Time := code.Time
  cursor := Code.Time.cursor
  edge := Code.Time.AtEnding
  holds t post p _ := Closes code t post p
  spent _ := .never fun _ _ _ ran => by cases ran
  pure := .pure
  refuse _ := .never fun _ _ _ ran => by cases ran
  unexpected _ := .never fun _ _ _ ran => by cases ran
  late _ := .never fun _ _ _ ran => by cases ran
  bind := .bind
  peek h idle := .peek h fun there token quiet => (idle there token quiet).1
  advance := .advance
  pass _ turned inside needs later :=
    .pass (Token.turnedMore turned) inside needs fun there => later ⟨there, id, id, trivial, trivial⟩
  eat slash stuck needs _ _ found missing :=
    .eat slash stuck needs (fun held there => found held ⟨there, id, id, trivial, trivial⟩) missing
  eatWord _ _ found missing := .eatWord (fun there => found there ⟨rfl, id, id, trivial, trivial⟩) missing
  endStatement _ _ := .endStatement fun left => .bare left id id trivial trivial
  edgeNever _ there eof semicolon := .atEnding there eof fun _ _ _ => .vacuous (semicolon _ rfl)
  edgeStmt := fun {t _ _ n n'} _ there _ got => by
    refine .atEnding there (statementNeeds _) fun previous has here => ?_
    subst here
    intro a rest ran
    cases (emptyStatement n rfl).symm.trans ran
    exact .behind rfl (has.ready rfl) (.empty (bracesCome n) (statementNeeds _ _ rfl))
      (got (.bare (Nat.le_refl _) id id trivial trivial))
  edgeBody _ there := .atEnding there (blockBodyNeeds _) fun _ _ _ => .vacuous (unclosedBody _)
  edgeReturn := fun {t _ _ n n'} _ there _ behind got => by
    refine .atEnding there ((returnedNeeds n).bind _) fun previous has here => ?_
    subst here
    obtain ⟨lexeme, rfl, seen⟩ := behind
    refine bareReturn n has ?_ (got (.bare (Nat.le_succ 1) id id trivial trivial))
    rw [← has.last, ← seen]
    rfl

theorem statementMends {n : Nat} {place : Spot} (has : code.Has place) :
    Mends code (statement n) place fun _ _ => True := by
  let start : (closing code).Time := Code.Time.before place has
  have ready : (closing code).Ready n 4 start [] := ⟨False.elim, trivial⟩
  exact Manner.weaken (((closing code).walked n).stmt ready trivial) fun _ => trivial

/-- What the semicolon is for among the statements up to the end. -/
inductive Role (code : Code) (n : Nat) (place : Spot) (body : List Stmt) : Prop where
  | terminator (ran : code.Comes body (statements n (place.cursor (code.ending .nothing))))
      (other : ∀ rest, statements n (place.cursor (code.ending .braces)) ≠ .ok body rest)
  | statement (ran : code.Comes body (statements n (place.cursor (code.ending .braces))))
      (other : ∀ rest, statements n (place.cursor (code.ending .nothing)) ≠ .ok body rest)
  | value (word : code.last? = some (.ident "return"))
      (ran : code.Comes body (statements n (place.cursor (code.ending .quotes))))
      (lacks : code.Lacks (statements n (place.cursor (code.ending .nothing))))

theorem statementsFilled {n : Nat} {c : Cursor} (filled : c.token ≠ .eof) :
    statements (n + 1) c = (do
      let first ← statement n
      let rest ← statements n
      pure (first :: rest) : Parser (List Stmt)) c := by
  rw [statements, bindApply, Parser.peek]
  cases token : c.token with
  | eof => contradiction
  | _ => rfl

theorem statementsAtEnd (n : Nat) {c : Cursor} (ended : code.AtEnd c) : statements (n + 1) c = .ok [] c := by
  rw [statements, bindApply, Parser.peek, ended.token]
  rfl

theorem lastStatement {n : Nat} {c c' rest : Cursor} {stmt : Stmt} {body : List Stmt} (ended : code.AtEnd c')
    (ran : statements n c' = .ok body rest) (filled : c.token ≠ .eof) (comes : code.Comes stmt (statement n c)) :
    code.Comes (stmt :: body) (statements (n + 1) c) := by
  cases n with
  | zero => cases ran
  | succ n =>
    cases (statementsAtEnd n ended).symm.trans ran
    rw [statementsFilled filled]
    refine comes.bind fun c there => ⟨c, ?_, there⟩
    exact bindEqOk.mpr ⟨[], c, statementsAtEnd n there, rfl⟩

theorem Role.cons {n : Nat} {place next : Spot} {stmt : Stmt} {body : List Stmt}
    (same : ∀ ending, statements (n + 1) (place.cursor (code.ending ending)) =
      (statements n >>= fun rest => pure (stmt :: rest)) (next.cursor (code.ending ending)))
    (role : Role code n next body) : Role code (n + 1) place (stmt :: body) := by
  have comes {c : Cursor} (comes : code.Comes body (statements n c)) :
      code.Comes (stmt :: body) ((statements n >>= fun rest => pure (stmt :: rest)) c) :=
    comes.bind fun c ended => ⟨c, rfl, ended⟩
  have other {c : Cursor} (other : ∀ rest, statements n c ≠ .ok body rest) (rest : Cursor) :
      (statements n >>= fun rest => pure (stmt :: rest)) c ≠ .ok (stmt :: body) rest := by
    intro ran
    obtain ⟨body', middle, ran, made⟩ := bindEqOk.mp ran
    cases made
    exact other rest ran
  cases role with
  | terminator ran lost =>
    refine .terminator ?_ fun rest => ?_
    · rw [same]
      exact comes ran
    · rw [same]
      exact other lost rest
  | statement ran lost =>
    refine .statement ?_ fun rest => ?_
    · rw [same]
      exact comes ran
    · rw [same]
      exact other lost rest
  | value word ran lacks =>
    refine .value word ?_ ?_
    · rw [same]
      exact comes ran
    · rw [same]
      exact lacks.bind _

theorem Fate.role {n : Nat} {place : Spot} {stmt : Stmt} {body : List Stmt} {c rest : Cursor}
    (filled : ∀ ending, (place.cursor (code.ending ending)).token ≠ .eof) (fate : Fate code (statement n) place stmt)
    (ended : code.AtEnd c) (ran : statements n c = .ok body rest) : Role code (n + 1) place (stmt :: body) := by
  cases fate with
  | optional first there idle =>
    refine .terminator (lastStatement ended ran (filled _) (.inr ⟨_, first, there⟩)) fun rest' ran' => ?_
    rw [statementsFilled (filled _)] at ran'
    obtain ⟨stmt', middle, ran₁, ran'⟩ := bindEqOk.mp ran'
    obtain ⟨body', middle', ran₂, made⟩ := bindEqOk.mp ran'
    cases made
    -- The braces are read as one statement more.
    cases n with
    | zero => cases ran
    | succ n =>
      cases (statementsAtEnd n ended).symm.trans ran
      obtain ⟨_, there⟩ := idle stmt middle ran₁
      rcases statementsCases ran₂ with ⟨atEnd, _⟩ | ⟨_, _, _, _, _, _, same⟩
      · rw [there.token] at atEnd
        cases atEnd
      · cases same
  | empty comes lost =>
    refine .statement (lastStatement ended ran (filled _) comes) fun rest' ran' => ?_
    rw [statementsFilled (filled _)] at ran'
    obtain ⟨stmt', middle, ran', _⟩ := bindEqOk.mp ran'
    exact lost stmt' middle ran'
  | bare word comes lacks =>
    refine .value word (lastStatement ended ran (filled _) comes) ?_
    rw [statementsFilled (filled _)]
    exact lacks.bind _

theorem statementsRole {n : Nat} {place : Spot} {body : List Stmt} {rest : Cursor} (has : code.Has place)
    (ran : statements n (place.cursor (code.ending .semicolon)) = .ok body rest) (ended : code.AtEnd rest) :
    code.last? ≠ some (.mark .slash) ∧ Role code n place body := by
  induction n generalizing place body with
  | zero => cases ran
  | succ n ih =>
    rcases statementsCases ran with ⟨_, _, rfl⟩ | ⟨filled, stmt, r, stmts, first, later, rfl⟩
    · have short := congrArg List.length ended
      simp [Spot.cursor, Code.ending] at short
    · obtain ⟨previous, row⟩ := place
      cases row with
      | nil =>
        cases n with
        | zero => cases first
        | succ n =>
          cases (emptyStatement n rfl).symm.trans first
          cases later
          have atEnd : code.AtEnd ⟨none, code.ending .nothing⟩ := rfl
          refine ⟨has.ready rfl, .statement ?_ fun rest ran => by cases ran⟩
          exact lastStatement atEnd (statementsAtEnd n atEnd) (fun ended => by cases ended) (bracesCome n)
      | cons lexeme row =>
        have filled (ending : Ending) : (Spot.cursor ⟨previous, lexeme :: row⟩ (code.ending ending)).token ≠ .eof :=
          filled
        cases statementMends has stmt r first with
        | within has' alike _ =>
          obtain ⟨steady, role⟩ := ih has' later
          refine ⟨steady, role.cons fun ending => ?_⟩
          rw [statementsFilled (filled ending), bindApply, alike]
        | behind there steady fate _ => exact ⟨steady, fate.role filled there later⟩

theorem parsedBy {row : List Lexeme} {n : Nat} {parsed : Parsed (List Stmt)} (ran : statements n ⟨none, row⟩ = parsed)
    (ended : parsed ≠ .spent) : statements (budget row.length) ⟨none, row⟩ = parsed := by
  refine (statementsProceeds.settles _ ran ended).resolve_left (statementsProceeds.ends ?_)
  unfold budget Cursor.left
  dsimp only
  omega

section

variable {row : List Lexeme} {n : Nat} {body : List Stmt} (enough : 32 * row.length + 5 ≤ n)
include enough

theorem Code.Comes.parsed (comes : code.Comes body (statements n ⟨none, row⟩)) :
    parseTokens row = .ok (.block body) := by
  rcases comes with spent | ⟨rest, ran, _⟩
  · exact absurd spent (statementsProceeds.ends enough)
  · rw [parseTokens, parsedBy ran (by simp)]

theorem notParsed (other : ∀ rest, statements n ⟨none, row⟩ ≠ .ok body rest) :
    parseTokens row ≠ .ok (.block body) := by
  intro parsed
  unfold parseTokens at parsed
  split at parsed
  · rename_i body' rest ran
    cases parsed
    exact other rest (statementsProceeds.okWithEnough ran enough)
  · cases parsed
  · cases parsed

end

theorem endingsParse (code : Code) {n : Nat} {body : List Stmt} {rest : Cursor}
    (ran : statements n ⟨none, code.row ++ code.ending .semicolon⟩ = .ok body rest) (ended : code.AtEnd rest) :
    code.last? ≠ some (.mark .slash) ∧
      (parseTokens (code.row ++ code.ending .nothing) = .ok (.block body) ∧
          parseTokens (code.row ++ code.ending .braces) ≠ .ok (.block body) ∨
        parseTokens (code.row ++ code.ending .braces) = .ok (.block body) ∧
          parseTokens (code.row ++ code.ending .nothing) ≠ .ok (.block body) ∨
        code.last? = some (.ident "return") ∧ parseTokens (code.row ++ code.ending .quotes) = .ok (.block body) ∧
          parseTokens (code.row ++ code.ending .nothing) = .error ⟨code.final, .expected .expression .eof⟩) := by
  have has : code.Has ⟨none, code.row⟩ := by
    refine ⟨by simp [Spot.last?, Code.last?], fun none => ?_⟩
    have none : code.row = [] := none
    simp [Code.last?, none]
  -- One budget that is enough in front of every ending.
  have ran := statementsProceeds.ok (Nat.le_max_left n (32 * (code.row.length + 3) + 5)) ran
  have enough := Nat.le_max_right n (32 * (code.row.length + 3) + 5)
  generalize max n (32 * (code.row.length + 3) + 5) = n at ran enough
  have enough (ending : Ending) : 32 * (code.row ++ code.ending ending).length + 5 ≤ n := by
    cases ending <;> simp [Code.ending] <;> omega
  obtain ⟨steady, role⟩ := statementsRole has ran ended
  refine ⟨steady, ?_⟩
  cases role with
  | terminator ran other => exact .inl ⟨ran.parsed (enough _), notParsed (enough _) other⟩
  | statement ran other => exact .inr (.inl ⟨ran.parsed (enough _), notParsed (enough _) other⟩)
  | value word ran lacks =>
    have refused := lacks.resolve_left (statementsProceeds.ends (enough .nothing))
    refine .inr (.inr ⟨word, ran.parsed (enough _), ?_⟩)
    rw [parseTokens, parsedBy refused (by simp)]

end CircuitScript
