import CircuitScript.Proofs.Accepted

/-! Where the parsers stop. A parser moves its cursor by passing tokens and in no other way, so it stays on its row;
together with the progress that every parser makes, each result lies strictly further along the row. -/
namespace CircuitScript

namespace Cursor

/-- The place behind so many tokens of a row. -/
def standing (row : List Lexeme) (position : Nat) : Cursor := ⟨(row.take position).getLast?, row.drop position⟩

theorem standingLeft (row : List Lexeme) (position : Nat) : (standing row position).left = row.length - position :=
  List.length_drop

theorem standingAdvance {row : List Lexeme} {position : Nat} (inside : position < row.length) :
    (standing row position).advance = standing row (position + 1) := by
  have behind : (row.take (position + 1)).getLast? = some row[position] := by
    rw [List.take_add_one, List.getElem?_eq_getElem inside, Option.toList_some, List.getLast?_concat]
  rw [standing, standing, behind, List.drop_eq_getElem_cons inside]
  rfl

theorem standingStays {row : List Lexeme} {position : Nat} (ended : row.length ≤ position) :
    (standing row position).advance = standing row position := by
  rw [standing, List.drop_eq_nil_of_le ended]
  rfl

theorem standingSkip {row : List Lexeme} {start : Nat} (inside : start ≤ row.length) (passed : Nat) :
    ∃ stop, stop ≤ row.length ∧ (standing row start).skip passed = standing row stop := by
  induction passed generalizing start with
  | zero => exact ⟨start, inside, rfl⟩
  | succ passed ih =>
    rw [skip]
    rcases Nat.lt_or_eq_of_le inside with more | last
    · rw [standingAdvance more]
      exact ih more
    · rw [standingStays (Nat.le_of_eq last.symm)]
      exact ih inside

end Cursor

namespace Parser

variable {α : Type}

/-- From every position of every row, a result lies further on and still on the row; and a budget in proportion to the
tokens ahead is enough, with any larger one coming to the same end. -/
def Advancing (p : Nat → Parser α) : Prop :=
  ∀ (row : List Lexeme) (start : Nat), start ≤ row.length →
    (∀ n a rest, p n (.standing row start) = .ok a rest →
      ∃ stop, start < stop ∧ stop ≤ row.length ∧ rest = .standing row stop) ∧
    ∀ n, 32 * (row.length - start) + 20 ≤ n →
      p n (.standing row start) ≠ .spent ∧ ∀ m, n ≤ m → p m (.standing row start) = p n (.standing row start)

theorem Proceeds.sameWithMore {p : Nat → Parser α} {more least n m : Nat} {cursor : Cursor}
    (proceeds : Proceeds more least p) (ended : p n cursor ≠ .spent) (larger : n ≤ m) : p m cursor = p n cursor := by
  rcases proceeds.le larger cursor with spent | same
  · exact absurd spent ended
  · exact same.symm

theorem Proceeds.advancing {p : Nat → Parser α} {more : Nat} (proceeds : Proceeds more 1 p) (few : more ≤ 20) :
    Advancing p := by
  intro row start inside
  have left := Cursor.standingLeft row start
  refine ⟨fun n a rest ran => ?_, fun n enough => ?_⟩
  · obtain ⟨further, passed, rfl⟩ := proceeds.onward ran
    obtain ⟨stop, within, place⟩ := Cursor.standingSkip inside passed
    rw [place, Cursor.standingLeft, left] at further
    exact ⟨stop, by omega, within, place⟩
  · have ended : p n (.standing row start) ≠ .spent := proceeds.ends (by omega)
    exact ⟨ended, fun m larger => proceeds.sameWithMore ended larger⟩

theorem eatWordStays {word : String} {cursor rest : Cursor} (ran : eatWord word cursor = .ok false rest) :
    rest = cursor := by
  unfold eatWord at ran
  split at ran <;> cases ran
  rfl

theorem statementsEnd (row : List Lexeme) {n : Nat} (enough : budget row.length ≤ n) :
    statements n ⟨none, row⟩ ≠ .spent := by
  refine statementsProceeds.ends ?_
  unfold budget at enough
  show 32 * row.length + 5 ≤ n
  omega

theorem parseEnds (template : Bool) (source : String) :
    (∃ e, tokenize template source = .error e ∧ parse template source = .error e) ∨
    ∃ row, tokenize template source = .ok row ∧
      ((∃ body rest, statements (budget row.length) ⟨none, row⟩ = .ok body rest ∧
        parse template source = .ok (.block body)) ∨
      ∃ e, statements (budget row.length) ⟨none, row⟩ = .refused e ∧
        parse template source = .error e) := by
  rw [parseTokenized]
  cases read : tokenize template source with
  | error e => exact .inl ⟨e, rfl, rfl⟩
  | ok row =>
    refine .inr ⟨row, rfl, ?_⟩
    have ended := statementsEnd row (Nat.le_refl _)
    show _ ∨ ∃ e, _ ∧ parseTokens row = .error e
    cases ran : statements (budget row.length) ⟨none, row⟩ with
    | ok body rest => exact .inl ⟨body, rest, rfl, by show parseTokens row = _; rw [parseTokens, ran]⟩
    | refused e => exact .inr ⟨e, rfl, by rw [parseTokens, ran]⟩
    | spent => exact absurd ran ended

theorem parsersAdvance :
    Advancing statement ∧ Advancing simpleStatement ∧ Advancing expr ∧
    (∀ level, Advancing (operation · level)) ∧ Advancing unary ∧ Advancing applied ∧ Advancing primary ∧
    Advancing arguments ∧ Advancing function ∧ Advancing block ∧
    (∀ word cursor rest, eatWord word cursor = .ok false rest → rest = cursor) ∧
    (∀ row n, budget row.length ≤ n → statements n ⟨none, row⟩ ≠ .spent ∧
      statements n ⟨none, row⟩ = statements (budget row.length) ⟨none, row⟩) ∧
    ∀ template source,
      (∃ e, tokenize template source = .error e ∧ parse template source = .error e) ∨
      ∃ row, tokenize template source = .ok row ∧
        ((∃ body rest, statements (budget row.length) ⟨none, row⟩ = .ok body rest ∧
          parse template source = .ok (.block body)) ∨
        ∃ e, statements (budget row.length) ⟨none, row⟩ = .refused e ∧ parse template source = .error e) := by
  refine ⟨statementProceeds.advancing (by decide), simpleProceeds.advancing (by decide),
    exprProceeds.advancing (by decide), fun level => (operationProceeds level).advancing (by omega),
    unaryProceeds.advancing (by decide), appliedProceeds.advancing (by decide), primaryProceeds.advancing (by decide),
    argumentsProceeds.advancing (by decide), functionProceeds.advancing (by decide),
    blockProceeds.advancing (by decide), fun word cursor rest => eatWordStays,
    fun row n enough => ⟨statementsEnd row enough, ?_⟩, parseEnds⟩
  exact statementsProceeds.sameWithMore (statementsEnd row (Nat.le_refl _)) enough

/-- A row without an end, read from its second token on. -/
theorem unendedRowAdvances :
    ∃ stop, 1 < stop ∧ stop ≤ 3 ∧
      statement 84 (.standing [⟨1, .unknown '#'⟩, ⟨1, .ident "a"⟩, ⟨1, .mark .plusPlus⟩] 1) =
        .ok (.compound (.var "a") .add (.literal (.int 1)))
          (.standing [⟨1, .unknown '#'⟩, ⟨1, .ident "a"⟩, ⟨1, .mark .plusPlus⟩] stop) := by
  have ran : statement 84 (.standing [⟨1, .unknown '#'⟩, ⟨1, .ident "a"⟩, ⟨1, .mark .plusPlus⟩] 1) =
      .ok (.compound (.var "a") .add (.literal (.int 1)))
        ⟨some ⟨1, .mark .plusPlus⟩, []⟩ := rfl
  obtain ⟨results, _⟩ :=
    parsersAdvance.1 [⟨1, .unknown '#'⟩, ⟨1, .ident "a"⟩, ⟨1, .mark .plusPlus⟩] 1 (by decide)
  obtain ⟨stop, after, inside, place⟩ := results _ _ _ ran
  exact ⟨stop, after, inside, by rw [ran, place]⟩

end Parser

end CircuitScript
