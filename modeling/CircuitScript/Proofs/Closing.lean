import CircuitScript.Proofs.Standalone

/-! Code before the end of its section. That end is a semicolon, so the parsers come to the same tree in front of it
as in front of the end of input: whatever statement breaks off there is closed by either. -/
namespace CircuitScript

open CircuitScript.Parser

/-- What is ahead in a section whose code has ended. -/
def Token.Closes : Token → Prop
  | .mark .semicolon | .text _ | .eof => True
  | _ => False

/-- The row behind a section begins with text or is at its end. -/
def Plain (tail : List Lexeme) : Prop :=
  ∃ lexeme rest, tail = lexeme :: rest ∧ ((∃ s, lexeme.token = .text s) ∨ lexeme.token = .eof)

/-- Places in code on its own and in the section. Where the code has ended, the end of the section is ahead or has
just been passed. -/
inductive Nears (tail : List Lexeme) : Cursor → Cursor → Prop where
  | before {previous previous' : Option Lexeme} {row row' : List Lexeme} {stop close : Lexeme}
      (same : row'.map Lexeme.token = row.map Lexeme.token) (stops : stop.token = .eof)
      (closes : close.token = .mark .semicolon)
      (settled : (Cursor.mk previous []).afterTerminator = true → (Cursor.mk previous' []).afterTerminator = true) :
      Nears tail ⟨previous, row ++ [stop]⟩ ⟨previous', row' ++ close :: tail⟩
  | passed {previous previous' : Option Lexeme} {stop : Lexeme} (stops : stop.token = .eof)
      (settled : (Cursor.mk previous' []).afterTerminator = true) : Nears tail ⟨previous, [stop]⟩ ⟨previous', tail⟩

section

variable {α β : Type} {tail : List Lexeme} {c c' : Cursor}

theorem Plain.token (plain : Plain tail) (previous : Option Lexeme) :
    (Cursor.mk previous tail).token.Closes ∧ (Cursor.mk previous tail).token ≠ .mark .semicolon := by
  obtain ⟨lexeme, rest, rfl, ⟨s, text⟩ | ended⟩ := plain
  · show lexeme.token.Closes ∧ lexeme.token ≠ _
    rw [text]
    exact ⟨trivial, nofun⟩
  · show lexeme.token.Closes ∧ lexeme.token ≠ _
    rw [ended]
    exact ⟨trivial, nofun⟩

theorem settledAlike {lexeme lexeme' : Lexeme} (same : lexeme'.token = lexeme.token)
    (settled : (Cursor.mk (some lexeme) []).afterTerminator = true) :
    (Cursor.mk (some lexeme') []).afterTerminator = true := by
  unfold Cursor.afterTerminator at settled ⊢
  simpa only [same] using settled

theorem Nears.step (plain : Plain tail) (near : Nears tail c c') :
    (c'.token = c.token ∧ Nears tail c.advance c'.advance) ∨ c.token = .eof ∧ c'.token.Closes := by
  cases near with
  | @before previous previous' row row' stop close same stops closes settled =>
    cases row with
    | nil =>
      obtain rfl := List.map_eq_nil_iff.mp same
      refine .inr ⟨stops, ?_⟩
      show close.token.Closes
      rw [closes]
      trivial
    | cons lexeme row =>
      obtain ⟨lexeme', row', rfl, token, same⟩ := List.map_eq_cons_iff.mp same
      exact .inl ⟨token, .before same stops closes (settledAlike token)⟩
  | @passed previous previous' stop stops settled => exact .inr ⟨stops, (plain.token previous').1⟩

theorem Token.Closes.notMark {token : Token} (closes : token.Closes) {mark : Mark} (other : mark ≠ .semicolon) :
    token.isMark mark = false := by
  cases token with
  | mark m => cases m <;> first | exact False.elim closes | simpa [Token.isMark] using Ne.symm other
  | _ => rfl

theorem Token.Closes.idle {token : Token} (closes : token.Closes) : token.Idle := by
  cases token with
  | mark m => cases m <;> first | exact False.elim closes | exact .final .semicolon
  | text s => exact .final (.text s)
  | eof => exact .final .eof
  | _ => exact False.elim closes

theorem Nears.inside (plain : Plain tail) (near : Nears tail c c') (goesOn : c.token ≠ .eof) :
    c'.token = c.token ∧ Nears tail c.advance c'.advance :=
  (near.step plain).resolve_right fun ended => goesOn ended.1

theorem Nears.endStatement (plain : Plain tail) (near : Nears tail c c') {a : Unit} {rest : Cursor}
    (ran : Parser.endStatement c = .ok a rest) :
    ∃ rest', Parser.endStatement c' = .ok a rest' ∧ Nears tail rest rest' := by
  have there := near
  cases near with
  | @before previous previous' row row' stop close same stops closes settled =>
    cases row with
    | nil =>
      obtain rfl := List.map_eq_nil_iff.mp same
      have token : (Cursor.mk previous [stop]).token = .eof := stops
      rcases endOk ran with ⟨found, _⟩ | ⟨_, rfl, _⟩
      · exact absurd found (by rw [List.nil_append, token]; decide)
      · have semicolon : close.token.isMark .semicolon = true := by rw [closes]; rfl
        refine ⟨⟨some close, tail⟩, endEaten semicolon, .passed stops ?_⟩
        simp [Cursor.afterTerminator, semicolon]
    | cons lexeme row =>
      obtain ⟨lexeme', row', rfl, token, same⟩ := List.map_eq_cons_iff.mp same
      have token' : (Cursor.mk previous' (lexeme' :: row' ++ close :: tail)).token =
        (Cursor.mk previous (lexeme :: row ++ [stop])).token := token
      rcases endOk ran with ⟨found, rfl⟩ | ⟨none, rfl, ends⟩
      · exact ⟨_, endEaten (token' ▸ found), .before same stops closes (settledAlike token)⟩
      · refine ⟨_, endLeftOut (token' ▸ none) ?_, there⟩
        exact ends.imp settled fun breaks => token' ▸ breaks
  | @passed previous previous' stop stops settled =>
    have token : (Cursor.mk previous [stop]).token = .eof := stops
    rcases endOk ran with ⟨found, _⟩ | ⟨_, rfl, _⟩
    · exact absurd found (by rw [token]; decide)
    · refine ⟨_, endLeftOut ?_ (.inl settled), there⟩
      obtain ⟨closes, other⟩ := plain.token previous'
      cases shape : (Cursor.mk previous' tail).token with
      | mark m => rw [shape] at closes other; cases m <;> first | exact False.elim closes | exact absurd rfl other
      | _ => rfl

theorem Nears.behindWord (plain : Plain tail) (near : Nears tail c c') (word : String) :
    (Cursor.behindWord word c.ahead = none ∧ Cursor.behindWord word c'.ahead = none) ∨
      ∃ rest rest', Cursor.behindWord word c.ahead = some rest ∧ Cursor.behindWord word c'.ahead = some rest' ∧
        Nears tail rest rest' := by
  have quiet : Cursor.behindWord word tail = none := by
    obtain ⟨lexeme, rest, rfl, ⟨s, text⟩ | ended⟩ := plain
    · simp [Cursor.behindWord, text]
    · simp [Cursor.behindWord, ended]
  cases near with
  | @before previous previous' row row' stop close same stops closes settled =>
    clear settled
    dsimp only
    induction row generalizing row' with
    | nil =>
      obtain rfl := List.map_eq_nil_iff.mp same
      exact .inl ⟨by simp [Cursor.behindWord, stops], by simp [Cursor.behindWord, closes, quiet]⟩
    | cons lexeme row ih =>
      obtain ⟨lexeme', row', rfl, token, same⟩ := List.map_eq_cons_iff.mp same
      simp only [List.cons_append, Cursor.behindWord, token]
      cases shape : lexeme.token with
      | mark m =>
        cases m with
        | semicolon => exact ih same
        | _ => exact .inl ⟨rfl, rfl⟩
      | ident name =>
        dsimp only
        split
        · exact .inr ⟨_, _, rfl, rfl, .before same stops closes (settledAlike token)⟩
        · exact .inl ⟨rfl, rfl⟩
      | _ => exact .inl ⟨rfl, rfl⟩
  | @passed previous previous' stop stops settled => exact .inl ⟨by simp [Cursor.behindWord, stops], quiet⟩

structure Nearing (tail : List Lexeme) where
  first : Cursor
  second : Cursor
  near : Nears tail first second

/-- Code on its own, and the same code in its section. -/
def carried (plain : Plain tail) : Manner where
  Time := Nearing tail
  cursor := Nearing.first
  edge t := t.first.token = .eof
  holds := Repeats Nearing.first fun t => some t.second
  spent _ := .never fun _ _ ran => by cases ran
  pure := .pure
  refuse _ := .never fun _ _ ran => by cases ran
  unexpected _ := .never fun _ _ ran => by cases ran
  late _ := .never fun _ _ ran => by cases ran
  bind := .bind
  peek := fun {_ t _ f f'} h idle => by
    refine .along t rfl ?_ h
    rcases t.near.step plain with ⟨same, _⟩ | ⟨ended, closes⟩
    · exact congrArg (f' · t.second) same
    · rw [ended]
      exact congrFun (idle ended _ closes.idle).2 t.second
  advance := fun {_ t _ f f'} h fails => by
    by_cases ended : t.first.token = .eof
    · exact .never fun a rest => fails _ (ended ▸ .eof) _ a rest
    · refine .along t rfl ?_ h
      exact congrArg (f' · t.second.advance) (t.near.inside plain ended).1
  pass := fun {_ t _ _ _ q q'} _ turned _ _ later => by
    let next : Nearing tail := ⟨_, _, (t.near.inside plain (Token.turnedMore turned)).2⟩
    exact .along next rfl rfl (later ⟨rfl, id, id, trivial, trivial⟩)
  eat := fun {_ t _ _ mark _ f f'} _ stuck _ _ _ found missing => by
    cases held : t.first.token.isMark mark with
    | true =>
      obtain ⟨same, near⟩ := t.near.inside plain (Token.markMore held)
      let next : Nearing tail := ⟨_, _, near⟩
      exact .along next (eatHeld held) (eatHeld (same ▸ held)) (found held ⟨rfl, id, id, trivial, trivial⟩)
    | false =>
      by_cases semicolon : mark = .semicolon
      · refine .never fun a rest ran => ?_
        rw [eatLeft held] at ran
        exact stuck (.inl semicolon) _ a rest ran
      · refine .along t (eatLeft held) (eatLeft ?_) missing
        rcases t.near.step plain with ⟨same, _⟩ | ⟨_, closes⟩
        · rw [same, held]
        · exact closes.notMark semicolon
  eatWord := fun {_ t _ word _ _ _} _ _ found missing => by
    rcases t.near.behindWord plain word with ⟨none, none'⟩ | ⟨r, r', some, some', near⟩
    · exact .along t (eatWordLeft none) (eatWordLeft none') (missing none)
    · let next : Nearing tail := ⟨r, r', near⟩
      exact .along next (eatWordHeld some) (eatWordHeld some') (found some ⟨rfl, id, id, trivial, trivial⟩)
  endStatement := fun {t _} _ _ => by
    intro a rest ran
    obtain ⟨rest', ran', near⟩ := t.near.endStatement plain ran
    let next : Nearing tail := ⟨rest, rest', near⟩
    refine ⟨next, rfl, .bare (endLeft ran) id id trivial trivial, fun after along => ⟨t.second, rfl, ?_⟩⟩
    cases along
    exact ran'
  edgeNever _ ended needs _ := .never (needs _ ended)
  edgeStmt _ ended _ _ := .never (statementNeeds _ _ ended)
  edgeBody _ ended := .never (blockBodyNeeds _ _ ended)
  edgeReturn _ ended _ _ _ := .never ((returnedNeeds _).bind _ _ ended)

theorem statementCarried {n : Nat} {stmt : Stmt} {rest : Cursor} (plain : Plain tail) (near : Nears tail c c')
    (ran : statement n c = .ok stmt rest) : ∃ rest', statement n c' = .ok stmt rest' ∧ Nears tail rest rest' := by
  let start : (carried plain).Time := Nearing.mk c c' near
  have ready : (carried plain).Ready n 4 start [] := ⟨False.elim, trivial⟩
  obtain ⟨t, rfl, _, same⟩ := ((carried plain).walked n).stmt ready trivial stmt rest ran
  obtain ⟨_, here, ran'⟩ := same t.second rfl
  cases here
  exact ⟨t.second, ran', t.near⟩

end

namespace Parser

variable {n m : Nat} {c r rest : Cursor} {stmt : Stmt} {stmts body : List Stmt}

theorem emptyStatement (n : Nat) (held : c.token = .mark .semicolon) :
    statement (n + 1) c = .ok (.block []) c.advance := by
  rw [statement, bindApply]
  simp only [Parser.peek, held]
  rfl

theorem statementsCons (filled : c.token ≠ .eof) (first : statement n c = .ok stmt r)
    (later : statements m r = .ok stmts rest) : statements (max n m + 1) c = .ok (stmt :: stmts) rest := by
  have first := statementProceeds.ok (Nat.le_max_left n m) first
  have later := statementsProceeds.ok (Nat.le_max_right n m) later
  rw [statements]
  refine bindEqOk.mpr ⟨c.token, c, rfl, ?_⟩
  cases token : c.token with
  | eof => contradiction
  | _ => exact bindEqOk.mpr ⟨stmt, r, first, bindEqOk.mpr ⟨stmts, rest, later, rfl⟩⟩

theorem statementsCases (ran : statements (n + 1) c = .ok body rest) :
    (c.token = .eof ∧ body = [] ∧ rest = c) ∨
      c.token ≠ .eof ∧ ∃ stmt r stmts, statement n c = .ok stmt r ∧ statements n r = .ok stmts rest ∧
        body = stmt :: stmts := by
  rw [statements] at ran
  obtain ⟨_, _, looked, ran⟩ := bindEqOk.mp ran
  cases looked
  cases token : c.token with
  | eof =>
    rw [token] at ran
    cases ran
    exact .inl ⟨rfl, rfl, rfl⟩
  | _ =>
    rw [token] at ran
    obtain ⟨stmt, r, first, ran⟩ := bindEqOk.mp ran
    obtain ⟨stmts, _, later, ran⟩ := bindEqOk.mp ran
    cases ran
    exact .inr ⟨by simp, stmt, r, stmts, first, later, rfl⟩

end Parser

end CircuitScript
