import CircuitScript.Proofs.Brackets
import CircuitScript.Proofs.Parts
import CircuitScript.Proofs.Scanning

/-! One walk through the grammar, for two runs of its parsers side by side. A manner of reading says how two runs go
together and that each single step keeps it so: passing a token, taking one if it is there, ending a statement. From
that, the runs of every parser go together. Every statement about all parsers is an instance of this walk. -/
namespace CircuitScript

open CircuitScript.Parser

def Cursor.left (cursor : Cursor) : Nat := cursor.ahead.length

theorem Cursor.leftAdvance {cursor : Cursor} (h : cursor.token ≠ .eof) : cursor.advance.left + 1 = cursor.left := by
  obtain ⟨previous, ahead⟩ := cursor
  cases ahead with
  | nil => exact absurd rfl h
  | cons lexeme rest => rfl

theorem Cursor.leftWord {word : String} {row : List Lexeme} {rest : Cursor} (found : behindWord word row = some rest) :
    rest.left + 1 ≤ row.length := by
  fun_induction behindWord word row with
  | case1 => cases found
  | case2 lexeme row _ ih => exact Nat.le_succ_of_le (ih found)
  | case3 lexeme row =>
    cases found
    exact Nat.le_refl _
  | case4 => cases found
  | case5 => cases found

theorem Cursor.previousAdvance {cursor : Cursor} {token : Token} (seen : cursor.token = token) (more : token ≠ .eof) :
    ∃ lexeme, cursor.advance.previous = some lexeme ∧ lexeme.token = token := by
  obtain ⟨previous, ahead⟩ := cursor
  cases ahead with
  | nil => exact absurd seen.symm more
  | cons lexeme rest => exact ⟨lexeme, rfl, seen⟩

/-- What is looked for only behind the token that stands in its place. -/
def Wanted.late : Wanted → Bool
  | expression => true
  | fieldName => true
  | mapKey => true
  | _ => false

def ParseError.Cause.found? : ParseError.Cause → Option Token
  | expected _ found => some found
  | _ => none

/-- The tokens that no expression begins with and none goes beyond. -/
inductive Token.Final : Token → Prop where
  | semicolon : Final (.mark .semicolon)
  | text (s : String) : Final (.text s)
  | echoOpen : Final .echoOpen
  | echoClose : Final .echoClose
  | unknown (c : Char) : Final (.unknown c)
  | eof : Final .eof

/-- The tokens that no expression goes beyond once there is one. -/
inductive Token.Idle : Token → Prop where
  | final {token : Token} (h : token.Final) : Idle token
  | brace : Idle (.mark .lBrace)
  | str (s : String) : Idle (.str s)

/-- The tokens that neither end an expression nor need an operand behind them. -/
def Token.clear : Token → Bool
  | .mark .semicolon | .mark .slash | .text _ | .echoOpen | .echoClose | .unknown _ | .eof => false
  | _ => true

theorem Token.clearInside {token : Token} (clear : token.clear = true) : ¬token.Final := by
  intro final
  cases final <;> cases clear

theorem Token.clearPlain {token : Token} (clear : token.clear = true) : token ≠ .mark .slash := by
  rintro rfl
  cases clear

theorem Level.operatorIdle {l : Level} {mark : Mark} (idle : (Token.mark mark).Idle) : l.operator? mark = none := by
  cases idle with
  | final h => cases h; cases l <;> rfl
  | brace => cases l <;> rfl

theorem unaryOperatorIdle {mark : Mark} (idle : (Token.mark mark).Idle) : unaryOperator? mark = none := by
  cases idle with
  | final h => cases h; rfl
  | brace => rfl

theorem Token.turnedMore {token : Token} {stack stack' : List Bracket} (turned : token.turn stack = some stack') :
    token ≠ .eof := by
  rintro rfl
  cases turned

theorem Token.markMore {token : Token} {mark : Mark} (held : token.isMark mark = true) : token ≠ .eof := by
  rintro rfl
  cases held

theorem Level.operatorTurn {l : Level} {mark : Mark} {op : BinaryOp} {stack : List Bracket}
    (stands : l.operator? mark = some op) : (Token.mark mark).turn stack = some stack := by
  cases mark <;> first | rfl | (cases l <;> cases stands)

theorem unaryTurn {mark : Mark} {op : UnaryOp} {stack : List Bracket}
    (stands : unaryOperator? mark = some op) : (Token.mark mark).turn stack = some stack := by
  cases mark <;> first | rfl | cases stands

/-- The tokens in front of which a statement may break off. -/
def Token.BreaksOff : Token → Prop
  | .eof | .text _ | .echoOpen | .mark .rBrace => True
  | _ => False

section Steps

variable {α : Type} {f : Bool → Parser α} {c rest : Cursor} {mark : Mark} {word : String}

theorem Parser.eatHeld (held : c.token.isMark mark = true) : (Parser.eat mark >>= f) c = f true c.advance := by
  have ate : Parser.eat mark c = .ok true c.advance := if_pos held
  rw [bindApply, ate]

theorem Parser.eatLeft (other : c.token.isMark mark = false) : (Parser.eat mark >>= f) c = f false c := by
  have ate : Parser.eat mark c = .ok false c := if_neg (by simp [other])
  rw [bindApply, ate]

theorem Parser.eatWordHeld (found : Cursor.behindWord word c.ahead = some rest) :
    (Parser.eatWord word >>= f) c = f true rest := by
  rw [bindApply, Parser.eatWord, found]

theorem Parser.eatWordLeft (none : Cursor.behindWord word c.ahead = none) :
    (Parser.eatWord word >>= f) c = f false c := by
  rw [bindApply, Parser.eatWord, none]

theorem endEaten (found : c.token.isMark .semicolon = true) : endStatement c = .ok () c.advance := by
  rw [endStatement, eatHeld found]
  rfl

theorem endLeftOut (none : c.token.isMark .semicolon = false)
    (settled : c.afterTerminator = true ∨ c.token.BreaksOff) : endStatement c = .ok () c := by
  rw [endStatement, eatLeft none]
  refine bindEqOk.mpr ⟨c.afterTerminator, c, rfl, ?_⟩
  by_cases after : c.afterTerminator = true
  · rw [if_pos after]
    rfl
  · rw [if_neg after]
    have breaks := settled.resolve_left after
    refine bindEqOk.mpr ⟨c.token, c, rfl, ?_⟩
    cases token : c.token with
    | mark m =>
      rw [token] at breaks
      cases m <;> first | exact False.elim breaks | rfl
    | eof | text s | echoOpen => rfl
    | _ =>
      rw [token] at breaks
      exact False.elim breaks

theorem endRefused (none : c.token.isMark .semicolon = false) (apart : c.afterTerminator = false)
    (goesOn : ¬c.token.BreaksOff) :
    endStatement c = .refused ⟨c.line, .expected (.mark .semicolon) c.token⟩ := by
  rw [endStatement, eatLeft none]
  show (if c.afterTerminator = true then Pure.pure () else _ : Parser Unit) c = _
  rw [if_neg (by simp [apart]), bindApply, Parser.peek]
  have told {found : Token} (token : c.token = found) : (unexpected (.mark .semicolon) c : Parsed Unit) =
      .refused ⟨c.line, .expected (.mark .semicolon) found⟩ := token ▸ rfl
  cases token : c.token with
  | mark m =>
    rw [token] at goesOn
    cases m <;> first | exact absurd trivial goesOn | exact told token
  | eof | text s | echoOpen =>
    rw [token] at goesOn
    exact absurd trivial goesOn
  | _ => exact told token

theorem endCases (c : Cursor) :
    (c.token.isMark .semicolon = true ∧ endStatement c = .ok () c.advance) ∨
      (c.token.isMark .semicolon = false ∧ (c.afterTerminator = true ∨ c.token.BreaksOff) ∧
        endStatement c = .ok () c) ∨
      endStatement c = .refused ⟨c.line, .expected (.mark .semicolon) c.token⟩ := by
  cases found : c.token.isMark .semicolon with
  | true => exact .inl ⟨rfl, endEaten found⟩
  | false =>
    by_cases settled : c.afterTerminator = true ∨ c.token.BreaksOff
    · exact .inr (.inl ⟨rfl, settled, endLeftOut found settled⟩)
    · obtain ⟨apart, goesOn⟩ := not_or.mp settled
      exact .inr (.inr (endRefused found (Bool.eq_false_iff.mpr apart) goesOn))

theorem endOk {a : Unit} (ran : endStatement c = .ok a rest) :
    c.token.isMark .semicolon = true ∧ rest = c.advance ∨
      c.token.isMark .semicolon = false ∧ rest = c ∧ (c.afterTerminator = true ∨ c.token.BreaksOff) := by
  rcases endCases c with ⟨found, same⟩ | ⟨none, settled, same⟩ | refused
  · cases same.symm.trans ran
    exact .inl ⟨found, rfl⟩
  · cases same.symm.trans ran
    exact .inr ⟨none, rfl, settled⟩
  · cases refused.symm.trans ran

theorem endLeft {a : Unit} (ran : endStatement c = .ok a rest) : rest.left ≤ c.left := by
  rcases endOk ran with ⟨found, rfl⟩ | ⟨_, rfl, _⟩
  · exact Nat.le_of_succ_le (Nat.le_of_eq (Cursor.leftAdvance (Token.markMore found)))
  · exact Nat.le_refl _

end Steps

/-- In front of this token the parser has no result. -/
def Needs {α : Type} (stop : Token) (p : Parser α) : Prop :=
  ∀ c : Cursor, c.token = stop → ∀ a rest, p c ≠ .ok a rest

section Needing

variable {stop : Token}

theorem Needs.bind {α β : Type} {p : Parser α} (needs : Needs stop p) (f : α → Parser β) : Needs stop (p >>= f) := by
  intro c ended b rest ran
  obtain ⟨a, middle, first, _⟩ := bindEqOk.mp ran
  exact needs c ended a middle first

theorem Needs.peek {α : Type} {f : Token → Parser α} (needs : Needs stop (f stop)) :
    Needs stop (Parser.peek >>= f) := by
  intro c ended
  show ∀ a rest, f c.token c ≠ .ok a rest
  rw [ended]
  exact needs c ended

theorem Needs.unexpected {α : Type} (wanted : Wanted) : Needs stop (Parser.unexpected wanted : Parser α) := by
  intro c _ a rest ran
  cases ran

theorem Needs.spent {α : Type} : Needs stop (Parser.spent : Parser α) := by
  intro c _ a rest ran
  cases ran

variable (stops : stop.Final) (n : Nat)
include stops

theorem primaryNeeds : Needs stop (primary n) := by
  intro c ended a rest ran
  cases n with
  | zero => cases ran
  | succ n =>
    rw [primary, bindApply] at ran
    simp only [Parser.advance, ended] at ran
    cases stops <;> cases ran

theorem appliedNeeds : Needs stop (applied n) := by
  cases n with
  | zero => exact .spent
  | succ n =>
    rw [applied]
    exact (primaryNeeds stops n).bind _

theorem unaryNeeds : Needs stop (unary n) := by
  intro c ended a rest ran
  cases n with
  | zero => cases ran
  | succ n =>
    rw [unary, bindApply] at ran
    simp only [Parser.peek, ended] at ran
    refine appliedNeeds stops n c ended a rest ?_
    cases stops <;> exact ran

theorem operationNeeds : (∀ l, Needs stop (operation n l)) ∧ ∀ l, Needs stop (operand n l) := by
  induction n with
  | zero => exact ⟨fun _ => .spent, fun _ => .spent⟩
  | succ n ih =>
    refine ⟨fun l => ?_, fun l => ?_⟩
    · rw [operation]
      exact (ih.2 l).bind _
    · rw [operand]
      split
      · exact ih.1 _
      · exact unaryNeeds stops n

theorem exprNeeds : Needs stop (expr n) := by
  cases n with
  | zero => exact .spent
  | succ n =>
    rw [expr]
    exact (operationNeeds stops n).1 _

theorem simpleNeeds : Needs stop (simpleStatement n) := by
  cases n with
  | zero => exact .spent
  | succ n =>
    rw [simpleStatement]
    exact (appliedNeeds stops n).bind _

omit stops

theorem statementNeeds : Needs .eof (statement n) := by
  cases n with
  | zero => exact .spent
  | succ n =>
    rw [statement]
    exact .peek ((simpleNeeds .eof n).bind _)

theorem returnedNeeds : Needs .eof (returned n) := by
  cases n with
  | zero => exact .spent
  | succ n =>
    rw [returned]
    exact .peek (exprNeeds .eof n)

theorem blockBodyNeeds : Needs .eof (blockBody n) := by
  cases n with
  | zero => exact .spent
  | succ n =>
    intro c ended
    rw [blockBody, eatLeft (by rw [ended]; rfl)]
    exact Needs.peek (.unexpected _) c ended

end Needing

/-- What is followed along two runs. A time says how far they have come, with the place of the first run; `nested` are
the brackets open there, and `enough` says that the budget must last. At an edge the second run may be in front of
another token than the first one. Where statements are read, nothing is given up; what has been given up between two
times that are not `calm` shows in an odd part of the tree. What is left out is not followed. -/
structure Setting where
  Time : Type
  cursor : Time → Cursor
  nested : Time → List Bracket → Prop := fun _ _ => True
  enough : Time → Prop := fun _ => False
  lexed : Prop := False
  reads : Time → Prop := fun _ => True
  edge : Time → Prop := fun _ => False
  calm : Time → Time → Prop := fun _ _ => True
  odd : Part → Prop := fun _ => False
  inner : Time → Time := id

namespace Setting

def left (G : Setting) (t : G.Time) : Nat := (G.cursor t).left

def Awaits (G : Setting) (word : String) (t : G.Time) : Prop := Cursor.behindWord word (G.cursor t).ahead ≠ none

def Behind (G : Setting) (word : String) (t : G.Time) : Prop :=
  ∃ lexeme, (G.cursor t).previous = some lexeme ∧ lexeme.token = .ident word

def Named (G : Setting) (word : String) : Prop := G.lexed → IsName word

def Made (G : Setting) (part : Part) : Prop := (G.lexed → part.Sound) ∧ part.Paired

/-- From one time to another at least so many tokens are passed, and these parts are read. -/
structure Passage (G : Setting) (least : Nat) (t : G.Time) (stack : List Bracket) (parts : List Part)
    (t' : G.Time) : Prop where
  left : G.left t' + least ≤ G.left t
  enough : G.enough t' → G.enough t
  reads : G.reads t → G.reads t'
  nested : G.nested t' stack
  made : ∀ part ∈ parts, part.Everywhere G.Made
  kept : G.calm t t' ∨ ∃ part ∈ parts, G.odd part

theorem Passage.bare {G : Setting} {least : Nat} {t t' : G.Time} {stack : List Bracket}
    (left : G.left t' + least ≤ G.left t) (enough : G.enough t' → G.enough t) (reads : G.reads t → G.reads t')
    (nested : G.nested t' stack) (calm : G.calm t t') : G.Passage least t stack [] t' :=
  ⟨left, enough, reads, nested, List.forall_mem_nil _, .inl calm⟩

/-- The first run is at this place, with these brackets open, and all else is as before. -/
structure Reached (G : Setting) (t : G.Time) (stack : List Bracket) (c : Cursor) (t' : G.Time) : Prop where
  there : G.cursor t' = c
  enough : G.enough t' → G.enough t
  reads : G.reads t → G.reads t'
  nested : G.nested t' stack
  calm : G.calm t t'

theorem Reached.passage {G : Setting} {least : Nat} {t t' : G.Time} {stack : List Bracket} {c : Cursor}
    (reached : G.Reached t stack c t') (left : c.left + least ≤ G.left t) : G.Passage least t stack [] t' := by
  obtain ⟨rfl, enough, reads, nested, calm⟩ := reached
  exact .bare left enough reads nested calm

/-- A statement is read, and an `else` that comes next is not one that it would take. -/
def Stated (G : Setting) (least : Nat) (t : G.Time) (stack : List Bracket) (s : Stmt) (t' : G.Time) : Prop :=
  G.Passage least t stack [.stmt s] t' ∧ (s.EndsOpen → ¬G.Awaits "else" t')

/-- The budget is enough for a parser with 32 units for each token ahead and some more. -/
structure Ready (G : Setting) (n more : Nat) (t : G.Time) (stack : List Bracket) : Prop where
  fuel : G.enough t → 32 * G.left t + more ≤ n
  nested : G.nested t stack

end Setting

/-- How two runs of a parser go together: `holds` is a statement about them from one time on, and the laws carry it from
step to step. The second run has `more` budget than the first. -/
structure Manner extends Setting where
  more : Nat := 0
  holds : {α : Type} → Time → (Time → α → Prop) → Parser α → Parser α → Prop
  calmRefl : ∀ t, calm t t := by exact fun _ => trivial
  calmTrans : ∀ {t t' t''}, calm t t' → calm t' t'' → calm t t'' := by exact fun _ _ => trivial
  oddChild : ∀ {part child : Part}, child ∈ part.children → odd child → odd part := by exact fun _ => id
  oddRef : ∀ {r}, odd (.expr (.ref r)) → odd (.ref r) := by exact id
  oddLiteral : ∀ {s}, ¬odd (.expr (.literal s)) := by exact id
  oddFunc : ∀ t t' params body, calm t t' ∨ odd (.expr (.func params body)) := by exact fun _ _ _ _ => .inl trivial
  lexes : lexed → ∀ t, (cursor t).token.Lexed := by exact False.elim
  innerReads : ∀ t, reads (inner t) := by exact fun _ => trivial
  innerCursor : ∀ t, cursor (inner t) = cursor t := by exact fun _ => rfl
  innerEnough : ∀ {t}, enough (inner t) → enough t := by exact id
  innerNested : ∀ {t stack}, nested t stack → nested (inner t) stack := by exact id
  enter : ∀ {α t} {Q : Time → α → Prop} {p p'}, holds (inner t) Q p p' → holds t Q p p' := by exact id
  spent : ∀ {α t} {Q : Time → α → Prop} {p}, ¬enough t → holds t Q Parser.spent p
  pure : ∀ {α t} {Q : Time → α → Prop} {a}, Q t a → holds t Q (Pure.pure a) (Pure.pure a)
  refuse : ∀ {α t} {Q : Time → α → Prop} {cause : ParseError.Cause}, cause.found? = none →
    holds t Q (Parser.refuse cause) (Parser.refuse cause)
  unexpected : ∀ {α t} {Q : Time → α → Prop} {wanted : Wanted}, wanted.late = false →
    holds t Q (Parser.unexpected wanted) (Parser.unexpected wanted)
  late : ∀ {α t} {Q : Time → α → Prop} {wanted : Wanted}, wanted.late = true →
    holds t Q (Parser.advance >>= fun _ => Parser.refuse (.expected wanted (cursor t).token))
      (Parser.advance >>= fun _ => Parser.refuse (.expected wanted (cursor t).token))
  bind : ∀ {α β t} {R : Time → α → Prop} {Q : Time → β → Prop} {p p' f f'}, holds t R p p' →
    (∀ {t' a}, R t' a → holds t' Q (f a) (f' a)) → holds t Q (p >>= f) (p' >>= f')
  peek : ∀ {α t} {Q : Time → α → Prop} {f f'}, holds t Q (f (cursor t).token) (f' (cursor t).token) →
    (edge t → ∀ token : Token, token.Idle → f token = f .eof ∧ f' token = f' .eof) →
    holds t Q (Parser.peek >>= f) (Parser.peek >>= f')
  advance : ∀ {α t} {Q : Time → α → Prop} {f f'},
    holds t Q (Parser.advance >>= fun _ => f (cursor t).token) (Parser.advance >>= fun _ => f' (cursor t).token) →
    (∀ token : Token, token.Final → ∀ c a rest, f token c ≠ .ok a rest) →
    holds t Q (Parser.advance >>= f) (Parser.advance >>= f')
  pass : ∀ {α t stack stack'} {Q : Time → α → Prop} {q q'}, nested t stack →
    (cursor t).token.turn stack = some stack' → ((cursor t).token.Final → ¬edge t) →
    ((cursor t).token = .mark .slash → Needs (.mark .semicolon) q) →
    (∀ {t'}, toSetting.Reached t stack' (cursor t).advance t' → holds t' Q q q') →
    holds t Q (Parser.advance >>= fun _ => q) (Parser.advance >>= fun _ => q')
  eat : ∀ {α t stack stack' mark} {Q : Time → α → Prop} {f f'}, mark ≠ .slash →
    (mark = .semicolon ∨ mark = .lBrace → ∀ c a rest, f false c ≠ .ok a rest) →
    (mark = .semicolon → Needs .eof (f true)) → nested t stack → (Token.mark mark).turn stack = some stack' →
    (∀ {t'}, (cursor t).token.isMark mark = true → toSetting.Reached t stack' (cursor t).advance t' →
      holds t' Q (f true) (f' true)) →
    holds t Q (f false) (f' false) → holds t Q (Parser.eat mark >>= f) (Parser.eat mark >>= f')
  eatWord : ∀ {α t stack word} {Q : Time → α → Prop} {f f'}, reads t → nested t stack →
    (∀ {t' rest}, Cursor.behindWord word (cursor t).ahead = some rest → toSetting.Reached t stack rest t' →
      holds t' Q (f true) (f' true)) →
    (Cursor.behindWord word (cursor t).ahead = none → holds t Q (f false) (f' false)) →
    holds t Q (Parser.eatWord word >>= f) (Parser.eatWord word >>= f')
  endStatement : ∀ {t stack}, reads t → nested t stack →
    holds t (fun t' _ => toSetting.Passage 0 t stack [] t') Parser.endStatement Parser.endStatement
  edgeNever : ∀ {α t} {Q : Time → α → Prop} {p p'}, reads t → edge t → Needs .eof p → Needs (.mark .semicolon) p →
    holds t Q p p' := by exact fun _ edge => edge.elim
  edgeStmt : ∀ {t stack} {Q : Time → Stmt → Prop} {n n'}, reads t → edge t → nested t stack →
    (∀ {t'}, toSetting.Passage 1 t stack [] t' → Q t' (.block [])) →
    holds t Q (statement (n + 1)) (statement (n' + 1)) := by exact fun _ edge => edge.elim
  edgeBody : ∀ {t} {Q : Time → List Stmt → Prop} {n n'}, reads t → edge t →
    holds t Q (blockBody (n + 1)) (blockBody (n' + 1)) := by exact fun _ edge => edge.elim
  edgeReturn : ∀ {t stack} {Q : Time → Stmt → Prop} {n n'}, reads t → edge t → nested t stack →
    toSetting.Behind "return" t → (∀ {t'}, toSetting.Passage 0 t stack [] t' → Q t' (.ret (.literal (.str "")))) →
    holds t Q (returned n >>= fun value => Parser.endStatement >>= fun _ => Pure.pure (.ret value))
      (returned n' >>= fun value => Parser.endStatement >>= fun _ => Pure.pure (.ret value)) := by
    exact fun _ edge => edge.elim

theorem Parser.bindPure {α : Type} (p : Parser α) : (p >>= fun a => Pure.pure a) = p := by
  funext c
  rw [bindApply]
  cases p c <;> rfl

theorem Parser.bindBind {α β γ : Type} (p : Parser α) (f : α → Parser β) (g : β → Parser γ) :
    (p >>= f) >>= g = p >>= fun a => f a >>= g := by
  funext c
  rw [bindApply, bindApply, bindApply]
  cases p c <;> rfl

section

variable {G : Manner} {t t' t'' : G.Time} {stack stack' : List Bracket} {parts others : List Part}
variable {least least' more more' n : Nat}

theorem Manner.stay (nested : G.nested t stack) : G.Passage 0 t stack [] t where
  left := Nat.le_refl _
  enough := id
  reads := id
  nested := nested
  made := List.forall_mem_nil _
  kept := .inl (G.calmRefl t)

namespace Setting.Passage

theorem trans (passage : G.Passage least t stack parts t') (later : G.Passage least' t' stack' others t'') :
    G.Passage (least + least') t stack' (parts ++ others) t'' where
  left := by
    have first := passage.left
    have second := later.left
    omega
  enough h := passage.enough (later.enough h)
  reads h := later.reads (passage.reads h)
  nested := later.nested
  made := List.forall_mem_append.mpr ⟨passage.made, later.made⟩
  kept := by
    rcases passage.kept with calm | ⟨part, member, odd⟩
    · rcases later.kept with calm' | ⟨part, member, odd⟩
      · exact .inl (G.calmTrans calm calm')
      · exact .inr ⟨part, List.mem_append_right _ member, odd⟩
    · exact .inr ⟨part, List.mem_append_left _ member, odd⟩

theorem past (passage : G.Passage least t stack parts t') (later : G.Passage least' t' stack' [] t'') :
    G.Passage (least + least') t stack' parts t'' := by
  have whole := passage.trans later
  rwa [List.append_nil] at whole

theorem less (passage : G.Passage least t stack parts t') (le : least' ≤ least) : G.Passage least' t stack parts t' :=
  { passage with left := Nat.le_trans (Nat.add_le_add_left le _) passage.left }

theorem make {part : Part} (made : G.Made part) (passage : G.Passage least t stack part.children t') :
    G.Passage least t stack [part] t' where
  left := passage.left
  enough := passage.enough
  reads := passage.reads
  nested := passage.nested
  made := List.forall_mem_singleton.mpr (.make made passage.made)
  kept := passage.kept.imp_right fun ⟨_, member, odd⟩ => ⟨part, List.mem_singleton_self _, G.oddChild member odd⟩

theorem literal (passage : G.Passage least t stack [] t') (x : Scalar) :
    G.Passage least t stack [.expr (.literal x)] t' := make ⟨fun _ => x.isLiteral, trivial⟩ passage

theorem unary {e : Expr} (passage : G.Passage least t stack [.expr e] t') (op : UnaryOp) :
    G.Passage least t stack [.expr (applyUnary op e)] t' := by
  unfold applyUnary
  split
  -- The sign goes into the literal.
  · have calm : G.calm t t' := by
      rcases passage.kept with calm | ⟨part, member, odd⟩
      · exact calm
      · rw [List.mem_singleton.mp member] at odd
        exact absurd odd G.oddLiteral
    have bare : G.Passage least t stack [] t' := { passage with made := List.forall_mem_nil _, kept := .inl calm }
    exact bare.literal _
  · rename_i other
    refine make ⟨fun _ folds => ?_, trivial⟩ passage
    unfold Expr.FoldsAway at folds
    split at folds
    · exact other _ rfl rfl
    · exact folds

theorem ofRef {r : Reference} (passage : G.Passage least t stack [.expr (.ref r)] t') :
    G.Passage least t stack [.ref r] t' where
  left := passage.left
  enough := passage.enough
  reads := passage.reads
  nested := passage.nested
  made := (List.forall_mem_singleton.mp passage.made).children
  kept := by
    refine passage.kept.imp_right fun ⟨_, member, odd⟩ => ⟨_, List.mem_singleton_self _, ?_⟩
    rw [List.mem_singleton.mp member] at odd
    exact G.oddRef odd

theorem ref {r : Reference} (passage : G.Passage least t stack [.ref r] t') :
    G.Passage least t stack [.expr (.ref r)] t' := make ⟨fun _ => trivial, trivial⟩ passage

theorem func {params : List String} {body : Stmt} (before : G.Passage least t stack [] t')
    (inside : G.Passage least' (G.inner t') stack [.stmt body] t'') (named : ∀ param ∈ params, G.Named param) :
    G.Passage (least + least') t stack [.expr (.func params body)] t'' where
  left := by
    have first := before.left
    have second := inside.left
    unfold Setting.left at *
    rw [G.innerCursor] at second
    omega
  enough h := before.enough (G.innerEnough (inside.enough h))
  reads _ := inside.reads (G.innerReads t')
  nested := inside.nested
  made := by
    refine List.forall_mem_singleton.mpr (.make ⟨fun lexed => ?_, trivial⟩ inside.made)
    exact fun param member => named param member lexed
  kept := (G.oddFunc t t'' params body).imp_right fun odd => ⟨_, List.mem_singleton_self _, odd⟩

theorem stmt {s : Stmt} (passage : G.Passage least t stack (Part.stmt s).children t') (made : G.Made (.stmt s))
    (closed : s.EndsOpen → ¬G.Awaits "else" t') : G.Stated least t stack s t' := ⟨make made passage, closed⟩

end Setting.Passage

namespace Setting.Ready

theorem call (ready : G.Ready (n + 1) more t stack) (passage : G.Passage least t stack' parts t')
    (fits : more' + 1 ≤ more + 32 * least) : G.Ready n more' t' stack' := by
  refine ⟨fun enough => ?_, passage.nested⟩
  have fuel := ready.fuel (passage.enough enough)
  have left := passage.left
  omega

theorem here (ready : G.Ready (n + 1) more t stack) (fits : more' + 1 ≤ more) : G.Ready n more' t stack := by
  refine ⟨fun enough => ?_, ready.nested⟩
  have fuel := ready.fuel enough
  omega

theorem inside (ready : G.Ready n more t stack) : G.Ready n more (G.inner t) stack := by
  refine ⟨fun enough => ?_, G.innerNested ready.nested⟩
  unfold Setting.left
  rw [G.innerCursor]
  exact ready.fuel (G.innerEnough enough)

theorem notEnough (ready : G.Ready 0 more t stack) (some : 0 < more) : ¬G.enough t := by
  intro enough
  have fuel := ready.fuel enough
  omega

end Setting.Ready

end

namespace Manner

variable {G : Manner} {t t₀ : G.Time} {stack stack' : List Bracket} {least n n' : Nat} {α : Type}
variable {Q : G.Time → α → Prop}

theorem weaken {R : G.Time → α → Prop} {p p' : Parser α} (h : G.holds t R p p')
    (imp : ∀ {t' a}, R t' a → Q t' a) : G.holds t Q p p' := by
  have h := G.bind h fun {t' a} (r : R t' a) => G.pure (imp r)
  rwa [bindPure, bindPure] at h

theorem pastToken (nested : G.nested t stack) {q q' : Parser α} (turned : (G.cursor t).token.turn stack = some stack')
    (free : (G.cursor t).token.Final → ¬G.edge t)
    (needs : (G.cursor t).token = .mark .slash → Needs (.mark .semicolon) q)
    (later : ∀ {t'}, G.cursor t' = (G.cursor t).advance → G.Passage 1 t stack' [] t' → G.holds t' Q q q') :
    G.holds t Q (Parser.advance >>= fun _ => q) (Parser.advance >>= fun _ => q') := by
  have moved := Cursor.leftAdvance (Token.turnedMore turned)
  exact G.pass nested turned free needs fun reached => later reached.there (reached.passage (Nat.le_of_eq moved))

theorem passing {token : Token} {q q' : Parser α} (seen : (G.cursor t).token = token) (nested : G.nested t stack)
    (turned : token.turn stack = some stack') (free : token.Final → ¬G.edge t) (plain : token ≠ .mark .slash)
    (later : ∀ {t'}, G.cursor t' = (G.cursor t).advance → G.Passage 1 t stack' [] t' → G.holds t' Q q q') :
    G.holds t Q (Parser.advance >>= fun _ => q) (Parser.advance >>= fun _ => q') := by
  subst seen
  exact pastToken nested turned free (fun slash => absurd slash plain) later

theorem passClear {token : Token} {q q' : Parser α} (seen : (G.cursor t).token = token) (nested : G.nested t stack)
    (turned : token.turn stack = some stack') (clear : token.clear = true)
    (later : ∀ {t'}, G.Passage 1 t stack' [] t' → G.holds t' Q q q') :
    G.holds t Q (Parser.advance >>= fun _ => q) (Parser.advance >>= fun _ => q') :=
  passing seen nested turned (fun final => absurd final (Token.clearInside clear)) (Token.clearPlain clear)
    fun _ passage => later passage

theorem pastMark {mark : Mark} {f f' : Bool → Parser α} (plain : mark ≠ .slash)
    (stuck : mark = .semicolon ∨ mark = .lBrace → ∀ c a rest, f false c ≠ .ok a rest)
    (needs : mark = .semicolon → Needs .eof (f true)) (nested : G.nested t stack)
    (turned : (Token.mark mark).turn stack = some stack')
    (found : ∀ {t'}, G.Passage 1 t stack' [] t' → G.holds t' Q (f true) (f' true))
    (missing : G.holds t Q (f false) (f' false)) : G.holds t Q (Parser.eat mark >>= f) (Parser.eat mark >>= f') := by
  refine G.eat plain stuck needs nested turned (fun held reached => found (reached.passage ?_)) missing
  exact Nat.le_of_eq (Cursor.leftAdvance (Token.markMore held))

theorem taking {mark : Mark} {f f' : Bool → Parser α} (clear : mark ≠ .slash ∧ mark ≠ .semicolon ∧ mark ≠ .lBrace)
    (nested : G.nested t stack) (turned : (Token.mark mark).turn stack = some stack')
    (found : ∀ {t'}, G.Passage 1 t stack' [] t' → G.holds t' Q (f true) (f' true))
    (missing : G.holds t Q (f false) (f' false)) : G.holds t Q (Parser.eat mark >>= f) (Parser.eat mark >>= f') := by
  obtain ⟨slash, semicolon, brace⟩ := clear
  refine pastMark slash (fun other => ?_) (fun same => absurd same semicolon) nested turned found missing
  exact other.elim (absurd · semicolon) (absurd · brace)

theorem takingWord {word : String} {f f' : Bool → Parser α} (reads : G.reads t) (nested : G.nested t stack)
    (found : ∀ {t'}, G.Awaits word t → G.Passage 1 t stack [] t' → G.holds t' Q (f true) (f' true))
    (missing : ¬G.Awaits word t → G.holds t Q (f false) (f' false)) :
    G.holds t Q (Parser.eatWord word >>= f) (Parser.eatWord word >>= f') := by
  refine G.eatWord reads nested (fun there reached => ?_) fun none => missing fun awaits => awaits none
  exact found (by simp [Setting.Awaits, there]) (reached.passage (Cursor.leftWord there))

theorem expecting {mark : Mark} {wanted : Wanted} {q q' : Parser α} (plain : mark ≠ .slash)
    (needs : mark = .semicolon → Needs .eof q) (early : wanted.late = false) (nested : G.nested t stack)
    (turned : (Token.mark mark).turn stack = some stack')
    (later : ∀ {t'}, G.Passage 1 t stack' [] t' → G.holds t' Q q q') :
    G.holds t Q (Parser.expectAs mark wanted >>= fun _ => q) (Parser.expectAs mark wanted >>= fun _ => q') := by
  rw [Parser.expectAs, bindBind, bindBind]
  refine pastMark plain (fun _ c a rest ran => by cases ran) needs nested turned later ?_
  exact G.bind (R := fun _ _ => False) (G.unexpected early) fun never => never.elim

theorem expectClear {mark : Mark} {wanted : Wanted} {q q' : Parser α} (clear : (Token.mark mark).clear = true)
    (early : wanted.late = false) (nested : G.nested t stack) (turned : (Token.mark mark).turn stack = some stack')
    (later : ∀ {t'}, G.Passage 1 t stack' [] t' → G.holds t' Q q q') :
    G.holds t Q (Parser.expectAs mark wanted >>= fun _ => q) (Parser.expectAs mark wanted >>= fun _ => q') := by
  refine expecting (fun same => ?_) (fun same => ?_) early nested turned later
  · exact Token.clearPlain clear (congrArg Token.mark same)
  · subst same
    cases clear

theorem expect {mark : Mark} {q q' : Parser α} (clear : (Token.mark mark).clear = true) (nested : G.nested t stack)
    (turned : (Token.mark mark).turn stack = some stack')
    (later : ∀ {t'}, G.Passage 1 t stack' [] t' → G.holds t' Q q q') :
    G.holds t Q (Parser.expect mark >>= fun _ => q) (Parser.expect mark >>= fun _ => q') :=
  expectClear clear rfl nested turned later

theorem expectSemicolon {q q' : Parser α} (needs : Needs .eof q) (nested : G.nested t stack)
    (later : ∀ {t'}, G.Passage 1 t stack [] t' → G.holds t' Q q q') :
    G.holds t Q (Parser.expect .semicolon >>= fun _ => q) (Parser.expect .semicolon >>= fun _ => q') :=
  expecting (by decide) (fun _ => needs) rfl nested rfl later

theorem name {wanted : Wanted} (early : wanted.late = false) (nested : G.nested t stack) :
    G.holds t (fun t' word => G.Named word ∧ G.Passage 1 t stack [] t') (Parser.name wanted) (Parser.name wanted) := by
  refine G.peek ?_ fun _ token idle => ?_
  · generalize seen : (G.cursor t).token = token
    split
    · rename_i word
      split
      · exact G.unexpected early
      · rename_i free
        refine passClear seen nested rfl rfl fun passage => ?_
        refine G.pure ⟨fun lexed => ?_, passage⟩
        have word := G.lexes lexed t
        rw [seen] at word
        exact ⟨word, Bool.eq_false_iff.mpr free⟩
    · exact G.unexpected early
  · cases idle with
    | final h => cases h <;> exact ⟨rfl, rfl⟩
    | _ => exact ⟨rfl, rfl⟩

theorem mapKey (nested : G.nested t stack) :
    G.holds t (fun t' _ => G.Passage 1 t stack [] t') Parser.mapKey Parser.mapKey := by
  refine G.advance ?_ fun token final c a rest ran => ?_
  · split
    · rename_i seen
      exact passClear seen nested rfl rfl fun passage => G.pure passage
    · rename_i seen
      exact passClear seen nested rfl rfl fun passage => G.pure passage
    · exact G.late rfl
  · cases final <;> cases ran

theorem fieldName (nested : G.nested t stack) :
    G.holds t (fun t' _ => G.Passage 1 t stack [] t') Parser.fieldName Parser.fieldName := by
  refine G.advance ?_ fun token final c a rest ran => ?_
  · split
    · rename_i seen
      exact passClear seen nested rfl rfl fun passage => G.pure passage
    · exact G.late rfl
  · cases final <;> cases ran

theorem reference {cause : ParseError.Cause} (other : cause.found? = none) (e : Expr) :
    G.holds t (fun t' r => t' = t ∧ e = .ref r) (Parser.reference cause e) (Parser.reference cause e) := by
  unfold Parser.reference
  split
  · exact G.pure ⟨rfl, rfl⟩
  · exact G.refuse other

theorem output (word : String) {args : List Expr} (passage : G.Passage least t₀ stack (args.map .expr) t) :
    G.holds t (fun t' s => G.Stated least t₀ stack s t') (outputStatement word args) (outputStatement word args) := by
  unfold outputStatement
  split
  · exact G.pure (passage.stmt ⟨fun _ => trivial, trivial⟩ fun openly => openly.elim)
  · exact G.pure (passage.stmt ⟨fun _ => List.cons_ne_nil _ _, trivial⟩ fun openly => openly.elim)
  · exact G.pure (passage.stmt ⟨fun _ => trivial, trivial⟩ fun openly => openly.elim)
  · exact G.refuse rfl

end Manner

end CircuitScript
