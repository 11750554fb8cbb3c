import CircuitScript.Proofs.Enough

/-! What a tree is spelled by reads back as that tree. -/
namespace CircuitScript

open CircuitScript.Parser

variable {α β : Type}

/-- On every row of these tokens, whatever its lines, the parser gives the result and stops where the rest
begins, once its budget is large. -/
def Reads (p : Nat → Parser α) (tokens : List Token) (a : α) (rest : List Token) : Prop :=
  ∀ previous row, row.map Lexeme.token = tokens →
    ∃ last behind, behind <:+ row ∧ behind.map Lexeme.token = rest ∧
      ∃ least, ∀ n, least ≤ n → p n ⟨previous, row⟩ = .ok a ⟨last, behind⟩

theorem tokenFirst (previous : Option Lexeme) (row : List Lexeme) :
    (Cursor.mk previous row).token = first (row.map Lexeme.token) := by
  cases row <;> rfl

namespace Reads

variable {p : Nat → Parser α} {f : Nat → α → Parser β} {tokens middle rest : List Token} {a : α} {b : β}

theorem deeper (h : Reads (fun n => p (n + 1)) tokens a rest) : Reads p tokens a rest := by
  intro previous row spells
  obtain ⟨last, behind, suffix, left, least, ran⟩ := h previous row spells
  refine ⟨last, behind, suffix, left, least + 1, fun n enough => ?_⟩
  obtain ⟨n, rfl⟩ := Nat.exists_eq_add_of_le' enough
  exact ran (n + least) (by omega)

theorem pure (a : α) (tokens : List Token) : Reads (fun _ => Pure.pure a) tokens a tokens :=
  fun previous row spells => ⟨previous, row, List.suffix_refl row, spells, 0, fun _ _ => rfl⟩

theorem bind (before : Reads p tokens a middle) (after : Reads (fun n => f n a) middle b rest) :
    Reads (fun n => p n >>= f n) tokens b rest := by
  intro previous row spells
  obtain ⟨last, behind, suffix, left, least, ran⟩ := before previous row spells
  obtain ⟨last', behind', suffix', left', least', ran'⟩ := after last behind left
  refine ⟨last', behind', suffix'.trans suffix, left', max least least', fun n enough => ?_⟩
  show (p n >>= f n) _ = _
  rw [bindApply, ran n (by omega)]
  exact ran' n (by omega)

theorem peek (tokens : List Token) : Reads (fun _ => Parser.peek) tokens (first tokens) tokens := by
  intro previous row spells
  refine ⟨previous, row, List.suffix_refl row, spells, 0, fun _ _ => ?_⟩
  rw [← spells, ← tokenFirst previous row]
  rfl

theorem advance (token : Token) (tokens : List Token) :
    Reads (fun _ => Parser.advance) (token :: tokens) token tokens := by
  intro previous row spells
  obtain ⟨lexeme, row, rfl, rfl, rfl⟩ := List.map_eq_cons_iff.mp spells
  exact ⟨some lexeme, row, List.suffix_cons lexeme row, rfl, 0, fun _ _ => rfl⟩

theorem eat (mark : Mark) (tokens : List Token) :
    Reads (fun _ => Parser.eat mark) (.mark mark :: tokens) true tokens := by
  intro previous row spells
  obtain ⟨lexeme, row, rfl, seen, rfl⟩ := List.map_eq_cons_iff.mp spells
  refine ⟨some lexeme, row, List.suffix_cons lexeme row, rfl, 0, fun _ _ => if_pos ?_⟩
  show lexeme.token.isMark mark = true
  rw [seen]
  exact beq_self_eq_true mark

theorem eatNot {mark : Mark} (h : (first tokens).isMark mark = false) :
    Reads (fun _ => Parser.eat mark) tokens false tokens := by
  intro previous row spells
  refine ⟨previous, row, List.suffix_refl row, spells, 0, fun _ _ => if_neg ?_⟩
  rw [tokenFirst, spells, h]
  decide

theorem expectAs (mark : Mark) (wanted : Wanted) (tokens : List Token) :
    Reads (fun _ => Parser.expectAs mark wanted) (.mark mark :: tokens) () tokens :=
  (eat mark tokens).bind (.pure () tokens)

theorem expect (mark : Mark) (tokens : List Token) :
    Reads (fun _ => Parser.expect mark) (.mark mark :: tokens) () tokens := expectAs mark _ tokens

theorem name {word : String} (h : isKeyword word = false) (wanted : Wanted) (tokens : List Token) :
    Reads (fun _ => Parser.name wanted) (.ident word :: tokens) word tokens := by
  refine (peek _).bind ?_
  simp only [firstCons, h, Bool.false_eq_true, if_false]
  exact (advance _ _).bind (.pure word tokens)

theorem endStatement (tokens : List Token) :
    Reads (fun _ => Parser.endStatement) (.mark .semicolon :: tokens) () tokens :=
  (eat .semicolon tokens).bind (.pure () tokens)

end Reads

/-- A word stands ahead with nothing but semicolons before it. -/
def FacesWord (word : String) : List Token → Prop
  | .mark .semicolon :: rest => FacesWord word rest
  | .ident name :: _ => name = word
  | _ => False

theorem behindWordFaces (word : String) (row : List Lexeme) :
    (Cursor.behindWord word row = none) ↔ ¬FacesWord word (row.map Lexeme.token) := by
  fun_induction Cursor.behindWord word row with
  | case1 => simp [FacesWord]
  | case2 lexeme rest seen ih => rw [List.map_cons, seen, ih, FacesWord]
  | case3 lexeme rest seen =>
    rw [List.map_cons, seen, FacesWord]
    simp
  | case4 lexeme rest name seen other =>
    rw [List.map_cons, seen, FacesWord]
    simp [other]
  | case5 lexeme rest noSemicolon noName =>
    simp only [List.map_cons, true_iff]
    unfold FacesWord
    split
    · rename_i h
      exact absurd (List.cons.inj h).1 noSemicolon
    · rename_i h
      exact absurd (List.cons.inj h).1 (noName _)
    · exact id

theorem Reads.eatWord (word : String) (tokens : List Token) :
    Reads (fun _ => Parser.eatWord word) (.ident word :: tokens) true tokens := by
  intro previous row spells
  obtain ⟨lexeme, row, rfl, seen, rfl⟩ := List.map_eq_cons_iff.mp spells
  refine ⟨some lexeme, row, List.suffix_cons lexeme row, rfl, 0, fun _ _ => ?_⟩
  simp [Parser.eatWord, Cursor.behindWord, seen]

theorem Reads.eatWordNot {word : String} {tokens : List Token} (h : ¬FacesWord word tokens) :
    Reads (fun _ => Parser.eatWord word) tokens false tokens := by
  intro previous row spells
  refine ⟨previous, row, List.suffix_refl row, spells, 0, fun _ _ => ?_⟩
  have missing : Cursor.behindWord word row = none := by
    rw [behindWordFaces, spells]
    exact h
  simp [Parser.eatWord, missing]

namespace Tier

def parser : Tier → Nat → Parser Expr
  | level l => fun n => operation n l
  | unary => Parser.unary
  | applied => Parser.applied
  | primary => Parser.primary

/-- With `e` read so far, the tier goes on along the rest to `whole`. -/
def Continues (tier : Tier) (e : Expr) (rest : List Token) (whole : Expr) (left : List Token) : Prop :=
  match tier with
  | level l => Reads (fun n => operationFrom n l e) rest whole left
  | applied => Reads (fun n => appliedFrom n e) rest whole left
  | _ => whole = e ∧ left = rest

/-- The tokens bring the tier's parser to where `e` is read and the rest is ahead. -/
def Takes (tier : Tier) (tokens : List Token) (e : Expr) (rest : List Token) : Prop :=
  ∀ whole left, tier.Continues e rest whole left → Reads tier.parser tokens whole left

/-- A token that the tier's loop goes on with. -/
def grips : Tier → Token → Bool
  | level l, .mark m => (l.operator? m).isSome
  | applied, .mark .lParen => true
  | applied, .mark .lBracket => true
  | applied, .mark .dot => true
  | _, _ => false

theorem rankTighter {tier : Tier} (h : tier.rank < 10) : tier.tighter.rank = tier.rank + 1 := by
  cases tier with
  | level l => cases l <;> rfl
  | unary => rfl
  | applied => rfl
  | primary => exact absurd h (by decide)

theorem rankLe (tier : Tier) : tier.rank ≤ 10 := by
  cases tier with
  | level l => exact Nat.le_trans (Level.rankLe l) (by decide)
  | _ => decide

theorem rankInjective {s t : Tier} (h : s.rank = t.rank) : s = t := by
  cases s <;> cases t
  case level.level l m => cases l <;> cases m <;> first | rfl | cases h
  all_goals first
    | rfl
    | exact absurd h (by decide)
    | rename_i l; exact absurd h (by cases l <;> decide)

theorem idle {tier : Tier} {rest : List Token} (h : tier.grips (first rest) = false) (e : Expr) :
    tier.Continues e rest e rest := by
  cases tier with
  | level l =>
    refine .deeper ?_
    unfold operationFrom
    refine (Reads.peek rest).bind ?_
    cases seen : first rest with
    | mark m =>
      have none : l.operator? m = none := by simpa [grips, seen] using h
      simp only [none]
      exact .pure e rest
    | _ => exact .pure e rest
  | applied =>
    refine .deeper ?_
    unfold appliedFrom
    refine (Reads.peek rest).bind ?_
    split
    · rename_i seen; rw [seen] at h; cases h
    · rename_i seen; rw [seen] at h; cases h
    · rename_i seen; rw [seen] at h; cases h
    · exact .pure e rest
  | unary => exact ⟨rfl, rfl⟩
  | primary => exact ⟨rfl, rfl⟩

end Tier

theorem primaryNoSign {n : Nat} {cursor rest : Cursor} {e : Expr} {m : Mark}
    (ran : Parser.primary n cursor = .ok e rest) (seen : cursor.token = .mark m) :
    unaryOperator? m = none := by
  cases n with
  | zero => cases ran
  | succ n =>
    unfold Parser.primary at ran
    obtain ⟨token, middle, advanced, ran⟩ := bindEqOk.mp ran
    cases advanced
    rw [seen] at ran
    cases m <;> first | rfl | cases ran

theorem Reads.noSign {tokens rest : List Token} {e : Expr} {m : Mark}
    (h : Reads Parser.applied tokens e rest) (seen : first tokens = .mark m) :
    unaryOperator? m = none := by
  obtain ⟨last, behind, _, _, least, ran⟩ :=
    h none (tokens.map (Lexeme.mk 0)) (by simp [Function.comp_def])
  have here := ran (least + 1) (by omega)
  obtain ⟨head, middle, ran, _⟩ := bindEqOk.mp (show (Parser.primary least >>= _) _ = _ from here)
  refine primaryNoSign ran ?_
  rw [tokenFirst, ← seen]
  simp [Function.comp_def]

theorem Reads.unsigned {tokens rest : List Token} {e : Expr} (h : Reads Parser.applied tokens e rest) :
    Reads Parser.unary tokens e rest := by
  refine .deeper ?_
  unfold Parser.unary
  refine (Reads.peek tokens).bind ?_
  cases seen : first tokens with
  | mark m =>
    simp only [h.noSign seen]
    exact h
  | _ => exact h

theorem Reads.operand {l : Level} {tokens rest : List Token} {e : Expr}
    (h : Reads (Tier.level l).tighter.parser tokens e rest) :
    Reads (fun n => Parser.operand n l) tokens e rest := by
  refine .deeper ?_
  unfold Parser.operand
  unfold Tier.tighter at h
  cases above : l.tighter? with
  | some next =>
    simp only [above] at h
    exact h
  | none =>
    simp only [above] at h
    exact h

def Quiet (rank : Nat) (rest : List Token) : Prop :=
  ∀ tier : Tier, rank ≤ tier.rank → tier.grips (first rest) = false

theorem Quiet.mono {low high : Nat} {rest : List Token} (h : Quiet low rest) (le : low ≤ high) :
    Quiet high rest := fun tier above => h tier (Nat.le_trans le above)

namespace Tier.Takes

variable {tier : Tier} {tokens rest : List Token} {e : Expr}

theorem reads (h : tier.Takes tokens e rest) (quiet : tier.grips (first rest) = false) :
    Reads tier.parser tokens e rest := h e rest (Tier.idle quiet e)

theorem loosen (h : tier.tighter.Takes tokens e rest)
    (quiet : tier.tighter.grips (first rest) = false) : tier.Takes tokens e rest := by
  cases tier with
  | level l =>
    intro whole left more
    refine .deeper ?_
    unfold parser operation
    exact (h.reads quiet).operand.bind more
  | unary =>
    rintro whole left ⟨rfl, rfl⟩
    exact (h.reads quiet).unsigned
  | applied =>
    intro whole left more
    refine .deeper ?_
    show Reads (fun n => Parser.applied (n + 1)) _ _ _
    unfold Parser.applied
    exact (h.reads quiet).bind more
  | primary => exact h

theorem loosenTo (h : tier.Takes tokens e rest) (looser : Tier) (le : looser.rank ≤ tier.rank)
    (quiet : Quiet (looser.rank + 1) rest) : looser.Takes tokens e rest := by
  obtain ⟨gap, same⟩ := Nat.exists_eq_add_of_le le
  induction gap generalizing looser with
  | zero =>
    cases rankInjective same
    exact h
  | succ gap ih =>
    have bound := rankLe tier
    have next : looser.tighter.rank = looser.rank + 1 := rankTighter (by omega)
    refine loosen (ih _ ?_ (quiet.mono ?_) ?_) (quiet _ ?_) <;> omega

end Tier.Takes

theorem operatorMark (l : Level) (op : BinaryOp) (single : Bool) :
    l.operator? (op.mark single) = if l = op.level then some op else none := by
  cases op with
  | eq => cases single <;> cases l <;> rfl
  | _ => cases l <;> rfl

theorem unaryMark (op : UnaryOp) : unaryOperator? op.mark = some op := by
  cases op <;> rfl

theorem quietOperator (op : BinaryOp) (single : Bool) (rest : List Token) :
    Quiet (op.level.rank + 1) (.mark (op.mark single) :: rest) := by
  intro tier above
  cases tier with
  | level l =>
    have other : l ≠ op.level := by
      rintro rfl
      exact absurd above (Nat.not_succ_le_self _)
    simp [firstCons, Tier.grips, operatorMark, other]
  | applied =>
    cases op with
    | eq => cases single <;> rfl
    | _ => rfl
  | unary => rfl
  | primary => rfl

theorem quietTop (rest : List Token) : Quiet 10 rest := by
  intro tier above
  have primary : tier = .primary := Tier.rankInjective (Nat.le_antisymm tier.rankLe above)
  subst primary
  rfl

def Mark.Ends (m : Mark) : Prop :=
  m = .rParen ∨ m = .rBracket ∨ m = .rBrace ∨ m = .comma ∨ m = .semicolon

theorem quietEnd {m : Mark} (h : m.Ends) (rest : List Token) : Quiet 0 (.mark m :: rest) := by
  rintro tier -
  rw [firstCons]
  rcases h with rfl | rfl | rfl | rfl | rfl <;>
    cases tier with
    | level l => cases l <;> rfl
    | _ => rfl

/-- Whatever binds too loosely for its place goes into parentheses. No place wants more than the rank of
a callee. -/
def Style.Covers (style : Style) : Prop :=
  ∀ need (e : Expr), need ≤ 9 → e.tier.rank < need → style.parens need e = true

def Expr.Read (style : Style) (e : Expr) : Prop :=
  ∀ rest, Quiet (e.tier.rank + 1) rest → e.tier.Takes (e.spelled style ++ rest) e rest

theorem Reads.inParens {tokens rest : List Token} {e : Expr}
    (h : Reads Parser.expr tokens e (.mark .rParen :: rest)) :
    Tier.primary.Takes (.mark .lParen :: tokens) e rest := by
  rintro whole left ⟨rfl, rfl⟩
  refine .deeper ?_
  show Reads (fun n => Parser.primary (n + 1)) _ _ _
  unfold Parser.primary
  exact (Reads.advance _ _).bind (h.bind ((Reads.expect _ _).bind (.pure _ _)))

theorem Tier.Takes.whole {tier : Tier} {tokens rest : List Token} {e : Expr}
    (h : tier.Takes tokens e rest) (quiet : Quiet 0 rest) : Reads Parser.expr tokens e rest := by
  refine .deeper ?_
  unfold Parser.expr
  have loosest : (Tier.level .disjunction).rank = 0 := rfl
  exact (h.loosenTo (.level .disjunction) (by omega) (quiet.mono (by omega))).reads
    (quiet _ (by omega))

theorem literalRead (style : Style) (s : Scalar) : (Expr.literal s).Read style := by
  rintro rest - whole left ⟨rfl, rfl⟩
  refine .deeper ?_
  show Reads (fun n => Parser.primary (n + 1)) (s.token :: _) _ _
  unfold Parser.primary
  refine (Reads.advance _ _).bind ?_
  cases s with
  | bool b => cases b <;> exact .pure _ _
  | _ => exact .pure _ _

def Reference.Read (style : Style) (r : Reference) : Prop :=
  ∀ rest, Tier.applied.Takes (r.spelled style ++ rest) (.ref r) rest

theorem varRead (style : Style) {name : String} (h : isKeyword name = false) :
    (Reference.var name).Read style := by
  intro rest
  refine Tier.Takes.loosen ?_ rfl
  rintro whole left ⟨rfl, rfl⟩
  refine .deeper ?_
  show Reads (fun n => Parser.primary (n + 1)) (.ident name :: _) _ _
  unfold Parser.primary
  refine (Reads.advance _ _).bind ?_
  dsimp only
  split
  case h_7 seen =>
    cases seen
    simp only [h, Bool.false_eq_true, if_false]
    exact .pure _ _
  case h_11 noWord _ _ _ => exact absurd rfl (noWord name)
  all_goals
    rename_i seen
    cases seen <;> exact absurd h (by decide)

theorem fieldRead {style : Style} {parent : Reference} (h : parent.Read style) (key : String) :
    (Reference.field parent key).Read style := by
  intro rest whole left more
  rw [Reference.spelled, List.append_assoc]
  refine h _ whole left (.deeper ?_)
  have keyed : Reads (fun _ => fieldName) (.ident key :: rest) key rest :=
    (Reads.advance _ _).bind (.pure _ _)
  unfold appliedFrom
  refine (Reads.peek _).bind ((Reads.advance _ _).bind (keyed.bind ?_))
  exact (Reads.pure parent rest).bind more

/-- With parentheses around it an expression stands anywhere, and without them where it binds tightly enough. -/
theorem Expr.Read.takes {style : Style} {e : Expr} (h : e.Read style) (wrapped : Bool) (tier : Tier)
    (fits : wrapped = false → tier.rank ≤ e.tier.rank) {rest : List Token} (quiet : Quiet (tier.rank + 1) rest) :
    tier.Takes (enclose wrapped (e.spelled style) ++ rest) e rest := by
  cases wrapped with
  | false =>
    have bound := fits rfl
    exact (h rest (quiet.mono (by omega))).loosenTo tier bound quiet
  | true =>
    have closing : Quiet 0 (.mark .rParen :: rest) := quietEnd (.inl rfl) rest
    have inner := (h (.mark .rParen :: rest) (closing.mono (by omega))).whole closing
    simp only [enclose, if_true, List.cons_append, List.append_assoc, List.nil_append]
    exact inner.inParens.loosenTo tier tier.rankLe quiet

section Places

variable {style : Style} (covers : style.Covers)
include covers

theorem Expr.Read.place {e : Expr} (h : e.Read style) (tier : Tier) (le : tier.rank ≤ 9)
    {rest : List Token} (quiet : Quiet (tier.rank + 1) rest) :
    tier.Takes (enclose (style.parens tier.rank e) (e.spelled style) ++ rest) e rest := by
  refine h.takes _ tier (fun bare => Nat.le_of_not_lt fun loose => ?_) quiet
  rw [covers _ _ le loose] at bare
  cases bare

theorem Expr.Read.whole {e : Expr} (h : e.Read style) {rest : List Token} (quiet : Quiet 0 rest) :
    Reads Parser.expr (enclose (style.parens 0 e) (e.spelled style) ++ rest) e rest :=
  (h.place covers (.level .disjunction) (by decide) (quiet.mono (by omega))).whole quiet

theorem unaryRead {op : UnaryOp} {e : Expr} (kept : ¬Expr.FoldsAway op e) (h : e.Read style) :
    (Expr.unary op e).Read style := by
  rintro rest quiet whole left ⟨rfl, rfl⟩
  have operand := (h.place covers .unary (by decide) quiet).reads rfl
  have applied : applyUnary op e = .unary op e := by
    unfold applyUnary
    split
    · exact absurd trivial kept
    · rfl
  rw [Expr.spelled, List.cons_append]
  refine .deeper ?_
  show Reads (fun n => Parser.unary (n + 1)) _ _ _
  unfold Parser.unary
  refine (Reads.peek _).bind ?_
  simp only [firstCons, unaryMark]
  refine (Reads.advance _ _).bind (operand.bind ?_)
  rw [applied]
  exact .pure _ _

theorem binaryRead {op : BinaryOp} {left right : Expr} (hl : left.Read style) (hr : right.Read style) :
    (Expr.binary op left right).Read style := by
  intro rest quiet whole stop more
  have bound := op.level.rankLe
  rw [Expr.spelled, List.append_assoc, List.cons_append]
  refine hl.place covers (.level op.level) (Nat.le_trans bound (by decide)) (quietOperator op _ _) whole stop
    (.deeper ?_)
  have next : (Tier.level op.level).tighter.rank = op.level.rank + 1 :=
    Tier.rankTighter (Nat.lt_of_le_of_lt bound (by decide))
  have above : Quiet ((Tier.level op.level).tighter.rank + 1) rest :=
    quiet.mono (by rw [next]; exact Nat.le_succ _)
  have operand := hr.place covers (Tier.level op.level).tighter (by omega) above
  rw [next] at operand
  unfold operationFrom
  refine (Reads.peek _).bind ?_
  simp only [firstCons, operatorMark, if_true]
  refine (Reads.advance _ _).bind (Reads.bind (operand.reads ?_).operand more)
  exact quiet _ (Nat.le_of_eq next.symm)

omit covers in
theorem firstItem (e : Expr) (more : List Expr) {m : Mark} (h : m.Ends) (rest : List Token) :
    (first (commas (Expr.spelledAll style (e :: more)) ++ rest)).isMark m = false := by
  obtain ⟨tokens, same⟩ : ∃ tokens, commas (Expr.spelledAll style (e :: more)) =
      enclose (style.parens 0 e) (e.spelled style) ++ tokens := by
    cases more with
    | nil => exact ⟨[], (List.append_nil _).symm⟩
    | cons next more => exact ⟨_, rfl⟩
  have opens := e.opensPlace style (style.parens 0 e) (tokens ++ rest)
  rw [same, List.append_assoc]
  cases seen : first (enclose (style.parens 0 e) (e.spelled style) ++ (tokens ++ rest)) with
  | mark found =>
    rw [seen] at opens
    rcases opens with rfl | rfl | rfl | rfl | rfl | rfl <;>
      rcases h with rfl | rfl | rfl | rfl | rfl <;> rfl
  | _ => rfl

theorem itemsRead {es : List Expr} (h : ∀ e ∈ es, e.Read style) (some : es ≠ []) {closing : Mark}
    (ends : closing.Ends) (notComma : closing ≠ .comma) (rest : List Token) :
    Reads (fun n => items n closing)
      (commas (Expr.spelledAll style es) ++ .mark closing :: rest) es rest := by
  induction es with
  | nil => exact absurd rfl some
  | cons e more ih =>
    have here : e.Read style := h e (.head _)
    refine .deeper ?_
    unfold items
    cases more with
    | nil =>
      exact (here.whole covers (quietEnd ends rest)).bind ((Reads.eat _ _).bind (.pure _ _))
    | cons next more =>
      have later := ih (fun e mem => h e (.tail _ mem)) (List.cons_ne_nil _ _)
      simp only [Expr.spelledAll, commasCons, List.append_assoc, List.cons_append] at later ⊢
      refine (here.whole covers (quietEnd (.inr (.inr (.inr (.inl rfl)))) _)).bind ?_
      refine (Reads.eatNot ?_).bind ?_
      · simpa [firstCons, Token.isMark] using notComma.symm
      · exact (Reads.expectAs _ _ _).bind (later.bind (.pure _ _))

theorem argumentsRead {args : List Expr} (h : ∀ e ∈ args, e.Read style) (rest : List Token) :
    Reads Parser.arguments
      (.mark .lParen :: commas (Expr.spelledAll style args) ++ .mark .rParen :: rest) args rest := by
  refine .deeper ?_
  unfold arguments
  refine (Reads.expect _ _).bind ?_
  cases args with
  | nil => exact (Reads.eat _ _).bind (.pure _ _)
  | cons e more =>
    refine (Reads.eatNot (firstItem e more (.inl rfl) _)).bind ?_
    exact itemsRead covers h (List.cons_ne_nil _ _) (.inl rfl) (by decide) rest

theorem callRead {callee : Expr} {args : List Expr} (hc : callee.Read style)
    (ha : ∀ e ∈ args, e.Read style) : (Expr.call callee args).Read style := by
  intro rest quiet whole left more
  simp only [Expr.spelled, List.append_assoc, List.cons_append]
  refine hc.place covers .applied (by decide) (quietTop _) whole left (.deeper ?_)
  unfold appliedFrom
  exact (Reads.peek _).bind ((argumentsRead covers ha rest).bind more)

theorem listRead {es : List Expr} (h : ∀ e ∈ es, e.Read style) : (Expr.list es).Read style := by
  rintro rest - whole left ⟨rfl, rfl⟩
  simp only [Expr.spelled, List.append_assoc, List.cons_append]
  refine .deeper ?_
  show Reads (fun n => Parser.primary (n + 1)) _ _ _
  unfold Parser.primary
  refine (Reads.advance _ _).bind ?_
  cases es with
  | nil => exact (Reads.eat _ _).bind (.pure _ _)
  | cons e more =>
    refine (Reads.eatNot (firstItem e more (.inr (.inl rfl)) _)).bind ?_
    exact (itemsRead covers h (List.cons_ne_nil _ _) (.inr (.inl rfl)) (by decide) _).bind (.pure _ _)

theorem entriesRead {entries : List (String × Expr)} (h : ∀ entry ∈ entries, entry.2.Read style)
    (some : entries ≠ []) (rest : List Token) :
    Reads Parser.entries
      (commas (Expr.spelledEntries style entries) ++ .mark .rBrace :: rest) entries rest := by
  induction entries with
  | nil => exact absurd rfl some
  | cons entry more ih =>
    obtain ⟨key, e⟩ := entry
    have here : e.Read style := h (key, e) (.head _)
    have keyed (tokens : List Token) : Reads (fun _ => mapKey) (.str key :: tokens) key tokens :=
      (Reads.advance _ _).bind (.pure _ _)
    refine .deeper ?_
    unfold Parser.entries
    cases more with
    | nil =>
      refine (keyed _).bind ((Reads.expect _ _).bind ?_)
      exact (here.whole covers (quietEnd (.inr (.inr (.inl rfl))) rest)).bind
        ((Reads.eat _ _).bind (.pure _ _))
    | cons next more =>
      have later := ih (fun entry mem => h entry (.tail _ mem)) (List.cons_ne_nil _ _)
      simp only [Expr.spelledEntries, commasCons, List.append_assoc, List.cons_append] at later ⊢
      refine (keyed _).bind ((Reads.expect _ _).bind ?_)
      refine (here.whole covers (quietEnd (.inr (.inr (.inr (.inl rfl)))) _)).bind ?_
      exact (Reads.eatNot rfl).bind ((Reads.expectAs _ _ _).bind (later.bind (.pure _ _)))

theorem mapRead {entries : List (String × Expr)} (h : ∀ entry ∈ entries, entry.2.Read style) :
    (Expr.map entries).Read style := by
  rintro rest - whole left ⟨rfl, rfl⟩
  simp only [Expr.spelled, List.append_assoc, List.cons_append]
  refine .deeper ?_
  show Reads (fun n => Parser.primary (n + 1)) _ _ _
  unfold Parser.primary
  refine (Reads.advance _ _).bind ?_
  cases entries with
  | nil => exact (Reads.eat _ _).bind (.pure _ _)
  | cons entry more =>
    refine (Reads.eatNot ?_).bind ((entriesRead covers h (List.cons_ne_nil _ _) _).bind (.pure _ _))
    cases more <;> rfl

theorem indexRead {parent : Reference} {position : Expr} (hp : parent.Read style)
    (he : position.Read style) : (Reference.index parent position).Read style := by
  intro rest whole left more
  simp only [Reference.spelled, List.append_assoc, List.cons_append]
  refine hp _ whole left (.deeper ?_)
  unfold appliedFrom
  refine (Reads.peek _).bind ((Reads.advance _ _).bind ?_)
  refine (he.whole covers (quietEnd (.inr (.inl rfl)) rest)).bind ((Reads.expect _ _).bind ?_)
  exact (Reads.pure parent rest).bind more

end Places

theorem paramsRead {params : List String} (h : ∀ param ∈ params, isKeyword param = false)
    (some : params ≠ []) (rest : List Token) :
    Reads parameters
      (commas (params.map fun param => [.ident param]) ++ .mark .rParen :: rest) params rest := by
  induction params with
  | nil => exact absurd rfl some
  | cons param more ih =>
    refine .deeper ?_
    unfold parameters
    have named (tokens : List Token) := Reads.name (h param (.head _)) .parameterName tokens
    cases more with
    | nil => exact (named _).bind ((Reads.eat _ _).bind (.pure _ _))
    | cons next more =>
      have later := ih (fun param mem => h param (.tail _ mem)) (List.cons_ne_nil _ _)
      refine (named _).bind ((Reads.eatNot rfl).bind ((Reads.expectAs _ _ _).bind ?_))
      exact later.bind (.pure _ _)

theorem functionRead {params : List String} (h : ∀ param ∈ params, isKeyword param = false)
    {tokens rest : List Token} {body : Stmt} (hb : Reads Parser.statement tokens body rest) :
    Reads Parser.function (spelledParams params ++ tokens) (params, body) rest := by
  refine .deeper ?_
  unfold function spelledParams
  simp only [List.cons_append, List.append_assoc]
  refine (Reads.expect _ _).bind ?_
  cases params with
  | nil => exact (Reads.eat _ _).bind (hb.bind (.pure _ _))
  | cons param more =>
    have listed := paramsRead h (List.cons_ne_nil _ _) tokens
    refine (Reads.eatNot ?_).bind (listed.bind (hb.bind (.pure _ _)))
    cases more <;> rfl

theorem funcRead {style : Style} {params : List String} {body : Stmt}
    (h : ∀ param ∈ params, isKeyword param = false)
    (hb : ∀ rest, Reads Parser.statement
      (body.spelled style [.mark .semicolon] ++ .mark .rParen :: rest) body (.mark .rParen :: rest)) :
    (Expr.func params body).Read style := by
  intro rest _
  simp only [Expr.spelled, List.append_assoc, List.cons_append]
  have literal : Tier.primary.Takes (.ident "func" :: (spelledParams params ++
      (body.spelled style [.mark .semicolon] ++ .mark .rParen :: rest))) (.func params body)
      (.mark .rParen :: rest) := by
    rintro whole left ⟨rfl, rfl⟩
    refine .deeper ?_
    show Reads (fun n => Parser.primary (n + 1)) _ _ _
    unfold Parser.primary
    exact (Reads.advance _ _).bind ((functionRead h (hb rest)).bind (.pure _ _))
  exact (literal.whole (quietEnd (.inl rfl) rest)).inParens

end CircuitScript
