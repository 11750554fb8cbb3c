import CircuitScript.Proofs.Reading

/-! Statements and whole trees read back from their spelling. -/
namespace CircuitScript

open CircuitScript.Parser

/-- The statement reads back: bare in front of a semicolon or a parenthesis if it is an assignment or a
call, and closed in front of anything that its last conditional would not take for its own. -/
def Stmt.Read (style : Style) (stmt : Stmt) : Prop :=
  (stmt.Simple → ∀ m rest, m = .semicolon ∨ m = .rParen →
    Reads simpleStatement (stmt.spelled style [] ++ .mark m :: rest) stmt (.mark m :: rest)) ∧
  ∀ rest, (stmt.EndsOpen → ¬FacesWord "else" rest) →
    Reads statement (stmt.spelled style [.mark .semicolon] ++ rest) stmt rest

theorem closedRead {tokens rest : List Token} {stmt : Stmt}
    (h : Reads simpleStatement (tokens ++ .mark .semicolon :: rest) stmt (.mark .semicolon :: rest))
    (starts : (first (tokens ++ .mark .semicolon :: rest)).StartsSimple) :
    Reads statement (tokens ++ .mark .semicolon :: rest) stmt rest := by
  refine .deeper ?_
  unfold statement
  refine (Reads.peek _).bind ?_
  have closed : Reads (fun n => simpleStatement n >>= fun stmt => endStatement >>= fun _ => pure stmt)
      (tokens ++ .mark .semicolon :: rest) stmt rest := h.bind ((Reads.endStatement rest).bind (.pure _ _))
  split
  · rename_i seen; rw [seen] at starts; exact absurd starts id
  · rename_i seen; rw [seen] at starts; exact absurd starts id
  · rename_i seen; rw [seen] at starts; exact absurd rfl starts.1
  · rename_i seen; rw [seen] at starts; exact absurd rfl starts.2
  · rename_i word seen
    rw [seen] at starts
    have free : isKeyword word = false := starts
    simp only [free, Bool.false_eq_true, if_false]
    exact closed
  · exact closed

theorem simpleRead {style : Style} {stmt : Stmt}
    (bare : ∀ m rest, m = .semicolon ∨ m = .rParen →
      Reads simpleStatement (stmt.spelled style [] ++ .mark m :: rest) stmt (.mark m :: rest))
    (closing : stmt.spelled style [.mark .semicolon] = stmt.spelled style [] ++ [.mark .semicolon])
    (starts : (stmt.opening style).StartsSimple) : stmt.Read style := by
  refine ⟨fun _ => bare, fun rest _ => ?_⟩
  rw [closing, List.append_assoc]
  refine closedRead (bare .semicolon rest (.inl rfl)) ?_
  rw [stmt.firstSpelled]
  exact starts

theorem keywordRead {word : String} (h : isKeyword word = true) {tokens rest : List Token} {stmt : Stmt}
    (behind : Reads (fun n => keywordStatement n word) tokens stmt rest) :
    Reads statement (.ident word :: tokens) stmt rest := by
  refine .deeper ?_
  unfold statement
  refine (Reads.peek _).bind ?_
  simp only [firstCons, h, if_true]
  exact (Reads.advance _ _).bind behind

theorem Reads.enclosed {tokens rest : List Token} {e : Expr}
    (h : Reads Parser.expr tokens e (.mark .rParen :: rest)) :
    Reads Parser.enclosed (.mark .lParen :: tokens) e rest := by
  refine .deeper ?_
  unfold Parser.enclosed
  exact (Reads.expect _ _).bind (h.bind ((Reads.expect _ _).bind (.pure _ _)))

theorem quietSimple {m : Mark} (h : m = .semicolon ∨ m = .rParen) (rest : List Token) :
    Quiet 0 (.mark m :: rest) := by
  rcases h with rfl | rfl
  · exact quietEnd (.inr (.inr (.inr (.inr rfl)))) rest
  · exact quietEnd (.inl rfl) rest

section Statements

variable {style : Style} (covers : style.Covers)
include covers

theorem assignBare {target : Reference} {value : Expr} (ht : target.Read style) (hv : value.Read style)
    (m : Mark) (rest : List Token) (ends : m = .semicolon ∨ m = .rParen) :
    Reads simpleStatement ((Stmt.assign target value).spelled style [] ++ .mark m :: rest)
      (.assign target value) (.mark m :: rest) := by
  simp only [Stmt.spelled, List.append_assoc, List.cons_append, List.nil_append]
  refine .deeper ?_
  unfold simpleStatement
  refine ((ht _).reads rfl).bind ((Reads.peek _).bind ((Reads.advance _ _).bind ?_))
  exact (Reads.pure target _).bind ((hv.whole covers (quietSimple ends rest)).bind (.pure _ _))

theorem compoundBare {target : Reference} {op : BinaryOp} {value : Expr} (ho : op = .add ∨ op = .sub)
    (ht : target.Read style) (hv : value.Read style) (m : Mark) (rest : List Token)
    (ends : m = .semicolon ∨ m = .rParen) :
    Reads simpleStatement ((Stmt.compound target op value).spelled style [] ++ .mark m :: rest)
      (.compound target op value) (.mark m :: rest) := by
  simp only [Stmt.spelled, List.append_assoc, List.cons_append, List.nil_append]
  have valued := hv.whole covers (quietSimple ends rest)
  refine .deeper ?_
  unfold simpleStatement
  rcases ho with rfl | rfl
  · refine ((ht _).reads rfl).bind ((Reads.peek _).bind ((Reads.advance _ _).bind ?_))
    exact valued.bind ((Reads.pure target _).bind (.pure _ _))
  · refine ((ht _).reads rfl).bind ((Reads.peek _).bind ((Reads.advance _ _).bind ?_))
    exact valued.bind ((Reads.pure target _).bind (.pure _ _))

omit covers in
theorem callBare {callee : Expr} {args : List Expr} (h : (Expr.call callee args).Read style)
    (m : Mark) (rest : List Token) (ends : m = .semicolon ∨ m = .rParen) :
    Reads simpleStatement ((Stmt.expr (.call callee args)).spelled style [] ++ .mark m :: rest)
      (.expr (.call callee args)) (.mark m :: rest) := by
  simp only [Stmt.spelled, List.append_nil]
  refine .deeper ?_
  unfold simpleStatement
  have called :=
    h.takes (style.parens 0 (.call callee args)) .applied (fun _ => Nat.le_refl _) (quietTop (.mark m :: rest))
  refine (called.reads (quietSimple ends rest _ (Nat.zero_le _))).bind ?_
  refine (Reads.peek _).bind ?_
  rcases ends with rfl | rfl <;> exact .pure _ _

theorem ifRead {condition : Expr} {yes : Stmt} {no : Option Stmt} (hc : condition.Read style)
    (hy : yes.Read style) (apart : no.isSome → ¬yes.EndsOpen) (hn : ∀ stmt ∈ no, stmt.Read style) :
    (Stmt.ifThen condition yes no).Read style := by
  refine ⟨fun simple => absurd simple id, fun rest ends => ?_⟩
  simp only [Stmt.spelled, List.append_assoc, List.cons_append]
  refine keywordRead (by decide) (.deeper ?_)
  unfold keywordStatement
  refine (hc.whole covers (quietEnd (.inl rfl) _)).enclosed.bind ?_
  cases no with
  | none =>
    have alone : ¬FacesWord "else" rest := ends trivial
    exact (hy.2 rest fun _ => alone).bind ((Reads.eatWordNot alone).bind (.pure _ _))
  | some no =>
    refine (hy.2 _ fun openly => absurd openly (apart rfl)).bind ((Reads.eatWord _ _).bind ?_)
    exact ((hn no rfl).2 rest ends).bind (.pure _ _)

theorem whileRead {condition : Expr} {body : Stmt} (hc : condition.Read style) (hb : body.Read style) :
    (Stmt.whileDo condition body).Read style := by
  refine ⟨fun simple => absurd simple id, fun rest ends => ?_⟩
  simp only [Stmt.spelled, List.append_assoc, List.cons_append]
  refine keywordRead (by decide) (.deeper ?_)
  unfold keywordStatement
  refine (hc.whole covers (quietEnd (.inl rfl) _)).enclosed.bind ?_
  exact (hb.2 rest ends).bind (.pure _ _)

theorem repeatRead {body : Stmt} {condition : Expr} (hb : body.Read style) (hc : condition.Read style) :
    (Stmt.repeatUntil body condition).Read style := by
  refine ⟨fun simple => absurd simple id, fun rest _ => ?_⟩
  simp only [Stmt.spelled, List.append_assoc, List.cons_append, List.nil_append]
  refine keywordRead (by decide) (.deeper ?_)
  unfold keywordStatement
  refine (hb.2 _ fun _ => by simp [FacesWord]).bind ((Reads.eatWord _ _).bind ?_)
  refine (hc.whole covers (quietSimple (.inl rfl) rest)).bind ?_
  exact (Reads.endStatement rest).bind (.pure _ _)

theorem forRead {start step body : Stmt} {condition : Expr} (hf : start.Simple ∧ start.Read style)
    (hc : condition.Read style) (hs : step.Simple ∧ step.Read style) (hb : body.Read style) :
    (Stmt.forLoop start condition step body).Read style := by
  refine ⟨fun simple => absurd simple id, fun rest ends => ?_⟩
  simp only [Stmt.spelled, List.append_assoc, List.cons_append]
  refine keywordRead (by decide) (.deeper ?_)
  unfold keywordStatement
  refine (Reads.expect _ _).bind ((hf.2.1 hf.1 _ _ (.inl rfl)).bind ((Reads.expect _ _).bind ?_))
  refine (hc.whole covers (quietSimple (.inl rfl) _)).bind ((Reads.expect _ _).bind ?_)
  refine (hs.2.1 hs.1 _ _ (.inr rfl)).bind ((Reads.expect _ _).bind ?_)
  exact (hb.2 rest ends).bind (.pure _ _)

omit covers in
theorem declarationRead {name : String} {params : List String} {body : Stmt}
    (hn : isKeyword name = false) (hp : ∀ param ∈ params, isKeyword param = false)
    (hb : body.Read style) : (Stmt.func name params body).Read style := by
  refine ⟨fun simple => absurd simple id, fun rest ends => ?_⟩
  simp only [Stmt.spelled, List.append_assoc, List.cons_append]
  refine keywordRead (by decide) (.deeper ?_)
  unfold keywordStatement
  exact (Reads.name hn _ _).bind ((functionRead hp (hb.2 rest ends)).bind (.pure _ _))

theorem returnRead {value : Expr} (h : value.Read style) : (Stmt.ret value).Read style := by
  refine ⟨fun simple => absurd simple id, fun rest _ => ?_⟩
  simp only [Stmt.spelled, List.append_assoc, List.cons_append, List.nil_append]
  refine keywordRead (by decide) (.deeper ?_)
  unfold keywordStatement
  refine Reads.bind (.deeper ?_) ((Reads.endStatement rest).bind (.pure _ _))
  unfold returned
  refine (Reads.peek _).bind ?_
  -- an expression begins with neither of the two marks by which a missing value shows
  have opens := value.opensPlace style (style.parens 0 value) (.mark .semicolon :: rest)
  split
  · rename_i seen; rw [seen] at opens; simp [Token.OpensExpr] at opens
  · rename_i seen; rw [seen] at opens; simp [Token.OpensExpr] at opens
  · exact h.whole covers (quietSimple (.inl rfl) rest)

theorem printRead {args : List Expr} (h : ∀ e ∈ args, e.Read style) :
    (Stmt.print args).Read style := by
  refine ⟨fun simple => absurd simple id, fun rest _ => ?_⟩
  simp only [Stmt.spelled, List.append_assoc, List.cons_append, List.nil_append]
  refine keywordRead (by decide) (.deeper ?_)
  unfold keywordStatement
  exact (argumentsRead covers h _).bind ((Reads.endStatement rest).bind (.pure _ _))

theorem printfRead {args : List Expr} (some : args ≠ []) (h : ∀ e ∈ args, e.Read style) :
    (Stmt.printf args).Read style := by
  refine ⟨fun simple => absurd simple id, fun rest _ => ?_⟩
  simp only [Stmt.spelled, List.append_assoc, List.cons_append, List.nil_append]
  refine keywordRead (by decide) (.deeper ?_)
  unfold keywordStatement
  obtain ⟨e, more, rfl⟩ := List.exists_cons_of_ne_nil some
  exact (argumentsRead covers h _).bind ((Reads.endStatement rest).bind (.pure _ _))

theorem failRead {message : Expr} (h : message.Read style) : (Stmt.fail message).Read style := by
  refine ⟨fun simple => absurd simple id, fun rest _ => ?_⟩
  simp only [Stmt.spelled, List.append_assoc, List.cons_append, List.nil_append]
  refine keywordRead (by decide) (.deeper ?_)
  unfold keywordStatement
  have alone : ∀ e ∈ [message], e.Read style := by simpa using h
  exact (argumentsRead covers alone _).bind ((Reads.endStatement rest).bind (.pure _ _))

omit covers in
theorem textRead (s : String) : (Stmt.text s).Read style := by
  refine ⟨fun simple => absurd simple id, fun rest _ => .deeper ?_⟩
  unfold statement
  exact (Reads.peek _).bind ((Reads.advance _ _).bind (.pure _ _))

end Statements

theorem notFacing {word : String} {tokens : List Token} (noMark : first tokens ≠ .mark .semicolon)
    (noWord : first tokens ≠ .ident word) : ¬FacesWord word tokens := by
  unfold FacesWord
  split
  · exact absurd rfl noMark
  · rintro rfl
    exact absurd rfl noWord
  · exact id

/-- A token that begins a statement by itself and no `else`. -/
def Token.StartsStmt (token : Token) : Prop :=
  token ≠ .mark .semicolon ∧ token ≠ .ident "else" ∧ token ≠ .mark .rBrace ∧ token ≠ .eof

theorem notFacingRow {style : Style} {body : List Stmt} {tokens : List Token}
    (starts : ∀ stmt ∈ body, (stmt.opening style).StartsStmt)
    (closes : first tokens = .mark .rBrace ∨ first tokens = .eof) :
    ¬FacesWord "else" (Stmt.spelledAll style body ++ tokens) := by
  cases body with
  | nil => rcases closes with h | h <;> exact notFacing (by simp [Stmt.spelledAll, h]) (by simp [Stmt.spelledAll, h])
  | cons stmt more =>
    have here := starts stmt (.head _)
    rw [Stmt.spelledAll, List.append_assoc]
    refine notFacing ?_ ?_ <;> rw [stmt.firstSpelled]
    · exact here.1
    · exact here.2.1

theorem blockBodyRead {style : Style} {body : List Stmt} (h : ∀ stmt ∈ body, stmt.Read style)
    (starts : ∀ stmt ∈ body, (stmt.opening style).StartsStmt) (rest : List Token) :
    Reads blockBody (Stmt.spelledAll style body ++ .mark .rBrace :: rest) body rest := by
  induction body with
  | nil =>
    refine .deeper ?_
    unfold blockBody
    exact (Reads.eat _ _).bind (.pure _ _)
  | cons stmt more ih =>
    have here := starts stmt (.head _)
    have later := ih (fun stmt mem => h stmt (.tail _ mem)) fun stmt mem => starts stmt (.tail _ mem)
    have apart : ¬FacesWord "else" (Stmt.spelledAll style more ++ .mark .rBrace :: rest) :=
      notFacingRow (fun stmt mem => starts stmt (.tail _ mem)) (.inl rfl)
    have opening := stmt.firstSpelled style [.mark .semicolon]
      (Stmt.spelledAll style more ++ .mark .rBrace :: rest)
    rw [Stmt.spelledAll, List.append_assoc]
    refine .deeper ?_
    unfold blockBody
    refine (Reads.eatNot ?_).bind ((Reads.peek _).bind ?_)
    · rw [opening]
      cases seen : stmt.opening style with
      | mark m =>
        have other : m ≠ .rBrace := fun same => here.2.2.1 (by rw [seen, same])
        simpa [Token.isMark] using other
      | _ => rfl
    · rw [opening]
      split
      · exact absurd ‹_› here.2.2.2
      · exact ((h stmt (.head _)).2 _ fun _ => apart).bind (later.bind (.pure _ _))

theorem blockRead {style : Style} {body : List Stmt} (h : ∀ stmt ∈ body, stmt.Read style)
    (starts : ∀ stmt ∈ body, (stmt.opening style).StartsStmt) : (Stmt.block body).Read style := by
  refine ⟨fun simple => absurd simple id, fun rest _ => .deeper ?_⟩
  simp only [Stmt.spelled, List.append_assoc, List.cons_append, List.nil_append]
  unfold statement
  refine (Reads.peek _).bind (.deeper ?_)
  unfold block
  exact (Reads.expect _ _).bind ((blockBodyRead h starts rest).bind (.pure _ _))

theorem statementsRead {style : Style} {body : List Stmt} (h : ∀ stmt ∈ body, stmt.Read style)
    (starts : ∀ stmt ∈ body, (stmt.opening style).StartsStmt) :
    Reads statements (Stmt.spelledAll style body ++ [.eof]) body [.eof] := by
  induction body with
  | nil =>
    refine .deeper ?_
    unfold statements
    exact (Reads.peek _).bind (.pure _ _)
  | cons stmt more ih =>
    have later := ih (fun stmt mem => h stmt (.tail _ mem)) fun stmt mem => starts stmt (.tail _ mem)
    have apart : ¬FacesWord "else" (Stmt.spelledAll style more ++ [.eof]) :=
      notFacingRow (fun stmt mem => starts stmt (.tail _ mem)) (.inr rfl)
    rw [Stmt.spelledAll, List.append_assoc]
    refine .deeper ?_
    unfold statements
    refine (Reads.peek _).bind ?_
    rw [stmt.firstSpelled]
    split
    · exact absurd ‹_› (starts stmt (.head _)).2.2.2
    · exact ((h stmt (.head _)).2 _ fun _ => apart).bind (later.bind (.pure _ _))

theorem Reference.baseFree {style : Style} : ∀ r : Reference, r.Readable style → isKeyword r.base = false
  | .var _, h => h
  | .index parent _, h => baseFree parent h.1
  | .field parent _, h => baseFree parent h

theorem Token.StartsSimple.stmt {token : Token} (h : token.StartsSimple) (opens : token.OpensExpr) :
    token.StartsStmt := by
  refine ⟨?_, ?_, ?_, ?_⟩ <;> rintro rfl
  · exact h.2 rfl
  · exact absurd (show isKeyword "else" = false from h) (by decide)
  · simp [Token.OpensExpr] at opens
  · exact opens

theorem Stmt.starts {style : Style} {stmt : Stmt} (h : stmt.Readable style) :
    (stmt.opening style).StartsStmt := by
  cases stmt with
  | assign target value => exact Token.StartsSimple.stmt (target.baseFree h.1) trivial
  | compound target op value => exact Token.StartsSimple.stmt (target.baseFree h.2.1) trivial
  | expr e =>
    refine h.2.1.stmt (show Token.OpensExpr (if style.parens 0 e then _ else _) from ?_)
    split
    · exact .inl rfl
    · exact e.opensOpening style
  | _ => simp [opening, Token.StartsStmt]

theorem Stmt.startAll {style : Style} : ∀ body : List Stmt, Stmt.ReadableAll style body →
    ∀ stmt ∈ body, (stmt.opening style).StartsStmt
  | [], _ => by simp
  | _ :: more, h => List.forall_mem_cons.mpr ⟨Stmt.starts h.1, Stmt.startAll more h.2⟩

mutual

theorem Expr.reads {style : Style} (covers : style.Covers) :
    ∀ e : Expr, e.Readable style → e.Read style
  | .literal s, _ => literalRead style s
  | .ref r, h => fun rest _ => r.reads covers h rest
  | .unary _ e, h => unaryRead covers h.1 (e.reads covers h.2)
  | .binary _ left right, h => binaryRead covers (left.reads covers h.1) (right.reads covers h.2)
  | .call callee args, h => callRead covers (callee.reads covers h.1) (Expr.readsAll covers args h.2)
  | .list items, h => listRead covers (Expr.readsAll covers items h)
  | .map entries, h => mapRead covers (Expr.readsEntries covers entries h)
  | .func _ body, h => funcRead h.1 fun rest => (body.reads covers h.2).2 _ fun _ => by simp [FacesWord]

theorem Expr.readsAll {style : Style} (covers : style.Covers) :
    ∀ es : List Expr, Expr.ReadableAll style es → ∀ e ∈ es, e.Read style
  | [], _ => by simp
  | e :: more, h => List.forall_mem_cons.mpr ⟨e.reads covers h.1, Expr.readsAll covers more h.2⟩

theorem Expr.readsEntries {style : Style} (covers : style.Covers) :
    ∀ entries : List (String × Expr), Expr.ReadableEntries style entries →
      ∀ entry ∈ entries, entry.2.Read style
  | [], _ => by simp
  | (_, e) :: more, h =>
    List.forall_mem_cons.mpr ⟨e.reads covers h.1, Expr.readsEntries covers more h.2⟩

theorem Reference.reads {style : Style} (covers : style.Covers) :
    ∀ r : Reference, r.Readable style → r.Read style
  | .var _, h => varRead style h
  | .index parent position, h => indexRead covers (parent.reads covers h.1) (position.reads covers h.2)
  | .field parent key, h => fieldRead (parent.reads covers h) key

theorem Stmt.reads {style : Style} (covers : style.Covers) :
    ∀ stmt : Stmt, stmt.Readable style → stmt.Read style
  | .block body, h => blockRead (Stmt.readsAll covers body h) (Stmt.startAll body h)
  | .assign target value, h =>
    simpleRead (assignBare covers (target.reads covers h.1) (value.reads covers h.2))
      (by simp [Stmt.spelled]) (target.baseFree h.1)
  | .compound target _ value, h =>
    simpleRead (compoundBare covers h.1 (target.reads covers h.2.1) (value.reads covers h.2.2))
      (by simp [Stmt.spelled]) (target.baseFree h.2.1)
  | .ifThen condition yes no, h =>
    ifRead covers (condition.reads covers h.1) (yes.reads covers h.2.1) h.2.2.1
      (Stmt.readsElse covers no h.2.2.2)
  | .whileDo condition body, h => whileRead covers (condition.reads covers h.1) (body.reads covers h.2)
  | .repeatUntil body condition, h =>
    repeatRead covers (body.reads covers h.1) (condition.reads covers h.2)
  | .forLoop first condition step body, h =>
    forRead covers ⟨h.1.1, first.reads covers h.1.2⟩ (condition.reads covers h.2.1)
      ⟨h.2.2.1.1, step.reads covers h.2.2.1.2⟩ (body.reads covers h.2.2.2)
  | .func _ _ body, h => declarationRead h.1 h.2.1 (body.reads covers h.2.2)
  | .ret value, h => returnRead covers (value.reads covers h)
  | .print args, h => printRead covers (Expr.readsAll covers args h)
  | .printf args, h => printfRead covers h.1 (Expr.readsAll covers args h.2)
  | .fail message, h => failRead covers (message.reads covers h)
  | .text s, _ => textRead s
  | .expr (.call callee args), h =>
    simpleRead (callBare (Expr.reads covers (.call callee args) h.2.2)) (by simp [Stmt.spelled]) h.2.1

theorem Stmt.readsElse {style : Style} (covers : style.Covers) :
    ∀ no : Option Stmt, Stmt.ReadableElse style no → ∀ stmt ∈ no, stmt.Read style
  | none, _ => by simp
  | some no, h => by simpa using no.reads covers h

theorem Stmt.readsAll {style : Style} (covers : style.Covers) :
    ∀ body : List Stmt, Stmt.ReadableAll style body → ∀ stmt ∈ body, stmt.Read style
  | [], _ => by simp
  | stmt :: more, h => List.forall_mem_cons.mpr ⟨stmt.reads covers h.1, Stmt.readsAll covers more h.2⟩

end

/-- Parentheses only around what binds too loosely for its place. -/
def leastParens (single : Expr → Expr → Bool) : Style where
  parens need e := decide (e.tier.rank < need)
  single := single

theorem leastCovers (single : Expr → Expr → Bool) : (leastParens single).Covers :=
  fun _ _ _ loose => decide_eq_true loose

mutual

/-- There is no function literal, no minus directly in front of an integer literal, and no variable named
by a keyword. -/
def Expr.Plain : Expr → Prop
  | .literal _ => True
  | .ref r => r.Plain
  | .unary op e => ¬Expr.FoldsAway op e ∧ e.Plain
  | .binary _ left right => left.Plain ∧ right.Plain
  | .call callee args => callee.Plain ∧ Expr.PlainAll args
  | .list items => Expr.PlainAll items
  | .map entries => Expr.PlainEntries entries
  | .func _ _ => False

def Expr.PlainAll : List Expr → Prop
  | [] => True
  | e :: rest => e.Plain ∧ Expr.PlainAll rest

def Expr.PlainEntries : List (String × Expr) → Prop
  | [] => True
  | (_, e) :: rest => e.Plain ∧ Expr.PlainEntries rest

def Reference.Plain : Reference → Prop
  | .var name => isKeyword name = false
  | .index parent position => parent.Plain ∧ position.Plain
  | .field parent _ => parent.Plain

end

mutual

theorem Expr.Plain.readable (style : Style) : ∀ e : Expr, e.Plain → e.Readable style
  | .literal _, _ => trivial
  | .ref r, h => Reference.Plain.readable style r h
  | .unary _ e, h => ⟨h.1, Expr.Plain.readable style e h.2⟩
  | .binary _ left right, h => ⟨Expr.Plain.readable style left h.1, Expr.Plain.readable style right h.2⟩
  | .call callee args, h => ⟨Expr.Plain.readable style callee h.1, Expr.PlainAll.readable style args h.2⟩
  | .list items, h => Expr.PlainAll.readable style items h
  | .map entries, h => Expr.PlainEntries.readable style entries h

theorem Expr.PlainAll.readable (style : Style) :
    ∀ es : List Expr, Expr.PlainAll es → Expr.ReadableAll style es
  | [], _ => trivial
  | e :: rest, h => ⟨Expr.Plain.readable style e h.1, Expr.PlainAll.readable style rest h.2⟩

theorem Expr.PlainEntries.readable (style : Style) :
    ∀ entries : List (String × Expr), Expr.PlainEntries entries → Expr.ReadableEntries style entries
  | [], _ => trivial
  | (_, e) :: rest, h => ⟨Expr.Plain.readable style e h.1, Expr.PlainEntries.readable style rest h.2⟩

theorem Reference.Plain.readable (style : Style) : ∀ r : Reference, r.Plain → r.Readable style
  | .var _, h => h
  | .index parent position, h =>
    ⟨Reference.Plain.readable style parent h.1, Expr.Plain.readable style position h.2⟩
  | .field parent _, h => Reference.Plain.readable style parent h

end

/-- Neither a binary operator nor the start of a call, an index or a field. -/
def Token.EndsExpr : Token → Prop
  | .mark m => (∀ l : Level, l.operator? m = none) ∧ m ≠ .lParen ∧ m ≠ .lBracket ∧ m ≠ .dot
  | _ => True

theorem Token.EndsExpr.quiet {tokens : List Token} (h : (first tokens).EndsExpr) : Quiet 0 tokens := by
  rintro tier -
  cases seen : first tokens with
  | mark m =>
    rw [seen] at h
    cases tier with
    | level l => simp [Tier.grips, h.1 l]
    | applied =>
      unfold Tier.grips
      split <;> simp_all [Token.EndsExpr]
    | unary => rfl
    | primary => rfl
  | _ => cases tier <;> rfl

theorem Reads.withEnough {p : Nat → Parser α} {tokens left : List Token} {a : α}
    (h : Reads p tokens a left) {more least : Nat} (proceeds : Proceeds more least p) {row rest : List Lexeme}
    (spells : (row ++ rest).map Lexeme.token = tokens) (stops : rest.map Lexeme.token = left)
    (previous : Option Lexeme) {n : Nat} (enough : 32 * (row ++ rest).length + more ≤ n) :
    ∃ last, p n ⟨previous, row ++ rest⟩ = .ok a ⟨last, rest⟩ := by
  obtain ⟨last, behind, suffix, same, least, ran⟩ := h previous _ spells
  have lengths : behind.length = rest.length := by
    simpa using congrArg List.length (same.trans stops.symm)
  have here : behind = rest := (List.suffix_of_suffix_length_le suffix (List.suffix_append row rest)
    (Nat.le_of_eq lengths)).eq_of_length lengths
  subst here
  exact ⟨last, proceeds.okWithEnough (ran least (Nat.le_refl _)) enough⟩

theorem leastParensReadBack {e : Expr} (plain : e.Plain) (single : Expr → Expr → Bool) {row rest : List Lexeme}
    (spells : row.map Lexeme.token = e.spelled (leastParens single))
    (ends : (first (rest.map Lexeme.token)).EndsExpr) (previous : Option Lexeme) {n : Nat}
    (enough : budget (row ++ rest).length ≤ n) :
    ∃ last, Parser.expr n ⟨previous, row ++ rest⟩ = .ok e ⟨last, rest⟩ := by
  have covers := leastCovers single
  have read := (e.reads covers (Expr.Plain.readable _ e plain)).whole covers ends.quiet
  refine read.withEnough exprProceeds ?_ rfl previous ?_
  · simp [spells, enclose, leastParens]
  · unfold budget at enough
    omega

theorem signedProductReadBack : ∃ last, Parser.expr (budget 22) ⟨none,
      [.mark .minus, .mark .lParen, .ident "a", .mark .minus, .mark .lParen, .ident "b", .mark .minus,
        .int 1, .mark .rParen, .mark .rParen, .mark .star, .ident "f", .mark .dot, .ident "if",
        .mark .lParen, .ident "true", .mark .rParen, .mark .assign, .ident "c", .mark .eqEq,
        .ident "d"].map (Lexeme.mk 1) ++ [⟨1, .mark .semicolon⟩]⟩ =
    .ok (.binary .eq (.binary .eq (.binary .mul (.unary .neg (.binary .sub (.ref (.var "a"))
        (.binary .sub (.ref (.var "b")) (.literal (.int 1)))))
      (.call (.ref (.field (.var "f") "if")) [.literal (.bool true)])) (.ref (.var "c"))) (.ref (.var "d")))
      ⟨last, [⟨1, .mark .semicolon⟩]⟩ := by
  -- the equality with another one on its left is the one spelled with two signs
  refine leastParensReadBack ?_ (fun left _ => left.tier.rank != 3) rfl ?_ none (Nat.le_refl _)
  · exact ⟨⟨⟨⟨id, rfl, rfl, trivial⟩, rfl, trivial, trivial⟩, rfl⟩, rfl⟩
  · exact ⟨fun l => by cases l <;> rfl, by decide, by decide, by decide⟩

theorem keywordNoVariable :
    (Expr.ref (.var "if")).spelled (leastParens fun _ _ => false) = [.ident "if"] ∧
    Parser.expr (budget 2) ⟨none, [⟨1, .ident "if"⟩, ⟨1, .mark .semicolon⟩]⟩ =
      .refused ⟨1, .unexpectedKeyword "if"⟩ := ⟨rfl, rfl⟩

end CircuitScript
