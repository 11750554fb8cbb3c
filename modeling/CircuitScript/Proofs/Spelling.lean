import CircuitScript.Grammar

/-! The tokens that spell a tree, for any choice of parentheses that covers the operands which bind too
loosely for their place. -/
namespace CircuitScript

/-- How tightly the operators of a level bind. -/
def Level.rank : Level → Nat
  | disjunction => 0
  | exclusion => 1
  | conjunction => 2
  | equality => 3
  | order => 4
  | shift => 5
  | sum => 6
  | product => 7

theorem Level.rankTighter {level next : Level} (h : level.tighter? = some next) :
    next.rank = level.rank + 1 := by
  cases level <;> cases h <;> rfl

theorem Level.rankTightest {level : Level} (h : level.tighter? = none) : level.rank = 7 := by
  cases level <;> first | rfl | cases h

theorem Level.rankLe (level : Level) : level.rank ≤ 7 := by
  cases level <;> decide

def BinaryOp.level : BinaryOp → Level
  | .or | .bitOr => .disjunction
  | .bitXor => .exclusion
  | .and | .bitAnd => .conjunction
  | .eq | .ne => .equality
  | .lt | .le | .gt | .ge => .order
  | .shl | .shr | .ushr => .shift
  | .add | .sub => .sum
  | .mul | .div | .rem => .product

/-- The mark of an operator. An equality has two of them. -/
def BinaryOp.mark (single : Bool) : BinaryOp → Mark
  | .add => .plus
  | .sub => .minus
  | .mul => .star
  | .div => .slash
  | .rem => .percent
  | .eq => if single then .assign else .eqEq
  | .ne => .ne
  | .lt => .lt
  | .le => .le
  | .gt => .gt
  | .ge => .ge
  | .and => .andAnd
  | .or => .orOr
  | .bitAnd => .amp
  | .bitOr => .pipe
  | .bitXor => .caret
  | .shl => .shl
  | .shr => .shr
  | .ushr => .ushr

def UnaryOp.mark : UnaryOp → Mark
  | .neg => .minus
  | .not => .bang
  | .bitNot => .tilde

/-- The kinds of expression from the loosest to the tightest: binary operations by level, unary ones,
names with their calls, indices and fields, and what stands by itself. -/
inductive Tier where
  | level (l : Level)
  | unary
  | applied
  | primary

namespace Tier

def rank : Tier → Nat
  | level l => l.rank
  | unary => 8
  | applied => 9
  | primary => 10

def tighter : Tier → Tier
  | level l =>
    match l.tighter? with
    | some next => level next
    | none => unary
  | unary => applied
  | applied => primary
  | primary => primary

end Tier

def Expr.tier : Expr → Tier
  | .literal _ => .primary
  | .ref _ => .applied
  | .unary _ _ => .unary
  | .binary op _ _ => .level op.level
  | .call _ _ => .applied
  | .list _ => .primary
  | .map _ => .primary
  | .func _ _ => .primary

def Scalar.token : Scalar → Token
  | .int n => .int n
  | .float x => .float x
  | .bool b => .ident (if b then "true" else "false")
  | .str s => .str s

/-- What the grammar leaves open: whether an expression goes into parentheses where the place wants at least
this rank, and whether the equality of two operands is spelled with a single sign. -/
structure Style where
  parens : Nat → Expr → Bool
  single : Expr → Expr → Bool

def enclose (wrapped : Bool) (tokens : List Token) : List Token :=
  if wrapped then .mark .lParen :: tokens ++ [.mark .rParen] else tokens

def commas : List (List Token) → List Token
  | [] => []
  | [tokens] => tokens
  | tokens :: more => tokens ++ .mark .comma :: commas more

theorem commasCons (tokens next : List Token) (more : List (List Token)) :
    commas (tokens :: next :: more) = tokens ++ .mark .comma :: commas (next :: more) := rfl

def spelledParams (params : List String) : List Token :=
  .mark .lParen :: commas (params.map fun param => [.ident param]) ++ [.mark .rParen]

mutual

/-- The tokens of an expression without parentheses of its own; only a function literal has some. -/
def Expr.spelled (style : Style) : Expr → List Token
  | .literal s => [s.token]
  | .ref r => r.spelled style
  | .unary op e => .mark op.mark :: enclose (style.parens 8 e) (e.spelled style)
  | .binary op left right =>
    enclose (style.parens op.level.rank left) (left.spelled style) ++
      .mark (op.mark (style.single left right)) ::
        enclose (style.parens (op.level.rank + 1) right) (right.spelled style)
  | .call callee args =>
    enclose (style.parens 9 callee) (callee.spelled style) ++
      .mark .lParen :: commas (Expr.spelledAll style args) ++ [.mark .rParen]
  | .list items => .mark .lBracket :: commas (Expr.spelledAll style items) ++ [.mark .rBracket]
  | .map entries => .mark .lBrace :: commas (Expr.spelledEntries style entries) ++ [.mark .rBrace]
  | .func params body =>
    .mark .lParen :: .ident "func" :: spelledParams params ++
      body.spelled style [.mark .semicolon] ++ [.mark .rParen]

def Expr.spelledAll (style : Style) : List Expr → List (List Token)
  | [] => []
  | e :: rest => enclose (style.parens 0 e) (e.spelled style) :: Expr.spelledAll style rest

def Expr.spelledEntries (style : Style) : List (String × Expr) → List (List Token)
  | [] => []
  | (key, e) :: rest =>
    (.str key :: .mark .colon :: enclose (style.parens 0 e) (e.spelled style)) :: Expr.spelledEntries style rest

def Reference.spelled (style : Style) : Reference → List Token
  | .var name => [.ident name]
  | .index parent position =>
    parent.spelled style ++
      .mark .lBracket :: enclose (style.parens 0 position) (position.spelled style) ++ [.mark .rBracket]
  | .field parent key => parent.spelled style ++ [.mark .dot, .ident key]

/-- The tokens of a statement; those of an assignment or a call are closed by `stop`. -/
def Stmt.spelled (style : Style) (stop : List Token) : Stmt → List Token
  | .block body => .mark .lBrace :: Stmt.spelledAll style body ++ [.mark .rBrace]
  | .assign target value =>
    target.spelled style ++ .mark .assign :: enclose (style.parens 0 value) (value.spelled style) ++ stop
  | .compound target op value =>
    target.spelled style ++ .mark (if op = .add then .plusAssign else .minusAssign) ::
      enclose (style.parens 0 value) (value.spelled style) ++ stop
  | .ifThen condition yes no =>
    .ident "if" :: .mark .lParen :: enclose (style.parens 0 condition) (condition.spelled style) ++
      .mark .rParen :: yes.spelled style [.mark .semicolon] ++ Stmt.spelledElse style no
  | .whileDo condition body =>
    .ident "while" :: .mark .lParen :: enclose (style.parens 0 condition) (condition.spelled style) ++
      .mark .rParen :: body.spelled style [.mark .semicolon]
  | .repeatUntil body condition =>
    .ident "repeat" :: body.spelled style [.mark .semicolon] ++
      .ident "until" :: enclose (style.parens 0 condition) (condition.spelled style) ++ [.mark .semicolon]
  | .forLoop first condition step body =>
    .ident "for" :: .mark .lParen :: first.spelled style [] ++
      .mark .semicolon :: enclose (style.parens 0 condition) (condition.spelled style) ++
      .mark .semicolon :: step.spelled style [] ++
      .mark .rParen :: body.spelled style [.mark .semicolon]
  | .func name params body =>
    .ident "func" :: .ident name :: spelledParams params ++ body.spelled style [.mark .semicolon]
  | .ret value =>
    .ident "return" :: enclose (style.parens 0 value) (value.spelled style) ++ [.mark .semicolon]
  | .print args =>
    .ident "print" :: .mark .lParen :: commas (Expr.spelledAll style args) ++
      [.mark .rParen, .mark .semicolon]
  | .printf args =>
    .ident "printf" :: .mark .lParen :: commas (Expr.spelledAll style args) ++
      [.mark .rParen, .mark .semicolon]
  | .fail message =>
    .ident "panic" :: .mark .lParen :: enclose (style.parens 0 message) (message.spelled style) ++
      [.mark .rParen, .mark .semicolon]
  | .text s => [.text s]
  | .expr e => enclose (style.parens 0 e) (e.spelled style) ++ stop

def Stmt.spelledElse (style : Style) : Option Stmt → List Token
  | none => []
  | some no => .ident "else" :: no.spelled style [.mark .semicolon]

def Stmt.spelledAll (style : Style) : List Stmt → List Token
  | [] => []
  | stmt :: rest => stmt.spelled style [.mark .semicolon] ++ Stmt.spelledAll style rest

end

def first (tokens : List Token) : Token := tokens.headD .eof

theorem firstCons (token : Token) (tokens : List Token) : first (token :: tokens) = token := rfl

def Reference.base : Reference → String
  | .var name => name
  | .index parent _ => parent.base
  | .field parent _ => parent.base

def Expr.opening (style : Style) : Expr → Token
  | .literal s => s.token
  | .ref r => .ident r.base
  | .unary op _ => .mark op.mark
  | .binary op left _ => if style.parens op.level.rank left then .mark .lParen else left.opening style
  | .call callee _ => if style.parens 9 callee then .mark .lParen else callee.opening style
  | .list _ => .mark .lBracket
  | .map _ => .mark .lBrace
  | .func _ _ => .mark .lParen

def Stmt.opening (style : Style) : Stmt → Token
  | .block _ => .mark .lBrace
  | .assign target _ => .ident target.base
  | .compound target _ _ => .ident target.base
  | .ifThen _ _ _ => .ident "if"
  | .whileDo _ _ => .ident "while"
  | .repeatUntil _ _ => .ident "repeat"
  | .forLoop _ _ _ _ => .ident "for"
  | .func _ _ _ => .ident "func"
  | .ret _ => .ident "return"
  | .print _ => .ident "print"
  | .printf _ => .ident "printf"
  | .fail _ => .ident "panic"
  | .text s => .text s
  | .expr e => if style.parens 0 e then .mark .lParen else e.opening style

theorem firstEnclose {tokens rest : List Token} {token : Token} (wrapped : Bool)
    (h : ∀ rest, first (tokens ++ rest) = token) :
    first (enclose wrapped tokens ++ rest) = if wrapped then .mark .lParen else token := by
  cases wrapped
  · exact h rest
  · rfl

theorem Reference.firstSpelled (style : Style) : ∀ (r : Reference) (rest : List Token),
    first (r.spelled style ++ rest) = .ident r.base
  | .var name, rest => rfl
  | .index parent position, rest => by
    rw [spelled, List.append_assoc, List.append_assoc]
    exact firstSpelled style parent _
  | .field parent key, rest => by
    rw [spelled, List.append_assoc]
    exact firstSpelled style parent _

theorem Expr.firstSpelled (style : Style) : ∀ (e : Expr) (rest : List Token),
    first (e.spelled style ++ rest) = e.opening style
  | .literal s, rest => rfl
  | .ref r, rest => r.firstSpelled style rest
  | .unary op e, rest => rfl
  | .binary op left right, rest => by
    rw [spelled, List.append_assoc]
    exact firstEnclose _ (firstSpelled style left)
  | .call callee args, rest => by
    rw [spelled, List.append_assoc, List.append_assoc]
    exact firstEnclose _ (firstSpelled style callee)
  | .list items, rest => rfl
  | .map entries, rest => rfl
  | .func params body, rest => rfl

theorem Stmt.firstSpelled (style : Style) (stop : List Token) (stmt : Stmt) (rest : List Token) :
    first (stmt.spelled style stop ++ rest) = stmt.opening style := by
  cases stmt with
  | assign target value =>
    rw [spelled, List.append_assoc, List.append_assoc]
    exact target.firstSpelled style _
  | compound target op value =>
    rw [spelled, List.append_assoc, List.append_assoc]
    exact target.firstSpelled style _
  | expr e =>
    rw [spelled, List.append_assoc]
    exact firstEnclose _ (e.firstSpelled style)
  | _ => rfl

/-- A token that an expression can begin with. -/
def Token.OpensExpr : Token → Prop
  | .int _ => True
  | .float _ => True
  | .str _ => True
  | .ident _ => True
  | .mark m => m = .lParen ∨ m = .lBracket ∨ m = .lBrace ∨ m = .minus ∨ m = .bang ∨ m = .tilde
  | _ => False

theorem Expr.opensOpening (style : Style) : ∀ e : Expr, (e.opening style).OpensExpr
  | .literal s => by cases s <;> exact trivial
  | .ref _ => trivial
  | .unary op _ => by cases op <;> simp [opening, Token.OpensExpr, UnaryOp.mark]
  | .binary op left _ => by
    rw [opening]
    split
    · exact .inl rfl
    · exact opensOpening style left
  | .call callee _ => by
    rw [opening]
    split
    · exact .inl rfl
    · exact opensOpening style callee
  | .list _ => .inr (.inl rfl)
  | .map _ => .inr (.inr (.inl rfl))
  | .func _ _ => .inl rfl

theorem Expr.opensPlace (style : Style) (wrapped : Bool) (e : Expr) (rest : List Token) :
    (first (enclose wrapped (e.spelled style) ++ rest)).OpensExpr := by
  rw [firstEnclose wrapped (e.firstSpelled style)]
  split
  · exact .inl rfl
  · exact e.opensOpening style

/-- The expression is a call. -/
def Expr.IsCall : Expr → Prop
  | .call _ _ => True
  | _ => False

/-- The tree of a minus in front of an integer literal, which reads as one literal. -/
def Expr.FoldsAway : UnaryOp → Expr → Prop
  | .neg, .literal (.int _) => True
  | _, _ => False

/-- An assignment or a call, the statements that a loop header holds. -/
def Stmt.Simple : Stmt → Prop
  | .assign _ _ => True
  | .compound _ _ _ => True
  | .expr _ => True
  | _ => False

/-- The statement ends in a conditional that a following `else` would belong to. -/
def Stmt.EndsOpen : Stmt → Prop
  | .ifThen _ _ none => True
  | .ifThen _ _ (some no) => no.EndsOpen
  | .whileDo _ body => body.EndsOpen
  | .forLoop _ _ _ body => body.EndsOpen
  | .func _ _ body => body.EndsOpen
  | _ => False

/-- A token by which a statement is told to be an assignment or a call. -/
def Token.StartsSimple : Token → Prop
  | .text _ => False
  | .echoOpen => False
  | .mark m => m ≠ .lBrace ∧ m ≠ .semicolon
  | .ident word => isKeyword word = false
  | _ => True

mutual

def Expr.Readable (style : Style) : Expr → Prop
  | .literal _ => True
  | .ref r => r.Readable style
  | .unary op e => ¬Expr.FoldsAway op e ∧ e.Readable style
  | .binary _ left right => left.Readable style ∧ right.Readable style
  | .call callee args => callee.Readable style ∧ Expr.ReadableAll style args
  | .list items => Expr.ReadableAll style items
  | .map entries => Expr.ReadableEntries style entries
  | .func params body => (∀ param ∈ params, isKeyword param = false) ∧ body.Readable style

def Expr.ReadableAll (style : Style) : List Expr → Prop
  | [] => True
  | e :: rest => e.Readable style ∧ Expr.ReadableAll style rest

def Expr.ReadableEntries (style : Style) : List (String × Expr) → Prop
  | [] => True
  | (_, e) :: rest => e.Readable style ∧ Expr.ReadableEntries style rest

def Reference.Readable (style : Style) : Reference → Prop
  | .var name => isKeyword name = false
  | .index parent position => parent.Readable style ∧ position.Readable style
  | .field parent _ => parent.Readable style

def Stmt.Readable (style : Style) : Stmt → Prop
  | .block body => Stmt.ReadableAll style body
  | .assign target value => target.Readable style ∧ value.Readable style
  | .compound target op value =>
    (op = .add ∨ op = .sub) ∧ target.Readable style ∧ value.Readable style
  | .ifThen condition yes no =>
    condition.Readable style ∧ yes.Readable style ∧ (no.isSome → ¬yes.EndsOpen) ∧
      Stmt.ReadableElse style no
  | .whileDo condition body => condition.Readable style ∧ body.Readable style
  | .repeatUntil body condition => body.Readable style ∧ condition.Readable style
  | .forLoop first condition step body =>
    (first.Simple ∧ first.Readable style) ∧ condition.Readable style ∧
      (step.Simple ∧ step.Readable style) ∧ body.Readable style
  | .func name params body =>
    isKeyword name = false ∧ (∀ param ∈ params, isKeyword param = false) ∧ body.Readable style
  | .ret value => value.Readable style
  | .print args => Expr.ReadableAll style args
  | .printf args => args ≠ [] ∧ Expr.ReadableAll style args
  | .fail message => message.Readable style
  | .text _ => True
  | .expr e => e.IsCall ∧ ((Stmt.expr e).opening style).StartsSimple ∧ e.Readable style

def Stmt.ReadableElse (style : Style) : Option Stmt → Prop
  | none => True
  | some no => no.Readable style

def Stmt.ReadableAll (style : Style) : List Stmt → Prop
  | [] => True
  | stmt :: rest => stmt.Readable style ∧ Stmt.ReadableAll style rest

end

end CircuitScript
