import CircuitScript.Grammar.Cursor
import CircuitScript.Token.Scan
import CircuitScript.Tree

/-! The grammar of scripts by recursive descent. Each parser takes a budget that every call lowers by
one; a multiple of the number of tokens is enough for all of them. -/
namespace CircuitScript

def keywords : List String :=
  ["if", "else", "while", "repeat", "until", "for", "func", "return", "print", "printf", "panic",
   "true", "false"]

def isKeyword (word : String) : Bool := keywords.contains word

/-- The levels of binary operators, loosest first. Operators of one level associate to the left. -/
inductive Level where
  | disjunction
  | exclusion
  | conjunction
  | equality
  | order
  | shift
  | sum
  | product
  deriving DecidableEq, Repr

namespace Level

def tighter? : Level → Option Level
  | disjunction => some exclusion
  | exclusion => some conjunction
  | conjunction => some equality
  | equality => some order
  | order => some shift
  | shift => some sum
  | sum => some product
  | product => none

def operator? : Level → Mark → Option BinaryOp
  | disjunction, .orOr => some .or
  | disjunction, .pipe => some .bitOr
  | exclusion, .caret => some .bitXor
  | conjunction, .andAnd => some .and
  | conjunction, .amp => some .bitAnd
  | equality, .assign => some .eq
  | equality, .eqEq => some .eq
  | equality, .ne => some .ne
  | order, .le => some .le
  | order, .lt => some .lt
  | order, .ge => some .ge
  | order, .gt => some .gt
  | shift, .shl => some .shl
  | shift, .shr => some .shr
  | shift, .ushr => some .ushr
  | sum, .plus => some .add
  | sum, .minus => some .sub
  | product, .star => some .mul
  | product, .slash => some .div
  | product, .percent => some .rem
  | _, _ => none

end Level

def unaryOperator? : Mark → Option UnaryOp
  | .minus => some .neg
  | .bang => some .not
  | .tilde => some .bitNot
  | _ => none

/-- A minus in front of an integer literal is part of the literal. -/
def applyUnary : UnaryOp → Expr → Expr
  | .neg, .literal (.int n) => .literal (.int (-n))
  | op, operand => .unary op operand

namespace Parser

def name (wanted : Wanted) : Parser String := do
  match ← peek with
  | .ident word =>
    if isKeyword word then unexpected wanted
    else
      let _ ← advance
      pure word
  | _ => unexpected wanted

/-- The end of a statement: a semicolon, which may be left out behind one or behind a closing brace,
and before the end of a section or block. -/
def endStatement : Parser Unit := do
  if ← eat .semicolon then pure ()
  else if ← fun cursor => .ok cursor.afterTerminator cursor then pure ()
  else
    match ← peek with
    | .eof => pure ()
    | .text _ => pure ()
    | .echoOpen => pure ()
    | .mark .rBrace => pure ()
    | _ => unexpected (.mark .semicolon)

def mapKey : Parser String := do
  match ← advance with
  | .ident key => pure key
  | .str key => pure key
  | found => refuse (.expected .mapKey found)

def fieldName : Parser String := do
  match ← advance with
  | .ident key => pure key
  | found => refuse (.expected .fieldName found)

def reference (cause : ParseError.Cause) : Expr → Parser Reference
  | .ref r => pure r
  | _ => refuse cause

def outputStatement (word : String) (args : List Expr) : Parser Stmt :=
  match word, args with
  | "print", args => pure (.print args)
  | "printf", first :: rest => pure (.printf (first :: rest))
  | "panic", [message] => pure (.fail message)
  | _, _ => refuse (.argumentCount word)

def parameters : Nat → Parser (List String)
  | 0 => spent
  | n + 1 => do
    let first ← name .parameterName
    if ← eat .rParen then pure [first]
    else
      expectAs .comma (.commaOr .rParen)
      let rest ← parameters n
      pure (first :: rest)

mutual

def statement : Nat → Parser Stmt
  | 0 => spent
  | n + 1 => do
    match ← peek with
    | .text s =>
      let _ ← advance
      pure (.text s)
    | .echoOpen =>
      let _ ← advance
      let e ← expr n
      match ← peek with
      | .echoClose =>
        let _ ← advance
        pure (.print [e])
      | _ => unexpected .echoEnd
    | .mark .lBrace => block n
    | .mark .semicolon =>
      let _ ← advance
      pure (.block [])
    | .ident word =>
      if isKeyword word then
        let _ ← advance
        keywordStatement n word
      else
        let stmt ← simpleStatement n
        endStatement
        pure stmt
    | _ =>
      let stmt ← simpleStatement n
      endStatement
      pure stmt

def keywordStatement : Nat → String → Parser Stmt
  | 0, _ => spent
  | n + 1, word => do
    match word with
    | "if" =>
      let condition ← enclosed n
      let yes ← statement n
      if ← eatWord "else" then
        let no ← statement n
        pure (.ifThen condition yes (some no))
      else pure (.ifThen condition yes none)
    | "while" =>
      let condition ← enclosed n
      let body ← statement n
      pure (.whileDo condition body)
    | "repeat" =>
      let body ← statement n
      if ← eatWord "until" then
        let condition ← expr n
        endStatement
        pure (.repeatUntil body condition)
      else unexpected .untilWord
    | "for" =>
      expect .lParen
      let first ← simpleStatement n
      expect .semicolon
      let condition ← expr n
      expect .semicolon
      let step ← simpleStatement n
      expect .rParen
      let body ← statement n
      pure (.forLoop first condition step body)
    | "func" =>
      let name ← name .functionName
      let (params, body) ← function n
      pure (.func name params body)
    | "return" =>
      let value ← returned n
      endStatement
      pure (.ret value)
    | "print" =>
      let args ← arguments n
      endStatement
      outputStatement word args
    | "printf" =>
      let args ← arguments n
      endStatement
      outputStatement word args
    | "panic" =>
      let args ← arguments n
      endStatement
      outputStatement word args
    | word => refuse (.unexpectedKeyword word)

def returned : Nat → Parser Expr
  | 0 => spent
  | n + 1 => do
    match ← peek with
    | .mark .semicolon => pure (.literal (.str ""))
    | .mark .rBrace => pure (.literal (.str ""))
    | _ => expr n

def block : Nat → Parser Stmt
  | 0 => spent
  | n + 1 => do
    expect .lBrace
    let body ← blockBody n
    pure (.block body)

def blockBody : Nat → Parser (List Stmt)
  | 0 => spent
  | n + 1 => do
    if ← eat .rBrace then pure []
    else
      match ← peek with
      | .eof => unexpected (.mark .rBrace)
      | _ =>
        let first ← statement n
        let rest ← blockBody n
        pure (first :: rest)

def simpleStatement : Nat → Parser Stmt
  | 0 => spent
  | n + 1 => do
    let target ← applied n
    match ← peek with
    | .mark .declare =>
      let _ ← advance
      match target with
      | .ref (.var name) =>
        let value ← expr n
        pure (.assign (.var name) value)
      | _ => refuse .declaresNoVariable
    | .mark .assign =>
      let _ ← advance
      let place ← reference .assignsNoReference target
      let value ← expr n
      pure (.assign place value)
    | .mark .plusAssign =>
      let _ ← advance
      let value ← expr n
      let place ← reference .assignsNoReference target
      pure (.compound place .add value)
    | .mark .minusAssign =>
      let _ ← advance
      let value ← expr n
      let place ← reference .assignsNoReference target
      pure (.compound place .sub value)
    | .mark .plusPlus =>
      let _ ← advance
      let place ← reference .assignsNoReference target
      pure (.compound place .add (.literal (.int 1)))
    | .mark .minusMinus =>
      let _ ← advance
      let place ← reference .assignsNoReference target
      pure (.compound place .sub (.literal (.int 1)))
    | _ =>
      match target with
      | .call callee args => pure (.expr (.call callee args))
      | _ => unexpected .assignmentOrCall

def enclosed : Nat → Parser Expr
  | 0 => spent
  | n + 1 => do
    expect .lParen
    let e ← expr n
    expect .rParen
    pure e

def arguments : Nat → Parser (List Expr)
  | 0 => spent
  | n + 1 => do
    expect .lParen
    if ← eat .rParen then pure [] else items n .rParen

def items : Nat → Mark → Parser (List Expr)
  | 0, _ => spent
  | n + 1, closing => do
    let first ← expr n
    if ← eat closing then pure [first]
    else
      expectAs .comma (.commaOr closing)
      let rest ← items n closing
      pure (first :: rest)

def entries : Nat → Parser (List (String × Expr))
  | 0 => spent
  | n + 1 => do
    let key ← mapKey
    expect .colon
    let value ← expr n
    if ← eat .rBrace then pure [(key, value)]
    else
      expectAs .comma (.commaOr .rBrace)
      let rest ← entries n
      pure ((key, value) :: rest)

def function : Nat → Parser (List String × Stmt)
  | 0 => spent
  | n + 1 => do
    expect .lParen
    let params ← if ← eat .rParen then pure [] else parameters n
    let body ← statement n
    pure (params, body)

def expr : Nat → Parser Expr
  | 0 => spent
  | n + 1 => operation n .disjunction

def operation : Nat → Level → Parser Expr
  | 0, _ => spent
  | n + 1, level => do
    let first ← operand n level
    operationFrom n level first

def operand : Nat → Level → Parser Expr
  | 0, _ => spent
  | n + 1, level =>
    match level.tighter? with
    | some tighter => operation n tighter
    | none => unary n

def operationFrom : Nat → Level → Expr → Parser Expr
  | 0, _, _ => spent
  | n + 1, level, left => do
    match ← peek with
    | .mark mark =>
      match level.operator? mark with
      | some op =>
        let _ ← advance
        let right ← operand n level
        operationFrom n level (.binary op left right)
      | none => pure left
    | _ => pure left

def unary : Nat → Parser Expr
  | 0 => spent
  | n + 1 => do
    match ← peek with
    | .mark mark =>
      match unaryOperator? mark with
      | some op =>
        let _ ← advance
        let operand ← unary n
        pure (applyUnary op operand)
      | none => applied n
    | _ => applied n

def applied : Nat → Parser Expr
  | 0 => spent
  | n + 1 => do
    let first ← primary n
    appliedFrom n first

def appliedFrom : Nat → Expr → Parser Expr
  | 0, _ => spent
  | n + 1, e => do
    match ← peek with
    | .mark .lParen =>
      let args ← arguments n
      appliedFrom n (.call e args)
    | .mark .lBracket =>
      let _ ← advance
      let position ← expr n
      expect .rBracket
      let parent ← reference .indexesNoReference e
      appliedFrom n (.ref (.index parent position))
    | .mark .dot =>
      let _ ← advance
      let key ← fieldName
      let parent ← reference .selectsNoReference e
      appliedFrom n (.ref (.field parent key))
    | _ => pure e

def primary : Nat → Parser Expr
  | 0 => spent
  | n + 1 => do
    match ← advance with
    | .int k => pure (.literal (.int k))
    | .float x => pure (.literal (.float x))
    | .str s => pure (.literal (.str s))
    | .ident "true" => pure (.literal (.bool true))
    | .ident "false" => pure (.literal (.bool false))
    | .ident "func" =>
      let (params, body) ← function n
      pure (.func params body)
    | .ident word =>
      if isKeyword word then refuse (.unexpectedKeyword word) else pure (.ref (.var word))
    | .mark .lParen =>
      let e ← expr n
      expect .rParen
      pure e
    | .mark .lBracket =>
      if ← eat .rBracket then pure (.list [])
      else
        let found ← items n .rBracket
        pure (.list found)
    | .mark .lBrace =>
      if ← eat .rBrace then pure (.map [])
      else
        let found ← entries n
        pure (.map found)
    | found => refuse (.expected .expression found)

end

def statements : Nat → Parser (List Stmt)
  | 0 => spent
  | n + 1 => do
    match ← peek with
    | .eof => pure []
    | _ =>
      let first ← statement n
      let rest ← statements n
      pure (first :: rest)

/-- A budget that no row of this many tokens can spend. -/
def budget (tokens : Nat) : Nat := 32 * (tokens + 1)

end Parser

def parseTokens (tokens : List Lexeme) : Except ParseError Stmt :=
  match Parser.statements (Parser.budget tokens.length) ⟨none, tokens⟩ with
  | .ok body _ => .ok (.block body)
  | .refused e => .error e
  | .spent => .error ⟨1, .nestedTooDeeply⟩

def parseCode (source : String) : Except ParseError Stmt := do
  parseTokens (← tokenizeCode source)

def parseTemplate (source : String) : Except ParseError Stmt := do
  parseTokens (← tokenizeTemplate source)

end CircuitScript
