/-! Operators and punctuation: their spellings, and the longest one at the head of a text. -/
namespace CircuitScript

inductive Mark where
  | plus
  | minus
  | star
  | slash
  | percent
  | plusPlus
  | minusMinus
  | bang
  | tilde
  | amp
  | andAnd
  | pipe
  | orOr
  | caret
  | shl
  | shr
  | ushr
  | assign
  | eqEq
  | ne
  | lt
  | le
  | gt
  | ge
  | declare
  | plusAssign
  | minusAssign
  | lParen
  | rParen
  | lBracket
  | rBracket
  | lBrace
  | rBrace
  | comma
  | semicolon
  | colon
  | dot
  deriving DecidableEq, Repr

namespace Mark

def spelling : Mark → String
  | plus => "+"
  | minus => "-"
  | star => "*"
  | slash => "/"
  | percent => "%"
  | plusPlus => "++"
  | minusMinus => "--"
  | bang => "!"
  | tilde => "~"
  | amp => "&"
  | andAnd => "&&"
  | pipe => "|"
  | orOr => "||"
  | caret => "^"
  | shl => "<<"
  | shr => ">>"
  | ushr => ">>>"
  | assign => "="
  | eqEq => "=="
  | ne => "!="
  | lt => "<"
  | le => "<="
  | gt => ">"
  | ge => ">="
  | declare => ":="
  | plusAssign => "+="
  | minusAssign => "-="
  | lParen => "("
  | rParen => ")"
  | lBracket => "["
  | rBracket => "]"
  | lBrace => "\x7b"
  | rBrace => "\x7d"
  | comma => ","
  | semicolon => ";"
  | colon => ":"
  | dot => "."

def name : Mark → String
  | plus => "Plus"
  | minus => "Minus"
  | star => "Star"
  | slash => "Slash"
  | percent => "Percent"
  | plusPlus => "PlusPlus"
  | minusMinus => "MinusMinus"
  | bang => "Bang"
  | tilde => "Tilde"
  | amp => "Amp"
  | andAnd => "AndAnd"
  | pipe => "Pipe"
  | orOr => "OrOr"
  | caret => "Caret"
  | shl => "Shl"
  | shr => "Shr"
  | ushr => "Ushr"
  | assign => "Assign"
  | eqEq => "EqEq"
  | ne => "Ne"
  | lt => "Lt"
  | le => "Le"
  | gt => "Gt"
  | ge => "Ge"
  | declare => "Declare"
  | plusAssign => "PlusAssign"
  | minusAssign => "MinusAssign"
  | lParen => "LParen"
  | rParen => "RParen"
  | lBracket => "LBracket"
  | rBracket => "RBracket"
  | lBrace => "LBrace"
  | rBrace => "RBrace"
  | comma => "Comma"
  | semicolon => "Semicolon"
  | colon => "Colon"
  | dot => "Dot"

def ofChar? : Char → Option Mark
  | '+' => some plus
  | '-' => some minus
  | '*' => some star
  | '/' => some slash
  | '%' => some percent
  | '!' => some bang
  | '~' => some tilde
  | '&' => some amp
  | '|' => some pipe
  | '^' => some caret
  | '=' => some assign
  | '<' => some lt
  | '>' => some gt
  | '(' => some lParen
  | ')' => some rParen
  | '[' => some lBracket
  | ']' => some rBracket
  | '{' => some lBrace
  | '}' => some rBrace
  | ',' => some comma
  | ';' => some semicolon
  | ':' => some colon
  | '.' => some dot
  | _ => none

def extend? : Mark → Char → Option Mark
  | plus, '+' => some plusPlus
  | plus, '=' => some plusAssign
  | minus, '-' => some minusMinus
  | minus, '=' => some minusAssign
  | bang, '=' => some ne
  | amp, '&' => some andAnd
  | pipe, '|' => some orOr
  | lt, '<' => some shl
  | lt, '=' => some le
  | gt, '>' => some shr
  | gt, '=' => some ge
  | shr, '>' => some ushr
  | assign, '=' => some eqEq
  | colon, '=' => some declare
  | _, _ => none

/-- The longest mark that `mark` followed by the text begins with, and what is left. -/
def grow (mark : Mark) : List Char → Mark × List Char
  | [] => (mark, [])
  | c :: rest =>
    match mark.extend? c with
    | some longer => longer.grow rest
    | none => (mark, c :: rest)

end Mark

end CircuitScript
