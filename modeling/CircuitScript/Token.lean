import CircuitScript.Token.Mark
import CircuitScript.Numeral.Decimal
import CircuitScript.Numeral.Reading

/-! The words of a script: literals, names, marks, and the pieces of template text around code. -/
namespace CircuitScript

inductive Token where
  | int (n : Int64)
  | float (x : Float)
  | str (s : String)
  | ident (name : String)
  | mark (m : Mark)
  | text (s : String)
  | echoOpen
  | echoClose
  | unknown (c : Char)
  | eof

structure Lexeme where
  line : Nat
  token : Token

namespace Token

def isMark (token : Token) (m : Mark) : Bool :=
  match token with
  | mark found => found == m
  | _ => false

def isEof : Token → Bool
  | eof => true
  | _ => false

def describe : Token → String
  | int n => String.ofList (Numeral.integerText n)
  | float x => String.ofList (Numeral.plainText x)
  | str s => "\"" ++ s ++ "\""
  | ident name => "'" ++ name ++ "'"
  | mark m => m.name
  | text _ => "template text"
  | echoOpen => "'<?='"
  | echoClose => "'?>'"
  | unknown c => "unexpected character '" ++ String.singleton c ++ "'"
  | eof => "end of input"

end Token

end CircuitScript
