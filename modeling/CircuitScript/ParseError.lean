import CircuitScript.Token

/-! Why a source text is refused, and where. -/
namespace CircuitScript

inductive Wanted where
  | mark (m : Mark)
  | commaOr (closing : Mark)
  | echoEnd
  | untilWord
  | expression
  | fieldName
  | mapKey
  | functionName
  | parameterName
  | assignmentOrCall
  deriving DecidableEq, Repr

def Wanted.text : Wanted → String
  | mark m => "'" ++ m.spelling ++ "'"
  | commaOr closing => "',' or '" ++ closing.spelling ++ "'"
  | echoEnd => "'?>'"
  | untilWord => "'until'"
  | expression => "expression"
  | fieldName => "field name"
  | mapKey => "map key"
  | functionName => "function name"
  | parameterName => "parameter name"
  | assignmentOrCall => "assignment or call"

namespace ParseError

inductive Cause where
  | unterminatedComment
  | unterminatedString
  | malformedNumber (digits : String)
  | integerOutOfRange (digits : String)
  | expected (wanted : Wanted) (found : Token)
  | unexpectedKeyword (word : String)
  | argumentCount (word : String)
  | declaresNoVariable
  | assignsNoReference
  | indexesNoReference
  | selectsNoReference
  | nestedTooDeeply

def Cause.message : Cause → String
  | unterminatedComment => "unterminated comment"
  | unterminatedString => "unterminated string"
  | malformedNumber digits => "malformed number literal " ++ digits
  | integerOutOfRange digits => "integer literal out of range: " ++ digits
  | expected wanted found => "expected " ++ wanted.text ++ ", found " ++ found.describe
  | unexpectedKeyword word => "unexpected '" ++ word ++ "'"
  | argumentCount word => "wrong number of arguments to " ++ word
  | declaresNoVariable => "':=' needs a plain variable name"
  | assignsNoReference => "cannot assign to this expression"
  | indexesNoReference => "only variables can be indexed"
  | selectsNoReference => "only variables have fields"
  | nestedTooDeeply => "nested too deeply"

end ParseError

structure ParseError where
  line : Nat
  cause : ParseError.Cause

def ParseError.message (e : ParseError) : String :=
  "line " ++ toString e.line ++ ": " ++ e.cause.message

end CircuitScript
