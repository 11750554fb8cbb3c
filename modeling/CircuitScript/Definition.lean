import CircuitScript.Text.Word
import CircuitScript.Value

/-! Definitions given from outside, `NAME=VALUE`. -/
namespace CircuitScript

inductive DefinitionError where
  | malformed (argument : String)
  | invalidName (name : String)
  deriving DecidableEq, Repr

def DefinitionError.message : DefinitionError → String
  | malformed argument => "invalid definition '" ++ argument ++ "': expected NAME=VALUE"
  | invalidName name => "invalid variable name '" ++ name ++ "'"

namespace Definition

/-- The value of a text: a number, a truth value, or else the text as it is. -/
def readValue (text : String) : Scalar :=
  let trimmed := Text.trimBlank text.toList
  match Numeral.readInteger? trimmed with
  | some n => .int n
  | none =>
    match Numeral.readFloat? trimmed with
    | some x => .float x
    | none =>
      if trimmed = "true".toList then .bool true
      else if trimmed = "false".toList then .bool false
      else .str text

def read (argument : String) : Except DefinitionError (String × Scalar) :=
  let text := argument.toList
  let name := text.takeWhile (· != '=')
  match text.dropWhile (· != '=') with
  | [] => .error (.malformed argument)
  | _ :: value =>
    let trimmed := Text.trimBlank name
    if Text.isIdentifier trimmed then
      .ok (String.ofList trimmed, readValue (String.ofList value))
    else .error (.invalidName (String.ofList trimmed))

def readAll : List String → Except DefinitionError (List (String × Scalar))
  | [] => .ok []
  | argument :: rest => do
    let first ← read argument
    let others ← readAll rest
    .ok (first :: others)

end Definition

def bindDefinitions (definitions : List (String × Scalar)) : List (String × Value) :=
  definitions.map fun definition => (definition.1, .scalar definition.2)

end CircuitScript
