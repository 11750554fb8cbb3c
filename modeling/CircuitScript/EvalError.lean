import CircuitScript.Builtin
import CircuitScript.Numeral.Reading

/-! Why running a script fails. -/
namespace CircuitScript

inductive Kind where
  | integer
  | float
  | boolean
  | string
  | list
  | map
  | function
  | context
  | attributes
  deriving DecidableEq, Repr

def Kind.text : Kind → String
  | integer => "integer"
  | float => "float"
  | boolean => "boolean"
  | string => "string"
  | list => "list"
  | map => "map"
  | function => "function"
  | context => "context"
  | attributes => "attributes"

inductive Needed where
  | number
  | boolean
  | list
  | map
  | attributeValue
  deriving DecidableEq, Repr

def Needed.text : Needed → String
  | number => "number"
  | boolean => "boolean"
  | list => "list"
  | map => "map"
  | attributeValue => "attribute value"

inductive FormatFault where
  | missingArgument (conversion : Char)
  | badCharacterCode (argument : String)
  deriving DecidableEq, Repr

def FormatFault.text : FormatFault → String
  | missingArgument conversion => "missing argument for %" ++ String.singleton conversion
  | badCharacterCode argument => "invalid character code " ++ argument

inductive EvalError where
  | undefinedVariable (name : String)
  | indexOutOfBounds (position : Int64)
  | fieldNotFound (key : String)
  | typeMismatch (needed : Needed) (found : Kind)
  | notCallable (callee : String)
  | arityMismatch (name : String) (arity : Arity) (found : Nat)
  | divisionByZero
  | format (fault : FormatFault)
  | raised (message : String)
  deriving DecidableEq, Repr

def EvalError.message : EvalError → String
  | undefinedVariable name => "variable not found: " ++ name
  | indexOutOfBounds position =>
    "index out of bounds: " ++ String.ofList (Numeral.integerText position)
  | fieldNotFound key => "field not found: " ++ key
  | typeMismatch needed found =>
    "type mismatch: expected " ++ needed.text ++ ", found " ++ found.text
  | notCallable callee => "not a function: " ++ callee
  | arityMismatch name arity found =>
    name ++ ": expected " ++ arity.text ++ " argument(s), found " ++ toString found
  | divisionByZero => "division by zero"
  | format fault => "format: " ++ fault.text
  | raised message => "panic: " ++ message

end CircuitScript
