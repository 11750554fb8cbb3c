import CircuitScript.Text.Letter
import CircuitScript.Text.Numeric

/-! Words: a letter or underscore, then letters, number characters and underscores. -/
namespace CircuitScript.Text

def isWordStart (c : Char) : Bool := isLetter c || c == '_'

def isWordPart (c : Char) : Bool := isLetter c || isNumeric c || c == '_'

def isIdentifier : List Char → Bool
  | [] => false
  | c :: rest => isWordStart c && rest.all isWordPart

end CircuitScript.Text
