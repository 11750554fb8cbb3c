import CircuitScript.Circuit
import CircuitScript.Text.Quoted

/-! The types that elements can have: primitive ones, and circuits used as elements. -/
namespace CircuitScript

/-- The names between the slashes of a path, where the first begins with the characters read so far,
last first. -/
def pathNames (read : List Char) : List Char → List (List Char)
  | [] => [read.reverse]
  | c :: rest => if c = '/' then read.reverse :: pathNames [] rest else pathNames (c :: read) rest

def fileName? (path : String) : Option String :=
  let parts := (pathNames [] path.toList).filter fun part => part ≠ [] ∧ part ≠ ['.']
  match parts.getLast? with
  | some ['.', '.'] => none
  | found => found.map String.ofList

structure Template where
  file : String
  circuit : Circuit
  description : Option String

namespace Template

def name (template : Template) : String := (fileName? template.file).getD template.file

def isGeneric (template : Template) : Bool := template.circuit.isGeneric

def attributeKeys (template : Template) : List String :=
  [Attributes.rotationKey, Attributes.labelKey, Attributes.shapeKey] ++
    if template.isGeneric then [Attributes.scriptKey] else []

/-- A description of its own, else the circuit's, else the name. -/
def shownDescription (template : Template) : String :=
  match template.description with
  | some text => text
  | none =>
    (Attributes.str? template.circuit.attributes Attributes.descriptionKey).getD template.name

def summary (template : Template) (parsed : Nat) : String :=
  "CircuitTemplate \x7b file: " ++ Text.quoted template.file ++
    ", generic: " ++ (if template.isGeneric then "true" else "false") ++
    ", elements: " ++ toString template.circuit.elements.length ++
    ", cached_statements: " ++ toString parsed ++ " \x7d"

end Template

inductive ElementType where
  | primitive (defaults : Attributes)
  | custom (template : Template)

def ElementType.isCustom : ElementType → Bool
  | primitive _ => false
  | custom _ => true

abbrev Library := Table ElementType

end CircuitScript
