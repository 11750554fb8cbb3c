import CircuitScript.Store
import CircuitScript.Text.Blank

/-! Circuits: placed elements in order, each with its attributes. -/
namespace CircuitScript

namespace Attributes

def rotationKey : String := "rotation"

def labelKey : String := "Label"

def shapeKey : String := "shapeType"

def isGenericKey : String := "isGeneric"

def scriptKey : String := "generic"

def descriptionKey : String := "Description"

def str? (attributes : Attributes) (key : String) : Option String :=
  match attributes.get? key with
  | some (.str s) => some s
  | _ => none

def int? (attributes : Attributes) (key : String) : Option Int64 :=
  match attributes.get? key with
  | some (.int n) => some n
  | some (.str s) => Numeral.readInteger? (Text.trimBlank s.toList)
  | _ => none

def flag (attributes : Attributes) (key : String) : Bool :=
  match attributes.get? key with
  | some (.bool b) => b
  | _ => false

def same (a b : Attributes) : Bool :=
  a.size == b.size &&
    (a.entries.zip b.entries).all fun pair => pair.1.1 == pair.2.1 && pair.1.2.same pair.2.2

end Attributes

structure Element where
  typeName : String
  attributes : Attributes
  args : Option ScopeId

namespace Element

def label (element : Element) : String := (Attributes.str? element.attributes Attributes.labelKey).getD ""

def script? (element : Element) : Option String :=
  match Attributes.str? element.attributes Attributes.scriptKey with
  | some code =>
    let trimmed := Text.trimBlank code.toList
    if trimmed = [] then none else some (String.ofList trimmed)
  | none => none

/-- The name of the instance at a position: its label, else its type and the position. -/
def instanceName (element : Element) (position : Nat) : String :=
  if element.label = "" then element.typeName ++ toString position else element.label

end Element

structure Circuit where
  origin : String
  attributes : Attributes
  elements : List Element

namespace Circuit

def isGeneric (circuit : Circuit) : Bool := Attributes.flag circuit.attributes Attributes.isGenericKey

def unresolved (circuit : Circuit) : Circuit :=
  { circuit with elements := circuit.elements.map fun element => { element with args := none } }

end Circuit

end CircuitScript
