/-! The functions that every script finds. The core ones are bound in each new scope, the standard ones
where they are installed. -/
namespace CircuitScript

inductive Arity where
  | exactly (count : Nat)
  | atLeast (count : Nat)
  deriving DecidableEq, Repr

namespace Arity

def accepts : Arity → Nat → Bool
  | exactly count, found => found == count
  | atLeast count, found => count ≤ found

def text : Arity → String
  | exactly count => toString count
  | atLeast count => "at least " ++ toString count

end Arity

inductive Builtin where
  | format
  | isPresent
  | sizeOf
  | newMap
  | newList
  | int
  | float
  | abs
  | min
  | max
  | ceil
  | floor
  | round
  | bitsNeededFor
  | log2
  | identifier
  | splitString
  | toUpper
  | toLower
  deriving DecidableEq, Repr

namespace Builtin

def name : Builtin → String
  | format => "format"
  | isPresent => "isPresent"
  | sizeOf => "sizeOf"
  | newMap => "newMap"
  | newList => "newList"
  | int => "int"
  | float => "float"
  | abs => "abs"
  | min => "min"
  | max => "max"
  | ceil => "ceil"
  | floor => "floor"
  | round => "round"
  | bitsNeededFor => "bitsNeededFor"
  | log2 => "log2"
  | identifier => "identifier"
  | splitString => "splitString"
  | toUpper => "toUpper"
  | toLower => "toLower"

def arity : Builtin → Arity
  | format => .atLeast 1
  | newMap => .exactly 0
  | newList => .exactly 0
  | min => .atLeast 1
  | max => .atLeast 1
  | _ => .exactly 1

def core : List Builtin := [format, isPresent, sizeOf, newMap, newList]

def standard : List Builtin :=
  [int, float, abs, min, max, ceil, floor, round, bitsNeededFor, log2, identifier, splitString,
   toUpper, toLower]

end Builtin

end CircuitScript
