import CircuitScript.Store

/-! The text of a value. A list or map that is already being written further out shows as an ellipsis,
so the text of every value ends. -/
namespace CircuitScript

inductive Container where
  | list (id : ListId)
  | map (id : MapId)
  deriving DecidableEq, Repr

namespace Store

def containerCount (store : Store) : Nat := store.lists.size + store.maps.size

/-- The text of a value inside the containers `around`, at most `depth` containers deep. -/
def textWithin (store : Store) : Nat → List Container → Value → String
  | _, _, .scalar s => s.text
  | _, _, .func f => "<function " ++ store.functionName f ++ ">"
  | _, _, .scope _ => "<context>"
  | _, _, .attributes _ => "<attributes>"
  | 0, _, .list _ => "[...]"
  | 0, _, .map _ => "\x7b...\x7d"
  | depth + 1, around, .list id =>
    if .list id ∈ around then "[...]"
    else
      let texts := (store.items id).toList.map (store.textWithin depth (.list id :: around))
      "[" ++ ", ".intercalate texts ++ "]"
  | depth + 1, around, .map id =>
    if .map id ∈ around then "\x7b...\x7d"
    else
      let texts := (store.mapEntries id).entries.map fun entry =>
        entry.1 ++ ": " ++ store.textWithin depth (.map id :: around) entry.2
      "\x7b" ++ ", ".intercalate texts ++ "\x7d"

def text (store : Store) (value : Value) : String :=
  store.textWithin (store.containerCount + 1) [] value

end Store

end CircuitScript
