import CircuitScript.Store

/-! Equality of values by their contents. Two lists or maps that are already being compared further out
count as equal, so cyclic ones can be compared too. -/
namespace CircuitScript

inductive ContainerPair where
  | lists (a b : ListId)
  | maps (a b : MapId)
  deriving DecidableEq, Repr

namespace Store

def pairCount (store : Store) : Nat :=
  store.lists.size * store.lists.size + store.maps.size * store.maps.size

def sameWithin (store : Store) : Nat → List ContainerPair → Value → Value → Bool
  | _, _, .scalar a, .scalar b => a.same b
  | _, _, .func a, .func b => a == b
  | _, _, .scope a, .scope b => a == b
  | _, _, .attributes a, .attributes b => a == b
  | 0, _, .list _, .list _ => true
  | 0, _, .map _, .map _ => true
  | depth + 1, around, .list a, .list b =>
    if a = b ∨ .lists a b ∈ around then true
    else
      let xs := (store.items a).toList
      let ys := (store.items b).toList
      xs.length == ys.length &&
        (xs.zip ys).all fun pair => store.sameWithin depth (.lists a b :: around) pair.1 pair.2
  | depth + 1, around, .map a, .map b =>
    if a = b ∨ .maps a b ∈ around then true
    else
      let xs := (store.mapEntries a).entries
      let ys := (store.mapEntries b).entries
      xs.length == ys.length &&
        (xs.zip ys).all fun pair =>
          pair.1.1 == pair.2.1 && store.sameWithin depth (.maps a b :: around) pair.1.2 pair.2.2
  | _, _, _, _ => false

/-- Equality of contents, of place for what has no contents to compare. One level more than there are
pairs is never used up. -/
def same (store : Store) (a b : Value) : Bool := store.sameWithin (store.pairCount + 1) [] a b

end Store

end CircuitScript
