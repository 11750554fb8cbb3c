import CircuitScript.Proofs.Closed
import CircuitScript.Proofs.Lookup

/-! The places of a store that hold one value each: a binding, a slot of a list, an entry of a map or an
attribute. A value put at one of them changes nothing at the others. -/
namespace CircuitScript

inductive Location where
  | binding (scope : ScopeId) (name : String)
  | slot (list : ListId) (position : Nat)
  | entry (map : MapId) (key : String)
  | attr (handle : HandleId) (key : String)
  deriving DecidableEq, Repr

def Location.container : Location → Value
  | binding scope _ => .scope scope
  | slot list _ => .list list
  | entry map _ => .map map
  | attr handle _ => .attributes handle

namespace Store

def at? (store : Store) : Location → Option Value
  | .binding scope name => (store.names scope).get? name
  | .slot list position => (store.items list)[position]?
  | .entry map key => (store.mapEntries map).get? key
  | .attr handle key => ((store.attributesOf handle).get? key).map .scalar

def put (store : Store) (value : Value) : Location → Except EvalError Store
  | .binding scope name => .ok (store.bind scope name value)
  | .slot list position =>
    if position ≤ (store.items list).size then .ok (store.putItem list position value)
    else .error (.indexOutOfBounds (Eval.shownPosition position))
  | .entry map key => .ok (store.setEntry map key value)
  | .attr handle key => value.toScalar.map (store.setAttribute handle key)

/-- The second store is the first one with a value at a location. A list grows by one slot if the location is
the one behind its last. -/
structure PutAt (store after : Store) (location : Location) (value : Value) : Prop where
  here : after.at? location = some value
  others : ∀ other, other ≠ location → after.at? other = store.at? other
  sizes : ∀ list, (after.items list).size = (store.items list).size +
    if location = .slot list (store.items list).size then 1 else 0
  counts : after.scopes.size = store.scopes.size ∧ after.lists.size = store.lists.size ∧
    after.maps.size = store.maps.size ∧ after.handles.size = store.handles.size
  links : ∀ id, (after.scope? id).map (fun scope => (scope.parent, scope.output)) =
    (store.scope? id).map fun scope => (scope.parent, scope.output)
  closures : after.closures = store.closures

theorem modifiedAt {α : Type} (row : Array α) (absent : α) {i : Nat} (there : i < row.size) (j : Nat)
    (f : α → α) :
    (row.modify i f)[j]?.getD absent = if i = j then f (row[j]?.getD absent) else row[j]?.getD absent := by
  rw [Array.getElem?_modify]
  by_cases same : i = j
  · subst same
    rw [if_pos rfl, if_pos rfl, Array.getElem?_eq_getElem there]
    rfl
  · rw [if_neg same, if_neg same]

variable {store after : Store}

theorem itemsPut {list : ListId} (there : list.index < store.lists.size) (position : Nat) (value : Value)
    (other : ListId) :
    (store.putItem list position value).items other =
      if list = other then
        if position < (store.items other).size then (store.items other).setIfInBounds position value
        else (store.items other).push value
      else store.items other := by
  obtain ⟨i⟩ := list
  obtain ⟨j⟩ := other
  simp only [ListId.mk.injEq]
  exact modifiedAt store.lists #[] there j _

theorem entriesSet {map : MapId} (there : map.index < store.maps.size) (key : String) (value : Value)
    (other : MapId) :
    (store.setEntry map key value).mapEntries other =
      if map = other then (store.mapEntries other).insert key value else store.mapEntries other := by
  obtain ⟨i⟩ := map
  obtain ⟨j⟩ := other
  simp only [MapId.mk.injEq]
  exact modifiedAt store.maps .empty there j _

theorem attributesSet {handle : HandleId} (there : handle.index < store.handles.size) (key : String)
    (value : Scalar) (other : HandleId) :
    (store.setAttribute handle key value).attributesOf other =
      if handle = other then (store.attributesOf other).insert key value else store.attributesOf other := by
  obtain ⟨i⟩ := handle
  obtain ⟨j⟩ := other
  simp only [HandleId.mk.injEq]
  exact modifiedAt store.handles .empty there j _

inductive Stored (store : Store) : Value → Location → Store → Prop where
  | binding (scope : ScopeId) (name : String) (value : Value) :
      Stored store value (.binding scope name) (store.bind scope name value)
  | slot (list : ListId) (position : Nat) (value : Value) (inside : position ≤ (store.items list).size) :
      Stored store value (.slot list position) (store.putItem list position value)
  | entry (map : MapId) (key : String) (value : Value) :
      Stored store value (.entry map key) (store.setEntry map key value)
  | attr (handle : HandleId) (key : String) (s : Scalar) :
      Stored store (.scalar s) (.attr handle key) (store.setAttribute handle key s)

variable {location : Location} {value : Value}

theorem putStored (changed : store.put value location = .ok after) : store.Stored value location after := by
  cases location with
  | binding scope name =>
    cases changed
    exact .binding scope name value
  | slot list position =>
    by_cases inside : position ≤ (store.items list).size
    · simp only [put, inside, if_true] at changed
      cases changed
      exact .slot list position value inside
    · simp only [put, inside, if_false] at changed
      cases changed
  | entry map key =>
    cases changed
    exact .entry map key value
  | attr handle key =>
    cases value with
    | scalar s =>
      cases changed
      exact .attr handle key s
    | list id | map id | func f | scope id | attributes id => cases changed

theorem atBound {scope : ScopeId} (there : scope.index < store.scopes.size) (name : String) (value : Value)
    (other : Location) : (store.bind scope name value).at? other =
      if other = .binding scope name then some value else store.at? other := by
  cases other with
  | slot list position | entry map key | attr handle key => exact (if_neg nofun).symm
  | binding which key =>
    simp only [at?, Location.binding.injEq]
    by_cases same : which = scope
    · subst same
      rw [namesBoundHere there, Table.getInsert]
      simp [eq_comm]
    · simp [namesBound _ _ _ _ same, same]

theorem atItem {list : ListId} (there : list.index < store.lists.size) {position : Nat}
    (inside : position ≤ (store.items list).size) (value : Value) (other : Location) :
    (store.putItem list position value).at? other =
      if other = .slot list position then some value else store.at? other := by
  cases other with
  | binding scope name | entry map key | attr handle key => exact (if_neg nofun).symm
  | slot which i =>
    simp only [at?, Location.slot.injEq, itemsPut there]
    by_cases same : list = which
    · subst same
      grind
    · simp [same, Ne.symm same]

theorem atEntry {map : MapId} (there : map.index < store.maps.size) (key : String) (value : Value)
    (other : Location) : (store.setEntry map key value).at? other =
      if other = .entry map key then some value else store.at? other := by
  cases other with
  | binding scope name | slot list position | attr handle key => exact (if_neg nofun).symm
  | entry which name =>
    simp only [at?, Location.entry.injEq, entriesSet there]
    by_cases same : map = which
    · subst same
      simp [eq_comm]
    · simp [same, Ne.symm same]

theorem atAttribute {handle : HandleId} (there : handle.index < store.handles.size) (key : String)
    (s : Scalar) (other : Location) : (store.setAttribute handle key s).at? other =
      if other = .attr handle key then some (.scalar s) else store.at? other := by
  cases other with
  | binding scope name | slot list position | entry map key => exact (if_neg nofun).symm
  | attr which name =>
    simp only [at?, Location.attr.injEq, attributesSet there]
    by_cases same : handle = which
    · subst same
      by_cases here : key = name
      · simp [here]
      · simp [here, Ne.symm here]
    · simp [same, Ne.symm same]

theorem putAt (there : location.container.There store) (changed : store.put value location = .ok after) :
    store.PutAt after location value := by
  cases putStored changed with
  | binding scope name =>
    refine ⟨(atBound there name value _).trans (if_pos rfl),
      fun other apart => (atBound there name value other).trans (if_neg apart), fun list => ?_,
      ⟨countUpdated _ _ _, rfl, rfl, rfl⟩, fun id => ?_, rfl⟩
    · rw [if_neg nofun]
      rfl
    · unfold bind
      rw [scopeUpdated]
      split
      · cases store.scope? id <;> rfl
      · rfl
  | slot list position _ inside =>
    refine ⟨(atItem there inside value _).trans (if_pos rfl),
      fun other apart => (atItem there inside value other).trans (if_neg apart), fun other => ?_,
      ⟨rfl, Array.size_modify, rfl, rfl⟩, fun id => rfl, rfl⟩
    rw [itemsPut there]
    by_cases same : list = other
    · subst same
      simp only [Location.slot.injEq, true_and, if_true]
      by_cases behind : position < (store.items list).size
      · rw [if_pos behind, if_neg (Nat.ne_of_lt behind), Array.size_setIfInBounds, Nat.add_zero]
      · rw [if_neg behind, if_pos (by omega), Array.size_push]
    · rw [if_neg same, if_neg (by simp [same]), Nat.add_zero]
  | entry map key =>
    refine ⟨(atEntry there key value _).trans (if_pos rfl),
      fun other apart => (atEntry there key value other).trans (if_neg apart), fun list => ?_,
      ⟨rfl, rfl, Array.size_modify, rfl⟩, fun id => rfl, rfl⟩
    rw [if_neg nofun]
    rfl
  | attr handle key s =>
    refine ⟨(atAttribute there key s _).trans (if_pos rfl),
      fun other apart => (atAttribute there key s other).trans (if_neg apart), fun list => ?_,
      ⟨rfl, rfl, rfl, Array.size_modify⟩, fun id => rfl, rfl⟩
    rw [if_neg nofun]
    rfl

end Store

end CircuitScript
