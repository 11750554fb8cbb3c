import Mathlib.Data.Fintype.Card
import CircuitScript.Proofs.Moved

/-! Stores that hold the same things at other places, such as one that has more in between: what is in the
first up to some place is at the same place in the second, and what follows is found behind things that
the first does not have. A script cannot tell such stores apart. -/
namespace CircuitScript

-- Where the things of one row are found in another.
structure Offset where
  move : Nat → Nat
  injective : Function.Injective move

namespace Offset

variable {α β : Type} {offset : Offset} {f : α → β} {row : Array α} {row' : Array β}

/-- The things of the first row are found in the second, and so is what is added to both from now on. -/
structure Rows (offset : Offset) (f : α → β) (row : Array α) (row' : Array β) : Prop where
  get : ∀ i, row'[offset.move i]? = row[i]?.map f
  next : ∀ k, offset.move (row.size + k) = row'.size + k

namespace Rows

theorem size (rows : offset.Rows f row row') : row'.size = offset.move row.size :=
  (rows.next 0).symm

theorem inside (rows : offset.Rows f row row') {i : Nat} :
    offset.move i < row'.size ↔ i < row.size := by
  rw [← not_iff_not, Nat.not_lt, Nat.not_lt, ← Array.getElem?_eq_none_iff,
    ← Array.getElem?_eq_none_iff, rows.get, Option.map_eq_none_iff]

theorem longer (rows : offset.Rows f row row') : row.size ≤ row'.size := by
  let place (i : Fin row.size) : Fin row'.size := ⟨offset.move i, rows.inside.mpr i.isLt⟩
  have apart : Function.Injective place :=
    fun i j same => Fin.ext (offset.injective (congrArg Fin.val same))
  simpa using Fintype.card_le_of_injective place apart

theorem push (rows : offset.Rows f row row') (a : α) : offset.Rows f (row.push a) (row'.push (f a)) where
  get i := by
    simp only [Array.getElem?_push, rows.size, offset.injective.eq_iff, rows.get]
    split <;> rfl
  next k := by
    have later := rows.next (k + 1)
    simp only [Array.size_push]
    rw [Nat.add_assoc, Nat.add_comm 1, later]
    omega

theorem modify (rows : offset.Rows f row row') (i : Nat) (change : α → α) (change' : β → β)
    (same : ∀ a, change' (f a) = f (change a)) :
    offset.Rows f (row.modify i change) (row'.modify (offset.move i) change') where
  get j := by
    simp only [Array.getElem?_modify, offset.injective.eq_iff, rows.get]
    split
    · cases row[j]? with
      | none => rfl
      | some a => exact congrArg some (same a)
    · rfl
  next k := by simpa using rows.next k

theorem congr (rows : offset.Rows f row row') {g : α → β}
    (same : ∀ (i : Nat) (a : α), row[i]? = some a → f a = g a) : offset.Rows g row row' where
  get i := by
    rw [rows.get]
    cases found : row[i]? with
    | none => rfl
    | some a => exact congrArg some (same i a found)
  next := rows.next

end Rows

-- The offset of a row that begins with the other one.
def between (row row' : Array α) : Offset where
  move i := if i < row.size then i else i + (row'.size - row.size)
  injective i j same := by
    dsimp only at same
    split at same <;> split at same <;> omega

theorem betweenOrder {row row' : Array α} {i j : Nat} :
    (between row row').move i < (between row row').move j ↔ i < j := by
  unfold between
  dsimp only
  split <;> split <;> omega

theorem rowsBetween {row row' : Array α} {f : α → α} (longer : row.size ≤ row'.size)
    (kept : ∀ (i : Nat) (a : α), row[i]? = some a → row'[i]? = some (f a)) :
    (between row row').Rows f row row' where
  get i := by
    unfold between
    dsimp only
    split
    · rename_i inside
      rw [Array.getElem?_eq_getElem inside]
      exact kept i _ (Array.getElem?_eq_getElem inside)
    · rw [Array.getElem?_eq_none (by omega), Array.getElem?_eq_none (by omega)]
      rfl
  next k := by
    unfold between
    dsimp only
    split <;> omega

end Offset

structure Shift where
  scopes : Offset
  lists : Offset
  maps : Offset
  handles : Offset
  closures : Offset

-- What the second store has more than the first.
def Shift.between (store later : Store) : Shift where
  scopes := .between store.scopes later.scopes
  lists := .between store.lists later.lists
  maps := .between store.maps later.maps
  handles := .between store.handles later.handles
  closures := .between store.closures later.closures

def Shift.places (shift : Shift) : Places where
  scope id := ⟨shift.scopes.move id.index⟩
  list id := ⟨shift.lists.move id.index⟩
  map id := ⟨shift.maps.move id.index⟩
  handle id := ⟨shift.handles.move id.index⟩
  closure id := ⟨shift.closures.move id.index⟩

structure Shift.Rel (shift : Shift) (store other : Store) : Prop where
  scopes : shift.scopes.Rows (Scope.moved shift.places) store.scopes other.scopes
  lists : shift.lists.Rows (Array.map (Value.moved shift.places)) store.lists other.lists
  maps : shift.maps.Rows (Table.map (Value.moved shift.places)) store.maps other.maps
  handles : shift.handles.Rows id store.handles other.handles
  closures : shift.closures.Rows (Closure.moved shift.places) store.closures other.closures
  order : ∀ id scope link, store.scope? id = some scope → scope.LinksTo link →
    ((shift.places.scope link).index < (shift.places.scope id).index ↔ link.index < id.index)

namespace Shift

variable {shift : Shift} {s s' : Store}

theorem apart (shift : Shift) : shift.places.Apart where
  scopes _ _ same := congrArg ScopeId.mk (shift.scopes.injective (congrArg ScopeId.index same))
  lists _ _ same := congrArg ListId.mk (shift.lists.injective (congrArg ListId.index same))
  maps _ _ same := congrArg MapId.mk (shift.maps.injective (congrArg MapId.index same))
  handles _ _ same := congrArg HandleId.mk (shift.handles.injective (congrArg HandleId.index same))
  closures _ _ same := congrArg ClosureId.mk (shift.closures.injective (congrArg ClosureId.index same))

namespace Rel

variable (rel : shift.Rel s s')
include rel

theorem shown : Shown shift.places s s' where
  apart := shift.apart
  items id := by
    have found := rel.lists.get id.index
    simp only [Store.items, places, found]
    cases s.lists[id.index]? with
    | none => simp
    | some items => rfl
  entries id := by
    have found := rel.maps.get id.index
    simp only [Store.mapEntries, places, found]
    cases s.maps[id.index]? with
    | none => rfl
    | some entries => rfl
  attributes id := by
    have found := rel.handles.get id.index
    simp only [Store.attributesOf, places, found]
    cases s.handles[id.index]? <;> rfl
  closures id := rel.closures.get id.index
  containers := Nat.add_le_add rel.lists.longer rel.maps.longer
  pairs := Nat.add_le_add (Nat.mul_le_mul rel.lists.longer rel.lists.longer)
    (Nat.mul_le_mul rel.maps.longer rel.maps.longer)

theorem scopesShown : ScopesShown shift.places s s' where
  scope id := rel.scopes.get id.index
  order := rel.order

theorem newScope (parent : Option ScopeId) (output : Output) :
    (s'.newScope (parent.map shift.places.scope) (output.moved shift.places)).1 =
        shift.places.scope (s.newScope parent output).1 ∧
      shift.Rel (s.newScope parent output).2
        (s'.newScope (parent.map shift.places.scope) (output.moved shift.places)).2 := by
  have pushed := rel.scopes.push ⟨Store.coreNames, parent, output⟩
  unfold Scope.moved at pushed
  rw [coreNamesMoved] at pushed
  refine ⟨congrArg ScopeId.mk rel.scopes.size, pushed, rel.lists, rel.maps, rel.handles, rel.closures,
    fun id scope link found linked => ?_⟩
  unfold Store.scope? Store.newScope at found
  rw [Array.getElem?_push] at found
  split at found
  · -- Everything older comes before the next place, here and there.
    rename_i new
    have older := rel.scopes.inside (i := link.index)
    rw [rel.scopes.size, ← new] at older
    exact older
  · exact rel.order id scope link found linked

theorem updateScope (id : ScopeId) {change change' : Scope → Scope}
    (same : ∀ scope, change' (scope.moved shift.places) = (change scope).moved shift.places)
    (links : ∀ scope link, (change scope).LinksTo link → scope.LinksTo link) :
    shift.Rel (s.updateScope id change) (s'.updateScope (shift.places.scope id) change') := by
  refine ⟨rel.scopes.modify id.index change change' same, rel.lists, rel.maps, rel.handles,
    rel.closures, fun other scope link found linked => ?_⟩
  unfold Store.scope? Store.updateScope at found
  rw [Array.getElem?_modify] at found
  split at found
  · obtain ⟨old, there, rfl⟩ := Option.map_eq_some_iff.mp found
    exact rel.order other old link there (links old link linked)
  · exact rel.order other scope link found linked

theorem bind (id : ScopeId) (name : String) (value : Value) :
    shift.Rel (s.bind id name value)
      (s'.bind (shift.places.scope id) name (value.moved shift.places)) := by
  refine rel.updateScope id (fun scope => ?_) fun _ _ linked => linked
  simp only [Scope.moved, Table.insertMap]

theorem print (id : ScopeId) (text : String) :
    shift.Rel (s.print id text) (s'.print (shift.places.scope id) text) := by
  unfold Store.print
  rw [rel.scopesShown.sink]
  refine rel.updateScope _ (fun scope => ?_) fun scope link linked => ?_
  · obtain ⟨names, parent, output⟩ := scope
    cases output <;> rfl
  · obtain ⟨names, parent, output⟩ := scope
    cases output with
    | own text => exact .inl (linked.resolve_right nofun)
    | through next => exact linked

theorem newList (items : Array Value) :
    (s'.newList (items.map (Value.moved shift.places))).1 = shift.places.list (s.newList items).1 ∧
      shift.Rel (s.newList items).2 (s'.newList (items.map (Value.moved shift.places))).2 :=
  ⟨congrArg ListId.mk rel.lists.size, rel.scopes, rel.lists.push items, rel.maps, rel.handles,
    rel.closures, rel.order⟩

theorem updateList (id : ListId) {change change' : Array Value → Array Value}
    (same : ∀ items, change' (items.map (Value.moved shift.places)) =
      (change items).map (Value.moved shift.places)) :
    shift.Rel (s.updateList id change) (s'.updateList (shift.places.list id) change') :=
  ⟨rel.scopes, rel.lists.modify id.index change change' same, rel.maps, rel.handles, rel.closures,
    rel.order⟩

theorem putItem (id : ListId) (position : Nat) (value : Value) :
    shift.Rel (s.putItem id position value)
      (s'.putItem (shift.places.list id) position (value.moved shift.places)) := by
  apply rel.updateList
  intro items
  simp only [Array.size_map]
  split <;> simp

theorem newMap (entries : Table Value) :
    (s'.newMap (entries.map (Value.moved shift.places))).1 = shift.places.map (s.newMap entries).1 ∧
      shift.Rel (s.newMap entries).2 (s'.newMap (entries.map (Value.moved shift.places))).2 :=
  ⟨congrArg MapId.mk rel.maps.size, rel.scopes, rel.lists, rel.maps.push entries, rel.handles,
    rel.closures, rel.order⟩

theorem setEntry (id : MapId) (key : String) (value : Value) :
    shift.Rel (s.setEntry id key value)
      (s'.setEntry (shift.places.map id) key (value.moved shift.places)) :=
  ⟨rel.scopes, rel.lists,
    rel.maps.modify id.index (·.insert key value) (·.insert key (value.moved shift.places))
      fun entries => entries.insertMap (Value.moved shift.places) key value,
    rel.handles, rel.closures, rel.order⟩

theorem newHandle (attributes : Attributes) :
    (s'.newHandle attributes).1 = shift.places.handle (s.newHandle attributes).1 ∧
      shift.Rel (s.newHandle attributes).2 (s'.newHandle attributes).2 :=
  ⟨congrArg HandleId.mk rel.handles.size, rel.scopes, rel.lists, rel.maps,
    rel.handles.push attributes, rel.closures, rel.order⟩

theorem setAttribute (id : HandleId) (key : String) (value : Scalar) :
    shift.Rel (s.setAttribute id key value)
      (s'.setAttribute (shift.places.handle id) key value) :=
  ⟨rel.scopes, rel.lists, rel.maps,
    rel.handles.modify id.index (·.insert key value) (·.insert key value) fun _ => rfl,
    rel.closures, rel.order⟩

theorem newClosure (closure : Closure) :
    (s'.newClosure (closure.moved shift.places)).1 =
        shift.places.closure (s.newClosure closure).1 ∧
      shift.Rel (s.newClosure closure).2 (s'.newClosure (closure.moved shift.places)).2 :=
  ⟨congrArg ClosureId.mk rel.closures.size, rel.scopes, rel.lists, rel.maps, rel.handles,
    rel.closures.push closure, rel.order⟩

end Rel

-- Any value may turn up, since every place of the first store has one in the second.
def simulation (shift : Shift) : Simulation where
  places := shift.places
  Rel := shift.Rel
  Ok _ _ := True
  grown _ _ := trivial
  scalar _ _ := trivial
  builtin _ _ := trivial
  shown rel := rel.shown
  held _ := ⟨fun _ _ _ _ _ => trivial, fun _ _ _ _ _ => trivial, fun _ _ _ _ _ => trivial⟩
  lookup id name rel := rel.scopesShown.lookup id name
  output rel _ := rel.scopesShown.outputText _
  newList rel _ := ⟨(rel.newList _).1, (rel.newList _).2, trivial⟩
  putItem id position rel _ := rel.putItem id position _
  newMap rel _ := ⟨(rel.newMap _).1, (rel.newMap _).2, trivial⟩
  setEntry id key rel _ := rel.setEntry id key _
  setAttribute id key x rel := rel.setAttribute id key x
  newClosure rel _ := ⟨(rel.newClosure _).1, (rel.newClosure _).2, trivial⟩
  bind id name rel _ := rel.bind id name _
  print text rel _ := rel.print _ text
  frame rel _ _ := ⟨(rel.newScope _ _).1, (rel.newScope _ _).2, trivial⟩

end Shift

end CircuitScript
