import Mathlib.Data.List.Basic
import CircuitScript.Proofs.Depth
import CircuitScript.Proofs.Looking

/-! What a value looks like does not depend on its place. Where the lists, maps, attribute sets and functions
of one store are found with the same contents at other places of a second one, a value has the same text
there, is equal to the same values, and operators and formats treat it alike. -/
namespace CircuitScript

namespace Table

variable {α β : Type}

def map (f : α → β) (table : Table α) : Table β :=
  ⟨table.entries.map fun entry => (entry.1, f entry.2), List.pairwise_map.mpr table.sorted⟩

theorem findMap (f : α → β) (key : String) (entries : List (String × α)) :
    find? key (entries.map fun entry => (entry.1, f entry.2)) = (find? key entries).map f := by
  induction entries with
  | nil => rfl
  | cons entry rest ih =>
    simp only [List.map_cons, find?]
    split
    · rfl
    · exact ih

theorem putMap (f : α → β) (key : String) (value : α) (entries : List (String × α)) :
    put key (f value) (entries.map fun entry => (entry.1, f entry.2)) =
      (put key value entries).map fun entry => (entry.1, f entry.2) := by
  induction entries with
  | nil => rfl
  | cons entry rest ih =>
    simp only [List.map_cons, put]
    split
    · rfl
    · split
      · rfl
      · rw [ih, List.map_cons]

@[simp] theorem getMap (f : α → β) (table : Table α) (key : String) :
    (table.map f).get? key = (table.get? key).map f :=
  findMap f key table.entries

theorem same {a b : Table α} (entries : a.entries = b.entries) : a = b := by
  cases a
  cases b
  cases entries
  rfl

theorem mapId (table : Table α) : table.map id = table :=
  same (by simp [map])

theorem insertMap (f : α → β) (table : Table α) (key : String) (value : α) :
    (table.map f).insert key (f value) = (table.insert key value).map f :=
  same (putMap f key value table.entries)

theorem insertAllMap (f : α → β) (table : Table α) (entries : List (String × α)) :
    (entries.map fun entry => (entry.1, f entry.2)).foldl
        (fun table entry => table.insert entry.1 entry.2) (table.map f) =
      (entries.foldl (fun table entry => table.insert entry.1 entry.2) table).map f := by
  induction entries generalizing table with
  | nil => rfl
  | cons entry rest ih =>
    simp only [List.map_cons, List.foldl_cons]
    rw [insertMap, ih]

theorem ofListMap (f : α → β) (entries : List (String × α)) :
    ofList (entries.map fun entry => (entry.1, f entry.2)) = (ofList entries).map f :=
  insertAllMap f empty entries

end Table

/-- Where the things of one store are found in another. -/
structure Places where
  scope : ScopeId → ScopeId
  list : ListId → ListId
  map : MapId → MapId
  handle : HandleId → HandleId
  closure : ClosureId → ClosureId

namespace Places

structure Apart (places : Places) : Prop where
  scopes : Function.Injective places.scope
  lists : Function.Injective places.list
  maps : Function.Injective places.map
  handles : Function.Injective places.handle
  closures : Function.Injective places.closure

-- Every thing at its own place.
def same : Places := ⟨id, id, id, id, id⟩

theorem sameApart : same.Apart :=
  ⟨Function.injective_id, Function.injective_id, Function.injective_id, Function.injective_id,
    Function.injective_id⟩

end Places

def FunctionId.moved (places : Places) : FunctionId → FunctionId
  | .builtin b => .builtin b
  | .closure id => .closure (places.closure id)

def Value.moved (places : Places) : Value → Value
  | .scalar s => .scalar s
  | .list id => .list (places.list id)
  | .map id => .map (places.map id)
  | .func f => .func (f.moved places)
  | .scope id => .scope (places.scope id)
  | .attributes id => .attributes (places.handle id)

def Closure.moved (places : Places) (closure : Closure) : Closure :=
  { closure with scope := places.scope closure.scope }

namespace Value

variable (places : Places)

@[simp] theorem movedScalar (s : Scalar) : (scalar s).moved places = scalar s := rfl

@[simp] theorem movedList (id : ListId) : (list id).moved places = list (places.list id) := rfl

@[simp] theorem movedMap (id : MapId) : (map id).moved places = map (places.map id) := rfl

@[simp] theorem movedFunc (f : FunctionId) : (func f).moved places = func (f.moved places) := rfl

@[simp] theorem movedScope (id : ScopeId) : (scope id).moved places = scope (places.scope id) := rfl

@[simp] theorem movedAttributes (id : HandleId) :
    (attributes id).moved places = attributes (places.handle id) := rfl

end Value

@[simp] theorem FunctionId.movedSame (f : FunctionId) : f.moved .same = f := by
  cases f <;> rfl

@[simp] theorem Value.movedSame (value : Value) : value.moved .same = value := by
  cases value with
  | func f => exact congrArg Value.func f.movedSame
  | _ => rfl

theorem Value.allMovedSame : Value.moved .same = id := funext Value.movedSame

theorem Places.Apart.functions {places : Places} (apart : places.Apart) :
    Function.Injective (FunctionId.moved places) := by
  intro a b same
  cases a <;> cases b <;> simp only [FunctionId.moved, FunctionId.builtin.injEq,
    FunctionId.closure.injEq, reduceCtorEq] at same ⊢
  · exact same
  · exact apart.closures same

/-- What can be read of the first store's lists, maps, attribute sets and functions is found at their places
in the second one. -/
structure Shown (places : Places) (store other : Store) : Prop where
  apart : places.Apart
  items : ∀ id, other.items (places.list id) = (store.items id).map (Value.moved places)
  entries : ∀ id, other.mapEntries (places.map id) = (store.mapEntries id).map (Value.moved places)
  attributes : ∀ id, other.attributesOf (places.handle id) = store.attributesOf id
  closures : ∀ id, other.closure? (places.closure id) = (store.closure? id).map (Closure.moved places)
  containers : store.containerCount ≤ other.containerCount
  pairs : store.pairCount ≤ other.pairCount

variable {places : Places} {store other : Store}

theorem shownSame (lists : other.lists = store.lists) (maps : other.maps = store.maps)
    (handles : other.handles = store.handles) (closures : other.closures = store.closures) :
    Shown .same store other where
  apart := Places.sameApart
  items list := by
    rw [Value.allMovedSame, Array.map_id, Store.items, Store.items, lists]
    rfl
  entries map := by
    rw [Value.allMovedSame, Table.mapId, Store.mapEntries, Store.mapEntries, maps]
    rfl
  attributes handle := by
    rw [Store.attributesOf, Store.attributesOf, handles]
    rfl
  closures function := by
    have same : Closure.moved .same = id := rfl
    rw [same, Option.map_id, Store.closure?, Store.closure?, closures]
    rfl
  containers := Nat.le_of_eq (by rw [Store.containerCount, Store.containerCount, lists, maps])
  pairs := Nat.le_of_eq (by rw [Store.pairCount, Store.pairCount, lists, maps])

namespace Shown

variable (shown : Shown places store other)
include shown

theorem functionName (f : FunctionId) :
    other.functionName (f.moved places) = store.functionName f := by
  cases f with
  | builtin b => rfl
  | closure id =>
    simp only [FunctionId.moved, Store.functionName, shown.closures]
    cases store.closure? id <;> rfl

theorem functionArity (f : FunctionId) :
    other.functionArity (f.moved places) = store.functionArity f := by
  cases f with
  | builtin b => rfl
  | closure id =>
    simp only [FunctionId.moved, Store.functionArity, shown.closures]
    cases store.closure? id <;> rfl

end Shown

def Container.moved (places : Places) : Container → Container
  | .list id => .list (places.list id)
  | .map id => .map (places.map id)

theorem Places.Apart.containers (apart : places.Apart) :
    Function.Injective (Container.moved places) := by
  intro a b same
  cases a <;> cases b <;> simp only [Container.moved, Container.list.injEq, Container.map.injEq,
    reduceCtorEq] at same ⊢
  · exact apart.lists same
  · exact apart.maps same

namespace Shown

variable (shown : Shown places store other)
include shown

theorem textWithin (depth : Nat) (around : List Container) (value : Value) :
    other.textWithin depth (around.map (Container.moved places)) (value.moved places) =
      store.textWithin depth around value := by
  have member (a : Container) (around : List Container) :
      a.moved places ∈ around.map (Container.moved places) ↔ a ∈ around :=
    List.mem_map_of_injective shown.apart.containers
  induction depth generalizing around value with
  | zero =>
    cases value with
    | func f => simp only [Value.moved, Store.textWithin, shown.functionName]
    | _ => rfl
  | succ depth ih =>
    cases value with
    | list id =>
      have seen := member (.list id) around
      have inner := ih (.list id :: around)
      simp only [Container.moved] at seen
      simp only [Container.moved, List.map_cons] at inner
      simp only [Value.movedList, Store.textWithin, seen, shown.items, Array.toList_map, List.map_map,
        Function.comp_def, inner]
    | map id =>
      have seen := member (.map id) around
      have inner := ih (.map id :: around)
      simp only [Container.moved] at seen
      simp only [Container.moved, List.map_cons] at inner
      simp only [Value.movedMap, Store.textWithin, seen, shown.entries, Table.map, List.map_map,
        Function.comp_def, inner]
    | func f => simp only [Value.moved, Store.textWithin, shown.functionName]
    | _ => rfl

theorem text (value : Value) : other.text (value.moved places) = store.text value := by
  calc other.text (value.moved places)
    _ = store.textWithin (other.containerCount + 1) [] value := shown.textWithin _ [] value
    -- The other store may count more containers, but the depth was enough before.
    _ = store.text value := store.textDeep value (Nat.lt_succ_of_le shown.containers)

end Shown

def ContainerPair.moved (places : Places) : ContainerPair → ContainerPair
  | .lists a b => .lists (places.list a) (places.list b)
  | .maps a b => .maps (places.map a) (places.map b)

theorem Places.Apart.pairs (apart : places.Apart) :
    Function.Injective (ContainerPair.moved places) := by
  intro a b same
  cases a <;> cases b <;> simp only [ContainerPair.moved, ContainerPair.lists.injEq,
    ContainerPair.maps.injEq, reduceCtorEq] at same ⊢
  · exact ⟨apart.lists same.1, apart.lists same.2⟩
  · exact ⟨apart.maps same.1, apart.maps same.2⟩

namespace Shown

variable (shown : Shown places store other)
include shown

theorem sameWithin (depth : Nat) (around : List ContainerPair) (a b : Value) :
    other.sameWithin depth (around.map (ContainerPair.moved places)) (a.moved places)
      (b.moved places) = store.sameWithin depth around a b := by
  have member (pair : ContainerPair) (around : List ContainerPair) :
      pair.moved places ∈ around.map (ContainerPair.moved places) ↔ pair ∈ around :=
    List.mem_map_of_injective shown.apart.pairs
  have functions : ∀ f g : FunctionId, (f.moved places == g.moved places) = (f == g) :=
    fun f g => by simp only [beq_eq_decide, shown.apart.functions.eq_iff]
  have scopes : ∀ x y : ScopeId, (places.scope x == places.scope y) = (x == y) :=
    fun x y => by simp only [beq_eq_decide, shown.apart.scopes.eq_iff]
  have handles : ∀ x y : HandleId, (places.handle x == places.handle y) = (x == y) :=
    fun x y => by simp only [beq_eq_decide, shown.apart.handles.eq_iff]
  induction depth generalizing around a b with
  | zero => cases a <;> cases b <;> simp only [Value.moved, Store.sameWithin, functions, scopes, handles]
  | succ depth ih =>
    cases a <;> cases b
    case list.list a b =>
      have seen := member (.lists a b) around
      have inner := ih (.lists a b :: around)
      simp only [ContainerPair.moved] at seen
      simp only [ContainerPair.moved, List.map_cons] at inner
      simp only [Value.movedList, Store.sameWithin, seen, shown.apart.lists.eq_iff, shown.items,
        Array.toList_map, List.length_map, List.zip_map, List.all_map, Function.comp_def, Prod.map,
        inner]
    case map.map a b =>
      have seen := member (.maps a b) around
      have inner := ih (.maps a b :: around)
      simp only [ContainerPair.moved] at seen
      simp only [ContainerPair.moved, List.map_cons] at inner
      simp only [Value.movedMap, Store.sameWithin, seen, shown.apart.maps.eq_iff, shown.entries,
        Table.map, List.length_map, List.zip_map, List.all_map, Function.comp_def, Prod.map, inner]
    all_goals simp only [Value.moved, Store.sameWithin, functions, scopes, handles]

theorem same (a b : Value) : other.same (a.moved places) (b.moved places) = store.same a b := by
  calc other.same (a.moved places) (b.moved places)
    _ = store.sameWithin (other.pairCount + 1) [] a b := shown.sameWithin _ [] a b
    _ = store.same a b := store.sameDeep a b (Nat.lt_succ_of_le shown.pairs)

end Shown

theorem GivesScalar.moved {result : Except EvalError Value} (scalar : GivesScalar result) :
    result.map (Value.moved places) = result := by
  cases result with
  | error e => rfl
  | ok value =>
    obtain ⟨s, rfl⟩ := scalar value rfl
    rfl

namespace Value

theorem movedLike (v : Value) : v.Like (v.moved places) := by
  cases v with
  | func f => cases f <;> constructor
  | _ => constructor

@[simp] theorem toNumberMoved (value : Value) : (value.moved places).toNumber = value.toNumber := by
  cases value <;> rfl

@[simp] theorem toIntMoved (value : Value) : (value.moved places).toInt = value.toInt :=
  (movedLike value).toInt

@[simp] theorem toFloatMoved (value : Value) : (value.moved places).toFloat = value.toFloat :=
  (movedLike value).toFloat

@[simp] theorem toBoolMoved (value : Value) : (value.moved places).toBool = value.toBool :=
  (movedLike value).toBool

@[simp] theorem isStrMoved (value : Value) : (value.moved places).isStr = value.isStr := by
  cases value <;> rfl

@[simp] theorem arithmeticMoved (op : Number → Number → Except EvalError Number) (a b : Value) :
    arithmetic op (a.moved places) (b.moved places) = arithmetic op a b := by
  simp only [arithmetic, toNumberMoved]

@[simp] theorem bitwiseMoved (bools : Bool → Bool → Bool) (ints : Int64 → Int64 → Int64) (a b : Value) :
    bitwise bools ints (a.moved places) (b.moved places) = bitwise bools ints a b := by
  cases a with
  | scalar s => cases s <;> cases b <;> rfl
  | list id | map id | func f | scope id | attributes id => rfl

@[simp] theorem shiftMoved (op : Int64 → Int64 → Int64) (a b : Value) :
    shift op (a.moved places) (b.moved places) = shift op a b := by
  simp only [shift, toIntMoved]

@[simp] theorem orderMoved (a b : Value) : (a.moved places).order (b.moved places) = a.order b :=
  (movedLike a).order (movedLike b)

@[simp] theorem compareMoved (holds : Ordering → Bool) (a b : Value) :
    compareBy holds (a.moved places) (b.moved places) = compareBy holds a b := by
  simp only [compareBy, orderMoved]

end Value

namespace Shown

variable (shown : Shown places store other)
include shown

theorem add (a b : Value) : other.add (a.moved places) (b.moved places) = store.add a b := by
  simp only [Store.add, Value.isStrMoved, shown.text, Value.arithmeticMoved]

theorem equal (a b : Value) : other.equal (a.moved places) (b.moved places) = store.equal a b := by
  have same := shown.same a b
  cases a with
  | scalar s =>
    cases b with
    | scalar t => cases s <;> cases t <;> rfl
    | list id | map id | func f | scope id | attributes id => cases s <;> exact same
  | list id | map id | func f | scope id | attributes id => exact same

theorem applyBinary (op : BinaryOp) (a b : Value) :
    other.applyBinary op (a.moved places) (b.moved places) = store.applyBinary op a b := by
  cases op <;> simp only [Store.applyBinary, shown.add, shown.equal, Value.arithmeticMoved,
    Value.compareMoved, Value.bitwiseMoved, Value.shiftMoved, Value.toBoolMoved]

theorem convert (directive : Directive) (value : Value) :
    directive.convert other (value.moved places) = directive.convert store value := by
  simp only [Directive.convert, Value.toIntMoved, Value.toFloatMoved, shown.text]

theorem fill (pieces : List Piece) (args : List Value) :
    Piece.fill other pieces (args.map (Value.moved places)) = Piece.fill store pieces args := by
  induction pieces generalizing args with
  | nil => simp only [Piece.fill]
  | cons piece rest ih =>
    cases piece with
    | plain c => simp only [Piece.fill, ih]
    | directive d =>
      cases args with
      | nil =>
        have none := ih []
        simp only [List.map_nil] at none
        simp only [List.map_nil, Piece.fill, none]
      | cons value args =>
        have all := ih (value :: args)
        simp only [List.map_cons] at all
        simp only [List.map_cons, Piece.fill, shown.convert, all, ih]

theorem format (text : String) (args : List Value) :
    other.format text (args.map (Value.moved places)) = store.format text args := by
  simp only [Store.format, shown.fill]

end Shown

end CircuitScript
