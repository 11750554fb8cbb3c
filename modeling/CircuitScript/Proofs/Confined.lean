import CircuitScript.Proofs.Closed
import CircuitScript.Proofs.Lookup
import CircuitScript.Proofs.Parts

/-! What a script can get at from its scope. A territory is a set of values from which only values of the set are
read. As long as no function in it assigns to a field, a script that starts in it stays in it, and leaves every
attribute set as it is. -/
namespace CircuitScript

namespace Part

def assignsField : Part → Bool
  | stmt (.assign (.field _ _) _) => true
  | stmt (.compound (.field _ _) _ _) => true
  | _ => false

/-- No assignment to a field at any depth, inside of functions included. -/
def FieldFree (whole : Part) : Prop := ∀ part, whole.Contains part → part.assignsField = false

theorem FieldFree.own {whole : Part} (free : whole.FieldFree) : whole.assignsField = false := free whole .refl

theorem FieldFree.children {whole : Part} (free : whole.FieldFree) : ∀ child ∈ whole.children, child.FieldFree :=
  fun _ member part inside => free part (.head member inside)

-- A test for trees up to a depth.
def fieldFreeWithin : Nat → Part → Bool
  | 0, _ => false
  | depth + 1, part => !part.assignsField && part.children.all (fieldFreeWithin depth)

theorem fieldFreeOfTest {depth : Nat} {whole : Part} (tested : fieldFreeWithin depth whole = true) :
    whole.FieldFree := by
  induction depth generalizing whole with
  | zero => cases tested
  | succ depth ih =>
    simp only [fieldFreeWithin, Bool.and_eq_true, Bool.not_eq_true', List.all_eq_true] at tested
    intro part inside
    rcases inside.cases_head with rfl | ⟨child, member, deeper⟩
    · exact tested.1
    · exact ih (tested.2 child member) part deeper

end Part

abbrev Stmt.FieldFree (s : Stmt) : Prop := (Part.stmt s).FieldFree

def Reference.IsField : Reference → Prop
  | .field _ _ => True
  | _ => False

theorem Stmt.FieldFree.assigned {target : Reference} {e : Expr} (free : (Stmt.assign target e).FieldFree) :
    ¬target.IsField := by
  cases target with
  | field parent key => cases free.own
  | _ => exact id

theorem Stmt.FieldFree.compounded {target : Reference} {op : BinaryOp} {e : Expr}
    (free : (Stmt.compound target op e).FieldFree) : ¬target.IsField := by
  cases target with
  | field parent key => cases free.own
  | _ => exact id

/-- Values that can be got at from a scope: by names, from the scopes around, as items and entries, and in the scopes
where functions were defined. -/
inductive Store.Reaches (store : Store) (start : ScopeId) : Value → Prop where
  | start : Reaches store start (.scope start)
  | name {id : ScopeId} {name : String} {value : Value} (holder : Reaches store start (.scope id))
      (bound : (store.names id).get? name = some value) : Reaches store start value
  | around {id outer : ScopeId} (inner : Reaches store start (.scope id)) (found : store.parent? id = some outer) :
      Reaches store start (.scope outer)
  | item {id : ListId} {value : Value} (holder : Reaches store start (.list id)) (member : value ∈ store.items id) :
      Reaches store start value
  | entry {id : MapId} {key : String} {value : Value} (holder : Reaches store start (.map id))
      (bound : (store.mapEntries id).get? key = some value) : Reaches store start value
  | definer {id : ClosureId} {closure : Closure} (function : Reaches store start (.func (.closure id)))
      (found : store.closure? id = some closure) : Reaches store start (.scope closure.scope)

/-- No function that can be got at from the scope assigns to a field. -/
def Store.FunctionsFieldFree (store : Store) (start : ScopeId) : Prop :=
  ∀ id closure, store.Reaches start (.func (.closure id)) → store.closure? id = some closure → closure.body.FieldFree

-- A set of values with all those that lead nowhere.
structure Territory where
  has : Value → Prop
  scalar : ∀ s, has (.scalar s)
  builtin : ∀ b, has (.func (.builtin b))

/-- Nothing of the territory leads out of it, no function in it assigns to a field, and whatever is made next will
belong to it. The attribute sets are the given ones. -/
structure Territory.Encloses (land : Territory) (handles : Array Attributes) (store : Store) : Prop where
  names : ∀ {id name value}, land.has (.scope id) → (store.names id).get? name = some value → land.has value
  parents : ∀ {id outer}, land.has (.scope id) → store.parent? id = some outer → land.has (.scope outer)
  items : ∀ {id value}, land.has (.list id) → value ∈ store.items id → land.has value
  entries : ∀ {id key value}, land.has (.map id) → (store.mapEntries id).get? key = some value → land.has value
  definers : ∀ {id closure}, land.has (.func (.closure id)) → store.closure? id = some closure →
    land.has (.scope closure.scope)
  bodies : ∀ {id closure}, land.has (.func (.closure id)) → store.closure? id = some closure →
    closure.body.FieldFree
  newer : ∀ value : Value, ¬value.There store → land.has value
  handles : store.handles = handles

variable {land : Territory} {handles : Array Attributes} {store : Store}

theorem Store.namesUpdated {id other : ScopeId} {f : Scope → Scope} {name : String} {value : Value}
    (found : ((store.updateScope id f).names other).get? name = some value) :
    (store.names other).get? name = some value ∨
      ∃ scope, store.scope? other = some scope ∧ (f scope).names.get? name = some value := by
  unfold Store.names at found ⊢
  rw [Store.scopeUpdated] at found
  by_cases same : id = other
  · rw [if_pos same] at found
    cases there : store.scope? other with
    | none => simp [there] at found
    | some scope =>
      rw [there] at found
      exact .inr ⟨scope, rfl, found⟩
  · rw [if_neg same] at found
    exact .inl found

theorem Store.itemPutCases {id other : ListId} {position : Nat} {value found : Value}
    (member : found ∈ (store.putItem id position value).items other) :
    found ∈ store.items other ∨ found = value := by
  unfold Store.items Store.putItem Store.updateList at member
  rw [Array.getElem?_modify] at member
  split at member
  · cases there : store.lists[other.index]? with
    | none => simp [there] at member
    | some items =>
      simp only [there, Option.map_some, Option.getD_some] at member
      unfold Store.items
      rw [there]
      split at member
      · exact Array.mem_or_eq_of_mem_setIfInBounds member
      · exact Array.mem_push.mp member
  · exact .inl member

namespace Territory.Encloses

section Steps

variable (encloses : land.Encloses handles store)
include encloses

theorem chain {id other : ScopeId} (own : land.has (.scope id)) (member : other ∈ store.chain id) :
    land.has (.scope other) := by
  fun_induction Store.chain store id with
  | case1 id outer found older ih =>
    rcases List.mem_cons.mp member with rfl | further
    · exact own
    · exact ih (encloses.parents own found) further
  | case2 id outer found newer =>
    cases List.mem_singleton.mp member
    exact own
  | case3 id none =>
    cases List.mem_singleton.mp member
    exact own

theorem read {id : ScopeId} {name : String} {value : Value} (own : land.has (.scope id))
    (found : store.read id name = .ok value) : land.has value := by
  unfold Store.read Store.lookup? at found
  split at found
  · rename_i other seen
    cases found
    obtain ⟨scope, member, bound⟩ := List.exists_of_findSome?_eq_some seen
    exact encloses.names (encloses.chain own member) bound
  · split at found
    · cases found
      exact land.scalar _
    · cases found

theorem readField {target : Value} {key : String} {value : Value} (own : land.has target)
    (found : store.readField target key = .ok value) : land.has value := by
  unfold Store.readField at found
  split at found
  · split at found
    · rename_i seen
      cases found
      exact encloses.entries own seen
    · cases found
  · exact encloses.read own found
  · split at found
    · cases found
      exact land.scalar _
    · cases found
  · cases found

theorem updateScope (id : ScopeId) {f : Scope → Scope} (parent : ∀ scope, (f scope).parent = scope.parent)
    (names : ∀ {scope : Scope} {name value}, (f scope).names.get? name = some value →
      scope.names.get? name = some value ∨ land.has value) :
    land.Encloses handles (store.updateScope id f) := by
  refine { encloses with names := ?_, parents := ?_, newer := ?_ }
  · intro other name value own found
    rcases Store.namesUpdated found with old | ⟨scope, there, new⟩
    · exact encloses.names own old
    · rcases names new with old | good
      · have bound : (store.names other).get? name = some value := by
          unfold Store.names
          rwa [there]
        exact encloses.names own bound
      · exact good
  · intro other outer own found
    rw [Store.parentUpdated store id other parent] at found
    exact encloses.parents own found
  · intro value away
    exact encloses.newer value fun there => away (there.grown (store.grownUpdateScope id f))

theorem bind (id : ScopeId) (name : String) {value : Value} (good : land.has value) :
    land.Encloses handles (store.bind id name value) := by
  refine encloses.updateScope id (fun _ => rfl) fun {scope other found} bound => ?_
  have bound : (scope.names.insert name value).get? other = some found := bound
  rw [Table.getInsert] at bound
  split at bound
  · cases bound
    exact .inr good
  · exact .inl bound

theorem print (id : ScopeId) (text : String) : land.Encloses handles (store.print id text) :=
  encloses.updateScope _ (fun _ => rfl) fun bound => .inl bound

theorem newScope {parent : Option ScopeId} (around : ∀ outer ∈ parent, land.has (.scope outer)) (output : Output) :
    land.Encloses handles (store.newScope parent output).2 := by
  refine { encloses with names := ?_, parents := ?_, newer := ?_ }
  · intro id name value own found
    unfold Store.names at found
    rw [Store.scopeAdded] at found
    split at found
    · rename_i scope same
      split at same
      · cases same
        exact (coreNamesAll land.builtin).get found
      · have bound : (store.names id).get? name = some value := by
          unfold Store.names
          rwa [same]
        exact encloses.names own bound
    · cases found
  · intro id outer own found
    rw [Store.parentAdded] at found
    split at found
    · exact around outer found
    · exact encloses.parents own found
  · exact fun value away => encloses.newer value fun there => away (there.grown (store.grownNewScope parent output))

theorem newList {items : Array Value} (good : ∀ value ∈ items, land.has value) :
    land.Encloses handles (store.newList items).2 := by
  refine { encloses with items := ?_, newer := ?_ }
  · intro id value own member
    unfold Store.items Store.newList at member
    rw [Array.getElem?_push] at member
    split at member
    · exact good value member
    · exact encloses.items own member
  · exact fun value away => encloses.newer value fun there => away (there.grown (store.grownNewList items))

theorem putItem (id : ListId) (position : Nat) {value : Value} (good : land.has value) :
    land.Encloses handles (store.putItem id position value) := by
  refine { encloses with items := ?_, newer := ?_ }
  · intro other found own member
    rcases Store.itemPutCases member with old | rfl
    · exact encloses.items own old
    · exact good
  · exact fun other away =>
      encloses.newer other fun there => away (there.grown (store.grownPutItem id position value))

theorem newMap {entries : Table Value} (good : entries.All land.has) :
    land.Encloses handles (store.newMap entries).2 := by
  refine { encloses with entries := ?_, newer := ?_ }
  · intro id key value own found
    unfold Store.mapEntries Store.newMap at found
    rw [Array.getElem?_push] at found
    split at found
    · exact good.get found
    · exact encloses.entries own found
  · exact fun value away => encloses.newer value fun there => away (there.grown (store.grownNewMap entries))

theorem newClosure {closure : Closure} (free : closure.body.FieldFree) (own : land.has (.scope closure.scope)) :
    land.Encloses handles (store.newClosure closure).2 := by
  have pushed {id : ClosureId} {found : Closure} (there : (store.newClosure closure).2.closure? id = some found) :
      found = closure ∨ store.closure? id = some found := by
    have there : (store.closures.push closure)[id.index]? = some found := there
    rw [Array.getElem?_push] at there
    split at there
    · cases there
      exact .inl rfl
    · exact .inr there
  refine { encloses with definers := ?_, bodies := ?_, newer := ?_ }
  · intro id found has there
    rcases pushed there with rfl | old
    · exact own
    · exact encloses.definers has old
  · intro id found has there
    rcases pushed there with rfl | old
    · exact free
    · exact encloses.bodies has old
  · exact fun value away => encloses.newer value fun there => away (there.grown (store.grownNewClosure closure))

theorem bindAll (id : ScopeId) {bindings : List (String × Value)} (good : ∀ binding ∈ bindings, land.has binding.2) :
    land.Encloses handles (store.bindAll id bindings) := by
  induction bindings generalizing store with
  | nil => exact encloses
  | cons first rest ih =>
    have now := encloses.bind id first.1 (good first List.mem_cons_self)
    exact ih now fun binding member => good binding (List.mem_cons_of_mem _ member)

theorem entered {closure : Closure} (definer : land.has (.scope closure.scope)) (caller : ScopeId)
    {args : List Value} (good : ∀ value ∈ args, land.has value) :
    land.Encloses handles (store.entered closure caller args) := by
  refine bindAll (encloses.newScope (fun outer found => ?_) _) _ fun binding member => ?_
  · cases found
    exact definer
  · exact good binding.2 (List.of_mem_zip member).2

theorem newFrame : land.has (.scope ⟨store.scopes.size⟩) :=
  encloses.newer _ (Nat.lt_irrefl store.scopes.size)

end Steps

end Territory.Encloses

end CircuitScript
