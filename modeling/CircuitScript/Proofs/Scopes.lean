import CircuitScript.Proofs.Moves

/-! Single scopes after a change of the store. -/
namespace CircuitScript

variable {allowed : ScopeId → Prop} {active : ScopeId}

theorem ScopeId.sameIndex {a b : ScopeId} (same : a.index = b.index) : a = b := by
  cases a
  cases b
  simpa using same

namespace Store

theorem scopeUpdated (store : Store) (id other : ScopeId) (f : Scope → Scope) :
    (store.updateScope id f).scope? other =
      if id = other then (store.scope? other).map f else store.scope? other := by
  show (store.scopes.modify id.index f)[other.index]? = _
  rw [Array.getElem?_modify]
  by_cases same : id = other
  · subst same
    simp [scope?]
  · have apart : id.index ≠ other.index := fun index => same (ScopeId.sameIndex index)
    rw [if_neg apart, if_neg same]
    rfl

theorem scopeAdded (store : Store) (parent : Option ScopeId) (output : Output) (id : ScopeId) :
    (store.newScope parent output).2.scope? id =
      if id.index = store.scopes.size then some ⟨coreNames, parent, output⟩ else store.scope? id :=
  Array.getElem?_push

theorem scopeOlder (store : Store) (parent : Option ScopeId) (output : Output) {id : ScopeId}
    (old : id.index < store.scopes.size) :
    (store.newScope parent output).2.scope? id = store.scope? id := by
  rw [scopeAdded, if_neg (Nat.ne_of_lt old)]

theorem countUpdated (store : Store) (id : ScopeId) (f : Scope → Scope) :
    (store.updateScope id f).scopes.size = store.scopes.size := Array.size_modify

theorem countAdded (store : Store) (parent : Option ScopeId) (output : Output) :
    (store.newScope parent output).2.scopes.size = store.scopes.size + 1 := Array.size_push _

theorem scopeThere {store : Store} {id : ScopeId} (here : id.index < store.scopes.size) :
    ∃ scope, store.scope? id = some scope := ⟨_, Array.getElem?_eq_getElem here⟩

theorem scopeInside {store : Store} {id : ScopeId} {scope : Scope}
    (found : store.scope? id = some scope) : id.index < store.scopes.size := by
  obtain ⟨inside, _⟩ := Array.getElem?_eq_some_iff.mp found
  exact inside

theorem parentAdded (store : Store) (parent : Option ScopeId) (output : Output) (id : ScopeId) :
    (store.newScope parent output).2.parent? id =
      if id.index = store.scopes.size then parent else store.parent? id := by
  unfold parent?
  rw [scopeAdded]
  by_cases new : id.index = store.scopes.size
  · rw [if_pos new, if_pos new]
    rfl
  · rw [if_neg new, if_neg new]

theorem parentUpdated (store : Store) (id other : ScopeId) {f : Scope → Scope}
    (same : ∀ scope, (f scope).parent = scope.parent) :
    (store.updateScope id f).parent? other = store.parent? other := by
  unfold parent?
  rw [scopeUpdated]
  split
  · cases store.scope? other with
    | none => rfl
    | some scope => exact same scope
  · rfl

theorem parentBound (store : Store) (id : ScopeId) (name : String) (value : Value) (other : ScopeId) :
    (store.bind id name value).parent? other = store.parent? other :=
  parentUpdated store id other fun _ => rfl

theorem parentPrinted (store : Store) (id : ScopeId) (text : String) (other : ScopeId) :
    (store.print id text).parent? other = store.parent? other :=
  parentUpdated store (store.sink id) other fun _ => rfl

theorem namesBound (store : Store) (id : ScopeId) (name : String) (value : Value) {other : ScopeId}
    (apart : other ≠ id) : (store.bind id name value).names other = store.names other := by
  unfold names bind
  rw [scopeUpdated, if_neg (Ne.symm apart)]

theorem namesPrinted (store : Store) (id : ScopeId) (text : String) (other : ScopeId) :
    (store.print id text).names other = store.names other := by
  unfold names print
  rw [scopeUpdated]
  by_cases same : store.sink id = other
  · rw [if_pos same]
    cases store.scope? other <;> rfl
  · rw [if_neg same]

theorem namesOlder (store : Store) (parent : Option ScopeId) (output : Output) {id : ScopeId}
    (old : id.index < store.scopes.size) :
    (store.newScope parent output).2.names id = store.names id := by
  unfold names
  rw [scopeOlder store parent output old]

end Store

theorem Change.scopes {store next : Store} (change : Change allowed active store next) :
    next.scopes = store.scopes := by
  cases change <;> rfl

end CircuitScript
