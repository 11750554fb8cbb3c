import CircuitScript.Proofs.Simulated

/-! Scopes at other places. Names are looked up along the links between scopes, and text is printed along
them, so both are found again as long as the older of two linked scopes stays the older one. -/
namespace CircuitScript

def Output.moved (places : Places) : Output → Output
  | .own text => .own text
  | .through scope => .through (places.scope scope)

def Scope.moved (places : Places) (scope : Scope) : Scope :=
  ⟨scope.names.map (Value.moved places), scope.parent.map places.scope, scope.output.moved places⟩

theorem builtinsMoved (places : Places) (functions : List Builtin) :
    (functions.map fun b => (b.name, Value.func (.builtin b))).map
        (fun entry => (entry.1, entry.2.moved places)) =
      functions.map fun b => (b.name, .func (.builtin b)) := by
  rw [List.map_map]
  rfl

theorem coreNamesMoved (places : Places) :
    Store.coreNames.map (Value.moved places) = Store.coreNames := by
  unfold Store.coreNames
  rw [← Table.ofListMap, builtinsMoved]

def Scope.LinksTo (scope : Scope) (link : ScopeId) : Prop :=
  scope.parent = some link ∨ scope.output = .through link

/-- The scopes of the first store are found at their places in the second one. -/
structure ScopesShown (places : Places) (store other : Store) : Prop where
  scope : ∀ id, other.scope? (places.scope id) = (store.scope? id).map (Scope.moved places)
  order : ∀ id scope link, store.scope? id = some scope → scope.LinksTo link →
    ((places.scope link).index < (places.scope id).index ↔ link.index < id.index)

namespace ScopesShown

variable {places : Places} {store other : Store} (shown : ScopesShown places store other)
include shown

theorem names (id : ScopeId) :
    other.names (places.scope id) = (store.names id).map (Value.moved places) := by
  unfold Store.names
  rw [shown.scope]
  cases store.scope? id with
  | none => rfl
  | some scope => rfl

theorem parent (id : ScopeId) :
    other.parent? (places.scope id) = (store.parent? id).map places.scope := by
  unfold Store.parent?
  rw [shown.scope]
  cases store.scope? id with
  | none => rfl
  | some scope => rfl

theorem parentOrder {id parent : ScopeId} (found : store.parent? id = some parent) :
    (places.scope parent).index < (places.scope id).index ↔ parent.index < id.index := by
  obtain ⟨scope, there, link⟩ := Option.bind_eq_some_iff.mp found
  exact shown.order id scope parent there (.inl link)

theorem chain (id : ScopeId) :
    other.chain (places.scope id) = (store.chain id).map places.scope := by
  fun_induction Store.chain store id with
  | case1 id parent found below ih =>
    rw [Store.chain, shown.parent, found]
    simp only [Option.map_some, shown.parentOrder found, below, if_true, ih, List.map_cons]
  | case2 id parent found level =>
    rw [Store.chain, shown.parent, found]
    simp only [Option.map_some, shown.parentOrder found, level, if_false, List.map_cons, List.map_nil]
  | case3 id absent =>
    rw [Store.chain, shown.parent, absent]
    rfl

theorem lookup (id : ScopeId) (name : String) :
    other.lookup? (places.scope id) name = (store.lookup? id name).map (Value.moved places) := by
  unfold Store.lookup?
  rw [shown.chain]
  induction store.chain id with
  | nil => rfl
  | cons scope rest ih =>
    simp only [List.map_cons, List.findSome?_cons, shown.names, Table.getMap]
    cases (store.names scope).get? name with
    | none => exact ih
    | some value => rfl

theorem sink (id : ScopeId) : other.sink (places.scope id) = places.scope (store.sink id) := by
  fun_induction Store.sink store id with
  | case1 id names parent next found below ih =>
    have order := shown.order id _ next found (.inr rfl)
    rw [Store.sink, shown.scope, found]
    simp only [Option.map_some, Scope.moved, Output.moved, order, below, if_true, ih]
  | case2 id names parent next found level =>
    have order := shown.order id _ next found (.inr rfl)
    rw [Store.sink, shown.scope, found]
    simp only [Option.map_some, Scope.moved, Output.moved, order, level, if_false]
  | case3 id ends =>
    rw [Store.sink, shown.scope]
    cases found : store.scope? id with
    | none => rfl
    | some scope =>
      obtain ⟨names, parent, output⟩ := scope
      cases output with
      | own text => rfl
      | through next => exact absurd found (ends names parent next)

theorem ownText (id : ScopeId) : other.ownText? (places.scope id) = store.ownText? id := by
  unfold Store.ownText?
  rw [shown.scope]
  cases store.scope? id with
  | none => rfl
  | some scope =>
    obtain ⟨names, parent, output⟩ := scope
    cases output <;> rfl

theorem outputText (id : ScopeId) : other.outputText (places.scope id) = store.outputText id := by
  unfold Store.outputText
  rw [shown.sink, shown.ownText]

end ScopesShown

end CircuitScript
