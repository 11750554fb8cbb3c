import CircuitScript.Proofs.Shift

/-! Stores in which every place that is named is there. Scripts keep a store so. What is added to such a
store later is out of reach from what was there before, so a script that starts with the old things runs
as if nothing had been added. -/
namespace CircuitScript

def Value.There (store : Store) : Value → Prop
  | .scalar _ => True
  | .list id => id.index < store.lists.size
  | .map id => id.index < store.maps.size
  | .func (.builtin _) => True
  | .func (.closure id) => id.index < store.closures.size
  | .scope id => id.index < store.scopes.size
  | .attributes id => id.index < store.handles.size

-- Where names are looked up and where text goes.
structure Scope.There (store : Store) (scope : Scope) : Prop where
  parent : ∀ outer, scope.parent = some outer → outer.index < store.scopes.size
  output : ∀ next, scope.output = .through next → next.index < store.scopes.size

structure Store.Closed (store : Store) : Prop where
  held : store.Holds (Value.There store)
  scopes : ∀ (i : Nat) (scope : Scope), store.scopes[i]? = some scope → scope.There store
  closures : ∀ (i : Nat) (closure : Closure), store.closures[i]? = some closure →
    closure.scope.index < store.scopes.size

variable {store later : Store}

theorem Value.There.grown {value : Value} (there : value.There store) (grown : store.Grown later) :
    value.There later := by
  cases value with
  | scalar s => trivial
  | list id => exact Nat.lt_of_lt_of_le there grown.lists
  | map id => exact Nat.lt_of_lt_of_le there grown.maps
  | func f =>
    cases f with
    | builtin b => trivial
    | closure id => exact Nat.lt_of_lt_of_le there grown.closures
  | scope id => exact Nat.lt_of_lt_of_le there grown.scopes
  | attributes id => exact Nat.lt_of_lt_of_le there grown.handles

theorem Scope.There.grown {scope : Scope} (there : scope.There store) (grown : store.Grown later) :
    scope.There later :=
  ⟨fun outer found => Nat.lt_of_lt_of_le (there.parent outer found) grown.scopes,
    fun next found => Nat.lt_of_lt_of_le (there.output next found) grown.scopes⟩

theorem builtinThere (store : Store) (b : Builtin) : (Value.func (.builtin b)).There store := trivial

theorem emptyClosed : Store.empty.Closed where
  held := ⟨fun _ _ found => (by cases found), fun _ _ found => (by cases found),
    fun _ _ found => (by cases found)⟩
  scopes _ _ found := by cases found
  closures _ _ found := by cases found

namespace Store.Closed

variable (closed : store.Closed)
include closed

theorem heldLater (grown : store.Grown later) : store.Holds (Value.There later) :=
  closed.held.imp fun _ there => there.grown grown

theorem scopesLater (grown : store.Grown later) (i : Nat) (scope : Scope)
    (found : store.scopes[i]? = some scope) : scope.There later :=
  (closed.scopes i scope found).grown grown

theorem closuresLater (grown : store.Grown later) (i : Nat) (closure : Closure)
    (found : store.closures[i]? = some closure) : closure.scope.index < later.scopes.size :=
  Nat.lt_of_lt_of_le (closed.closures i closure found) grown.scopes

theorem newScope {parent : Option ScopeId} {output : Output}
    (inside : (Scope.mk coreNames parent output).There store) :
    (store.newScope parent output).2.Closed := by
  have grown := store.grownNewScope parent output
  exact ⟨(closed.heldLater grown).newScope (builtinThere _) parent output,
    eachPushed (closed.scopesLater grown) (inside.grown grown), closed.closuresLater grown⟩

theorem updateScope (id : ScopeId) {f : Scope → Scope}
    (names : ∀ scope : Scope, scope.names.All (Value.There store) →
      (f scope).names.All (Value.There store))
    (links : ∀ scope : Scope, scope.There store → (f scope).There store) :
    (store.updateScope id f).Closed := by
  have grown := store.grownUpdateScope id f
  have back : (store.updateScope id f).Grown store := by constructor <;> simp [Store.updateScope]
  refine ⟨(closed.held.updateScope id names).imp fun _ there => there.grown grown, ?_,
    closed.closuresLater grown⟩
  exact eachModified (closed.scopesLater grown) fun scope there =>
    (links scope (there.grown back)).grown grown

theorem bind (id : ScopeId) (name : String) {value : Value} (there : value.There store) :
    (store.bind id name value).Closed :=
  closed.updateScope id (fun _ names => names.insert name there)
    fun _ links => ⟨links.parent, links.output⟩

theorem print (id : ScopeId) (text : String) : (store.print id text).Closed := by
  refine closed.updateScope _ (fun _ names => names) fun scope links => ⟨links.parent, ?_⟩
  intro next found
  cases output : scope.output with
  | own old =>
    rw [output] at found
    cases found
  | through other =>
    rw [output] at found
    cases found
    exact links.output next output

theorem newList {items : Array Value} (there : ∀ value ∈ items, value.There store) :
    (store.newList items).2.Closed := by
  have grown := store.grownNewList items
  exact ⟨(closed.heldLater grown).newList fun value member => (there value member).grown grown,
    closed.scopesLater grown, closed.closuresLater grown⟩

theorem putItem (id : ListId) (position : Nat) {value : Value} (there : value.There store) :
    (store.putItem id position value).Closed := by
  have grown := store.grownPutItem id position value
  exact ⟨(closed.heldLater grown).putItem id position (there.grown grown),
    closed.scopesLater grown, closed.closuresLater grown⟩

theorem newMap {entries : Table Value} (there : entries.All (Value.There store)) :
    (store.newMap entries).2.Closed := by
  have grown := store.grownNewMap entries
  exact ⟨(closed.heldLater grown).newMap fun entry member => (there entry member).grown grown,
    closed.scopesLater grown, closed.closuresLater grown⟩

theorem setEntry (id : MapId) (key : String) {value : Value} (there : value.There store) :
    (store.setEntry id key value).Closed := by
  have grown := store.grownSetEntry id key value
  exact ⟨(closed.heldLater grown).setEntry id key (there.grown grown), closed.scopesLater grown,
    closed.closuresLater grown⟩

theorem newHandle (attributes : Attributes) : (store.newHandle attributes).2.Closed := by
  have grown := store.grownNewHandle attributes
  exact ⟨(closed.heldLater grown).newHandle attributes, closed.scopesLater grown,
    closed.closuresLater grown⟩

theorem setAttribute (id : HandleId) (key : String) (x : Scalar) :
    (store.setAttribute id key x).Closed := by
  have grown := store.grownSetAttribute id key x
  exact ⟨(closed.heldLater grown).setAttribute id key x, closed.scopesLater grown,
    closed.closuresLater grown⟩

theorem newClosure {closure : Closure} (there : closure.scope.index < store.scopes.size) :
    (store.newClosure closure).2.Closed := by
  have grown := store.grownNewClosure closure
  exact ⟨(closed.heldLater grown).newClosure closure, closed.scopesLater grown,
    eachPushed (closed.closuresLater grown) there⟩

end Store.Closed

-- A run beside itself.
def closedRuns : Simulation where
  places := .same
  Rel s s' := s' = s ∧ s.Closed
  Ok s value := value.There s
  grown grown there := there.grown grown
  scalar _ _ := trivial
  builtin := builtinThere
  shown := by
    rintro s s' ⟨rfl, _⟩
    exact shownSame rfl rfl rfl rfl
  held rel := rel.2.held
  lookup := by
    rintro s s' id name ⟨rfl, _⟩
    rw [Value.allMovedSame, Option.map_id]
    rfl
  output := by
    rintro s s' id ⟨rfl, _⟩ _
    rfl
  newList := by
    rintro s s' items ⟨rfl, closed⟩ there
    rw [Value.allMovedSame, Array.map_id]
    exact ⟨rfl, ⟨rfl, closed.newList there⟩, by simp [Value.There, Store.newList]⟩
  putItem := by
    rintro s s' value id position ⟨rfl, closed⟩ there
    rw [Value.movedSame]
    exact ⟨rfl, closed.putItem id position there⟩
  newMap := by
    rintro s s' entries ⟨rfl, closed⟩ there
    rw [Value.allMovedSame, Table.mapId]
    exact ⟨rfl, ⟨rfl, closed.newMap there⟩, by simp [Value.There, Store.newMap]⟩
  setEntry := by
    rintro s s' value id key ⟨rfl, closed⟩ there
    rw [Value.movedSame]
    exact ⟨rfl, closed.setEntry id key there⟩
  setAttribute := by
    rintro s s' id key x ⟨rfl, closed⟩
    exact ⟨rfl, closed.setAttribute id key x⟩
  newClosure := by
    rintro s s' closure ⟨rfl, closed⟩ there
    exact ⟨rfl, ⟨rfl, closed.newClosure there⟩, by simp [Value.There, Store.newClosure]⟩
  bind := by
    rintro s s' value id name ⟨rfl, closed⟩ there
    rw [Value.movedSame]
    exact ⟨rfl, closed.bind id name there⟩
  print := by
    rintro s s' id text ⟨rfl, closed⟩ _
    exact ⟨rfl, closed.print id text⟩
  frame := by
    rintro s s' id caller closure ⟨rfl, closed⟩ found there
    have definer := closed.closures id.index closure found
    refine ⟨rfl, ⟨rfl, closed.newScope ⟨?_, ?_⟩⟩, by simp [Value.There, Store.newFrame, Store.newScope]⟩
    · intro outer same
      cases same
      exact definer
    · intro next same
      cases same
      exact there

-- Everything of the first store is in the second one as it was.
structure Store.Kept (store later : Store) : Prop where
  grown : store.Grown later
  scopes : ∀ (i : Nat) (scope : Scope), store.scopes[i]? = some scope → later.scopes[i]? = some scope
  lists : ∀ (i : Nat) (items : Array Value), store.lists[i]? = some items →
    later.lists[i]? = some items
  maps : ∀ (i : Nat) (entries : Table Value), store.maps[i]? = some entries →
    later.maps[i]? = some entries
  handles : ∀ (i : Nat) (attributes : Attributes), store.handles[i]? = some attributes →
    later.handles[i]? = some attributes
  closures : ∀ (i : Nat) (closure : Closure), store.closures[i]? = some closure →
    later.closures[i]? = some closure

theorem emptyKept (later : Store) : Store.empty.Kept later where
  grown := by constructor <;> simp [Store.empty]
  scopes _ _ found := by cases found
  lists _ _ found := by cases found
  maps _ _ found := by cases found
  handles _ _ found := by cases found
  closures _ _ found := by cases found

theorem Offset.moveInside {α : Type} {row row' : Array α} {i : Nat} (inside : i < row.size) :
    (Offset.between row row').move i = i :=
  if_pos inside

theorem Value.There.moved {value : Value} (there : value.There store) (later : Store) :
    value.moved (Shift.between store later).places = value := by
  cases value with
  | scalar s => rfl
  | list id => exact congrArg (Value.list ⟨·⟩) (Offset.moveInside there)
  | map id => exact congrArg (Value.map ⟨·⟩) (Offset.moveInside there)
  | func f =>
    cases f with
    | builtin b => rfl
    | closure id => exact congrArg (Value.func <| .closure ⟨·⟩) (Offset.moveInside there)
  | scope id => exact congrArg (Value.scope ⟨·⟩) (Offset.moveInside there)
  | attributes id => exact congrArg (Value.attributes ⟨·⟩) (Offset.moveInside there)

theorem Table.All.moved {entries : Table Value} (there : entries.All (Value.There store))
    (later : Store) : entries.map (Value.moved (Shift.between store later).places) = entries := by
  apply Table.same
  have each : ∀ entry ∈ entries.entries,
      (entry.1, entry.2.moved (Shift.between store later).places) = entry :=
    fun entry member => congrArg (entry.1, ·) ((there entry member).moved later)
  exact (List.map_congr_left each).trans (List.map_id' _)

theorem scopeMoved {id : ScopeId} (there : id.index < store.scopes.size) (later : Store) :
    (Shift.between store later).places.scope id = id :=
  congrArg ScopeId.mk (Offset.moveInside there)

theorem Scope.There.moved {scope : Scope} (links : scope.There store)
    (names : scope.names.All (Value.There store)) (later : Store) :
    scope.moved (Shift.between store later).places = scope := by
  obtain ⟨table, parent, output⟩ := scope
  have outer : parent.map (Shift.between store later).places.scope = parent := by
    cases parent with
    | none => rfl
    | some id => exact congrArg some (scopeMoved (links.parent id rfl) later)
  have way : output.moved (Shift.between store later).places = output := by
    cases output with
    | own text => rfl
    | through next => exact congrArg Output.through (scopeMoved (links.output next rfl) later)
  unfold Scope.moved
  rw [names.moved later, outer, way]

/-- Nothing that is named in a closed store is moved by what is added to it later. -/
theorem Store.Closed.between (closed : store.Closed) (kept : store.Kept later) :
    (Shift.between store later).Rel store later where
  scopes := by
    refine Offset.rowsBetween kept.grown.scopes fun i scope found => ?_
    rw [(closed.scopes i scope found).moved (closed.held.names i scope found) later]
    exact kept.scopes i scope found
  lists := by
    refine Offset.rowsBetween kept.grown.lists fun i items found => ?_
    have each : ∀ value ∈ items, value.moved (Shift.between store later).places = id value :=
      fun value member => (closed.held.items i items found value member).moved later
    rw [Array.map_congr_left each, Array.map_id]
    exact kept.lists i items found
  maps := by
    refine Offset.rowsBetween kept.grown.maps fun i entries found => ?_
    rw [(closed.held.entries i entries found).moved later]
    exact kept.maps i entries found
  handles := Offset.rowsBetween kept.grown.handles kept.handles
  closures := by
    refine Offset.rowsBetween kept.grown.closures fun i closure found => ?_
    have definer := scopeMoved (closed.closures i closure found) later
    unfold Closure.moved
    rw [definer]
    exact kept.closures i closure found
  order _ _ _ _ _ := Offset.betweenOrder

end CircuitScript
