import CircuitScript.Proofs.Holding
import CircuitScript.Proofs.Places
import CircuitScript.Proofs.Regime

/-! Two stores that cannot be told apart by a script. A simulation says when a second store stands for a
first one, with its things at other places, and that every step of evaluation keeps it so. Then whole
computations on the two stores go together. -/
namespace CircuitScript

/-- Nothing of the first store has been given up in the second. -/
structure Store.Grown (store later : Store) : Prop where
  scopes : store.scopes.size ≤ later.scopes.size
  lists : store.lists.size ≤ later.lists.size
  maps : store.maps.size ≤ later.maps.size
  handles : store.handles.size ≤ later.handles.size
  closures : store.closures.size ≤ later.closures.size

namespace Store

variable (store : Store)

theorem Grown.refl : store.Grown store :=
  ⟨Nat.le_refl _, Nat.le_refl _, Nat.le_refl _, Nat.le_refl _, Nat.le_refl _⟩

theorem Grown.trans {store later last : Store} (first : store.Grown later) (second : later.Grown last) :
    store.Grown last :=
  ⟨Nat.le_trans first.scopes second.scopes, Nat.le_trans first.lists second.lists,
    Nat.le_trans first.maps second.maps, Nat.le_trans first.handles second.handles,
    Nat.le_trans first.closures second.closures⟩

theorem grownNewList (items : Array Value) : store.Grown (store.newList items).2 := by
  constructor <;> simp [newList]

theorem grownPutItem (id : ListId) (position : Nat) (value : Value) :
    store.Grown (store.putItem id position value) := by
  constructor <;> simp [putItem, updateList]

theorem grownNewMap (entries : Table Value) : store.Grown (store.newMap entries).2 := by
  constructor <;> simp [newMap]

theorem grownSetEntry (id : MapId) (key : String) (value : Value) :
    store.Grown (store.setEntry id key value) := by
  constructor <;> simp [setEntry]

theorem grownNewHandle (attributes : Attributes) : store.Grown (store.newHandle attributes).2 := by
  constructor <;> simp [newHandle]

theorem grownSetAttribute (id : HandleId) (key : String) (value : Scalar) :
    store.Grown (store.setAttribute id key value) := by
  constructor <;> simp [setAttribute]

theorem grownNewClosure (closure : Closure) : store.Grown (store.newClosure closure).2 := by
  constructor <;> simp [newClosure]

theorem grownNewScope (parent : Option ScopeId) (output : Output) :
    store.Grown (store.newScope parent output).2 := by
  constructor <;> simp [newScope]

theorem grownUpdateScope (id : ScopeId) (change : Scope → Scope) :
    store.Grown (store.updateScope id change) := by
  constructor <;> simp [updateScope]

theorem grownBindAll (id : ScopeId) (bindings : List (String × Value)) :
    store.Grown (store.bindAll id bindings) := by
  induction bindings generalizing store with
  | nil => exact .refl store
  | cons first rest ih => exact (store.grownUpdateScope id _).trans (ih _)

end Store

/-- `Rel` says that the second store stands for the first one, and `Ok` which values of the first one may
turn up while a script runs. The scope that a script runs in counts as one of them. -/
structure Simulation where
  places : Places
  Rel : Store → Store → Prop
  Ok : Store → Value → Prop
  grown : ∀ {s t v}, s.Grown t → Ok s v → Ok t v
  scalar : ∀ s x, Ok s (.scalar x)
  builtin : ∀ s b, Ok s (.func (.builtin b))
  shown : ∀ {s s'}, Rel s s' → Shown places s s'
  held : ∀ {s s'}, Rel s s' → s.Holds (Ok s)
  lookup : ∀ {s s'} id name, Rel s s' →
    s'.lookup? (places.scope id) name = (s.lookup? id name).map (Value.moved places)
  output : ∀ {s s' id}, Rel s s' → Ok s (.scope id) →
    s'.outputText (places.scope id) = s.outputText id
  newList : ∀ {s s'} {items : Array Value}, Rel s s' → (∀ v ∈ items, Ok s v) →
    (s'.newList (items.map (Value.moved places))).1 = places.list (s.newList items).1 ∧
      Rel (s.newList items).2 (s'.newList (items.map (Value.moved places))).2 ∧
      Ok (s.newList items).2 (.list (s.newList items).1)
  putItem : ∀ {s s' v} id position, Rel s s' → Ok s v →
    Rel (s.putItem id position v) (s'.putItem (places.list id) position (v.moved places))
  newMap : ∀ {s s'} {entries : Table Value}, Rel s s' → entries.All (Ok s) →
    (s'.newMap (entries.map (Value.moved places))).1 = places.map (s.newMap entries).1 ∧
      Rel (s.newMap entries).2 (s'.newMap (entries.map (Value.moved places))).2 ∧
      Ok (s.newMap entries).2 (.map (s.newMap entries).1)
  setEntry : ∀ {s s' v} id key, Rel s s' → Ok s v →
    Rel (s.setEntry id key v) (s'.setEntry (places.map id) key (v.moved places))
  setAttribute : ∀ {s s'} id key x, Rel s s' →
    Rel (s.setAttribute id key x) (s'.setAttribute (places.handle id) key x)
  newClosure : ∀ {s s'} {closure : Closure}, Rel s s' → Ok s (.scope closure.scope) →
    (s'.newClosure (closure.moved places)).1 = places.closure (s.newClosure closure).1 ∧
      Rel (s.newClosure closure).2 (s'.newClosure (closure.moved places)).2 ∧
      Ok (s.newClosure closure).2 (.func (.closure (s.newClosure closure).1))
  bind : ∀ {s s' v} id name, Rel s s' → Ok s v →
    Rel (s.bind id name v) (s'.bind (places.scope id) name (v.moved places))
  print : ∀ {s s' id} text, Rel s s' → Ok s (.scope id) →
    Rel (s.print id text) (s'.print (places.scope id) text)
  frame : ∀ {s s' id caller} {closure : Closure}, Rel s s' → s.closure? id = some closure →
    Ok s (.scope caller) →
    (s'.newFrame (places.scope closure.scope) (places.scope caller)).1 =
        places.scope (s.newFrame closure.scope caller).1 ∧
      Rel (s.newFrame closure.scope caller).2
        (s'.newFrame (places.scope closure.scope) (places.scope caller)).2 ∧
      Ok (s.newFrame closure.scope caller).2 (.scope (s.newFrame closure.scope caller).1)

variable {S : Simulation} {s s' t : Store} {ε δ α β γ : Type}

namespace Simulation

theorem read (rel : S.Rel s s') {id : ScopeId} (ok : S.Ok s (.scope id)) (name : String) :
    s'.read (S.places.scope id) name = (s.read id name).map (Value.moved S.places) := by
  unfold Store.read
  rw [S.lookup id name rel, S.output rel ok]
  cases s.lookup? id name with
  | some value => rfl
  | none =>
    simp only [Option.map_none]
    split <;> rfl

theorem readField (rel : S.Rel s s') {target : Value} (ok : S.Ok s target) (key : String) :
    s'.readField (target.moved S.places) key =
      (s.readField target key).map (Value.moved S.places) := by
  cases target with
  | map id =>
    simp only [Value.movedMap, Store.readField, (S.shown rel).entries, Table.getMap]
    cases (s.mapEntries id).get? key <;> rfl
  | scope id => exact S.read rel ok key
  | attributes id =>
    simp only [Value.movedAttributes, Store.readField, (S.shown rel).attributes]
    cases (s.attributesOf id).get? key <;> rfl
  | scalar x => rfl
  | list id => rfl
  | func f => rfl

theorem bindAll (rel : S.Rel s s') (id : ScopeId) {bindings : List (String × Value)}
    (ok : ∀ binding ∈ bindings, S.Ok s binding.2) :
    S.Rel (s.bindAll id bindings) (s'.bindAll (S.places.scope id)
      (bindings.map fun binding => (binding.1, binding.2.moved S.places))) := by
  induction bindings generalizing s s' with
  | nil => exact rel
  | cons first rest ih =>
    apply ih (S.bind id first.1 rel (ok first List.mem_cons_self))
    intro binding member
    exact S.grown (s.grownUpdateScope id _) (ok binding (List.mem_cons_of_mem _ member))

/-- A call enters the same body in both stores, in frames that stand for each other. -/
theorem entered (rel : S.Rel s s') {id : ClosureId} {closure : Closure} {caller : ScopeId}
    {args : List Value} (found : s.closure? id = some closure) (ok : S.Ok s (.scope caller))
    (held : ∀ v ∈ args, S.Ok s v) :
    (⟨s'.scopes.size⟩ : ScopeId) = S.places.scope ⟨s.scopes.size⟩ ∧
      s.Grown (s.entered closure caller args) ∧
      S.Rel (s.entered closure caller args) (s'.entered (closure.moved S.places)
        (S.places.scope caller) (args.map (Value.moved S.places))) ∧
      S.Ok (s.entered closure caller args) (.scope ⟨s.scopes.size⟩) := by
  obtain ⟨frame, opened, active⟩ := S.frame rel found ok
  have grown : s.Grown (s.newFrame closure.scope caller).2 := s.grownNewScope _ _
  have more : (s.newFrame closure.scope caller).2.Grown (s.entered closure caller args) :=
    Store.grownBindAll _ _ _
  refine ⟨frame, grown.trans more, ?_, S.grown more active⟩
  have bindings : closure.params.zip (args.map (Value.moved S.places)) =
      (closure.params.zip args).map fun binding => (binding.1, binding.2.moved S.places) :=
    List.zip_map_right
  have bound := S.bindAll opened ⟨s.scopes.size⟩ (fun binding member =>
    S.grown grown (held binding.2 (List.of_mem_zip member).2) :
      ∀ binding ∈ closure.params.zip args, _)
  rw [← bindings] at bound
  unfold Store.entered Closure.moved
  rw [show (⟨s'.scopes.size⟩ : ScopeId) = S.places.scope ⟨s.scopes.size⟩ from frame]
  exact bound

end Simulation

/-- Two computations end alike: the results belong together, and the second store stands for the first. -/
inductive Ends (S : Simulation) (start : Store) (R : Store → α → β → Prop) :
    Outcome Store ε α → Outcome Store ε β → Prop where
  | done {t t' : Store} {a : α} {b : β} (grown : start.Grown t) (rel : S.Rel t t') (same : R t a b) :
      Ends S start R (.done a t) (.done b t')
  | failed {t t' : Store} (e : ε) (grown : start.Grown t) (rel : S.Rel t t') :
      Ends S start R (.failed e t) (.failed e t')
  | spent : Ends S start R .spent .spent

theorem Ends.since {R : Store → α → β → Prop} {x : Outcome Store ε α} {x' : Outcome Store ε β}
    (ends : Ends S t R x x') (grown : s.Grown t) : Ends S s R x x' := by
  cases ends with
  | done more rel same => exact .done (grown.trans more) rel same
  | failed e more rel => exact .failed e (grown.trans more) rel
  | spent => exact .spent

-- The second result is the first one moved, and what the first one holds is in order.
def Simulation.Moves (S : Simulation) (held : α → List Value) (move : α → β) (t : Store) (a : α) (b : β) : Prop :=
  b = move a ∧ ∀ v ∈ held a, S.Ok t v

/-- From stores that stand for each other, and with the known values in order, two computations end
alike. A result may hold further values. -/
def Together (S : Simulation) (known : List Value) (held : α → List Value) (move : α → β)
    (x : Action Store ε α) (x' : Action Store ε β) : Prop :=
  ∀ s s', S.Rel s s' → (∀ v ∈ known, S.Ok s v) → Ends S s (S.Moves held move) (x s) (x' s')

-- Computations of something that no place occurs in.
abbrev Simulation.Plain (S : Simulation) (known : List Value) (x x' : Action Store ε α) : Prop :=
  Together S known (fun _ => []) id x x'

variable {known : List Value} {held : α → List Value} {move : α → β}

namespace Together

theorem pure (a : α) (inside : ∀ v ∈ held a, v ∈ known) :
    Together S known held move (Pure.pure a : Action Store ε α) (Pure.pure (move a)) :=
  fun s _ rel ok => .done (.refl s) rel ⟨rfl, fun v member => ok v (inside v member)⟩

theorem bind {δ : Type} {held' : γ → List Value} {move' : γ → δ} {x : Action Store ε α}
    {x' : Action Store ε β} {f : α → Action Store ε γ} {f' : β → Action Store ε δ}
    (first : Together S known held move x x')
    (second : ∀ a, Together S (held a ++ known) held' move' (f a) (f' (move a))) :
    Together S known held' move' (x >>= f) (x' >>= f') := by
  intro s s' rel ok
  have ended := first s s' rel ok
  rw [Action.bindApply, Action.bindApply]
  generalize x s = outcome at ended ⊢
  generalize x' s' = outcome' at ended ⊢
  cases ended with
  | @done t t' a b grown rel same =>
    obtain ⟨rfl, now⟩ := same
    refine (second a _ _ rel fun v member => ?_).since grown
    rcases List.mem_append.mp member with new | old
    · exact now v new
    · exact S.grown grown (ok v old)
  | failed e grown rel => exact .failed e grown rel
  | spent => exact .spent

theorem modify {f f' : Store → Store} (grown : ∀ s : Store, s.Grown (f s))
    (same : ∀ s s', S.Rel s s' → (∀ v ∈ known, S.Ok s v) → S.Rel (f s) (f' s')) :
    S.Plain known (Action.modify f : Action Store ε Unit) (Action.modify f') :=
  fun s s' rel ok => .done (grown s) (same s s' rel ok) ⟨rfl, by simp⟩

theorem modifyGet {f : Store → α × Store} {f' : Store → β × Store} (grown : ∀ s : Store, s.Grown (f s).2)
    (same : ∀ s s', S.Rel s s' → (∀ v ∈ known, S.Ok s v) → (f' s').1 = move (f s).1 ∧
      S.Rel (f s).2 (f' s').2 ∧ ∀ v ∈ held (f s).1, S.Ok (f s).2 v) :
    Together S known held move (Action.modifyGet f : Action Store ε α) (Action.modifyGet f') := by
  intro s s' rel ok
  obtain ⟨place, next, gives⟩ := same s s' rel ok
  exact .done (grown s) next ⟨place, gives⟩

theorem mapError {f : ε → δ} {x : Action Store ε α} {x' : Action Store ε β}
    (same : Together S known held move x x') :
    Together S known held move (Action.mapError f x) (Action.mapError f x') := by
  intro s s' rel ok
  have ended := same s s' rel ok
  unfold Action.mapError
  generalize x s = outcome at ended ⊢
  generalize x' s' = outcome' at ended ⊢
  cases ended with
  | done grown rel ok => exact .done grown rel ok
  | failed e grown rel => exact .failed (f e) grown rel
  | spent => exact .spent

theorem binding (scope : ScopeId) (name : String) {value : Value} (there : value ∈ known) :
    S.Plain known (Action.modify (·.bind scope name value) : Action Store ε Unit)
      (Action.modify (·.bind (S.places.scope scope) name (value.moved S.places))) :=
  modify (fun s => s.grownUpdateScope scope _) fun _ _ rel ok => S.bind scope name rel (ok _ there)

end Together

end CircuitScript
