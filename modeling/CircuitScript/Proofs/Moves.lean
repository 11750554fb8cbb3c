import CircuitScript.Proofs.Holding
import CircuitScript.Proofs.Outcome
import Mathlib.Logic.Relation

/-! What a running script can do to the store, one change at a time. A moment is the store together with
the calls that are open; a move leads from one moment to the next. Which scopes may occur as values is a
parameter, so that one account serves stores without such values and stores with any of them. -/
namespace CircuitScript

def Value.Within (allowed : ScopeId → Prop) : Value → Prop
  | .scope id => allowed id
  | _ => True

structure Store.Within (allowed : ScopeId → Prop) (store : Store) : Prop where
  names : ∀ (i : Nat) (scope : Scope), store.scopes[i]? = some scope →
    scope.names.All (Value.Within allowed)
  items : ∀ (i : Nat) (items : Array Value), store.lists[i]? = some items →
    ∀ value ∈ items, value.Within allowed
  entries : ∀ (i : Nat) (table : Table Value), store.maps[i]? = some table →
    table.All (Value.Within allowed)

inductive Change (allowed : ScopeId → Prop) (active : ScopeId) : Store → Store → Prop where
  | newList (store : Store) (items : Array Value) (good : ∀ value ∈ items, value.Within allowed) :
      Change allowed active store (store.newList items).2
  | newMap (store : Store) (entries : Table Value) (good : entries.All (Value.Within allowed)) :
      Change allowed active store (store.newMap entries).2
  | newClosure (store : Store) (closure : Closure) (here : closure.scope = active) :
      Change allowed active store (store.newClosure closure).2
  | putItem (store : Store) (id : ListId) (position : Nat) (value : Value)
      (good : value.Within allowed) :
      Change allowed active store (store.putItem id position value)
  | setEntry (store : Store) (id : MapId) (key : String) (value : Value)
      (good : value.Within allowed) :
      Change allowed active store (store.setEntry id key value)
  | setAttribute (store : Store) (id : HandleId) (key : String) (value : Scalar) :
      Change allowed active store (store.setAttribute id key value)

-- The scopes of the open calls, the last one first, and the store.
structure Moment where
  frames : List ScopeId
  store : Store

/-- What one move does in a run started in `start`. An expression started there does not assign to
`start` itself, a statement may; the scope of a call is always assigned to by its own run. -/
inductive Move (allowed : ScopeId → Prop) (assigns : Bool) (start : ScopeId) :
    Moment → Moment → Prop where
  | change (frames : List ScopeId) {store next : Store}
      (made : Change allowed (frames.headD start) store next) :
      Move allowed assigns start ⟨frames, store⟩ ⟨frames, next⟩
  | bind (frames : List ScopeId) (store : Store) (name : String) (value : Value)
      (own : assigns = true ∨ frames ≠ []) (good : value.Within allowed) :
      Move allowed assigns start ⟨frames, store⟩
        ⟨frames, store.bind (frames.headD start) name value⟩
  | bindIn (frames : List ScopeId) (store : Store) (id : ScopeId) (name : String) (value : Value)
      (held : allowed id) (good : value.Within allowed) :
      Move allowed assigns start ⟨frames, store⟩ ⟨frames, store.bind id name value⟩
  | print (frames : List ScopeId) (store : Store) (text : String) :
      Move allowed assigns start ⟨frames, store⟩
        ⟨frames, store.print (frames.headD start) text⟩
  | enter (frames : List ScopeId) (store : Store) (id : ClosureId) (closure : Closure)
      (found : store.closure? id = some closure) :
      Move allowed assigns start ⟨frames, store⟩
        ⟨⟨store.scopes.size⟩ :: frames, (store.newFrame closure.scope (frames.headD start)).2⟩
  | leave (frame : ScopeId) (frames : List ScopeId) (store : Store) :
      Move allowed assigns start ⟨frame :: frames, store⟩ ⟨frames, store⟩

abbrev Passes (allowed : ScopeId → Prop) (assigns : Bool) (start : ScopeId) : Moment → Moment → Prop :=
  Relation.ReflTransGen (Move allowed assigns start)

variable {allowed : ScopeId → Prop} {assigns : Bool} {start active : ScopeId} {store next : Store}

theorem builtinWithin (b : Builtin) : (Value.func (.builtin b)).Within allowed := trivial

theorem Store.Within.holds (within : store.Within allowed) : store.Holds (Value.Within allowed) :=
  ⟨within.names, within.items, within.entries⟩

theorem Store.Holds.within (holds : store.Holds (Value.Within allowed)) : store.Within allowed :=
  ⟨holds.names, holds.items, holds.entries⟩

theorem Change.within (change : Change allowed active store next) (within : store.Within allowed) :
    next.Within allowed := by
  have holds := within.holds
  cases change with
  | newList items good => exact (holds.newList good).within
  | newMap entries good => exact (holds.newMap good).within
  | newClosure closure here => exact (holds.newClosure closure).within
  | putItem id position value good => exact (holds.putItem id position good).within
  | setEntry id key value good => exact (holds.setEntry id key good).within
  | setAttribute id key value => exact (holds.setAttribute id key value).within

theorem Move.within {m m' : Moment} (move : Move allowed assigns start m m')
    (within : m.store.Within allowed) : m'.store.Within allowed := by
  have holds := within.holds
  cases move with
  | change frames made => exact made.within within
  | bind frames store name value own good => exact (holds.bind _ name good).within
  | bindIn frames store id name value held good => exact (holds.bind id name good).within
  | print frames store text => exact (holds.print _ text).within
  | enter frames store id closure found => exact (holds.newScope builtinWithin _ _).within
  | leave frame frames store => exact within

theorem passesWithin {m m' : Moment} (passes : Passes allowed assigns start m m')
    (within : m.store.Within allowed) : m'.store.Within allowed := by
  induction passes with
  | refl => exact within
  | tail before move ih => exact move.within ih

theorem Move.inCall {frame : ScopeId} {m m' : Moment} (move : Move allowed true frame m m')
    (below : List ScopeId) :
    Move allowed assigns start ⟨m.frames ++ frame :: below, m.store⟩
      ⟨m'.frames ++ frame :: below, m'.store⟩ := by
  have same : ∀ frames : List ScopeId,
      frames.headD frame = (frames ++ frame :: below).headD start := by
    intro frames
    cases frames <;> rfl
  cases move with
  | change frames made => exact .change _ (same frames ▸ made)
  | bind frames store name value own good =>
    simp only [same]
    exact .bind _ store name value (.inr (by simp)) good
  | bindIn frames store id name value held good => exact .bindIn _ store id name value held good
  | print frames store text =>
    simp only [same]
    exact .print _ store text
  | enter frames store id closure found =>
    simp only [same]
    exact .enter _ store id closure found
  | leave inner frames store => exact .leave inner _ store

theorem passesInCall {frame : ScopeId} {m m' : Moment} (passes : Passes allowed true frame m m')
    (below : List ScopeId) :
    Passes allowed assigns start ⟨m.frames ++ frame :: below, m.store⟩
      ⟨m'.frames ++ frame :: below, m'.store⟩ := by
  induction passes with
  | refl => exact .refl
  | tail before move ih => exact ih.tail (move.inCall below)

end CircuitScript
