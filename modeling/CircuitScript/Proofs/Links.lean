import CircuitScript.Proofs.Scopes

/-! The links between scopes: where names are looked up further, and where printed text goes. In every store
that is built scope by scope both lead to older scopes, so printing finds a buffer. -/
namespace CircuitScript

def Output.next? : Output → Option ScopeId
  | .own _ => none
  | .through next => some next

theorem Output.nextAppended (output : Output) (text : String) :
    (output.append text).next? = output.next? := by
  cases output <;> rfl

namespace Store

def output? (store : Store) (id : ScopeId) : Option Output := (store.scope? id).map (·.output)

def way? (store : Store) (id : ScopeId) : Option (Option ScopeId) := (store.output? id).map Output.next?

/-- What a scope prints ends up in the buffer of another, found by following the links one by one. -/
inductive PrintsInto (store : Store) : ScopeId → ScopeId → Prop where
  | own {id : ScopeId} (ends : store.way? id = some none) : PrintsInto store id id
  | through {id next buffer : ScopeId} (goes : store.way? id = some (some next))
      (rest : PrintsInto store next buffer) : PrintsInto store id buffer

structure SameLinks (store next : Store) : Prop where
  count : next.scopes.size = store.scopes.size
  parents : ∀ id, next.parent? id = store.parent? id
  ways : ∀ id, next.way? id = store.way? id
  closures : ∀ id closure, next.closure? id = some closure →
    closure.scope.index < next.scopes.size

/-- Stores made by creating scopes over existing ones, in any order. In between, names may be bound, text
printed, and lists, maps, attribute sets and functions made and changed in any way. -/
inductive Built : Store → Prop where
  | empty : Built .empty
  | root {store : Store} (built : Built store) : Built store.newRoot.2
  | child {store : Store} {parent : ScopeId} (built : Built store)
      (there : parent.index < store.scopes.size) : Built (store.newChild parent).2
  | delegating {store : Store} {parent : ScopeId} (built : Built store)
      (there : parent.index < store.scopes.size) : Built (store.newDelegating parent).2
  | frame {store : Store} {definer caller : ScopeId} (built : Built store)
      (defined : definer.index < store.scopes.size) (calls : caller.index < store.scopes.size) :
      Built (store.newFrame definer caller).2
  | changed {store next : Store} (built : Built store) (same : store.SameLinks next) : Built next

structure Linked (store : Store) : Prop where
  parents : ∀ id parent, store.parent? id = some parent → parent.index < id.index
  ways : ∀ id next, store.way? id = some (some next) → next.index < id.index
  closures : ∀ id closure, store.closure? id = some closure →
    closure.scope.index < store.scopes.size

variable {store next : Store} {id other : ScopeId}

theorem wayAdded (store : Store) (parent : Option ScopeId) (output : Output) (id : ScopeId) :
    (store.newScope parent output).2.way? id =
      if id.index = store.scopes.size then some output.next? else store.way? id := by
  unfold way? output?
  rw [scopeAdded]
  by_cases new : id.index = store.scopes.size
  · rw [if_pos new, if_pos new]
    rfl
  · rw [if_neg new, if_neg new]

theorem Linked.updated (linked : store.Linked) (id : ScopeId) {f : Scope → Scope}
    (parent : ∀ scope, (f scope).parent = scope.parent)
    (way : ∀ scope, (f scope).output.next? = scope.output.next?) :
    store.SameLinks (store.updateScope id f) := by
  refine ⟨countUpdated store id f, fun other => ?_, fun other => ?_, ?_⟩
  · exact parentUpdated store id other parent
  · unfold way? output?
    rw [scopeUpdated]
    by_cases same : id = other
    · rw [if_pos same]
      cases store.scope? other with
      | none => rfl
      | some scope => exact congrArg some (way scope)
    · rw [if_neg same]
  · rw [countUpdated]
    exact linked.closures

theorem Linked.changed (linked : store.Linked) (same : store.SameLinks next) : next.Linked where
  parents id parent found := linked.parents id parent (same.parents id ▸ found)
  ways id after found := linked.ways id after (same.ways id ▸ found)
  closures := same.closures

theorem Linked.added (linked : store.Linked) {parent : Option ScopeId} {output : Output}
    (above : ∀ p, parent = some p → p.index < store.scopes.size)
    (ahead : ∀ n, output.next? = some n → n.index < store.scopes.size) :
    (store.newScope parent output).2.Linked where
  parents id p found := by
    rw [parentAdded] at found
    split at found
    · rename_i new
      rw [new]
      exact above p found
    · exact linked.parents id p found
  ways id n found := by
    rw [wayAdded] at found
    split at found
    · rename_i new
      rw [new]
      exact ahead n (Option.some.inj found)
    · exact linked.ways id n found
  closures id closure found := by
    have inside := linked.closures id closure found
    rw [countAdded]
    exact Nat.lt_succ_of_lt inside

theorem emptyLinked : Store.empty.Linked where
  parents id parent found := by simp [parent?, scope?, Store.empty] at found
  ways id next found := by simp [way?, output?, scope?, Store.empty] at found
  closures id closure found := by simp [closure?, Store.empty] at found

theorem Built.linked (built : store.Built) : store.Linked := by
  induction built with
  | empty => exact emptyLinked
  | root built ih => exact ih.added nofun nofun
  | child built there ih => exact ih.added (fun p same => Option.some.inj same ▸ there) nofun
  | delegating built there ih =>
    exact ih.added (fun p same => Option.some.inj same ▸ there)
      fun n same => Option.some.inj same ▸ there
  | frame built defined calls ih =>
    exact ih.added (fun p same => Option.some.inj same ▸ defined)
      fun n same => Option.some.inj same ▸ calls
  | changed built same ih => exact ih.changed same

theorem PrintsInto.changed {buffer : ScopeId} (into : store.PrintsInto id buffer)
    (kept : ∀ id way, store.way? id = some way → next.way? id = some way) :
    next.PrintsInto id buffer := by
  induction into with
  | own ends => exact .own (kept _ _ ends)
  | through goes rest ih => exact .through (kept _ _ goes) ih

theorem PrintsInto.ends {buffer : ScopeId} (into : store.PrintsInto id buffer) :
    store.way? buffer = some none := by
  induction into with
  | own ends => exact ends
  | through goes rest ih => exact ih

theorem wayThere (here : id.index < store.scopes.size) : ∃ way, store.way? id = some way := by
  obtain ⟨scope, found⟩ := scopeThere here
  exact ⟨scope.output.next?, by simp [way?, output?, found]⟩

theorem wayInside {way : Option ScopeId} (found : store.way? id = some way) :
    id.index < store.scopes.size := by
  unfold way? output? at found
  cases there : store.scope? id with
  | none => simp [there] at found
  | some scope => exact scopeInside there

theorem PrintsInto.inside {buffer : ScopeId} (into : store.PrintsInto id buffer) :
    id.index < store.scopes.size := by
  cases into with
  | own ends => exact wayInside ends
  | through goes rest => exact wayInside goes

theorem sinkEnds (ends : store.way? id = some none) : store.sink id = id := by
  unfold way? output? at ends
  rw [sink]
  split
  · rename_i found
    simp [found, Output.next?] at ends
  · rfl

theorem sinkGoes {next : ScopeId} (goes : store.way? id = some (some next))
    (older : next.index < id.index) : store.sink id = store.sink next := by
  unfold way? output? at goes
  rw [sink]
  cases found : store.scope? id with
  | none => simp [found] at goes
  | some scope =>
    obtain ⟨names, parent, output⟩ := scope
    cases output with
    | own text => simp [found, Output.next?] at goes
    | through n =>
      have same : n = next := by simpa [found, Output.next?] using goes
      subst same
      simp [older]

theorem PrintsInto.sink (linked : store.Linked) {buffer : ScopeId}
    (into : store.PrintsInto id buffer) : store.sink id = buffer := by
  induction into with
  | own ends => exact sinkEnds ends
  | through goes rest ih => rw [sinkGoes goes (linked.ways _ _ goes), ih]

theorem Linked.printsInto (linked : store.Linked) (id : ScopeId)
    (here : id.index < store.scopes.size) : store.PrintsInto id (store.sink id) := by
  obtain ⟨way, found⟩ := wayThere here
  cases way with
  | none =>
    rw [sinkEnds found]
    exact .own found
  | some next =>
    have older := linked.ways id next found
    rw [sinkGoes found older]
    exact .through found (linked.printsInto next (Nat.lt_trans older here))
termination_by id.index

theorem ownTextIff {text : String} :
    store.ownText? id = some text ↔ store.output? id = some (.own text) := by
  unfold ownText? output?
  cases store.scope? id with
  | none => simp
  | some scope =>
    obtain ⟨names, parent, output⟩ := scope
    cases output <;> simp

theorem ownTextSame (same : next.output? id = store.output? id) :
    next.ownText? id = store.ownText? id := by
  ext text
  rw [ownTextIff, ownTextIff, same]

theorem bufferHasText (ends : store.way? id = some none) :
    ∃ text, store.output? id = some (.own text) := by
  unfold way? at ends
  cases found : store.output? id with
  | none => simp [found] at ends
  | some output =>
    cases output with
    | own text => exact ⟨text, rfl⟩
    | through n => simp [found, Output.next?] at ends

end Store

end CircuitScript
