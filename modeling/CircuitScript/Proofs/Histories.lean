import CircuitScript.Proofs.Lookup

/-! Names over whole histories. Scopes are made over older ones and names are bound in them, in any order. What a
scope sees under a name is told by the history alone: the value last bound in the nearest scope around it that has
the name. Where a scope prints has no say in it. -/
namespace CircuitScript

/-- The ways to make a scope. -/
inductive NewScope where
  | root
  | child (parent : ScopeId)
  | delegating (parent : ScopeId)
  | frame (definer caller : ScopeId)

namespace NewScope

def apply (store : Store) : NewScope → Store
  | root => store.newRoot.2
  | child parent => (store.newChild parent).2
  | delegating parent => (store.newDelegating parent).2
  | frame definer caller => (store.newFrame definer caller).2

def parent? : NewScope → Option ScopeId
  | root => none
  | child parent => some parent
  | delegating parent => some parent
  | frame definer _ => some definer

def output : NewScope → Output
  | root => .own ""
  | child _ => .own ""
  | delegating parent => .through parent
  | frame _ caller => .through caller

theorem applied (new : NewScope) (store : Store) : new.apply store = (store.newScope new.parent? new.output).2 := by
  cases new <;> rfl

end NewScope

inductive ScopeStep where
  | make (new : NewScope)
  | set (scope : ScopeId) (name : String) (value : Value)

namespace ScopeStep

def apply (store : Store) : ScopeStep → Store
  | make new => new.apply store
  | set scope name value => store.bind scope name value

/-- The scopes that must be there. -/
def mentions : ScopeStep → List ScopeId
  | make .root => []
  | make (.child parent) => [parent]
  | make (.delegating parent) => [parent]
  | make (.frame definer caller) => [definer, caller]
  | set scope _ _ => [scope]

end ScopeStep

/-- The steps of a history, the last one first, and the store they lead to. -/
inductive Leads : List ScopeStep → Store → Prop where
  | start : Leads [] .empty
  | step {past : List ScopeStep} {store : Store} (before : Leads past store) (step : ScopeStep)
      (there : ∀ id ∈ step.mentions, id.index < store.scopes.size) : Leads (step :: past) (step.apply store)

namespace History

/-- The number of scopes made. The next one gets this place. -/
def made : List ScopeStep → Nat
  | [] => 0
  | .make _ :: past => made past + 1
  | .set _ _ _ :: past => made past

/-- The function that a new scope has under a name. -/
def core? (name : String) : Option Value :=
  (Builtin.core.find? (·.name == name)).map fun b => .func (.builtin b)

/-- The value last bound to a name in a scope; the core functions are bound when it is made. -/
def lastSet : List ScopeStep → ScopeId → String → Option Value
  | [], _, _ => none
  | .make _ :: past, id, name => if id.index = made past then core? name else lastSet past id name
  | .set scope other value :: past, id, name =>
    if scope = id ∧ other = name then some value else lastSet past id name

/-- A scope and those around it, nearest first. -/
def around : List ScopeStep → ScopeId → List ScopeId
  | [], _ => []
  | .make new :: past, id =>
    if id.index = made past then id :: (new.parent?.map (around past)).getD [] else around past id
  | .set _ _ _ :: past, id => around past id

/-- The scope is in the chain and none in front of it binds the name. -/
def Unhidden (past : List ScopeStep) (name : String) (chain : List ScopeId) (id : ScopeId) : Prop :=
  ∃ nearer farther, chain = nearer ++ id :: farther ∧ ∀ other ∈ nearer, lastSet past other name = none

end History

open History

variable {past : List ScopeStep} {store : Store} {id : ScopeId} {name : String}

theorem coreNamesGet (name : String) : Store.coreNames.get? name = core? name := by
  unfold core?
  cases found : Builtin.core.find? (·.name == name) with
  | some b =>
    have same : b.name = name := by simpa using List.find?_some found
    rw [← same]
    exact Store.coreNamesAt (List.mem_of_find?_eq_some found)
  | none =>
    refine Store.coreNamesFree fun member => ?_
    obtain ⟨b, core, same⟩ := List.mem_map.mp member
    simpa [same] using List.find?_eq_none.mp found b core

namespace Store

theorem namesAdded (store : Store) (parent : Option ScopeId) (output : Output) (id : ScopeId) :
    (store.newScope parent output).2.names id =
      if id.index = store.scopes.size then coreNames else store.names id := by
  unfold names
  rw [scopeAdded]
  by_cases new : id.index = store.scopes.size
  · rw [if_pos new, if_pos new]
  · rw [if_neg new, if_neg new]

theorem getBound (there : id.index < store.scopes.size) (bound : String) (value : Value) (other : ScopeId)
    (name : String) : ((store.bind id bound value).names other).get? name =
      if id = other ∧ bound = name then some value else (store.names other).get? name := by
  by_cases same : id = other
  · subst same
    rw [namesBoundHere there, Table.getInsert]
    simp
  · rw [namesBound store id bound value (Ne.symm same), if_neg (same ·.1)]

theorem chainSame {next : Store} (same : ∀ other : ScopeId, other.index ≤ id.index →
    next.parent? other = store.parent? other) : next.chain id = store.chain id := by
  fun_induction chain store id with
  | case1 id parent found older ih =>
    rw [chain, same id (Nat.le_refl _), found]
    simp only [if_pos older]
    rw [ih fun other below => same other (Nat.le_trans below (Nat.le_of_lt older))]
  | case2 id parent found level =>
    rw [chain, same id (Nat.le_refl _), found]
    simp only [if_neg level]
  | case3 id none =>
    rw [chain, same id (Nat.le_refl _), none]

theorem chainNew (store : Store) {parent : Option ScopeId} (output : Output)
    (there : ∀ p, parent = some p → p.index < store.scopes.size) :
    (store.newScope parent output).2.chain ⟨store.scopes.size⟩ =
      ⟨store.scopes.size⟩ :: (parent.map store.chain).getD [] := by
  rw [chain, parentAdded, if_pos rfl]
  cases parent with
  | none => rfl
  | some p =>
    have older := there p rfl
    simp only [if_pos older, Option.map_some, Option.getD_some]
    rw [chainSame fun other below => ?_]
    rw [parentAdded, if_neg (Nat.ne_of_lt (Nat.lt_of_le_of_lt below older))]

end Store

theorem NewScope.parentThere {new : NewScope}
    (there : ∀ id ∈ (ScopeStep.make new).mentions, id.index < store.scopes.size) :
    ∀ p, new.parent? = some p → p.index < store.scopes.size := by
  intro p same
  cases new with
  | root => cases same
  | child parent | delegating parent | frame definer caller =>
    cases same
    exact there p List.mem_cons_self

namespace Leads

theorem count (leads : Leads past store) : store.scopes.size = made past := by
  induction leads with
  | start => rfl
  | @step past store before step there ih =>
    cases step with
    | make new =>
      show (new.apply store).scopes.size = made past + 1
      rw [new.applied, Store.countAdded, ih]
    | set scope name value => exact (Store.countUpdated _ _ _).trans ih

theorem lastBound (leads : Leads past store) (id : ScopeId) (name : String) :
    (store.names id).get? name = lastSet past id name := by
  induction leads with
  | start => rfl
  | @step past store before step there ih =>
    cases step with
    | make new =>
      show ((new.apply store).names id).get? name = if id.index = made past then core? name else lastSet past id name
      rw [new.applied, Store.namesAdded, before.count, ← ih, ← coreNamesGet]
      split <;> rfl
    | set scope other value =>
      have here := there scope List.mem_cons_self
      show ((store.bind scope other value).names id).get? name =
        if scope = id ∧ other = name then some value else lastSet past id name
      rw [Store.getBound here, ih]

theorem chain (leads : Leads past store) (there : id.index < store.scopes.size) :
    store.chain id = around past id := by
  induction leads generalizing id with
  | start => cases there
  | @step past store before step fits ih =>
    cases step with
    | make new =>
      have there : id.index < (new.apply store).scopes.size := there
      show (new.apply store).chain id =
        if id.index = made past then id :: (new.parent?.map (around past)).getD [] else around past id
      rw [new.applied, Store.countAdded] at there
      rw [new.applied, ← before.count]
      by_cases fresh : id.index = store.scopes.size
      · obtain rfl : id = ⟨store.scopes.size⟩ := ScopeId.sameIndex fresh
        have parents := NewScope.parentThere fits
        rw [if_pos rfl, Store.chainNew store _ parents]
        cases parent : new.parent? with
        | none => rfl
        | some p => exact congrArg (List.cons _) (ih (parents p parent))
      · have old : id.index < store.scopes.size := by omega
        rw [if_neg fresh, ← ih old]
        refine Store.chainSame fun other below => ?_
        rw [Store.parentAdded, if_neg (Nat.ne_of_lt (Nat.lt_of_le_of_lt below old))]
    | set scope name value =>
      have there : id.index < (store.bind scope name value).scopes.size := there
      rw [Store.bind, Store.countUpdated] at there
      show (store.bind scope name value).chain id = around past id
      rw [← ih there]
      exact Store.chainSame fun other _ => Store.parentBound store scope name value other

theorem silent (leads : Leads past store) (id : ScopeId) : store.outputText id = "" := by
  have empty : ∀ other scope, store.scope? other = some scope → ∀ text, scope.output = .own text → text = "" := by
    induction leads with
    | start =>
      intro other scope found
      simp [Store.scope?, Store.empty] at found
    | @step past store before step fits ih =>
      intro other scope found text own
      cases step with
      | make new =>
        have found : (new.apply store).scope? other = some scope := found
        rw [new.applied, Store.scopeAdded] at found
        split at found
        · cases found
          cases new <;> cases own <;> rfl
        · exact ih other scope found text own
      | set target name value =>
        have found : (store.bind target name value).scope? other = some scope := found
        rw [Store.bind, Store.scopeUpdated] at found
        split at found
        · obtain ⟨old, there, rfl⟩ := Option.map_eq_some_iff.mp found
          exact ih other old there text own
        · exact ih other scope found text own
  unfold Store.outputText Store.ownText?
  split
  · rename_i text found
    exact empty _ _ found text rfl
  · rfl

theorem lookup (leads : Leads past store) (there : id.index < store.scopes.size) (name : String) :
    store.lookup? id name = (around past id).findSome? fun scope => lastSet past scope name := by
  unfold Store.lookup?
  rw [leads.chain there]
  simp only [leads.lastBound]

end Leads

section

variable {chain : List ScopeId} {value : Value}

theorem History.Unhidden.finds (nearest : Unhidden past name chain id) (bound : lastSet past id name = some value) :
    chain.findSome? (fun scope => lastSet past scope name) = some value := by
  obtain ⟨nearer, farther, rfl, free⟩ := nearest
  rw [List.findSome?_append, List.findSome?_eq_none_iff.mpr free, List.findSome?_cons, bound]
  rfl

theorem lastSetHere (past : List ScopeStep) (id : ScopeId) (name : String) (value : Value) :
    lastSet (.set id name value :: past) id name = some value := if_pos ⟨rfl, rfl⟩

theorem lastSetApart (past : List ScopeStep) {scope : ScopeId} {other : String} (value : Value)
    (apart : scope ≠ id ∨ other ≠ name) : lastSet (.set scope other value :: past) id name = lastSet past id name :=
  if_neg fun same => apart.elim (· same.1) (· same.2)

theorem History.Unhidden.set (nearest : Unhidden past name chain id) (value : Value) :
    chain.findSome? (fun scope => lastSet (.set id name value :: past) scope name) = some value := by
  obtain ⟨nearer, farther, rfl, free⟩ := nearest
  induction nearer with
  | nil => simp [lastSetHere]
  | cons scope nearer ih =>
    obtain ⟨none, free⟩ := List.forall_mem_cons.mp free
    by_cases same : scope = id
    · subst same
      simp [lastSetHere]
    · rw [List.cons_append, List.findSome?_cons, lastSetApart past value (.inl (Ne.symm same)), none]
      exact ih free

theorem hiddenSet (hidden : ¬Unhidden past name chain id) (value : Value) :
    chain.findSome? (fun scope => lastSet (.set id name value :: past) scope name) =
      chain.findSome? fun scope => lastSet past scope name := by
  induction chain with
  | nil => rfl
  | cons scope chain ih =>
    have apart : id ≠ scope := by
      rintro rfl
      exact hidden ⟨[], chain, rfl, List.forall_mem_nil _⟩
    rw [List.findSome?_cons, List.findSome?_cons, lastSetApart past value (.inl apart)]
    cases bound : lastSet past scope name with
    | some found => rfl
    | none =>
      refine ih fun nearest => ?_
      obtain ⟨nearer, farther, rfl, free⟩ := nearest
      exact hidden ⟨scope :: nearer, farther, rfl, List.forall_mem_cons.mpr ⟨bound, free⟩⟩

end

namespace Store

theorem containsIff : store.contains id name = true ↔ (store.lookup? id name).isSome := by
  unfold contains lookup? Table.contains
  rw [List.any_eq_true, List.findSome?_isSome_iff]

theorem readSeen (store : Store) (id : ScopeId) (name : String) :
    (∃ value, store.lookup? id name = some value ∧ store.read id name = .ok value) ∨
      store.lookup? id name = none ∧ store.read id name =
        if name = "output" then .ok (.str (store.outputText id)) else .error (.undefinedVariable name) := by
  unfold read
  cases store.lookup? id name with
  | some value => exact .inl ⟨value, rfl, rfl⟩
  | none => exact .inr ⟨rfl, rfl⟩

end Store

theorem Leads.readLast (leads : Leads past store) (there : id.index < store.scopes.size) {holder : ScopeId}
    {value : Value} (nearest : Unhidden past name (around past id) holder)
    (bound : lastSet past holder name = some value) : store.read id name = .ok value :=
  Store.readFound ((leads.lookup there name).trans (nearest.finds bound))

theorem Leads.containsBound (leads : Leads past store) (there : id.index < store.scopes.size) (name : String) :
    store.contains id name = true ↔ ∃ holder ∈ around past id, (lastSet past holder name).isSome := by
  rw [Store.containsIff, leads.lookup there, List.findSome?_isSome_iff]

theorem Leads.setSeen (leads : Leads past store) {target : ScopeId} (here : target.index < store.scopes.size)
    (there : id.index < store.scopes.size) (bound : String) (value : Value) (name : String) :
    (store.bind target bound value).read id name ≠ store.read id name ↔
      name = bound ∧ Unhidden past bound (around past id) target ∧ store.read id bound ≠ .ok value := by
  have later : Leads (.set target bound value :: past) (store.bind target bound value) :=
    .step leads (.set target bound value) (by simpa [ScopeStep.mentions] using here)
  have there' : id.index < (store.bind target bound value).scopes.size := by
    rw [Store.bind, Store.countUpdated]
    exact there
  have chain : around (.set target bound value :: past) id = around past id := rfl
  have unchanged (same : (store.bind target bound value).lookup? id name = store.lookup? id name) :
      (store.bind target bound value).read id name = store.read id name := by
    unfold Store.read
    rw [same, later.silent, leads.silent]
  by_cases named : name = bound
  · subst named
    by_cases nearest : Unhidden past name (around past id) target
    · have now : (store.bind target name value).read id name = .ok value :=
        Store.readFound ((later.lookup there' name).trans (nearest.set value))
      rw [now]
      exact ⟨fun changed => ⟨rfl, nearest, Ne.symm changed⟩, fun changed => Ne.symm changed.2.2⟩
    · have same := (later.lookup there' name).trans ((hiddenSet nearest value).trans (leads.lookup there name).symm)
      exact ⟨fun changed => absurd (unchanged same) changed, fun changed => absurd changed.2.1 nearest⟩
  · have same : (store.bind target bound value).lookup? id name = store.lookup? id name := by
      rw [later.lookup there', leads.lookup there, chain]
      simp only [lastSetApart past value (.inr (Ne.symm named))]
    exact ⟨fun changed => absurd (unchanged same) changed, fun changed => absurd changed.1 named⟩

/-- After any history a scope sees under a name what was last bound to it in the nearest scope around it that has
the name, and `contains` says whether there is one. Reading fails just where there is none, `output` aside. Binding
a name changes what is seen from the scopes within that have no nearer binding, and only under this name. -/
theorem namesOverHistories (leads : Leads past store) (there : id.index < store.scopes.size) (name : String) :
    (∀ holder value, Unhidden past name (around past id) holder → lastSet past holder name = some value →
      store.read id name = .ok value) ∧
    (store.contains id name = true ↔ ∃ holder ∈ around past id, (lastSet past holder name).isSome) ∧
    (∀ e, store.read id name = .error e ↔
      e = .undefinedVariable name ∧ store.contains id name = false ∧ name ≠ "output") ∧
    (store.contains id "output" = false → store.read id "output" = .ok (.str "")) ∧
    ∀ (seer : ScopeId), seer.index < store.scopes.size → ∀ (value : Value) (asked : String),
      (store.bind id name value).read seer asked ≠ store.read seer asked ↔
        asked = name ∧ Unhidden past name (around past seer) id ∧ store.read seer name ≠ .ok value := by
  refine ⟨fun holder value nearest bound => leads.readLast there nearest bound, leads.containsBound there name,
    fun e => ?_, fun unbound => ?_, fun seer inside value asked => leads.setSeen there inside name value asked⟩
  · rw [← Bool.not_eq_true, Store.containsIff]
    rcases store.readSeen id name with ⟨value, found, read⟩ | ⟨none, read⟩
    · simp [found, read]
    · rw [read, none]
      by_cases output : name = "output"
      · simp [output]
      · simp [output, eq_comm]
  · rcases store.readSeen id "output" with ⟨value, found, read⟩ | ⟨none, read⟩
    · rw [← Bool.not_eq_true, Store.containsIff, found] at unbound
      exact absurd rfl unbound
    · rw [read, if_pos rfl, leads.silent]

theorem callSeesTheDefiner :
    let past : List ScopeStep := [.make (.frame ⟨0⟩ ⟨1⟩), .set ⟨1⟩ "x" (.int 2), .make (.child ⟨0⟩),
      .set ⟨0⟩ "x" (.int 1), .make .root]
    ∃ store, Leads past store ∧ 2 < store.scopes.size ∧ store.read ⟨2⟩ "x" = .ok (.int 1) ∧
      store.read ⟨2⟩ "y" = .error (.undefinedVariable "y") ∧
      (store.bind ⟨1⟩ "x" (.int 3)).read ⟨2⟩ "x" = store.read ⟨2⟩ "x" ∧
      (store.bind ⟨0⟩ "x" (.int 3)).read ⟨2⟩ "x" ≠ store.read ⟨2⟩ "x" := by
  intro past
  have leads : Leads past _ := .step (.step (.step (.step (.step .start (.make .root) (by decide))
    (.set ⟨0⟩ "x" (.int 1)) (by decide)) (.make (.child ⟨0⟩)) (by decide))
    (.set ⟨1⟩ "x" (.int 2)) (by decide)) (.make (.frame ⟨0⟩ ⟨1⟩)) (by decide)
  have chain : around past ⟨2⟩ = [⟨2⟩, ⟨0⟩] := rfl
  have free : lastSet past ⟨2⟩ "x" = none := rfl
  have nearest : Unhidden past "x" (around past ⟨2⟩) ⟨0⟩ :=
    ⟨[⟨2⟩], [], chain, List.forall_mem_cons.mpr ⟨free, List.forall_mem_nil _⟩⟩
  have two : (ScopeId.mk 2).index < _ := (by decide : 2 < 3)
  have seen := (namesOverHistories leads two "x").1 ⟨0⟩ (.int 1) nearest rfl
  have unknown := namesOverHistories leads two "y"
  have absent : ¬∃ holder ∈ around past ⟨2⟩, (lastSet past holder "y").isSome := by
    rw [chain]
    decide
  have caller := (namesOverHistories leads (by decide : (ScopeId.mk 1).index < 3) "x").2.2.2.2 ⟨2⟩ two (.int 3) "x"
  have definer := (namesOverHistories leads (by decide : (ScopeId.mk 0).index < 3) "x").2.2.2.2 ⟨2⟩ two (.int 3) "x"
  refine ⟨_, leads, by decide, seen, ?_, ?_, ?_⟩
  · exact (unknown.2.2.1 _).mpr ⟨rfl, by simpa using mt unknown.2.1.mp absent, by decide⟩
  · refine Classical.byContradiction fun changed => ?_
    obtain ⟨_, ⟨nearer, farther, same, _⟩, _⟩ := caller.mp changed
    have member : (ScopeId.mk 1) ∈ around past ⟨2⟩ := same ▸ List.mem_append_right nearer List.mem_cons_self
    rw [chain] at member
    exact absurd member (by decide)
  · refine definer.mpr ⟨rfl, nearest, ?_⟩
    rw [seen]
    simp [Value.int]

end CircuitScript
