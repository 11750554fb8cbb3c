import CircuitScript.Proofs.Run
import CircuitScript.Proofs.Scopes

/-! Looking names up. A scope sees what it binds itself, then what the scopes around it see. All of these are
older, so what is added later does not change it. Every scope starts with the core functions; the scope of a
call sees these before it sees anything of the scope that the function was defined in. -/
namespace CircuitScript

namespace Table

variable {α : Type}

def insertAll (table : Table α) (entries : List (String × α)) : Table α :=
  entries.foldl (fun table entry => table.insert entry.1 entry.2) table

theorem getInsertAll {entries : List (String × α)} {name : String} (free : name ∉ entries.map (·.1))
    (table : Table α) : (table.insertAll entries).get? name = table.get? name := by
  induction entries generalizing table with
  | nil => rfl
  | cons first rest ih =>
    rw [List.map_cons, List.mem_cons, not_or] at free
    have later := ih free.2 (table.insert first.1 first.2)
    rwa [getInsert, if_neg (Ne.symm free.1)] at later

end Table

namespace Builtin

def ofName? (text : String) : Option Builtin := (core ++ standard).find? (·.name == text)

theorem ofName (b : Builtin) : ofName? b.name = some b := by
  cases b <;> rfl

theorem nameInjective {a b : Builtin} (same : a.name = b.name) : a = b :=
  Option.some.inj ((ofName a).symm.trans (same ▸ ofName b))

theorem coreOrStandard (b : Builtin) : b ∈ core ∨ b ∈ standard := by
  cases b <;> decide

def bindings (functions : List Builtin) : List (String × Value) :=
  functions.map fun b => (b.name, .func (.builtin b))

theorem bindingNames (functions : List Builtin) : (bindings functions).map (·.1) = functions.map name := by
  unfold bindings
  rw [List.map_map]
  rfl

theorem getBound {functions : List Builtin} {b : Builtin} (member : b ∈ functions) (table : Table Value) :
    (table.insertAll (bindings functions)).get? b.name = some (.func (.builtin b)) := by
  induction functions generalizing table with
  | nil => cases member
  | cons first rest ih =>
    by_cases later : b ∈ rest
    · exact ih later _
    · obtain rfl : b = first := (List.mem_cons.mp member).resolve_right later
      -- No later function has the same name.
      have free : b.name ∉ (bindings rest).map (·.1) := by
        rw [bindingNames]
        intro other
        obtain ⟨c, there, same⟩ := List.mem_map.mp other
        exact later (nameInjective same ▸ there)
      refine (Table.getInsertAll free _).trans ?_
      rw [Table.getInsert, if_pos rfl]

end Builtin

namespace Store

theorem coreNamesAt {b : Builtin} (core : b ∈ Builtin.core) :
    coreNames.get? b.name = some (.func (.builtin b)) :=
  Builtin.getBound core .empty

theorem coreNamesFree {name : String} (free : name ∉ Builtin.core.map Builtin.name) :
    coreNames.get? name = none := by
  rw [← Builtin.bindingNames] at free
  exact Table.getInsertAll free .empty

variable {store next : Store} {id : ScopeId}

/-- The scope and all older ones are the same in both stores. -/
def SameUpTo (store next : Store) (id : ScopeId) : Prop :=
  ∀ other : ScopeId, other.index ≤ id.index → next.scope? other = store.scope? other

theorem SameUpTo.older {other : ScopeId} (same : store.SameUpTo next id)
    (older : other.index < id.index) : store.SameUpTo next other :=
  fun which below => same which (Nat.le_trans below (Nat.le_of_lt older))

theorem SameUpTo.names (same : store.SameUpTo next id) : next.names id = store.names id := by
  unfold Store.names
  rw [same id (Nat.le_refl _)]

theorem SameUpTo.parent (same : store.SameUpTo next id) : next.parent? id = store.parent? id := by
  unfold Store.parent?
  rw [same id (Nat.le_refl _)]

theorem namesBoundHere (there : id.index < store.scopes.size) (name : String) (value : Value) :
    (store.bind id name value).names id = (store.names id).insert name value := by
  obtain ⟨scope, found⟩ := scopeThere there
  unfold Store.names bind
  rw [scopeUpdated, if_pos rfl, found]
  rfl

theorem lookupInside {parent : ScopeId} (found : store.parent? id = some parent)
    (older : parent.index < id.index) (name : String) :
    store.lookup? id name = ((store.names id).get? name).or (store.lookup? parent name) := by
  unfold lookup?
  rw [chain, found]
  simp only [if_pos older, List.findSome?_cons]
  cases (store.names id).get? name <;> rfl

theorem lookupAlone (absent : ∀ parent, store.parent? id = some parent → ¬parent.index < id.index)
    (name : String) : store.lookup? id name = (store.names id).get? name := by
  have single : store.chain id = [id] := by
    rw [chain]
    split
    · rename_i parent found
      exact if_neg (absent parent found)
    · rfl
  unfold lookup?
  rw [single, List.findSome?_cons]
  cases (store.names id).get? name <;> rfl

theorem lookupOwn {name : String} {value : Value} (bound : (store.names id).get? name = some value) :
    store.lookup? id name = some value := by
  unfold lookup? chain
  split
  · split <;> rw [List.findSome?_cons, bound]
  · rw [List.findSome?_cons, bound]

theorem SameUpTo.lookup (same : store.SameUpTo next id) (name : String) :
    next.lookup? id name = store.lookup? id name := by
  fun_induction chain store id with
  | case1 id parent found older ih =>
    rw [lookupInside found older, lookupInside (same.parent.trans found) older, same.names,
      ih (same.older older)]
  | case2 id parent found level =>
    have absent : ∀ other, store.parent? id = some other → ¬other.index < id.index := by
      intro other there
      cases found.symm.trans there
      exact level
    rw [lookupAlone absent, lookupAlone (same.parent ▸ absent), same.names]
  | case3 id none =>
    have absent : ∀ other, store.parent? id = some other → ¬other.index < id.index := by simp [none]
    rw [lookupAlone absent, lookupAlone (same.parent ▸ absent), same.names]

theorem readFound {name : String} {value : Value} (found : store.lookup? id name = some value) :
    store.read id name = .ok value := by
  unfold read
  rw [found]

theorem readLike {other : ScopeId} {name : String} (same : next.lookup? id name = store.lookup? other name)
    (ordinary : name ≠ "output") : next.read id name = store.read other name := by
  unfold read
  rw [same, if_neg ordinary, if_neg ordinary]

theorem scopeBoundAll (store : Store) (id other : ScopeId) (bindings : List (String × Value)) :
    (store.bindAll id bindings).scope? other =
      if id = other then
        (store.scope? other).map fun scope => { scope with names := scope.names.insertAll bindings }
      else store.scope? other := by
  induction bindings generalizing store with
  | nil =>
    show store.scope? other = _
    split
    · cases store.scope? other <;> rfl
    · rfl
  | cons first rest ih =>
    show ((store.bind id first.1 first.2).bindAll id rest).scope? other = _
    rw [ih, bind, scopeUpdated]
    split
    · cases store.scope? other <;> rfl
    · rfl

theorem enteredFrame (store : Store) (closure : Closure) (caller : ScopeId) (args : List Value) :
    (store.entered closure caller args).scope? ⟨store.scopes.size⟩ =
      some ⟨coreNames.insertAll (closure.params.zip args), some closure.scope, .through caller⟩ := by
  unfold entered newFrame
  rw [scopeBoundAll, if_pos rfl, scopeAdded, if_pos rfl]
  rfl

theorem enteredOlder (store : Store) (closure : Closure) (caller : ScopeId) (args : List Value)
    (there : id.index < store.scopes.size) :
    store.SameUpTo (store.entered closure caller args) id := by
  intro other older
  have old : other.index < store.scopes.size := Nat.lt_of_le_of_lt older there
  have apart : ScopeId.mk store.scopes.size ≠ other := by
    rintro rfl
    exact Nat.lt_irrefl _ old
  unfold entered newFrame
  rw [scopeBoundAll, if_neg apart, scopeOlder store _ _ old]

theorem enteredLookup (store : Store) {closure : Closure}
    (there : closure.scope.index < store.scopes.size) (caller : ScopeId) (args : List Value) (name : String) :
    (store.entered closure caller args).lookup? ⟨store.scopes.size⟩ name =
      ((coreNames.insertAll (closure.params.zip args)).get? name).or (store.lookup? closure.scope name) := by
  have frame := store.enteredFrame closure caller args
  have parent : (store.entered closure caller args).parent? ⟨store.scopes.size⟩ = some closure.scope := by
    unfold parent?
    rw [frame]
    rfl
  rw [lookupInside parent there, (store.enteredOlder closure caller args there).lookup, names, frame]

end Store

theorem parameterFree {closure : Closure} {name : String} (free : name ∉ closure.params) (args : List Value) :
    name ∉ (closure.params.zip args).map (·.1) := by
  intro member
  obtain ⟨binding, there, rfl⟩ := List.mem_map.mp member
  exact free (List.of_mem_zip there).1

/-- As soon as its parameters are bound, the scope of a call sees under every other name what the scope sees
that the function was defined in. Only the core functions it sees by themselves, under their own names. -/
theorem framesSeeTheirDefiner (store : Store) (closure : Closure) (caller : ScopeId) (args : List Value)
    (there : closure.scope.index < store.scopes.size) {name : String} (free : name ∉ closure.params)
    (ordinary : name ≠ "output") :
    let frame : ScopeId := ⟨store.scopes.size⟩
    let entered := store.entered closure caller args
    (∀ (n : Nat) (id : ClosureId), store.closure? id = some closure →
      invoke (n + 1) caller (.closure id) args store =
        (do
          let flow ← exec n frame closure.body
          pure flow.value : Eval Value) entered) ∧
    entered.read closure.scope name = store.read closure.scope name ∧
    (name ∉ Builtin.core.map Builtin.name →
      entered.read frame name = entered.read closure.scope name ∧
      ∀ value, (store.names closure.scope).get? name = some value →
        entered.read frame name = .ok value) ∧
    (∀ b ∈ Builtin.core, b.name = name → entered.read frame name = .ok (.func (.builtin b))) := by
  intro frame entered
  have older := store.enteredOlder closure caller args there
  have sees := store.enteredLookup there caller args name
  rw [Table.getInsertAll (parameterFree free args)] at sees
  have before : entered.read closure.scope name = store.read closure.scope name :=
    Store.readLike (older.lookup name) ordinary
  refine ⟨fun n id found => invokeClosure found caller args, before, fun own => ?_, ?_⟩
  · rw [Store.coreNamesFree own, Option.none_or] at sees
    refine ⟨?_, fun value bound => Store.readFound (sees.trans (Store.lookupOwn bound))⟩
    rw [before]
    exact Store.readLike sees ordinary
  · rintro b core rfl
    rw [Store.coreNamesAt core, Option.some_or] at sees
    exact Store.readFound sees

-- A scope that binds a name to 3, and a function defined in it that gives what it sees under the name.
def reboundStore (name : String) : Store := Store.empty.newRoot.2.bind ⟨0⟩ name (.int 3)

def seeing (name : String) : Closure := ⟨"f", [], .ret (.ref (.var name)), ⟨0⟩⟩

theorem reboundNames (name : String) : ((reboundStore name).names ⟨0⟩).get? name = some (.int 3) := by
  have there : 0 < Store.empty.newRoot.2.scopes.size := by decide
  unfold reboundStore
  rw [Store.namesBoundHere there, Table.getInsert, if_pos rfl]

theorem reboundStandardNameIsSeen :
    (reboundStore "abs").scopes.size = 1 ∧ "abs" ∉ (seeing "abs").params ∧
    ((reboundStore "abs").entered (seeing "abs") ⟨0⟩ []).read ⟨1⟩ "abs" = .ok (.int 3) := by
  have one : (reboundStore "abs").scopes.size = 1 := rfl
  obtain ⟨_, _, sees, _⟩ := framesSeeTheirDefiner (reboundStore "abs") (seeing "abs") ⟨0⟩ []
    (by decide : 0 < 1) (List.not_mem_nil : "abs" ∉ []) (by decide)
  exact ⟨one, List.not_mem_nil, (sees (by decide)).2 _ (reboundNames "abs")⟩

theorem reboundCoreNameIsNotSeen :
    let entered := (reboundStore "sizeOf").entered (seeing "sizeOf") ⟨0⟩ []
    "sizeOf" ∉ (seeing "sizeOf").params ∧ (reboundStore "sizeOf").scopes.size = 1 ∧
    entered.read ⟨0⟩ "sizeOf" = .ok (.int 3) ∧
    entered.read ⟨1⟩ "sizeOf" = .ok (.func (.builtin .sizeOf)) := by
  have there : (seeing "sizeOf").scope.index < (reboundStore "sizeOf").scopes.size := by decide
  have free : "sizeOf" ∉ (seeing "sizeOf").params := List.not_mem_nil
  have older := (reboundStore "sizeOf").enteredOlder (seeing "sizeOf") ⟨0⟩ [] there
  have core : Store.coreNames.get? "sizeOf" = some (.func (.builtin .sizeOf)) :=
    Store.coreNamesAt (b := .sizeOf) (by decide)
  have sees := (reboundStore "sizeOf").enteredLookup there ⟨0⟩ [] "sizeOf"
  rw [Table.getInsertAll (parameterFree free []), core, Option.some_or] at sees
  refine ⟨free, rfl, Store.readFound ?_, Store.readFound sees⟩
  exact (older.lookup "sizeOf").trans (Store.lookupOwn (reboundNames "sizeOf"))

end CircuitScript
