import CircuitScript.Script

/-! Stores in which every value is good, for some notion of it: values held in a store are good when they
are read, and stay the only ones when good values are written. -/
namespace CircuitScript

namespace Table

variable {α : Type}

def All (p : α → Prop) (table : Table α) : Prop := ∀ entry ∈ table.entries, p entry.2

theorem allEmpty (p : α → Prop) : (empty : Table α).All p := by
  intro entry member
  cases member

theorem All.insert {p : α → Prop} {table : Table α} (all : table.All p) (key : String) {value : α}
    (good : p value) : (table.insert key value).All p := by
  intro entry member
  rcases memPut member with rfl | old
  · exact good
  · exact all entry old

theorem allFoldInsert {p : α → Prop} {entries : List (String × α)} {table : Table α}
    (good : ∀ entry ∈ entries, p entry.2) (all : table.All p) :
    (entries.foldl (fun table entry => table.insert entry.1 entry.2) table).All p := by
  induction entries generalizing table with
  | nil => exact all
  | cons first rest ih =>
    have now := all.insert first.1 (good first List.mem_cons_self)
    exact ih (fun entry member => good entry (List.mem_cons_of_mem _ member)) now

theorem allOfList {p : α → Prop} {entries : List (String × α)}
    (good : ∀ entry ∈ entries, p entry.2) : (ofList entries).All p :=
  allFoldInsert good (allEmpty p)

theorem memOfFind {key : String} {value : α} {entries : List (String × α)}
    (found : find? key entries = some value) : (key, value) ∈ entries := by
  induction entries with
  | nil => cases found
  | cons entry rest ih =>
    simp only [find?] at found
    split at found
    · rename_i same
      cases found
      subst same
      exact List.mem_cons_self
    · exact List.mem_cons_of_mem _ (ih found)

theorem All.get {p : α → Prop} {table : Table α} (all : table.All p) {key : String} {value : α}
    (found : table.get? key = some value) : p value :=
  all _ (memOfFind found)

end Table

variable {good : Value → Prop} {store : Store}

/-- Every value in the scopes, lists and maps of the store is good. -/
structure Store.Holds (good : Value → Prop) (store : Store) : Prop where
  names : ∀ (i : Nat) (scope : Scope), store.scopes[i]? = some scope → scope.names.All good
  items : ∀ (i : Nat) (items : Array Value), store.lists[i]? = some items → ∀ value ∈ items, good value
  entries : ∀ (i : Nat) (table : Table Value), store.maps[i]? = some table → table.All good

namespace Store.Holds

theorem namesOf (holds : store.Holds good) (id : ScopeId) : (store.names id).All good := by
  unfold Store.names
  split
  · rename_i scope found
    exact holds.names id.index scope found
  · exact Table.allEmpty _

theorem itemsOf (holds : store.Holds good) (id : ListId) : ∀ value ∈ store.items id, good value := by
  intro value member
  unfold Store.items at member
  cases found : store.lists[id.index]? with
  | none => simp [found] at member
  | some items =>
    rw [found] at member
    exact holds.items id.index items found value member

theorem entriesOf (holds : store.Holds good) (id : MapId) : (store.mapEntries id).All good := by
  unfold Store.mapEntries
  cases found : store.maps[id.index]? with
  | none => exact Table.allEmpty _
  | some table => exact holds.entries id.index table found

theorem read (holds : store.Holds good) (scalar : ∀ x, good (.scalar x)) {id : ScopeId}
    {name : String} {value : Value} (found : store.read id name = .ok value) : good value := by
  unfold Store.read Store.lookup? at found
  split at found
  · rename_i other seen
    cases found
    obtain ⟨scope, _, bound⟩ := List.exists_of_findSome?_eq_some seen
    exact (holds.namesOf scope).get bound
  · split at found
    · cases found
      exact scalar _
    · cases found

theorem readField (holds : store.Holds good) (scalar : ∀ x, good (.scalar x)) {target : Value}
    {key : String} {value : Value} (found : store.readField target key = .ok value) : good value := by
  unfold Store.readField at found
  split at found
  · split at found
    · rename_i seen
      cases found
      exact (holds.entriesOf _).get seen
    · cases found
  · exact holds.read scalar found
  · split at found
    · cases found
      exact scalar _
    · cases found
  · cases found

end Store.Holds

theorem eachModified {α : Type} {p : α → Prop} {f : α → α} {row : Array α} {index : Nat}
    (each : ∀ (i : Nat) (a : α), row[i]? = some a → p a) (keeps : ∀ a, p a → p (f a)) :
    ∀ (i : Nat) (a : α), (row.modify index f)[i]? = some a → p a := by
  intro i a found
  rw [Array.getElem?_modify] at found
  split at found
  · obtain ⟨old, there, rfl⟩ := Option.map_eq_some_iff.mp found
    exact keeps old (each i old there)
  · exact each i a found

theorem eachPushed {α : Type} {p : α → Prop} {row : Array α} {new : α}
    (each : ∀ (i : Nat) (a : α), row[i]? = some a → p a) (good : p new) :
    ∀ (i : Nat) (a : α), (row.push new)[i]? = some a → p a := by
  intro i a found
  rw [Array.getElem?_push] at found
  split at found
  · cases found
    exact good
  · exact each i a found

theorem coreNamesAll (builtin : ∀ b, good (.func (.builtin b))) : Store.coreNames.All good := by
  refine Table.allOfList fun entry member => ?_
  obtain ⟨b, _, rfl⟩ := List.mem_map.mp member
  exact builtin b

namespace Store.Holds

theorem imp {better : Value → Prop} (holds : store.Holds good) (all : ∀ value, good value → better value) :
    store.Holds better :=
  ⟨fun i scope found entry member => all _ (holds.names i scope found entry member),
    fun i items found value member => all _ (holds.items i items found value member),
    fun i table found entry member => all _ (holds.entries i table found entry member)⟩

theorem updateScope (holds : store.Holds good) (id : ScopeId) {f : Scope → Scope}
    (keeps : ∀ scope : Scope, scope.names.All good → (f scope).names.All good) :
    (store.updateScope id f).Holds good :=
  ⟨eachModified holds.names keeps, holds.items, holds.entries⟩

theorem bind (holds : store.Holds good) (id : ScopeId) (name : String) {value : Value}
    (ok : good value) : (store.bind id name value).Holds good :=
  holds.updateScope id fun _ names => names.insert name ok

theorem bindAll (holds : store.Holds good) (id : ScopeId) {bindings : List (String × Value)}
    (ok : ∀ binding ∈ bindings, good binding.2) : (store.bindAll id bindings).Holds good := by
  induction bindings generalizing store with
  | nil => exact holds
  | cons first rest ih =>
    have now := holds.bind id first.1 (ok first List.mem_cons_self)
    exact ih now fun binding member => ok binding (List.mem_cons_of_mem _ member)

theorem print (holds : store.Holds good) (id : ScopeId) (text : String) :
    (store.print id text).Holds good :=
  holds.updateScope _ fun _ names => names

theorem newScope (holds : store.Holds good) (builtin : ∀ b, good (.func (.builtin b)))
    (parent : Option ScopeId) (output : Output) : (store.newScope parent output).2.Holds good :=
  ⟨eachPushed holds.names (coreNamesAll builtin), holds.items, holds.entries⟩

theorem newList (holds : store.Holds good) {items : Array Value} (ok : ∀ value ∈ items, good value) :
    (store.newList items).2.Holds good :=
  ⟨holds.names, eachPushed holds.items ok, holds.entries⟩

theorem putItem (holds : store.Holds good) (id : ListId) (position : Nat) {value : Value}
    (ok : good value) : (store.putItem id position value).Holds good := by
  refine ⟨holds.names, eachModified holds.items ?_, holds.entries⟩
  intro items each item member
  split at member
  · rcases Array.mem_or_eq_of_mem_setIfInBounds member with old | rfl
    · exact each item old
    · exact ok
  · rcases Array.mem_push.mp member with old | rfl
    · exact each item old
    · exact ok

theorem newMap (holds : store.Holds good) {entries : Table Value} (ok : entries.All good) :
    (store.newMap entries).2.Holds good :=
  ⟨holds.names, holds.items, eachPushed holds.entries ok⟩

theorem setEntry (holds : store.Holds good) (id : MapId) (key : String) {value : Value}
    (ok : good value) : (store.setEntry id key value).Holds good :=
  ⟨holds.names, holds.items, eachModified holds.entries fun _ all => all.insert key ok⟩

theorem newHandle (holds : store.Holds good) (attributes : Attributes) :
    (store.newHandle attributes).2.Holds good :=
  ⟨holds.names, holds.items, holds.entries⟩

theorem setAttribute (holds : store.Holds good) (id : HandleId) (key : String) (value : Scalar) :
    (store.setAttribute id key value).Holds good :=
  ⟨holds.names, holds.items, holds.entries⟩

theorem newClosure (holds : store.Holds good) (closure : Closure) :
    (store.newClosure closure).2.Holds good :=
  ⟨holds.names, holds.items, holds.entries⟩

end Store.Holds

end CircuitScript
