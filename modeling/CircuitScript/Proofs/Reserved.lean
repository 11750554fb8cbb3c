import CircuitScript.Proofs.Builds
import CircuitScript.Proofs.Scopes

/-! Scopes made ahead of time. Where one build makes a scope earlier than another does, the scope waits in
the store of the first, untouched, until the second makes its own. From then on the two stand for each
other, though they are not at the same place among the other scopes. -/
namespace CircuitScript

namespace Offset

def same : Offset := ⟨id, Function.injective_id⟩

-- The second row has one thing more at `place`.
def skip (offset : Offset) (place : Nat) : Offset where
  move i := if offset.move i < place then offset.move i else offset.move i + 1
  injective i j same := by
    refine offset.injective ?_
    dsimp only at same
    split at same <;> split at same <;> omega

-- What is added next to the first row, at `next`, is found at `place` of the second one.
def claim (offset : Offset) (next place : Nat) (free : ∀ i, offset.move i ≠ place) : Offset where
  move i := if i < next then offset.move i else if i = next then place else offset.move (i - 1)
  injective i j same := by
    have apart {i j : Nat} : offset.move i = offset.move j → i = j := fun moved => offset.injective moved
    dsimp only at same
    split at same <;> split at same <;> try split at same
    all_goals try split at same
    all_goals first
      | exact absurd same (free _)
      | exact absurd same.symm (free _)
      | omega
      | have := apart same; omega

theorem rowsSame {α : Type} {f : α → α} (same : ∀ a, f a = a) {row : Array α} :
    Offset.same.Rows f row row where
  get i := by
    rw [funext same, Option.map_id']
    rfl
  next _ := rfl

section Rows

variable {α β : Type} {offset : Offset} {f : α → β} {row : Array α} {row' : Array β}

theorem Rows.skip (rows : offset.Rows f row row') (b : β) :
    (offset.skip row'.size).Rows f row (row'.push b) where
  get i := by
    unfold Offset.skip
    dsimp only
    split
    · rename_i inside
      rw [Array.getElem?_push, if_neg (Nat.ne_of_lt inside), rows.get]
    · rename_i outside
      rw [← rows.get, Array.getElem?_eq_none (Nat.le_of_not_lt outside), Array.getElem?_eq_none]
      rw [Array.size_push]
      omega
  next k := by
    unfold Offset.skip
    dsimp only
    rw [rows.next, Array.size_push]
    split <;> omega

theorem Rows.claim (rows : offset.Rows f row row') {a : α} {place : Nat}
    (free : ∀ i, offset.move i ≠ place) (found : row'[place]? = some (f a)) :
    (offset.claim row.size place free).Rows f (row.push a) row' where
  get i := by
    unfold Offset.claim
    dsimp only
    rw [Array.getElem?_push]
    split
    · rename_i old
      rw [if_neg (Nat.ne_of_lt old), rows.get]
    · split
      · exact found
      · rename_i old new
        rw [rows.get, Array.getElem?_eq_none (by omega), Array.getElem?_eq_none (by omega)]
  next k := by
    unfold Offset.claim
    dsimp only
    rw [Array.size_push, if_neg (by omega), if_neg (by omega), ← rows.next]
    exact congrArg offset.move (by omega)

end Rows

end Offset

namespace Store

def pushed (store : Store) (scope : Scope) : Store := { store with scopes := store.scopes.push scope }

theorem grownPushed (store : Store) (scope : Scope) : store.Grown (store.pushed scope) := by
  constructor <;> simp [pushed]

theorem bindPushed (store : Store) (scope : Scope) (name : String) (value : Value) :
    (store.pushed scope).bind ⟨store.scopes.size⟩ name value =
      store.pushed { scope with names := scope.names.insert name value } := by
  unfold bind updateScope pushed
  congr 1
  refine Array.ext_getElem? fun i => ?_
  rw [Array.getElem?_modify, Array.getElem?_push, Array.getElem?_push]
  by_cases last : i = store.scopes.size
  · rw [if_pos last.symm, if_pos last, if_pos last]
    rfl
  · rw [if_neg (Ne.symm last), if_neg last, if_neg last]

theorem bindAllPushed (store : Store) (scope : Scope) (bindings : List (String × Value)) :
    (store.pushed scope).bindAll ⟨store.scopes.size⟩ bindings =
      store.pushed { scope with
        names := bindings.foldl (fun names entry => names.insert entry.1 entry.2) scope.names } := by
  induction bindings generalizing scope with
  | nil => rfl
  | cons first rest ih =>
    have bound := store.bindPushed scope first.1 first.2
    unfold bindAll at ih ⊢
    rw [List.foldl_cons, bound, ih]
    rfl

end Store

/-- Where the scopes of the first store are found in the second, and which scopes of the second one wait
to be made in the first. -/
structure World where
  scopes : Offset
  reserved : List (ScopeId × Scope)
  free : ∀ entry ∈ reserved, ∀ i, scopes.move i ≠ entry.1.index
  apart : (reserved.map (·.1)).Nodup

namespace World

variable {world : World} {s s' : Store}

def shift (world : World) : Shift := ⟨world.scopes, .same, .same, .same, .same⟩

abbrev places (world : World) : Places := world.shift.places

def Waiting (world : World) (store : Store) : Prop :=
  ∀ entry ∈ world.reserved, store.scope? entry.1 = some entry.2

namespace Waiting

variable (waiting : world.Waiting s)
include waiting

theorem newScope (parent : Option ScopeId) (output : Output) :
    world.Waiting (s.newScope parent output).2 := by
  intro entry member
  have found := waiting entry member
  rw [s.scopeOlder parent output (Store.scopeInside found)]
  exact found

-- No script of the second store reaches a scope that waits.
theorem updateScope (id : ScopeId) (change : Scope → Scope) :
    world.Waiting (s.updateScope (world.places.scope id) change) := by
  intro entry member
  have other : world.places.scope id ≠ entry.1 :=
    fun same => world.free entry member id.index (congrArg ScopeId.index same)
  rw [Store.scopeUpdated, if_neg other]
  exact waiting entry member

end Waiting

structure Rel (world : World) (s s' : Store) : Prop where
  shift : world.shift.Rel s s'
  closed : s.Closed
  waiting : world.Waiting s'

def simulation (world : World) : Simulation where
  places := world.places
  Rel := world.Rel
  Ok s value := value.There s
  grown grown there := there.grown grown
  scalar _ _ := trivial
  builtin := builtinThere
  shown rel := rel.shift.shown
  held rel := rel.closed.held
  lookup id name rel := rel.shift.scopesShown.lookup id name
  output rel _ := rel.shift.scopesShown.outputText _
  newList rel there := by
    obtain ⟨id, made⟩ := rel.shift.newList _
    exact ⟨id, ⟨made, rel.closed.newList there, rel.waiting⟩, by simp [Value.There, Store.newList]⟩
  putItem id position rel there :=
    ⟨rel.shift.putItem id position _, rel.closed.putItem id position there, rel.waiting⟩
  newMap rel there := by
    obtain ⟨id, made⟩ := rel.shift.newMap _
    exact ⟨id, ⟨made, rel.closed.newMap there, rel.waiting⟩, by simp [Value.There, Store.newMap]⟩
  setEntry id key rel there :=
    ⟨rel.shift.setEntry id key _, rel.closed.setEntry id key there, rel.waiting⟩
  setAttribute id key x rel :=
    ⟨rel.shift.setAttribute id key x, rel.closed.setAttribute id key x, rel.waiting⟩
  newClosure rel there := by
    obtain ⟨id, made⟩ := rel.shift.newClosure _
    exact ⟨id, ⟨made, rel.closed.newClosure there, rel.waiting⟩,
      by simp [Value.There, Store.newClosure]⟩
  bind id name rel there :=
    ⟨rel.shift.bind id name _, rel.closed.bind id name there, rel.waiting.updateScope id _⟩
  print := by
    intro s s' id text rel _
    refine ⟨rel.shift.print id text, rel.closed.print id text, ?_⟩
    unfold Store.print
    rw [rel.shift.scopesShown.sink]
    exact rel.waiting.updateScope _ _
  frame := by
    intro s s' id caller closure rel found there
    obtain ⟨place, made⟩ := rel.shift.newScope (some closure.scope) (.through caller)
    have definer := rel.closed.closures id.index closure found
    refine ⟨place, ⟨made, rel.closed.newScope ⟨?_, ?_⟩, rel.waiting.newScope _ _⟩,
      by simp [Value.There, Store.newFrame, Store.newScope]⟩
    · intro outer same
      cases same
      exact definer
    · intro next same
      cases same
      exact there

def builds (world : World) : BuildSimulation where
  toSimulation := world.simulation
  root := by
    intro s s' rel
    obtain ⟨place, made⟩ := rel.shift.newScope none (.own "")
    exact ⟨place, ⟨made, rel.closed.newScope ⟨nofun, nofun⟩, rel.waiting.newScope _ _⟩,
      by simp [simulation, Value.There, Store.newRoot, Store.newScope]⟩
  handle := by
    intro s s' attributes rel
    obtain ⟨place, made⟩ := rel.shift.newHandle attributes
    exact ⟨place, ⟨made, rel.closed.newHandle attributes, rel.waiting⟩,
      by simp [simulation, Value.There, Store.newHandle]⟩

-- The scopes of the first store are where they were.
def Keeps (world later : World) (store : Store) : Prop :=
  ∀ i < store.scopes.size, later.scopes.move i = world.scopes.move i

section Keeps

variable {later : World} (keeps : world.Keeps later s)
include keeps

theorem Keeps.scope {id : ScopeId} (there : id.index < s.scopes.size) :
    later.places.scope id = world.places.scope id :=
  congrArg ScopeId.mk (keeps id.index there)

theorem Keeps.value {value : Value} (there : value.There s) :
    value.moved later.places = value.moved world.places := by
  cases value with
  | scope id => exact congrArg Value.scope (keeps.scope there)
  | func f => cases f <;> rfl
  | _ => rfl

theorem Keeps.table {table : Table Value} (there : table.All (Value.There s)) :
    table.map (Value.moved later.places) = table.map (Value.moved world.places) := by
  apply Table.same
  refine List.map_congr_left fun entry member => ?_
  rw [keeps.value (there entry member)]

theorem Keeps.wholeScope {scope : Scope} (names : scope.names.All (Value.There s))
    (links : scope.There s) : scope.moved later.places = scope.moved world.places := by
  obtain ⟨table, parent, output⟩ := scope
  have outer : parent.map later.places.scope = parent.map world.places.scope := by
    cases parent with
    | none => rfl
    | some id => exact congrArg some (keeps.scope (links.parent id rfl))
  have way : output.moved later.places = output.moved world.places := by
    cases output with
    | own text => rfl
    | through next => exact congrArg Output.through (keeps.scope (links.output next rfl))
  unfold Scope.moved
  rw [keeps.table names, outer, way]

theorem Rel.scopesAt (rel : world.Rel s s') {scopes scopes' : Array Scope}
    (rows : later.scopes.Rows (Scope.moved later.places) scopes scopes')
    (order : ∀ (i : Nat) (scope : Scope) (link : ScopeId), scopes[i]? = some scope →
      scope.LinksTo link → (later.scopes.move link.index < later.scopes.move i ↔ link.index < i)) :
    later.shift.Rel { s with scopes := scopes } { s' with scopes := scopes' } where
  scopes := rows
  lists := by
    refine rel.shift.lists.congr fun i items found => ?_
    exact Array.map_congr_left fun value member =>
      (keeps.value (rel.closed.held.items i items found value member)).symm
  maps := rel.shift.maps.congr fun i table found =>
    (keeps.table (rel.closed.held.entries i table found)).symm
  handles := rel.shift.handles
  closures := by
    refine rel.shift.closures.congr fun i closure found => ?_
    unfold Closure.moved
    rw [keeps.scope (rel.closed.closures i closure found)]
  order id := order id.index

end Keeps

theorem Rel.scopeKept {later : World} (rel : world.Rel s s') (keeps : world.Keeps later s) {i : Nat}
    {scope : Scope} (found : s.scopes[i]? = some scope) :
    scope.moved world.places = scope.moved later.places :=
  (keeps.wholeScope (rel.closed.held.names i scope found) (rel.closed.scopes i scope found)).symm

theorem Rel.orderKept {later : World} (rel : world.Rel s s') (keeps : world.Keeps later s) {i : Nat}
    {scope : Scope} {link : ScopeId} (found : s.scopes[i]? = some scope) (linked : scope.LinksTo link) :
    later.scopes.move link.index < later.scopes.move i ↔ link.index < i := by
  obtain ⟨inside, _⟩ := Array.getElem?_eq_some_iff.mp found
  have links := rel.closed.scopes i scope found
  have there : link.index < s.scopes.size := by
    rcases linked with outer | way
    · exact links.parent link outer
    · exact links.output link way
  rw [keeps i inside, keeps link.index there]
  exact rel.shift.order ⟨i⟩ scope link found linked

section Ahead

variable (scope : Scope)

/-- A scope made in the second store only. -/
def ahead (world : World) (store : Store) (waiting : world.Waiting store) : World where
  scopes := world.scopes.skip store.scopes.size
  reserved := (⟨store.scopes.size⟩, scope) :: world.reserved
  free entry member i := by
    unfold Offset.skip
    dsimp only
    rcases List.mem_cons.mp member with rfl | old
    · dsimp only
      split <;> omega
    · have inside := Store.scopeInside (waiting entry old)
      have other := world.free entry old i
      split <;> omega
  apart := by
    refine List.nodup_cons.mpr ⟨fun taken => ?_, world.apart⟩
    obtain ⟨entry, old, same⟩ := List.mem_map.mp taken
    have inside := Store.scopeInside (waiting entry old)
    rw [same] at inside
    exact Nat.lt_irrefl _ inside

theorem Rel.ahead (rel : world.Rel s s') :
    world.Keeps (world.ahead scope s' rel.waiting) s ∧
      (world.ahead scope s' rel.waiting).Rel s (s'.pushed scope) := by
  have keeps : world.Keeps (world.ahead scope s' rel.waiting) s :=
    fun i inside => if_pos (rel.shift.scopes.inside.mpr inside)
  have rows := (rel.shift.scopes.skip scope).congr fun i _ found => rel.scopeKept keeps found
  refine ⟨keeps, rel.scopesAt keeps rows fun i scope link => rel.orderKept keeps, rel.closed, ?_⟩
  intro entry member
  show (s'.scopes.push scope)[entry.1.index]? = some entry.2
  rw [Array.getElem?_push]
  rcases List.mem_cons.mp member with rfl | old
  · exact if_pos rfl
  · have found := rel.waiting entry old
    rw [if_neg (Nat.ne_of_lt (Store.scopeInside found))]
    exact found

end Ahead

section Claimed

variable {before after : List (ScopeId × Scope)} {place : ScopeId} {scope : Scope}

theorem reservedApart (reserved : world.reserved = before ++ (place, scope) :: after) :
    place ∉ (before ++ after).map (·.1) ∧ ((before ++ after).map (·.1)).Nodup := by
  have apart := world.apart
  rw [reserved, List.map_append, List.map_cons, List.nodup_middle, ← List.map_append] at apart
  exact List.nodup_cons.mp apart

theorem reservedStill (reserved : world.reserved = before ++ (place, scope) :: after)
    {entry : ScopeId × Scope} (member : entry ∈ before ++ after) : entry ∈ world.reserved := by
  rw [reserved]
  rcases List.mem_append.mp member with first | last
  · exact List.mem_append_left _ first
  · exact List.mem_append_right _ (List.mem_cons_of_mem _ last)

theorem reservedHere (reserved : world.reserved = before ++ (place, scope) :: after) :
    (place, scope) ∈ world.reserved :=
  reserved ▸ List.mem_append_right _ List.mem_cons_self

/-- A scope of the second store is now made in the first, at the place `next`. -/
def claimed (world : World) (next : Nat)
    (reserved : world.reserved = before ++ (place, scope) :: after) : World where
  scopes := world.scopes.claim next place.index (world.free _ (reservedHere reserved))
  reserved := before ++ after
  free entry member i := by
    have free := world.free entry (reservedStill reserved member)
    have other : place.index ≠ entry.1.index := by
      intro same
      have taken : entry.1 ∈ (before ++ after).map (·.1) := List.mem_map_of_mem member
      rw [← ScopeId.sameIndex same] at taken
      exact (reservedApart reserved).1 taken
    unfold Offset.claim
    dsimp only
    split
    · exact free i
    · split
      · exact other
      · exact free (i - 1)
  apart := (reservedApart reserved).2

theorem claimedAt (next : Nat) (reserved : world.reserved = before ++ (place, scope) :: after) :
    place = (world.claimed next reserved).places.scope ⟨next⟩ := by
  apply ScopeId.sameIndex
  simp [claimed, places, shift, Shift.places, Offset.claim]

theorem Rel.claimed (rel : world.Rel s s')
    (reserved : world.reserved = before ++ (place, scope) :: after) {made : Scope}
    (same : made.moved world.places = scope) (unlinked : ∀ link, ¬made.LinksTo link)
    (there : made.names.All (Value.There s)) :
    world.Keeps (world.claimed s.scopes.size reserved) s ∧
      (world.claimed s.scopes.size reserved).Rel (s.pushed made) s' := by
  have keeps : world.Keeps (world.claimed s.scopes.size reserved) s := fun i inside => if_pos inside
  have links : made.There s :=
    ⟨fun outer found => absurd (.inl found) (unlinked outer),
      fun next found => absurd (.inr found) (unlinked next)⟩
  have found : s'.scopes[place.index]? = some (made.moved world.places) :=
    same ▸ rel.waiting _ (reservedHere reserved)
  have rows := rel.shift.scopes.claim (world.free _ (reservedHere reserved)) found
  have moved := rows.congr <| eachPushed (fun i _ old => rel.scopeKept keeps old)
    (keeps.wholeScope there links).symm
  refine ⟨keeps, rel.scopesAt keeps moved fun i scope link found linked => ?_, ?_,
    fun entry member => rel.waiting entry (reservedStill reserved member)⟩
  · rw [Array.getElem?_push] at found
    split at found
    · cases found
      exact absurd linked (unlinked link)
    · exact rel.orderKept keeps found linked
  · have grown := s.grownPushed made
    have held := rel.closed.heldLater grown
    refine ⟨⟨eachPushed held.names fun entry member => (there entry member).grown grown, held.items,
      held.entries⟩, ?_, rel.closed.closuresLater grown⟩
    exact eachPushed (rel.closed.scopesLater grown) (links.grown grown)

end Claimed

/-- A scope that nothing will claim need not wait any longer. -/
def dropped (world : World) {reserved : List (ScopeId × Scope)}
    (fewer : reserved.Sublist world.reserved) : World where
  scopes := world.scopes
  reserved := reserved
  free entry member := world.free entry (fewer.subset member)
  apart := world.apart.sublist (fewer.map _)

theorem Rel.dropped (rel : world.Rel s s') {reserved : List (ScopeId × Scope)}
    (fewer : reserved.Sublist world.reserved) : (world.dropped fewer).Rel s s' :=
  ⟨rel.shift, rel.closed, fun entry member => rel.waiting entry (fewer.subset member)⟩

-- Nothing waits, and every scope is at its own place.
def same : World := ⟨.same, [], nofun, List.nodup_nil⟩

theorem scopeMovedSame (scope : Scope) : scope.moved .same = scope := by
  obtain ⟨names, parent, output⟩ := scope
  unfold Scope.moved
  rw [Value.allMovedSame, Table.mapId]
  cases parent <;> cases output <;> rfl

theorem sameRel {store : Store} (closed : store.Closed) : same.Rel store store where
  shift := {
    scopes := Offset.rowsSame scopeMovedSame
    lists := Offset.rowsSame fun items => by
      show items.map (Value.moved .same) = items
      rw [Value.allMovedSame, Array.map_id]
    maps := Offset.rowsSame fun entries => by
      show entries.map (Value.moved .same) = entries
      rw [Value.allMovedSame, Table.mapId]
    handles := Offset.rowsSame fun _ => rfl
    closures := Offset.rowsSame fun _ => rfl
    order := fun _ _ _ _ _ => Iff.rfl }
  closed := closed
  waiting := nofun

end World

end CircuitScript
