import CircuitScript.Proofs.Locations
import CircuitScript.Proofs.Looking

/-! References are locations. A name followed by field names and literal indices leads to one place of the
store. Assigning to it either changes this place alone, or fails and changes nothing; unless the way there
passes the same thing twice, the value is found there afterwards. -/
namespace CircuitScript

inductive Step where
  | index (position : Scalar)
  | field (key : String)

/-- The reference with the steps behind a name, the last step first. -/
def Reference.along (name : String) : List Step → Reference
  | [] => .var name
  | .index position :: outer => .index (along name outer) (.literal position)
  | .field key :: outer => .field (along name outer) key

def Value.indexed (target : Value) (position : Scalar) : Except EvalError (ListId × Int64) := do
  let list ← target.toList
  let i ← (Value.scalar position).toInt
  pure (list, i)

namespace Store

def readItem (store : Store) (list : ListId) (position : Int64) : Except EvalError Value :=
  match if 0 ≤ position then (store.items list)[position.toInt.toNat]? else none with
  | some value => .ok value
  | none => .error (.indexOutOfBounds position)

def readStep (store : Store) (target : Value) : Step → Except EvalError Value
  | .index position => do
    let (list, i) ← target.indexed position
    store.readItem list i
  | .field key => store.readField target key

def readAlong (store : Store) (scope : ScopeId) (name : String) : List Step → Except EvalError Value
  | [] => store.read scope name
  | step :: outer => do
    let target ← store.readAlong scope name outer
    store.readStep target step

def locateItem (list : ListId) (position : Int64) : Except EvalError Location :=
  if 0 ≤ position then .ok (.slot list position.toInt.toNat) else .error (.indexOutOfBounds position)

def locateStep (target : Value) : Step → Except EvalError Location
  | .index position => do
    let (list, i) ← target.indexed position
    locateItem list i
  | .field key =>
    match target with
    | .map id => .ok (.entry id key)
    | .scope id => .ok (.binding id key)
    | .attributes id => .ok (.attr id key)
    | other => other.mismatch .map

/-- Where an assignment behind the steps goes. -/
def locate (store : Store) (scope : ScopeId) (name : String) : List Step → Except EvalError Location
  | [] => .ok (.binding scope name)
  | step :: outer => do
    let target ← store.readAlong scope name outer
    locateStep target step

/-- What the steps lead through, as far as they lead, the last thing first. -/
def passed (store : Store) (scope : ScopeId) (name : String) : List Step → List Value
  | [] => []
  | _ :: outer => (store.readAlong scope name outer).toOption.toList ++ store.passed scope name outer

end Store

section Evaluation

variable {store : Store} {scope : ScopeId} {n : Nat}

theorem indexedLooks {α : Type} (target : Value) (position : Scalar) (f : ListId → Int64 → Eval α)
    (enough : 2 ≤ n) :
    (do
      let list ← Action.ofExcept target.toList
      let i ← evalPosition n scope (.literal position)
      f list i : Eval α) store =
    match target.indexed position with
    | .ok (list, i) => f list i store
    | .error e => .failed e store := by
  obtain ⟨m, rfl⟩ := Nat.exists_eq_add_of_le' enough
  have literal : evalPosition (m + 2) scope (.literal position) store =
      Action.ofExcept (Value.scalar position).toInt store := rfl
  unfold Value.indexed
  cases target.toList with
  | error e => rfl
  | ok list =>
    show (evalPosition (m + 2) scope (.literal position) >>= f list) store = _
    rw [Action.bindApply, literal]
    cases (Value.scalar position).toInt <;> rfl

theorem Eval.readItemLooks (list : ListId) (position : Int64) (store : Store) :
    Eval.readItem list position store = Action.ofExcept (store.readItem list position) store := by
  unfold Eval.readItem Store.readItem
  split
  · rw [Action.bindApply, Eval.item?]
    cases (store.items list)[position.toInt.toNat]? <;> rfl
  · rfl

theorem readAlongLooks (name : String) {steps : List Step} (enough : steps.length + 2 ≤ n) :
    readReference n scope (.along name steps) store =
      Action.ofExcept (store.readAlong scope name steps) store := by
  induction steps generalizing n with
  | nil =>
    obtain ⟨m, rfl⟩ := Nat.exists_eq_add_of_le' (Nat.le_of_succ_le enough)
    exact Eval.readLooks scope name store
  | cons step outer ih =>
    rw [List.length_cons] at enough
    obtain ⟨m, rfl⟩ := Nat.exists_eq_add_of_le' (Nat.le_trans (Nat.le_add_left 1 _) enough)
    have before := ih (n := m) (by omega)
    rw [Store.readAlong]
    cases step with
    | index position =>
      rw [Reference.along, readReference, Action.bindApply, before]
      cases store.readAlong scope name outer with
      | error e => rfl
      | ok target =>
        refine (indexedLooks target position Eval.readItem (by omega)).trans ?_
        show _ = Action.ofExcept (target.indexed position >>= fun found => store.readItem found.1 found.2) store
        cases target.indexed position with
        | error e => rfl
        | ok found => exact Eval.readItemLooks found.1 found.2 store
    | field key =>
      rw [Reference.along, readReference, Action.bindApply, before]
      cases store.readAlong scope name outer with
      | error e => rfl
      | ok target => exact Eval.readFieldLooks target key store

-- How a change ends that leaves the store alone if it fails.
def Store.ends (store : Store) : Except EvalError Store → Outcome Store EvalError Unit
  | .ok after => .done () after
  | .error e => .failed e store

theorem Eval.writeItemPuts (list : ListId) (position : Int64) (value : Value) (store : Store) :
    Eval.writeItem list position value store = store.ends (do
      let location ← Store.locateItem list position
      store.put value location) := by
  unfold Eval.writeItem Store.locateItem
  by_cases above : 0 ≤ position
  · rw [if_pos above, if_pos above]
    unfold Eval.putItem
    rw [Action.bindApply, Eval.itemCount]
    show _ = store.ends (store.put value (.slot list position.toInt.toNat))
    rw [Store.put]
    by_cases inside : position.toInt.toNat ≤ (store.items list).size
    · simp only [inside, if_true]
      rfl
    · simp only [inside, if_false]
      rfl
  · rw [if_neg above, if_neg above]
    rfl

theorem Eval.writeFieldPuts (target : Value) (key : String) (value : Value) (store : Store) :
    Eval.writeField target key value store = store.ends (do
      let location ← Store.locateStep target (.field key)
      store.put value location) := by
  cases target with
  | attributes id => cases value <;> rfl
  | scalar s | list id | map id | func f | scope id => rfl

theorem writeAlongPuts (name : String) (value : Value) {steps : List Step} (enough : steps.length + 2 ≤ n) :
    writeReference n scope (.along name steps) value store = store.ends (do
      let location ← store.locate scope name steps
      store.put value location) := by
  obtain ⟨m, rfl⟩ := Nat.exists_eq_add_of_le' (Nat.le_of_succ_le (Nat.le_of_add_left_le enough))
  cases steps with
  | nil => rfl
  | cons step outer =>
    rw [List.length_cons] at enough
    have before : readReference m scope (.along name outer) store =
        Action.ofExcept (store.readAlong scope name outer) store := readAlongLooks name (by omega)
    rw [Store.locate]
    cases step with
    | index position =>
      rw [Reference.along, writeReference, Action.bindApply, before]
      cases store.readAlong scope name outer with
      | error e => rfl
      | ok target =>
        refine (indexedLooks target position (fun list i => Eval.writeItem list i value) (by omega)).trans ?_
        show _ = store.ends
          ((target.indexed position >>= fun found => Store.locateItem found.1 found.2) >>= store.put value)
        cases target.indexed position with
        | error e => rfl
        | ok found => exact Eval.writeItemPuts found.1 found.2 value store
    | field key =>
      rw [Reference.along, writeReference, Action.bindApply, before]
      cases store.readAlong scope name outer with
      | error e => rfl
      | ok target => exact Eval.writeFieldPuts target key value store

end Evaluation

theorem notNegative {i : Int64} : 0 ≤ i ↔ 0 ≤ i.toInt := Int64.le_iff_toInt_le

theorem shownBack {i : Int64} (above : 0 ≤ i) : Eval.shownPosition i.toInt.toNat = i := by
  have above := notNegative.mp above
  have below := i.toInt_lt
  have bound : i.toInt.toNat < Nat.pow 2 63 := by
    show _ < 9223372036854775808
    omega
  unfold Eval.shownPosition
  rw [if_pos bound, ← Int64.ofInt_eq_ofNat, Int.toNat_of_nonneg above, Int64.ofInt_toInt]

def Location.absent : Location → EvalError
  | binding _ name => .undefinedVariable name
  | slot _ position => .indexOutOfBounds (Eval.shownPosition position)
  | entry _ key => .fieldNotFound key
  | attr _ key => .fieldNotFound key

namespace Store

variable {store after : Store} {scope : ScopeId} {name : String} {target value : Value} {location : Location}

def fetch (store : Store) (location : Location) : Except EvalError Value :=
  match store.at? location with
  | some value => .ok value
  | none => .error location.absent

theorem readItemFetches (store : Store) (list : ListId) (position : Int64) :
    store.readItem list position = (do store.fetch (← locateItem list position)) := by
  unfold readItem locateItem
  by_cases above : 0 ≤ position
  · rw [if_pos above, if_pos above]
    show _ = store.fetch (.slot list position.toInt.toNat)
    simp only [fetch, at?, Location.absent, shownBack above]
  · rw [if_neg above, if_neg above]
    rfl

theorem readStepFetches (plain : ∀ id, target ≠ .scope id) (step : Step) :
    store.readStep target step = (do store.fetch (← locateStep target step)) := by
  cases step with
  | index position =>
    show (target.indexed position >>= fun found => store.readItem found.1 found.2) =
      ((target.indexed position >>= fun found => locateItem found.1 found.2) >>= store.fetch)
    cases target.indexed position with
    | error e => rfl
    | ok found => exact store.readItemFetches found.1 found.2
  | field key =>
    cases target with
    | scope id => exact absurd rfl (plain id)
    | attributes id =>
      show store.readField (.attributes id) key = store.fetch (.attr id key)
      simp only [readField, fetch, at?, Location.absent]
      cases (store.attributesOf id).get? key <;> rfl
    | scalar s | list id | map id | func f => rfl

theorem locateContainer {step : Step} (found : locateStep target step = .ok location) :
    location.container = target := by
  cases step with
  | index position =>
    cases target with
    | list id =>
      change ((Value.scalar position).toInt >>= fun i => pure (id, i)) >>= (fun found =>
        locateItem found.1 found.2) = _ at found
      cases number : (Value.scalar position).toInt with
      | error e =>
        rw [number] at found
        cases found
      | ok i =>
        rw [number] at found
        change locateItem id i = _ at found
        unfold locateItem at found
        split at found
        · cases found
          rfl
        · cases found
    | scalar s | map id | func f | scope id | attributes id => cases found
  | field key =>
    cases target with
    | map id | scope id | attributes id =>
      cases found
      rfl
    | scalar s | list id | func f => cases found

theorem readStepTarget {step : Step} (found : store.readStep target step = .ok value) (s : Scalar) :
    target ≠ .scalar s := by
  rintro rfl
  cases step <;> cases found

theorem bindOk {α β : Type} {x : Except EvalError α} {f : α → Except EvalError β} {b : β}
    (ok : (x >>= f) = .ok b) : ∃ a, x = .ok a ∧ f a = .ok b := by
  cases x with
  | ok a => exact ⟨a, rfl, ok⟩
  | error e => cases ok

theorem fetchThere (closed : store.Closed) (found : store.fetch location = .ok value) : value.There store := by
  unfold fetch at found
  cases there : store.at? location with
  | none =>
    rw [there] at found
    cases found
  | some held =>
    rw [there] at found
    cases found
    cases location with
    | binding scope name => exact (closed.held.namesOf scope).get there
    | slot list position => exact closed.held.itemsOf list _ (Array.mem_of_getElem? there)
    | entry map key => exact (closed.held.entriesOf map).get there
    | attr handle key =>
      obtain ⟨s, _, rfl⟩ := Option.map_eq_some_iff.mp there
      trivial

theorem readAlongThere (closed : store.Closed) {steps : List Step}
    (found : store.readAlong scope name steps = .ok value) : value.There store := by
  have scalar (s : Scalar) : (Value.scalar s).There store := trivial
  cases steps with
  | nil => exact closed.held.read scalar found
  | cons step outer =>
    obtain ⟨target, _, found⟩ := bindOk found
    cases step with
    | index position =>
      obtain ⟨⟨list, i⟩, _, found⟩ := bindOk found
      change store.readItem list i = .ok value at found
      rw [readItemFetches] at found
      obtain ⟨location, _, found⟩ := bindOk found
      exact fetchThere closed found
    | field key => exact closed.held.readField scalar found

theorem passedCons {step : Step} {outer : List Step}
    (found : store.readAlong scope name outer = .ok target) :
    store.passed scope name (step :: outer) = target :: store.passed scope name outer := by
  rw [passed, found]
  rfl

theorem readHeld (found : store.read scope name = .ok value) (thing : ∀ s, value ≠ .scalar s) :
    store.lookup? scope name = some value := by
  unfold read at found
  split at found
  · rename_i held seen
    cases found
    exact seen
  · split at found
    · cases found
      exact absurd rfl (thing _)
    · cases found

theorem Stored.sameScopes (stored : store.Stored value location after)
    (plain : ∀ id, location.container ≠ .scope id) : after.scopes = store.scopes := by
  cases stored with
  | binding scope name => exact absurd rfl (plain scope)
  | slot list position value inside => rfl
  | entry map key => rfl
  | attr handle key s => rfl

theorem PutAt.readStep (changed : store.PutAt after location value) {target : Value}
    (plain : ∀ id, target ≠ .scope id) (apart : target ≠ location.container) (step : Step) :
    after.readStep target step = store.readStep target step := by
  rw [readStepFetches plain, readStepFetches plain]
  cases found : locateStep target step with
  | error e => rfl
  | ok other =>
    have different : other ≠ location := by
      rintro rfl
      exact apart (locateContainer found).symm
    show after.fetch other = store.fetch other
    unfold fetch
    rw [changed.others other different]

-- What is passed is never the thing that has changed, so each step leads where it led before.
theorem readAlongAgain (stored : store.Stored value location after)
    (changed : store.PutAt after location value) (outside : ∀ id, location.container ≠ .scope id)
    {steps : List Step} (plain : ∀ id, Value.scope id ∉ store.passed scope name steps)
    (apart : location.container ∉ store.passed scope name steps) {target : Value}
    (thing : ∀ s, target ≠ .scalar s) (found : store.readAlong scope name steps = .ok target) :
    after.readAlong scope name steps = .ok target := by
  induction steps generalizing target with
  | nil =>
    have same : store.SameUpTo after scope := fun id _ => by
      unfold scope?
      rw [stored.sameScopes outside]
    exact readFound ((same.lookup name).trans (readHeld found thing))
  | cons step outer ih =>
    obtain ⟨through, before, found⟩ := bindOk found
    rw [passedCons before] at plain apart
    have again := ih (fun id member => plain id (List.mem_cons_of_mem _ member))
      (fun member => apart (List.mem_cons_of_mem _ member)) (readStepTarget found) before
    unfold readAlong
    rw [again]
    show after.readStep through step = .ok target
    rw [changed.readStep (fun id same => plain id (same ▸ List.mem_cons_self))
      (fun same => apart (same ▸ List.mem_cons_self)), found]

/-- The steps lead through no scope, and through nothing twice. -/
structure Straight (store : Store) (scope : ScopeId) (name : String) (steps : List Step) : Prop where
  once : (store.passed scope name steps).Nodup
  plain : ∀ id, Value.scope id ∉ store.passed scope name steps

theorem locateThere (closed : store.Closed) (here : scope.index < store.scopes.size) {steps : List Step}
    (located : store.locate scope name steps = .ok location) : location.container.There store := by
  cases steps with
  | nil =>
    cases located
    exact here
  | cons step outer =>
    obtain ⟨target, found, located⟩ := bindOk located
    rw [locateContainer located]
    exact readAlongThere closed found

theorem readPut {steps : List Step} (straight : store.Straight scope name steps)
    (located : store.locate scope name steps = .ok location) (stored : store.Stored value location after)
    (changed : store.PutAt after location value) : after.readAlong scope name steps = .ok value := by
  cases steps with
  | nil =>
    cases located
    exact readFound (lookupOwn changed.here)
  | cons step outer =>
    obtain ⟨target, found, located⟩ := bindOk located
    have last := locateContainer located
    obtain ⟨once, plain⟩ := straight
    rw [passedCons found, List.nodup_cons, ← last] at once
    rw [passedCons found] at plain
    have outside (id : ScopeId) : target ≠ .scope id := fun same => plain id (same ▸ List.mem_cons_self)
    have thing (s : Scalar) : target ≠ .scalar s := by
      rintro rfl
      cases step <;> cases located
    have again := readAlongAgain stored changed (fun id => last ▸ outside id)
      (fun id member => plain id (List.mem_cons_of_mem _ member)) once.1 thing found
    rw [readAlong, again]
    show after.readStep target step = .ok value
    rw [readStepFetches outside, located]
    show after.fetch location = .ok value
    rw [fetch, changed.here]

theorem readItemInside {list : ListId} {i : Int64} (above : 0 ≤ i.toInt)
    (below : i.toInt < (store.items list).size) :
    ∃ held, (store.items list)[i.toInt.toNat]? = some held ∧ store.readItem list i = .ok held := by
  have inside : i.toInt.toNat < (store.items list).size := by omega
  have found := Array.getElem?_eq_getElem inside
  refine ⟨_, found, ?_⟩
  unfold readItem
  rw [if_pos (notNegative.mpr above), found]

theorem readItemOutside {list : ListId} {i : Int64}
    (outside : ¬(0 ≤ i.toInt ∧ i.toInt < (store.items list).size)) :
    store.readItem list i = .error (.indexOutOfBounds i) := by
  have absent : (if 0 ≤ i then (store.items list)[i.toInt.toNat]? else none) = none := by
    split
    · rename_i above
      have above := notNegative.mp above
      exact Array.getElem?_eq_none (by omega)
    · rfl
  unfold readItem
  rw [absent]

theorem putItemEnds (store : Store) (list : ListId) (i : Int64) (value : Value) :
    (do let location ← locateItem list i; store.put value location) =
      if 0 ≤ i.toInt ∧ i.toInt ≤ (store.items list).size then .ok (store.putItem list i.toInt.toNat value)
      else .error (.indexOutOfBounds i) := by
  unfold locateItem
  by_cases above : 0 ≤ i
  · have positive := notNegative.mp above
    rw [if_pos above]
    show store.put value (.slot list i.toInt.toNat) = _
    rw [put, shownBack above]
    have same : i.toInt.toNat ≤ (store.items list).size ↔ 0 ≤ i.toInt ∧ i.toInt ≤ (store.items list).size := by
      omega
    simp only [same]
  · have negative : ¬(0 ≤ i.toInt ∧ i.toInt ≤ (store.items list).size) :=
      fun inside => above (notNegative.mpr inside.1)
    rw [if_neg above, if_neg negative]
    rfl

theorem readLastIndex {outer : List Step} {list : ListId} {position : Scalar} {i : Int64}
    (found : store.readAlong scope name outer = .ok (.list list))
    (number : (Value.scalar position).toInt = .ok i) :
    store.readAlong scope name (.index position :: outer) = store.readItem list i ∧
    store.locate scope name (.index position :: outer) = locateItem list i := by
  have indexed : (Value.list list).indexed position = .ok (list, i) := by
    show ((Value.scalar position).toInt >>= fun i => pure (list, i)) = _
    rw [number]
    rfl
  rw [readAlong, locate, found]
  constructor
  · show ((Value.list list).indexed position >>= fun found => store.readItem found.1 found.2) = _
    rw [indexed]
    rfl
  · show ((Value.list list).indexed position >>= fun found => locateItem found.1 found.2) = _
    rw [indexed]
    rfl

end Store

/-- An assignment to a reference with literal indices, on a way through no scope and through nothing twice,
either fails and leaves the store as it was or puts the value at one location and nowhere else, where it is
then found. An index last of all may be that of a slot, or for an assignment also the next one. -/
theorem referencesAreLocations {store : Store} (closed : store.Closed) {scope : ScopeId}
    (here : scope.index < store.scopes.size) (name : String) (steps : List Step)
    (straight : store.Straight scope name steps) (value : Value) {n : Nat} (enough : steps.length + 2 ≤ n) :
    ((∃ e, writeReference n scope (.along name steps) value store = .failed e store) ∨
      ∃ location after, store.locate scope name steps = .ok location ∧
        writeReference n scope (.along name steps) value store = .done () after ∧
        store.PutAt after location value ∧
        readReference n scope (.along name steps) after = .done value after) ∧
    ∀ (position : Scalar) (outer : List Step) (list : ListId) (i : Int64), steps = .index position :: outer →
      readReference n scope (.along name outer) store = .done (.list list) store →
      (Value.scalar position).toInt = .ok i →
      let size := (store.items list).size
      (0 ≤ i.toInt ∧ i.toInt < size → ∃ held, (store.items list)[i.toInt.toNat]? = some held ∧
        readReference n scope (.along name steps) store = .done held store) ∧
      (¬(0 ≤ i.toInt ∧ i.toInt < size) →
        readReference n scope (.along name steps) store = .failed (.indexOutOfBounds i) store) ∧
      (0 ≤ i.toInt ∧ i.toInt ≤ size → ∃ after,
        writeReference n scope (.along name steps) value store = .done () after ∧
        store.PutAt after (.slot list i.toInt.toNat) value) ∧
      (¬(0 ≤ i.toInt ∧ i.toInt ≤ size) →
        writeReference n scope (.along name steps) value store = .failed (.indexOutOfBounds i) store) := by
  have writes : writeReference n scope (.along name steps) value store = store.ends (do
      let location ← store.locate scope name steps
      store.put value location) := writeAlongPuts name value enough
  constructor
  · cases located : store.locate scope name steps with
    | error e =>
      rw [located] at writes
      exact .inl ⟨e, writes⟩
    | ok location =>
      rw [located] at writes
      change _ = store.ends (store.put value location) at writes
      cases changed : store.put value location with
      | error e =>
        rw [changed] at writes
        exact .inl ⟨e, writes⟩
      | ok after =>
        rw [changed] at writes
        have put := Store.putAt (Store.locateThere closed here located) changed
        have read := Store.readPut straight located (Store.putStored changed) put
        refine .inr ⟨location, after, rfl, writes, put, ?_⟩
        rw [readAlongLooks name enough, read]
        rfl
  · rintro position outer list i rfl before number size
    have reads : readReference n scope (.along name (.index position :: outer)) store =
        Action.ofExcept (store.readAlong scope name (.index position :: outer)) store :=
      readAlongLooks name enough
    rw [readAlongLooks name (Nat.le_of_succ_le enough)] at before
    have found := (Action.ofExceptDone before).1
    obtain ⟨last, located⟩ := Store.readLastIndex found number
    rw [last] at reads
    rw [located, store.putItemEnds] at writes
    refine ⟨fun inside => ?_, fun outside => ?_, fun inside => ?_, fun outside => ?_⟩
    · obtain ⟨held, there, read⟩ := Store.readItemInside inside.1 inside.2
      rw [read] at reads
      exact ⟨held, there, reads⟩
    · rw [Store.readItemOutside outside] at reads
      exact reads
    · rw [if_pos inside] at writes
      refine ⟨_, writes, Store.putAt (Store.readAlongThere closed found) ?_⟩
      exact if_pos (by omega : i.toInt.toNat ≤ (store.items list).size)
    · rw [if_neg outside] at writes
      exact writes

-- A map with a list of one pin in it.
def pinStore : Store :=
  ((Store.empty.newRoot.2.newList #[.int 7]).2.newMap (.ofList [("pins", .list ⟨0⟩)])).2.bind ⟨0⟩ "m" (.map ⟨0⟩)

def pinSteps (position : Int64) : List Step := [.index (.int position), .field "pins"]

theorem pinStoreClosed : pinStore.Closed := by
  have root : Store.empty.newRoot.2.Closed := emptyClosed.newScope (by constructor <;> simp)
  have list : (Store.empty.newRoot.2.newList #[.int 7]).2.Closed := by
    refine root.newList fun value member => ?_
    cases List.mem_singleton.mp (Array.mem_def.mp member)
    trivial
  refine (list.newMap (Table.allOfList fun entry member => ?_)).bind ⟨0⟩ "m" (by decide : 0 < 1)
  cases List.mem_singleton.mp member
  exact (by decide : 0 < 1)

theorem pinMap : pinStore.readAlong ⟨0⟩ "m" [] = .ok (.map ⟨0⟩) := Store.readFound (Store.lookupOwn rfl)

theorem pinList : pinStore.readAlong ⟨0⟩ "m" [.field "pins"] = .ok (.list ⟨0⟩) := by
  rw [Store.readAlong, pinMap]
  rfl

theorem pinStraight (position : Int64) : pinStore.Straight ⟨0⟩ "m" (pinSteps position) := by
  have passed : pinStore.passed ⟨0⟩ "m" (pinSteps position) = [.list ⟨0⟩, .map ⟨0⟩] := by
    rw [pinSteps, Store.passedCons pinList, Store.passedCons pinMap, Store.passed]
  constructor <;> simp [passed]

theorem pinAppended :
    pinStore.Closed ∧ pinStore.Straight ⟨0⟩ "m" (pinSteps 1) ∧
    ∃ after, writeReference 4 ⟨0⟩ (.along "m" (pinSteps 1)) (.int 8) pinStore = .done () after ∧
      pinStore.PutAt after (.slot ⟨0⟩ 1) (.int 8) ∧
      readReference 4 ⟨0⟩ (.along "m" (pinSteps 1)) after = .done (.int 8) after := by
  obtain ⟨lawful, last⟩ := referencesAreLocations pinStoreClosed (by decide : 0 < 1) "m" (pinSteps 1)
    (pinStraight 1) (.int 8) (Nat.le_refl 4)
  have list : readReference 4 ⟨0⟩ (.along "m" [.field "pins"]) pinStore = .done (.list ⟨0⟩) pinStore := by
    rw [readAlongLooks "m" (by decide), pinList]
    rfl
  obtain ⟨_, _, inside, _⟩ := last (.int 1) [.field "pins"] ⟨0⟩ 1 rfl list rfl
  obtain ⟨after, written, put⟩ := inside (by decide)
  refine ⟨pinStoreClosed, pinStraight 1, after, written, put, ?_⟩
  rcases lawful with ⟨e, failed⟩ | ⟨location, other, _, done, _, read⟩
  · cases written.symm.trans failed
  · cases written.symm.trans done
    exact read

end CircuitScript
