import CircuitScript.Proofs.Holding
import CircuitScript.Proofs.Outcome
import CircuitScript.Proofs.Regime

/-! What a single run keeps to. An upkeep says of each step that it leads from a good store to another one, what may be
said of the values it gives, and for what it may fail. Then the same holds of all that evaluation does. -/
namespace CircuitScript

abbrev anything {α : Type} : α → Prop := fun _ => True

/-- A mode says what a run may do and where. Stores that fit the invariant are led by steps to stores that fit it. -/
structure Upkeep where
  Mode : Type
  inv : Store → Prop
  step : Mode → Store → Store → Prop
  good : Value → Prop
  here : Mode → ScopeId → Prop
  tree : Mode → Part → Prop
  body : Stmt → Prop
  writable : Mode → Reference → Prop
  fine : EvalError → Prop
  refl : ∀ {m store}, inv store → step m store store
  trans : ∀ {m store middle final}, step m store middle → step m middle final → step m store final
  kept : ∀ {m store final}, step m store final → inv store → inv final
  scalar : ∀ s, good (.scalar s)
  inner : ∀ {m part}, tree m part → ∀ child ∈ part.inner, tree m child
  literal : ∀ {m params b}, tree m (.expr (.func params b)) → body b
  declared : ∀ {m name params b}, tree m (.stmt (.func name params b)) → body b ∧ writable m (.var name)
  assigned : ∀ {m r e}, tree m (.stmt (.assign r e)) → writable m r
  compounded : ∀ {m r op e}, tree m (.stmt (.compound r op e)) → writable m r
  printed : ∀ {m}, tree m (.stmt (.printf [])) → fine .emptyPrintf
  plain : ∀ {e : EvalError}, ¬e.OfArity → fine e
  counted : ∀ (store : Store) f count, fine (.arityMismatch (store.functionName f) (store.functionArity f) count)
  read : ∀ {m store s name v}, inv store → here m s → store.read s name = .ok v → good v
  readField : ∀ {store target key v}, inv store → good target → store.readField target key = .ok v → good v
  item : ∀ {store l v}, inv store → good (.list l) → v ∈ store.items l → good v
  bindName : ∀ {m store s name v}, inv store → here m s → writable m (.var name) → good v →
    step m store (store.bind s name v)
  bindField : ∀ {m store r key s v}, inv store → writable m (.field r key) → good (.scope s) → good v →
    step m store (store.bind s key v)
  setEntry : ∀ {m store r key v} id, inv store → writable m (.field r key) → good v →
    step m store (store.setEntry id key v)
  setAttribute : ∀ {m store r key} id x, inv store → writable m (.field r key) →
    step m store (store.setAttribute id key x)
  putItem : ∀ {m store v} l position, inv store → good v → step m store (store.putItem l position v)
  newList : ∀ {m store items}, inv store → (∀ v ∈ items, good v) →
    step m store (store.newList items).2 ∧ good (.list (store.newList items).1)
  newMap : ∀ {m store entries}, inv store → entries.All good →
    step m store (store.newMap entries).2 ∧ good (.map (store.newMap entries).1)
  newClosure : ∀ {m store s b} name params, inv store → here m s → body b →
    step m store (store.newClosure ⟨name, params, b, s⟩).2 ∧
      good (.func (.closure (store.newClosure ⟨name, params, b, s⟩).1))
  print : ∀ {m store s} text, inv store → here m s → step m store (store.print s text)
  enter : ∀ {m store s id closure vs}, inv store → here m s → good (.func (.closure id)) →
    store.closure? id = some closure → (∀ v ∈ vs, good v) →
    ∃ frame, here frame ⟨store.scopes.size⟩ ∧ tree frame (.stmt closure.body) ∧
      inv (store.entered closure s vs) ∧
      ∀ {final}, step frame (store.entered closure s vs) final → step m store final

variable {U : Upkeep} {m : U.Mode} {s : ScopeId} {α β : Type}

def Upkeep.Upholds (U : Upkeep) (m : U.Mode) (good : α → Prop) (x : Eval α) : Prop :=
  ∀ store : Store, U.inv store →
    match x store with
    | .done a final => U.step m store final ∧ good a
    | .failed e final => U.step m store final ∧ U.fine e
    | .spent => True

namespace Upkeep.Upholds

variable {good : α → Prop} {well : β → Prop} {x : Eval α}

theorem pure {a : α} (h : good a) : U.Upholds m good (Pure.pure a) := fun _ inv => ⟨U.refl inv, h⟩

theorem fail {e : EvalError} (h : U.fine e) : U.Upholds m good (Action.fail e : Eval α) :=
  fun _ inv => ⟨U.refl inv, h⟩

theorem spent : U.Upholds m good (Action.spent : Eval α) := fun _ _ => trivial

theorem bind {f : α → Eval β} (first : U.Upholds m good x) (second : ∀ a, good a → U.Upholds m well (f a)) :
    U.Upholds m well (x >>= f) := by
  intro store inv
  have h := first store inv
  rw [Action.bindApply]
  cases ended : x store with
  | done a middle =>
    rw [ended] at h
    have h' := second a h.2 middle (U.kept h.1 inv)
    dsimp only
    cases ended' : f a middle with
    | done b final =>
      rw [ended'] at h'
      exact ⟨U.trans h.1 h'.1, h'.2⟩
    | failed e final =>
      rw [ended'] at h'
      exact ⟨U.trans h.1 h'.1, h'.2⟩
    | spent => trivial
  | failed e final =>
    rw [ended] at h
    exact h
  | spent => trivial

theorem weaken {more : α → Prop} (h : U.Upholds m good x) (weaker : ∀ a, good a → more a) : U.Upholds m more x := by
  intro store inv
  have h := h store inv
  cases ended : x store with
  | done a final =>
    rw [ended] at h
    exact ⟨h.1, weaker a h.2⟩
  | failed e final =>
    rw [ended] at h
    exact h
  | spent => trivial

theorem succeeds (h : U.Upholds m good x) : U.Upholds m anything (Action.succeeds x) := by
  intro store inv
  have h := h store inv
  unfold Action.succeeds
  cases ended : x store with
  | done a final =>
    rw [ended] at h
    exact ⟨h.1, trivial⟩
  | failed e final =>
    rw [ended] at h
    exact ⟨h.1, trivial⟩
  | spent => trivial

theorem looking {look : Store → Except EvalError α} (reads : ∀ store, x store = Action.ofExcept (look store) store)
    (plain : ∀ store, NoArity (look store)) (gives : ∀ store, U.inv store → ∀ a, look store = .ok a → good a) :
    U.Upholds m good x := by
  intro store inv
  rw [reads]
  cases found : look store with
  | ok a => exact ⟨U.refl inv, gives store inv a found⟩
  | error e => exact ⟨U.refl inv, U.plain (plain store e found)⟩

theorem changing {result : Store → α} {next : Store → Store}
    (does : ∀ store, x store = .done (result store) (next store))
    (h : ∀ store, U.inv store → U.step m store (next store) ∧ good (result store)) : U.Upholds m good x := by
  intro store inv
  rw [does]
  exact h store inv

theorem modify {f : Store → Store} (h : ∀ store, U.inv store → U.step m store (f store)) :
    U.Upholds m anything (Action.modify f : Eval Unit) :=
  changing (fun _ => rfl) fun store inv => ⟨h store inv, trivial⟩

theorem seeing {look : Store → α} (reads : ∀ store, x store = .done (look store) store)
    (gives : ∀ store, U.inv store → good (look store)) : U.Upholds m good x :=
  changing reads fun store inv => ⟨U.refl inv, gives store inv⟩

theorem ended {store final : Store} (h : U.Upholds m good x) (inv : U.inv store)
    (ended : (x store).state? = some final) : U.step m store final := by
  have h := h store inv
  cases outcome : x store with
  | done a last =>
    rw [outcome] at h ended
    cases ended
    exact h.1
  | failed e last =>
    rw [outcome] at h ended
    cases ended
    exact h.1
  | spent =>
    rw [outcome] at ended
    cases ended

theorem applyBinary (op : BinaryOp) (a b : Value) : U.Upholds m U.good (Eval.applyBinary op a b) := by
  refine looking (Eval.applyBinaryLooks op a b) (fun store => store.applyBinaryNoArity op a b) ?_
  intro store _ value found
  obtain ⟨x, rfl⟩ := applyBinaryScalar store op a b value found
  exact U.scalar x

theorem checkArity (f : FunctionId) (count : Nat) : U.Upholds m anything (Eval.checkArity f count) := by
  intro store inv
  unfold Eval.checkArity
  cases (store.functionArity f).accepts count with
  | true => exact ⟨U.refl inv, trivial⟩
  | false => exact ⟨U.refl inv, U.counted store f count⟩

theorem newList {items : List Value} (held : ∀ v ∈ items, U.good v) : U.Upholds m U.good (Eval.newList items) :=
  changing (fun _ => rfl) fun _ inv => U.newList inv (by simpa using held)

theorem newMap {entries : List (String × Value)} (held : ∀ entry ∈ entries, U.good entry.2) :
    U.Upholds m U.good (Eval.newMap entries) :=
  changing (fun _ => rfl) fun _ inv => U.newMap inv (Table.allOfList held)

theorem newClosure {b : Stmt} (name : String) (params : List String) (here : U.here m s) (known : U.body b) :
    U.Upholds m U.good (Eval.newClosure ⟨name, params, b, s⟩) :=
  changing (fun _ => rfl) fun _ inv => U.newClosure name params inv here known

theorem invoke {which : ClosureId} {vs : List Value} {n : Nat} (here : U.here m s)
    (known : U.good (.func (.closure which))) (values : ∀ v ∈ vs, U.good v)
    (runs : ∀ {m s b}, U.here m s → U.tree m (.stmt b) → U.Upholds m (fun flow => U.good flow.value) (exec n s b)) :
    U.Upholds m U.good (invoke (n + 1) s (.closure which) vs) := by
  intro store inv
  cases found : store.closure? which with
  | none =>
    rw [invokeNothing found]
    exact ⟨U.refl inv, U.plain id⟩
  | some closure =>
    obtain ⟨frame, inside, tree, entered, left⟩ := U.enter inv here known found values
    have whole : U.Upholds frame U.good (do
        let flow ← exec n ⟨store.scopes.size⟩ closure.body
        Pure.pure flow.value) := (runs inside tree).bind fun flow good => pure good
    have h := whole _ entered
    rw [invokeClosure found]
    generalize (do
        let flow ← exec n ⟨store.scopes.size⟩ closure.body
        Pure.pure flow.value : Eval Value) (store.entered closure s vs) = outcome at h ⊢
    cases outcome with
    | done value final => exact ⟨left h.1, h.2⟩
    | failed e final => exact ⟨left h.1, h.2⟩
    | spent => trivial

end Upkeep.Upholds

namespace Upkeep

theorem allGood {vs vs' : List Value} (all : List.Forall₂ (fun v v' => v = v' ∧ U.good v) vs vs') :
    ∀ v ∈ vs, U.good v := by
  induction all with
  | nil => exact List.forall_mem_nil _
  | cons first _ ih => exact List.forall_mem_cons.mpr ⟨first.2, ih⟩

theorem flowGood {flow flow' : Flow} (alike : Flow.Alike (fun v v' => v = v' ∧ U.good v) flow flow') :
    U.good flow.value := by
  cases alike with
  | next => exact U.scalar _
  | returned same => exact same.2

-- A run by itself: the second run is not looked at.
def regime (U : Upkeep) : Regime where
  Mode := U.Mode
  Time := Unit
  later _ _ := True
  alike _ v v' := v = v' ∧ U.good v
  here m _ s s' := s = s' ∧ U.here m s
  tree := U.tree
  body := U.body
  writable := U.writable
  fine := U.fine
  holds m _ R x _ := U.Upholds m (fun a => ∃ a', R () a a') x
  more := 0
  alikeLater _ alike := alike
  hereLater _ here := here
  like alike := alike.1 ▸ .refl _
  scalar _ s := ⟨rfl, U.scalar s⟩
  inner := U.inner
  literal := U.literal
  declared := U.declared
  assigned := U.assigned
  compounded := U.compounded
  printed := U.printed
  plain := U.plain
  counted b count := U.counted Store.empty (.builtin b) count
  spent _ := .spent
  pure h := .pure ⟨_, h⟩
  fail := .fail
  bind first second := first.bind fun _ ⟨_, h⟩ => second trivial h
  succeeds h := h.succeeds.weaken fun b _ => ⟨b, rfl⟩
  read name here := .looking (Eval.readLooks _ name) (fun store => store.readNoArity _ name)
    fun _ inv v found => ⟨v, rfl, U.read inv here.2 found⟩
  readField key target := .looking (Eval.readFieldLooks _ key) (fun store => store.readFieldNoArity _ key)
    fun _ inv v found => ⟨v, rfl, U.readField inv target.2 found⟩
  item position list := .seeing (fun _ => rfl) fun store inv => by
    cases found : (store.items _)[position]? with
    | none => exact ⟨none, .none⟩
    | some v => exact ⟨some v, .some ⟨rfl, U.item inv list.2 (Array.mem_of_getElem? found)⟩⟩
  itemCount _ := .seeing (fun _ => rfl) fun _ _ => ⟨_, rfl⟩
  text _ := .seeing (fun _ => rfl) fun _ _ => ⟨_, rfl⟩
  format form _ := .looking (Eval.formatLooks form _) (fun store => store.formatNoArity form _)
    fun _ _ text _ => ⟨text, rfl⟩
  applyBinary op _ _ := (Upholds.applyBinary op _ _).weaken fun v good => ⟨v, rfl, good⟩
  checkArity count _ := (Upholds.checkArity _ count).weaken fun _ _ => ⟨(), trivial⟩
  bindName here may value :=
    (Upholds.modify fun _ inv => U.bindName inv here.2 may value.2).weaken fun _ _ => ⟨(), trivial⟩
  bindField may scope value :=
    (Upholds.modify fun _ inv => U.bindField inv may scope.2 value.2).weaken fun _ _ => ⟨(), trivial⟩
  setEntry may _ value :=
    (Upholds.modify fun _ inv => U.setEntry _ inv may value.2).weaken fun _ _ => ⟨(), trivial⟩
  setAttribute x may _ :=
    (Upholds.modify fun _ inv => U.setAttribute _ x inv may).weaken fun _ _ => ⟨(), trivial⟩
  putItem position _ value :=
    (Upholds.modify fun _ inv => U.putItem _ position inv value.2).weaken fun _ _ => ⟨(), trivial⟩
  newList values := (Upholds.newList (allGood values)).weaken fun v good => ⟨v, rfl, good⟩
  newMap keys values := (Upholds.newMap fun entry member =>
    allGood values entry.2 (List.of_mem_zip member).2).weaken fun v good => ⟨v, rfl, good⟩
  newClosure name params here known := (Upholds.newClosure name params here.2 known).weaken fun v good => ⟨v, rfl, good⟩
  print text here := (Upholds.modify fun _ inv => U.print text inv here.2).weaken fun _ _ => ⟨(), trivial⟩
  enter here known values runs :=
    (Upholds.invoke here.2 known.2 (allGood values) fun inside tree =>
      (runs (t := ()) ⟨rfl, inside⟩ tree).weaken fun _ ⟨_, alike⟩ => flowGood alike).weaken fun v good => ⟨v, rfl, good⟩

variable (U) (n : Nat)

theorem expr {e : Expr} (here : U.here m s) (tree : U.tree m (.expr e)) : U.Upholds m U.good (evalExpr n s e) :=
  (U.regime.walked n).expr (t := ()) ⟨rfl, here⟩ tree |>.weaken fun _ ⟨_, _, good⟩ => good

theorem condition {e : Expr} (here : U.here m s) (tree : U.tree m (.expr e)) :
    U.Upholds m anything (evalCondition n s e) :=
  (U.regime.walked n).condition (t := ()) ⟨rfl, here⟩ tree |>.weaken fun _ _ => trivial

theorem readRef {r : Reference} (here : U.here m s) (tree : U.tree m (.ref r)) :
    U.Upholds m U.good (readReference n s r) :=
  (U.regime.walked n).readRef (t := ()) ⟨rfl, here⟩ tree |>.weaken fun _ ⟨_, _, good⟩ => good

theorem writeRef {r : Reference} {v : Value} (here : U.here m s) (tree : U.tree m (.ref r)) (may : U.writable m r)
    (good : U.good v) : U.Upholds m anything (writeReference n s r v) :=
  (U.regime.walked n).writeRef (t := ()) ⟨rfl, here⟩ tree may ⟨rfl, good⟩ |>.weaken fun _ _ => trivial

theorem invokes {f : FunctionId} {vs : List Value} (here : U.here m s) (known : U.good (.func f))
    (values : ∀ v ∈ vs, U.good v) : U.Upholds m U.good (invoke n s f vs) :=
  (U.regime.walked n).invokes (t := ()) ⟨rfl, here⟩ ⟨rfl, known⟩
    (List.forall₂_same.mpr fun v member => ⟨rfl, values v member⟩) |>.weaken fun _ ⟨_, _, good⟩ => good

theorem stmt {b : Stmt} (here : U.here m s) (tree : U.tree m (.stmt b)) :
    U.Upholds m (fun flow => U.good flow.value) (exec n s b) :=
  (U.regime.walked n).stmt (t := ()) ⟨rfl, here⟩ tree |>.weaken fun _ ⟨_, alike⟩ => flowGood alike

end Upkeep

end CircuitScript
