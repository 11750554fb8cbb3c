import CircuitScript.Proofs.Simulation

/-! Whole evaluations go together on stores that stand for each other: whatever a script does in the one,
it does at the other's places in the other. -/
namespace CircuitScript

variable {S : Simulation} {t : Store} {α β : Type}

-- From the given store and any that stands for it, two computations end alike.
def Simulation.Meets (S : Simulation) (t : Store) (R : Store → α → α → Prop) (x x' : Eval α) : Prop :=
  ∀ t', S.Rel t t' → Ends S t R (x t) (x' t')

namespace Simulation.Meets

variable {R : Store → α → α → Prop} {Q : Store → β → β → Prop} {x x' : Eval α}

theorem pure {a a' : α} (same : R t a a') : S.Meets t R (Pure.pure a) (Pure.pure a') :=
  fun _ rel => .done (.refl t) rel same

theorem bind {f f' : α → Eval β} (first : S.Meets t R x x')
    (second : ∀ {next a a'}, t.Grown next → R next a a' → S.Meets next Q (f a) (f' a')) :
    S.Meets t Q (x >>= f) (x' >>= f') := by
  intro t' rel
  have ended := first t' rel
  rw [Action.bindApply, Action.bindApply]
  generalize x t = outcome at ended ⊢
  generalize x' t' = outcome' at ended ⊢
  cases ended with
  | done grown rel same => exact (second grown same _ rel).since grown
  | failed e grown rel => exact .failed e grown rel
  | spent => exact .spent

theorem succeeds (same : S.Meets t R x x') : S.Meets t (fun _ => Eq) (Action.succeeds x) (Action.succeeds x') := by
  intro t' rel
  have ended := same t' rel
  unfold Action.succeeds
  generalize x t = outcome at ended ⊢
  generalize x' t' = outcome' at ended ⊢
  cases ended with
  | done grown rel _ => exact .done grown rel rfl
  | failed e grown rel => exact .done grown rel rfl
  | spent => exact .spent

theorem looking {look look' : Store → Except EvalError α} (move : α → α)
    (reads : ∀ s, x s = Action.ofExcept (look s) s) (reads' : ∀ s, x' s = Action.ofExcept (look' s) s)
    (same : ∀ {t'}, S.Rel t t' → look' t' = (look t).map move)
    (gives : ∀ {t' a}, S.Rel t t' → look t = .ok a → R t a (move a)) : S.Meets t R x x' := by
  intro t' rel
  rw [reads, reads', same rel]
  cases looked : look t with
  | ok a => exact .done (.refl t) rel (gives rel looked)
  | error e => exact .failed e (.refl t) rel

end Simulation.Meets

theorem Together.ofMeets {R : Store → α → α → Prop} {x x' : Eval α} {known : List Value} {held : α → List Value}
    {move : α → α} (meets : ∀ t, (∀ v ∈ known, S.Ok t v) → S.Meets t R x x')
    (gives : ∀ {t a a'}, R t a a' → S.Moves held move t a a') : Together S known held move x x' := by
  intro s s' rel ok
  have ended := meets s ok s' rel
  generalize x s = outcome at ended ⊢
  generalize x' s' = outcome' at ended ⊢
  cases ended with
  | done grown rel same => exact .done grown rel (gives same)
  | failed e grown rel => exact .failed e grown rel
  | spent => exact .spent

namespace Simulation

def Alike (S : Simulation) (t : Store) (v v' : Value) : Prop := S.Ok t v ∧ v' = v.moved S.places

theorem Alike.later {later : Store} {v v' : Value} (grown : t.Grown later) (alike : S.Alike t v v') :
    S.Alike later v v' := ⟨S.grown grown alike.1, alike.2⟩

theorem allAlike {vs vs' : List Value} (all : List.Forall₂ (S.Alike t) vs vs') :
    (∀ v ∈ vs, S.Ok t v) ∧ vs' = vs.map (Value.moved S.places) := by
  induction all with
  | nil => exact ⟨List.forall_mem_nil _, rfl⟩
  | cons first _ ih =>
    refine ⟨List.forall_mem_cons.mpr ⟨first.1, ih.1⟩, ?_⟩
    rw [List.map_cons, ← first.2, ← ih.2]

theorem flowAlike {flow flow' : Flow} (alike : Flow.Alike (S.Alike t) flow flow') :
    S.Alike t flow.value flow'.value := by
  cases alike with
  | next => exact ⟨S.scalar t _, rfl⟩
  | returned same => exact same

namespace Meets

theorem read {s s' : ScopeId} (name : String) (here : S.Alike t (.scope s) (.scope s')) :
    S.Meets t S.Alike (Eval.read s name) (Eval.read s' name) := by
  obtain ⟨ok, place⟩ := here
  cases place
  exact looking (Value.moved S.places) (Eval.readLooks s name) (Eval.readLooks _ name) (S.read · ok name)
    fun rel found => ⟨(S.held rel).read (S.scalar t) found, rfl⟩

theorem readField {v v' : Value} (key : String) (target : S.Alike t v v') :
    S.Meets t S.Alike (Eval.readField v key) (Eval.readField v' key) := by
  obtain ⟨ok, rfl⟩ := target
  exact looking (Value.moved S.places) (Eval.readFieldLooks v key) (Eval.readFieldLooks _ key) (S.readField · ok key)
    fun rel found => ⟨(S.held rel).readField (S.scalar t) found, rfl⟩

theorem item {l l' : ListId} (position : Nat) (list : S.Alike t (.list l) (.list l')) :
    S.Meets t (fun t => Option.Rel (S.Alike t)) (Eval.item? l position) (Eval.item? l' position) := by
  intro t' rel
  cases list.2
  refine .done (.refl t) rel ?_
  rw [(S.shown rel).items, Array.getElem?_map]
  cases found : (t.items l)[position]? with
  | none => exact .none
  | some v => exact .some ⟨(S.held rel).itemsOf l v (Array.mem_of_getElem? found), rfl⟩

theorem itemCount {l l' : ListId} (list : S.Alike t (.list l) (.list l')) :
    S.Meets t (fun _ => Eq) (Eval.itemCount l) (Eval.itemCount l') := by
  intro t' rel
  cases list.2
  refine .done (.refl t) rel ?_
  rw [(S.shown rel).items, Array.size_map]

theorem text {v v' : Value} (alike : S.Alike t v v') :
    S.Meets t (fun _ => Eq) (Eval.text v) (Eval.text v') := by
  intro t' rel
  rw [alike.2]
  exact .done (.refl t) rel ((S.shown rel).text v).symm

theorem format {vs vs' : List Value} (form : String) (values : List.Forall₂ (S.Alike t) vs vs') :
    S.Meets t (fun _ => Eq) (Eval.format form vs) (Eval.format form vs') := by
  rw [(allAlike values).2]
  refine looking id (Eval.formatLooks form vs) (Eval.formatLooks form _) (fun rel => ?_) fun _ _ => rfl
  rw [(S.shown rel).format]
  cases t.format form vs <;> rfl

theorem applyBinary {v v' u u' : Value} (op : BinaryOp) (first : S.Alike t v v') (second : S.Alike t u u') :
    S.Meets t S.Alike (Eval.applyBinary op v u) (Eval.applyBinary op v' u') := by
  rw [first.2, second.2]
  refine looking (Value.moved S.places) (Eval.applyBinaryLooks op v u) (Eval.applyBinaryLooks op _ _) (fun rel => ?_)
    fun _ found => ?_
  · rw [(S.shown rel).applyBinary, (applyBinaryScalar t op v u).moved]
  · obtain ⟨x, rfl⟩ := applyBinaryScalar t op v u _ found
    exact ⟨S.scalar t x, rfl⟩

theorem checkArity {f f' : FunctionId} (count : Nat) (called : S.Alike t (.func f) (.func f')) :
    S.Meets t (fun _ _ _ => True) (Eval.checkArity f count) (Eval.checkArity f' count) := by
  intro t' rel
  cases called.2
  unfold Eval.checkArity
  rw [(S.shown rel).functionArity, (S.shown rel).functionName]
  split
  · exact .done (.refl t) rel trivial
  · exact .failed _ (.refl t) rel

theorem modify {f f' : Store → Store} (grown : t.Grown (f t)) (same : ∀ {t'}, S.Rel t t' → S.Rel (f t) (f' t')) :
    S.Meets t (fun _ _ _ => True) (Action.modify f) (Action.modify f') :=
  fun _ rel => .done grown (same rel) trivial

theorem bindName {s s' : ScopeId} {name : String} {v v' : Value} (scope : S.Alike t (.scope s) (.scope s'))
    (value : S.Alike t v v') :
    S.Meets t (fun _ _ _ => True) (Action.modify (·.bind s name v)) (Action.modify (·.bind s' name v')) := by
  cases scope.2
  rw [value.2]
  exact modify (t.grownUpdateScope s _) fun rel => S.bind s name rel value.1

theorem newList {vs vs' : List Value} (values : List.Forall₂ (S.Alike t) vs vs') :
    S.Meets t S.Alike (Eval.newList vs) (Eval.newList vs') := by
  obtain ⟨held, rfl⟩ := allAlike values
  intro t' rel
  obtain ⟨place, next, ok⟩ := S.newList rel (show ∀ v ∈ vs.toArray, S.Ok t v by simpa using held)
  rw [List.map_toArray] at place next
  exact .done (t.grownNewList vs.toArray) next ⟨ok, congrArg Value.list place⟩

theorem newMap {vs vs' : List Value} (keys : List String) (values : List.Forall₂ (S.Alike t) vs vs') :
    S.Meets t S.Alike (Eval.newMap (keys.zip vs)) (Eval.newMap (keys.zip vs')) := by
  obtain ⟨held, rfl⟩ := allAlike values
  intro t' rel
  have entries : (Table.ofList (keys.zip vs)).All (S.Ok t) :=
    Table.allOfList fun entry member => held entry.2 (List.of_mem_zip member).2
  obtain ⟨place, next, ok⟩ := S.newMap rel entries
  have moved : (Table.ofList (keys.zip vs)).map (Value.moved S.places) =
      Table.ofList (keys.zip (vs.map (Value.moved S.places))) := by
    rw [← Table.ofListMap, List.zip_map_right]
    rfl
  rw [moved] at place next
  exact .done (t.grownNewMap _) next ⟨ok, congrArg Value.map place⟩

theorem newClosure {s s' : ScopeId} {b : Stmt} (name : String) (params : List String)
    (here : S.Alike t (.scope s) (.scope s')) :
    S.Meets t S.Alike (Eval.newClosure ⟨name, params, b, s⟩) (Eval.newClosure ⟨name, params, b, s'⟩) := by
  intro t' rel
  cases here.2
  obtain ⟨place, next, ok⟩ := S.newClosure rel (show S.Ok t (.scope (Closure.mk name params b s).scope) from here.1)
  exact .done (t.grownNewClosure _) next ⟨ok, congrArg (Value.func ∘ FunctionId.closure) place⟩

theorem invoke {s s' : ScopeId} {id : ClosureId} {vs vs' : List Value} {n n' : Nat}
    (here : S.Alike t (.scope s) (.scope s')) (values : List.Forall₂ (S.Alike t) vs vs')
    (runs : ∀ {t s s' b}, S.Alike t (.scope s) (.scope s') →
      S.Meets t (fun t => Flow.Alike (S.Alike t)) (exec n s b) (exec n' s' b)) :
    S.Meets t S.Alike (invoke (n + 1) s (.closure id) vs)
      (invoke (n' + 1) s' (.closure (S.places.closure id)) vs') := by
  intro t' rel
  obtain ⟨held, rfl⟩ := allAlike values
  obtain ⟨ok, place⟩ := here
  cases place
  have found' := (S.shown rel).closures id
  cases found : t.closure? id with
  | none =>
    rw [found] at found'
    rw [invokeNothing found, invokeNothing found']
    exact .failed _ (.refl t) rel
  | some closure =>
    rw [found] at found'
    obtain ⟨frame, grown, entered, active⟩ := S.entered rel found ok held
    rw [invokeClosure found, invokeClosure found', frame]
    -- The body runs in the frame that is next in either store: one stands for the other.
    have run := (runs (b := closure.body) ⟨active, rfl⟩).bind fun _ alike => pure (flowAlike alike)
    exact (run _ entered).since grown

end Meets

-- The same run on two stores that stand for each other.
def regime (S : Simulation) : Regime where
  Mode := Unit
  Time := Store
  later := Store.Grown
  alike := S.Alike
  here _ t s s' := S.Alike t (.scope s) (.scope s')
  tree _ _ := True
  body _ := True
  writable _ _ := True
  fine _ := True
  holds _ t R x x' := S.Meets t R x x'
  more := 0
  alikeLater := .later
  hereLater := .later
  like alike := alike.2 ▸ Value.movedLike _
  scalar t x := ⟨S.scalar t x, rfl⟩
  inner _ _ _ := trivial
  literal _ := trivial
  declared _ := ⟨trivial, trivial⟩
  assigned _ := trivial
  compounded _ := trivial
  printed _ := trivial
  plain _ := trivial
  counted _ _ := trivial
  spent none := by
    rw [none rfl]
    exact fun _ _ => .spent
  pure same := .pure same
  fail _ := fun _ rel => .failed _ (.refl _) rel
  bind first second := first.bind second
  succeeds same := same.succeeds
  read := .read
  readField := .readField
  item := .item
  itemCount := .itemCount
  text := .text
  format := .format
  applyBinary := .applyBinary
  checkArity := .checkArity
  bindName here _ value := .bindName here value
  bindField _ scope value := .bindName scope value
  setEntry := fun {_ t _ key id id' _ _} _ map value => by
    cases map.2
    rw [value.2]
    exact .modify (t.grownSetEntry id key _) fun rel => S.setEntry id key rel value.1
  setAttribute := fun {_ t _ key id id'} x _ attributes => by
    cases attributes.2
    exact .modify (t.grownSetAttribute id key x) fun rel => S.setAttribute id key x rel
  putItem := fun {_ t l l' _ _} position list value => by
    cases list.2
    rw [value.2]
    exact .modify (t.grownPutItem l position _) fun rel => S.putItem l position rel value.1
  newList := .newList
  newMap := .newMap
  newClosure name params here _ := .newClosure name params here
  print := fun {_ t s s'} text here => by
    cases here.2
    exact .modify (t.grownUpdateScope _ _) fun rel => S.print text rel here.1
  enter here known values runs := by
    cases known.2
    exact .invoke here values fun inside => runs (m := ()) inside trivial

end Simulation

theorem simulatedApply (b : Builtin) {vs vs' : List Value} (values : List.Forall₂ (S.Alike t) vs vs') :
    S.Meets t S.Alike (b.apply vs) (b.apply vs') := Regime.apply (G := S.regime) (m := ()) b values

theorem simulatedExec (n : Nat) {scope : ScopeId} (here : S.Ok t (.scope scope)) (stmt : Stmt) :
    S.Meets t (fun t => Flow.Alike (S.Alike t)) (exec n scope stmt) (exec n (S.places.scope scope) stmt) :=
  (S.regime.walked n).stmt (m := ()) ⟨here, rfl⟩ trivial

end CircuitScript
