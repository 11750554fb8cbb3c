import CircuitScript.Proofs.Outcome
import CircuitScript.Proofs.Regime

/-! A run that ends does so in the same way with any larger budget. -/
namespace CircuitScript

variable {σ ε α β : Type} {n : Nat}

-- The second computation ends as the first one does, where that ends at all.
def Action.Extends (short long : Action σ ε α) : Prop :=
  ∀ state, short state = .spent ∨ short state = long state

namespace Action.Extends

theorem refl (x : Action σ ε α) : Extends x x := fun _ => .inr rfl

theorem spent (x : Action σ ε α) : Extends Action.spent x := fun _ => .inl rfl

theorem bind {x x' : Action σ ε α} {f f' : α → Action σ ε β} (first : Extends x x')
    (second : ∀ a, Extends (f a) (f' a)) : Extends (x >>= f) (x' >>= f') := by
  intro state
  rw [Action.bindApply, Action.bindApply]
  rcases first state with ended | same
  · rw [ended]
    exact .inl rfl
  · rw [same]
    cases x' state with
    | done a next => exact second a next
    | failed e next => exact .inr rfl
    | spent => exact .inl rfl

theorem trans {x y z : Action σ ε α} (first : Extends x y) (second : Extends y z) : Extends x z := by
  intro state
  rcases first state with ended | same
  · exact .inl ended
  · rw [same]
    exact second state

theorem ended {x x' : Action σ ε α} {state final : σ} (longer : Extends x x')
    (stops : (x state).state? = some final) : x' state = x state := by
  rcases longer state with spent | same
  · rw [spent] at stops
    cases stops
  · exact same.symm

end Action.Extends

open CircuitScript.Action CircuitScript.Action.Extends

-- Unless the budget of the first is spent, both end in the same state, with results that belong together.
inductive Outcome.Lasts (R : α → α → Prop) : Outcome σ ε α → Outcome σ ε α → Prop where
  | spent (outcome : Outcome σ ε α) : Lasts R .spent outcome
  | done {a a' : α} (state : σ) (same : R a a') : Lasts R (.done a state) (.done a' state)
  | failed (e : ε) (state : σ) : Lasts R (.failed e state) (.failed e state)

def Action.Lasts (R : α → α → Prop) (x x' : Action σ ε α) : Prop := ∀ state, (x state).Lasts R (x' state)

namespace Action.Lasts

variable {R : α → α → Prop} {Q : β → β → Prop} {x x' : Action σ ε α}

theorem refl (x : Action σ ε α) (same : ∀ a, R a a) : Lasts R x x := by
  intro state
  cases x state with
  | done a next => exact .done next (same a)
  | failed e next => exact .failed e next
  | spent => exact .spent _

theorem bind {f f' : α → Action σ ε β} (first : Lasts R x x')
    (second : ∀ {a a'}, R a a' → Lasts Q (f a) (f' a')) : Lasts Q (x >>= f) (x' >>= f') := by
  intro state
  have h := first state
  rw [Action.bindApply, Action.bindApply]
  generalize x state = outcome at h ⊢
  generalize x' state = outcome' at h ⊢
  cases h with
  | spent => exact .spent _
  | done next same => exact second same next
  | failed e next => exact .failed e next

theorem succeeds (longer : Lasts R x x') : Lasts Eq (Action.succeeds x) (Action.succeeds x') := by
  intro state
  have h := longer state
  unfold Action.succeeds
  generalize x state = outcome at h ⊢
  generalize x' state = outcome' at h ⊢
  cases h with
  | spent => exact .spent _
  | done next same => exact .done next rfl
  | failed e next => exact .done next rfl

theorem longer (lasts : Lasts R x x') (same : ∀ {a a'}, R a a' → a = a') : Extends x x' := by
  intro state
  have h := lasts state
  generalize x state = outcome at h ⊢
  generalize x' state = outcome' at h ⊢
  cases h with
  | spent => exact .inl rfl
  | done next related => exact .inr (same related ▸ rfl)
  | failed e next => exact .inr rfl

end Action.Lasts

theorem Flow.alikeSame {flow flow' : Flow} (alike : Flow.Alike Eq flow flow') : flow = flow' := by
  cases alike with
  | next => rfl
  | returned same => rw [same]

-- The same run with a larger budget.
def lasting : Regime where
  Mode := Unit
  Time := Unit
  later _ _ := True
  alike _ := Eq
  here _ _ := Eq
  tree _ _ := True
  body _ := True
  writable _ _ := True
  fine _ := True
  holds _ _ R x x' := Lasts (R ()) x x'
  more := 1
  alikeLater _ same := same
  hereLater _ same := same
  like same := same ▸ .refl _
  scalar _ _ := rfl
  inner _ _ _ := trivial
  literal _ := trivial
  declared _ := ⟨trivial, trivial⟩
  assigned _ := trivial
  compounded _ := trivial
  printed _ := trivial
  plain _ := trivial
  counted _ _ := trivial
  spent _ _ := .spent _
  pure same state := .done state same
  fail {_ _ _ _ e} _ state := .failed e state
  bind first second := first.bind (second trivial)
  succeeds longer := longer.succeeds
  read _ same := same ▸ .refl _ fun _ => rfl
  readField _ same := same ▸ .refl _ fun _ => rfl
  item _ same := by
    cases same
    refine .refl _ fun found => ?_
    cases found with
    | none => exact .none
    | some v => exact .some rfl
  itemCount same := by
    cases same
    exact .refl _ fun _ => rfl
  text same := same ▸ .refl _ fun _ => rfl
  format _ same := by
    rw [List.forall₂_eq_eq_eq] at same
    exact same ▸ .refl _ fun _ => rfl
  applyBinary _ same same' := same ▸ same' ▸ .refl _ fun _ => rfl
  checkArity _ same := by
    cases same
    exact .refl _ fun _ => trivial
  bindName here _ same := here ▸ same ▸ .refl _ fun _ => trivial
  bindField _ scope same := by
    cases scope
    exact same ▸ .refl _ fun _ => trivial
  setEntry _ map same := by
    cases map
    exact same ▸ .refl _ fun _ => trivial
  setAttribute _ _ attributes := by
    cases attributes
    exact .refl _ fun _ => trivial
  putItem _ list same := by
    cases list
    exact same ▸ .refl _ fun _ => trivial
  newList same := by
    rw [List.forall₂_eq_eq_eq] at same
    exact same ▸ .refl _ fun _ => rfl
  newMap _ same := by
    rw [List.forall₂_eq_eq_eq] at same
    exact same ▸ .refl _ fun _ => rfl
  newClosure _ _ here _ := here ▸ .refl _ fun _ => rfl
  print _ here := here ▸ .refl _ fun _ => trivial
  enter here known values runs store := by
    rw [List.forall₂_eq_eq_eq] at values
    cases here
    cases known
    cases values
    cases found : store.closure? _ with
    | none =>
      rw [invokeNothing found, invokeNothing found]
      exact .failed _ store
    | some closure =>
      rw [invokeClosure found, invokeClosure found]
      have run := runs (m := ()) (t := ()) (b := closure.body) (rfl : (⟨store.scopes.size⟩ : ScopeId) = _) trivial
      exact run.bind (fun alike state => .done state (congrArg Flow.value (Flow.alikeSame alike))) _

section Runs

variable (n : Nat) (scope : ScopeId)

theorem conditionExtends (e : Expr) : Extends (evalCondition n scope e) (evalCondition (n + 1) scope e) :=
  Lasts.longer ((lasting.walked n).condition (m := ()) (t := ()) rfl trivial) id

theorem invokeExtends (f : FunctionId) (args : List Value) :
    Extends (invoke n scope f args) (invoke (n + 1) scope f args) :=
  Lasts.longer ((lasting.walked n).invokes (m := ()) (t := ()) rfl rfl (List.forall₂_same.mpr fun _ _ => rfl)) id

theorem execExtends (stmt : Stmt) : Extends (exec n scope stmt) (exec (n + 1) scope stmt) :=
  Lasts.longer ((lasting.walked n).stmt (m := ()) (t := ()) rfl trivial) Flow.alikeSame

theorem execAllExtends (stmts : List Stmt) : Extends (execAll n scope stmts) (execAll (n + 1) scope stmts) :=
  Lasts.longer ((lasting.walked n).stmts (m := ()) (t := ()) rfl fun _ _ => trivial) Flow.alikeSame

end Runs

theorem extendsAtLeast {x : Nat → Action σ ε α} (step : ∀ n, Extends (x n) (x (n + 1))) {small : Nat} :
    ∀ {large : Nat}, small ≤ large → Extends (x small) (x large) := by
  intro large enough
  induction enough with
  | refl => exact refl _
  | step _ ih => exact ih.trans (step _)

theorem extendsCallValues (scope : ScopeId) (f : FunctionId) (args : List Value) {small large : Nat}
    (enough : small ≤ large) :
    Extends (callValues small scope f args) (callValues large scope f args) :=
  (refl _).bind fun _ => extendsAtLeast (fun n => invokeExtends n scope f args) enough

end CircuitScript
