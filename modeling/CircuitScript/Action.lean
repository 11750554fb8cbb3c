/-! Computations that change a state, may fail, and keep the changes made before they failed. A budget
that runs out is no failure: nothing can be concluded from it. -/
namespace CircuitScript

inductive Outcome (σ ε α : Type) where
  | done (result : α) (state : σ)
  | failed (error : ε) (state : σ)
  | spent

def Action (σ ε α : Type) := σ → Outcome σ ε α

namespace Action

variable {σ ε α β : Type}

@[inline] def pure (a : α) : Action σ ε α := fun state => .done a state

@[inline] def bind (x : Action σ ε α) (f : α → Action σ ε β) : Action σ ε β := fun state =>
  match x state with
  | .done a next => f a next
  | .failed e next => .failed e next
  | .spent => .spent

@[always_inline] instance : Monad (Action σ ε) where
  pure := Action.pure
  bind := Action.bind

@[inline] def fail (e : ε) : Action σ ε α := fun state => .failed e state

def spent : Action σ ε α := fun _ => .spent

@[inline] def get : Action σ ε σ := fun state => .done state state

@[inline] def modify (f : σ → σ) : Action σ ε Unit := fun state => .done () (f state)

@[inline] def modifyGet (f : σ → α × σ) : Action σ ε α := fun state =>
  let (a, next) := f state
  .done a next

@[inline] def ofExcept : Except ε α → Action σ ε α
  | .ok a => pure a
  | .error e => fail e

/-- Whether the computation succeeds. Its changes stay in either case. -/
@[inline] def succeeds (x : Action σ ε α) : Action σ ε Bool := fun state =>
  match x state with
  | .done _ next => .done true next
  | .failed _ next => .done false next
  | .spent => .spent

@[inline] def mapError {δ : Type} (f : ε → δ) (x : Action σ ε α) : Action σ δ α := fun state =>
  match x state with
  | .done a next => .done a next
  | .failed e next => .failed (f e) next
  | .spent => .spent

theorem pureApply (a : α) (state : σ) : (Pure.pure a : Action σ ε α) state = .done a state := rfl

theorem bindApply (x : Action σ ε α) (f : α → Action σ ε β) (state : σ) :
    (x >>= f) state =
      match x state with
      | .done a next => f a next
      | .failed e next => .failed e next
      | .spent => .spent := rfl

end Action

end CircuitScript
