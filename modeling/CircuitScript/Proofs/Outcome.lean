import CircuitScript.Action

/-! How computations end: the state they leave, and where the end of a composed one comes from. -/
namespace CircuitScript

variable {σ ε δ α β : Type}

def Outcome.state? : Outcome σ ε α → Option σ
  | .done _ state => some state
  | .failed _ state => some state
  | .spent => none

-- The result or the failure, without the state.
def Outcome.answer? : Outcome σ ε α → Option (Except ε α)
  | .done a _ => some (.ok a)
  | .failed e _ => some (.error e)
  | .spent => none

namespace Action

theorem bindDone {x : Action σ ε α} {f : α → Action σ ε β} {state after : σ} {b : β}
    (ended : (x >>= f) state = .done b after) :
    ∃ a middle, x state = .done a middle ∧ f a middle = .done b after := by
  rw [bindApply] at ended
  cases first : x state with
  | done a middle =>
    rw [first] at ended
    exact ⟨a, middle, rfl, ended⟩
  | failed e middle =>
    rw [first] at ended
    cases ended
  | spent =>
    rw [first] at ended
    cases ended

theorem thenDone {x : Action σ ε α} {f : α → Action σ ε β} {state middle after : σ} {a : α} {b : β}
    (first : x state = .done a middle) (second : f a middle = .done b after) :
    (x >>= f) state = .done b after := by
  rw [bindApply, first]
  exact second

theorem mapErrorDone {f : ε → δ} {x : Action σ ε α} {state after : σ} {a : α} :
    mapError f x state = .done a after ↔ x state = .done a after := by
  unfold mapError
  cases x state <;> simp

-- What only looks at the state leaves the end of the computation before it as it is.
theorem stateThen {x : Action σ ε α} {f : α → Action σ ε β} (looks : ∀ a state, (f a state).state? = some state)
    (state : σ) : ((x >>= f) state).state? = (x state).state? := by
  rw [bindApply]
  cases x state with
  | done a middle => exact looks a middle
  | failed e middle => rfl
  | spent => rfl

theorem stateMapError (f : ε → δ) (x : Action σ ε α) (state : σ) :
    (mapError f x state).state? = (x state).state? := by
  unfold mapError
  cases x state <;> rfl

theorem ofExceptDone {result : Except ε α} {state after : σ} {a : α}
    (ended : ofExcept result state = .done a after) : result = .ok a ∧ after = state := by
  cases result with
  | ok b =>
    cases ended
    exact ⟨rfl, rfl⟩
  | error e => cases ended

end Action

end CircuitScript
