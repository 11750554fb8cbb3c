import CircuitScript.Proofs.Accepted
import CircuitScript.Proofs.Upkeep

/-! Running the trees that the grammar makes. A `printf` always finds its format text, and what the header of a loop
holds does not return. -/
namespace CircuitScript

def Store.Formed (store : Store) : Prop := ∀ id closure, store.closure? id = some closure → closure.body.Formed

theorem Store.closuresBindAll (store : Store) (id : ScopeId) (bindings : List (String × Value)) :
    (store.bindAll id bindings).closures = store.closures := by
  induction bindings generalizing store with
  | nil => rfl
  | cons first rest ih => exact ih (store.bind id first.1 first.2)

namespace Store.Formed

variable {store next : Store} (formed : store.Formed)
include formed

theorem sameClosures (same : next.closures = store.closures) : next.Formed := by
  intro id closure found
  unfold Store.closure? at found
  rw [same] at found
  exact formed id closure found

theorem newClosure {closure : Closure} (h : closure.body.Formed) : (store.newClosure closure).2.Formed := by
  intro id found there
  have there : (store.closures.push closure)[id.index]? = some found := there
  rw [Array.getElem?_push] at there
  split at there
  · cases there
    exact h
  · exact formed id found there

theorem entered (closure : Closure) (caller : ScopeId) (args : List Value) :
    (store.entered closure caller args).Formed :=
  formed.sameClosures (Store.closuresBindAll _ _ _)

end Store.Formed

theorem EvalError.otherArity {e : EvalError} (other : ¬e.OfArity) : e ≠ emptyPrintf :=
  fun same => other (same ▸ trivial)

theorem Builtin.nameOther (b : Builtin) : b.name ≠ "printf" := by
  cases b <;> decide

/-- No function is called like the statement, and a function of a script takes a fixed number of arguments. -/
theorem EvalError.otherCount (store : Store) (f : FunctionId) (count : Nat) :
    arityMismatch (store.functionName f) (store.functionArity f) count ≠ emptyPrintf := by
  intro same
  injection same with name arity
  cases f with
  | builtin b => exact b.nameOther name
  | closure id => cases arity

-- Runs that never fail for a `printf` without arguments, and leave the bodies of all functions well formed.
def sparing : Upkeep where
  Mode := Unit
  inv := Store.Formed
  step _ _ final := final.Formed
  good _ := True
  here _ _ := True
  tree _ part := part.WellFormed
  body b := b.Formed
  writable _ _ := True
  fine e := e ≠ .emptyPrintf
  refl := id
  trans _ second := second
  kept final _ := final
  scalar _ := trivial
  inner formed child member := formed.children child (Part.innerChildren member)
  literal formed := formed.children _ List.mem_cons_self
  declared formed := ⟨formed.children _ List.mem_cons_self, trivial⟩
  assigned _ := trivial
  compounded _ := trivial
  printed formed := absurd rfl formed.here
  plain := EvalError.otherArity
  counted := EvalError.otherCount
  read _ _ _ := trivial
  readField _ _ _ := trivial
  item _ _ _ := trivial
  bindName formed _ _ _ := formed.sameClosures rfl
  bindField formed _ _ _ := formed.sameClosures rfl
  setEntry _ formed _ _ := formed.sameClosures rfl
  setAttribute _ _ formed _ := formed.sameClosures rfl
  putItem _ _ formed _ := formed.sameClosures rfl
  newList formed _ := ⟨formed.sameClosures rfl, trivial⟩
  newMap formed _ := ⟨formed.sameClosures rfl, trivial⟩
  newClosure _ _ formed _ known := ⟨formed.newClosure known, trivial⟩
  print _ formed _ := formed.sameClosures rfl
  enter formed _ _ found _ := ⟨(), trivial, formed _ _ found, formed.entered _ _ _, id⟩

variable {n : Nat} {scope : ScopeId} {store after : Store}

theorem notEmptyPrintf {α : Type} {good : α → Prop} {x : Eval α} (spares : sparing.Upholds () good x)
    (formed : store.Formed) : x store ≠ .failed .emptyPrintf after := by
  intro failed
  have h := spares store formed
  rw [failed] at h
  exact h.2 rfl

-- What is ruled out does happen, to a statement that the grammar never makes.
example : exec (n + 2) scope (.printf []) store = .failed .emptyPrintf store := rfl

theorem Stmt.Simple.neverReturns {stmt : Stmt} (simple : stmt.Simple) (value : Value) :
    exec n scope stmt store ≠ .done (.returned value) after := by
  intro ended
  cases n with
  | zero => cases ended
  | succ n =>
    unfold exec at ended
    cases stmt with
    | assign target e =>
      obtain ⟨_, _, _, ended⟩ := Action.bindDone ended
      obtain ⟨_, _, _, ended⟩ := Action.bindDone ended
      cases ended
    | compound target op e =>
      obtain ⟨_, _, _, ended⟩ := Action.bindDone ended
      obtain ⟨_, _, _, ended⟩ := Action.bindDone ended
      obtain ⟨_, _, _, ended⟩ := Action.bindDone ended
      obtain ⟨_, _, _, ended⟩ := Action.bindDone ended
      cases ended
    | expr e =>
      obtain ⟨_, _, _, ended⟩ := Action.bindDone ended
      cases ended
    | _ => exact simple

theorem parseFormed {template : Bool} {source : String} {tree : Stmt}
    (parsed : parse template source = .ok tree) : tree.Formed := by
  obtain ⟨row, read, ran⟩ := parseOk parsed
  obtain ⟨lexed, tokens, last, rfl, ended, inside⟩ := tokenizeEnd read
  obtain ⟨stmts, _, rfl, regular, _, _⟩ := acceptedRow lexed ended inside ran
  have formed (stmt : Stmt) (member : stmt ∈ stmts) : stmt.Formed := (regular stmt member).imp fun _ part => part.sound
  exact .make trivial (by simpa [Part.children] using formed)

theorem acceptedSound {template : Bool} {source : String} {tree : Stmt}
    (parsed : parse template source = .ok tree) :
    (∀ part, (Part.stmt tree).Contains part → part.Sound) ∧
    (∀ stmt, (Part.stmt tree).Contains (.stmt stmt) → ∀ budget scope store, store.Formed → ∀ after,
      exec budget scope stmt store ≠ .failed .emptyPrintf after ∧
        ((exec budget scope stmt store).state? = some after → after.Formed)) ∧
    (∀ e, (Part.stmt tree).Contains (.expr e) → ∀ budget scope store, store.Formed → ∀ after,
      evalExpr budget scope e store ≠ .failed .emptyPrintf after) ∧
    ∀ first condition step body, (Part.stmt tree).Contains (.stmt (.forLoop first condition step body)) →
      ∀ budget scope store value after, exec budget scope first store ≠ .done (.returned value) after ∧
        exec budget scope step store ≠ .done (.returned value) after := by
  have formed := parseFormed parsed
  refine ⟨formed, ?_, ?_, ?_⟩
  · intro stmt inside budget scope store held after
    have spares := sparing.stmt (m := ()) (s := scope) budget trivial (formed.within inside)
    exact ⟨notEmptyPrintf spares held, spares.ended held⟩
  · intro e inside budget scope store held after
    exact notEmptyPrintf (sparing.expr (m := ()) budget trivial (formed.within inside)) held
  · intro first condition step body inside budget scope store value after
    have header := formed _ inside
    exact ⟨header.1.neverReturns value, header.2.neverReturns value⟩

/-- A function with a loop in it, run in a new scope. -/
theorem countingFunctionSound :
    ∃ tree,
      parse false "func f(a) \x7b for (i := 0; i < 2; i++) printf(\"%d\", -a); return -1; \x7d f(2);" = .ok tree ∧
      (∀ part, (Part.stmt tree).Contains part → part.Sound) ∧
      ∀ budget after, exec budget ⟨0⟩ tree Store.empty.newRoot.2 ≠ .failed .emptyPrintf after := by
  obtain ⟨tree, parsed⟩ := okOfToBool (show
    (parse false "func f(a) \x7b for (i := 0; i < 2; i++) printf(\"%d\", -a); return -1; \x7d f(2);").toBool =
      true by decide +kernel)
  have sound := acceptedSound parsed
  have formed : Store.empty.newRoot.2.Formed := by
    intro id closure found
    simp [Store.closure?, Store.newRoot, Store.newScope, Store.empty] at found
  exact ⟨tree, parsed, sound.1, fun budget after => (sound.2.1 tree .refl budget ⟨0⟩ _ formed after).1⟩

end CircuitScript
