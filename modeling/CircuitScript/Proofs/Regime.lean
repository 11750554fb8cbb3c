import CircuitScript.Evaluation
import CircuitScript.Proofs.Looking
import CircuitScript.Proofs.Parts
import Mathlib.Data.List.Forall2

/-! One walk through evaluation, for two runs side by side. A regime says when two values go together, two scopes and
two computations, and that each single step keeps it so. From that, two runs of a tree go together whatever they
evaluate and call. Every statement about all runs is an instance of this walk. -/
namespace CircuitScript

-- The parts that are evaluated in the scope of the whole; the body of a function is not.
def Part.inner : Part → List Part
  | .expr (.func _ _) => []
  | .stmt (.func _ _ _) => []
  | part => part.children

theorem Part.innerChildren {part child : Part} (member : child ∈ part.inner) : child ∈ part.children := by
  unfold Part.inner at member
  split at member
  · exact absurd member List.not_mem_nil
  · exact absurd member List.not_mem_nil
  · exact member

namespace Flow

inductive Alike (alike : Value → Value → Prop) : Flow → Flow → Prop where
  | next : Alike alike .next .next
  | returned {v v' : Value} (same : alike v v') : Alike alike (.returned v) (.returned v')

def value : Flow → Value
  | .returned value => value
  | .next => .str ""

end Flow

def Store.entered (store : Store) (closure : Closure) (caller : ScopeId) (args : List Value) : Store :=
  (store.newFrame closure.scope caller).2.bindAll ⟨store.scopes.size⟩ (closure.params.zip args)

section Invoking

variable {store : Store} {id : ClosureId} {n : Nat}

theorem invokeNothing (missing : store.closure? id = none) (caller : ScopeId) (args : List Value) :
    invoke (n + 1) caller (.closure id) args store = .failed (.notCallable "function") store := by
  rw [invoke]
  simp only [Action.bindApply, Action.get, missing]
  rfl

theorem invokeClosure {closure : Closure} (found : store.closure? id = some closure) (caller : ScopeId)
    (args : List Value) :
    invoke (n + 1) caller (.closure id) args store =
      (do
        let flow ← exec n ⟨store.scopes.size⟩ closure.body
        pure flow.value : Eval Value) (store.entered closure caller args) := by
  have opened : invoke (n + 1) caller (.closure id) args store =
      (do
        match ← exec n ⟨store.scopes.size⟩ closure.body with
        | .returned value => pure value
        | .next => pure (.str "") : Eval Value) (store.entered closure caller args) := by
    rw [invoke]
    simp only [Action.bindApply, Action.get, found]
    rfl
  rw [opened, Action.bindApply, Action.bindApply]
  cases exec n ⟨store.scopes.size⟩ closure.body (store.entered closure caller args) with
  | done flow final => cases flow <;> rfl
  | failed e final => rfl
  | spent => rfl

end Invoking

/-- What two runs keep to. A mode says what a run may do, a time how far it has come; what goes together at a time
does so later. `holds` is a statement about two computations, which the laws carry from step to step. The second run
has `more` budget than the first. -/
structure Regime where
  Mode : Type
  Time : Type
  later : Time → Time → Prop
  alike : Time → Value → Value → Prop
  here : Mode → Time → ScopeId → ScopeId → Prop
  tree : Mode → Part → Prop
  body : Stmt → Prop
  writable : Mode → Reference → Prop
  fine : EvalError → Prop
  holds : {α : Type} → Mode → Time → (Time → α → α → Prop) → Eval α → Eval α → Prop
  more : Nat
  alikeLater : ∀ {t t' v v'}, later t t' → alike t v v' → alike t' v v'
  hereLater : ∀ {m t t' s s'}, later t t' → here m t s s' → here m t' s s'
  like : ∀ {t v v'}, alike t v v' → v.Like v'
  scalar : ∀ t s, alike t (.scalar s) (.scalar s)
  inner : ∀ {m part}, tree m part → ∀ child ∈ part.inner, tree m child
  literal : ∀ {m params b}, tree m (.expr (.func params b)) → body b
  declared : ∀ {m name params b}, tree m (.stmt (.func name params b)) → body b ∧ writable m (.var name)
  assigned : ∀ {m r e}, tree m (.stmt (.assign r e)) → writable m r
  compounded : ∀ {m r op e}, tree m (.stmt (.compound r op e)) → writable m r
  printed : ∀ {m}, tree m (.stmt (.printf [])) → fine .emptyPrintf
  plain : ∀ {e : EvalError}, ¬e.OfArity → fine e
  counted : ∀ (b : Builtin) count, fine (.arityMismatch b.name b.arity count)
  spent : ∀ {α m t} {R : Time → α → α → Prop} {x}, (more = 0 → x = Action.spent) → holds m t R Action.spent x
  pure : ∀ {α m t} {R : Time → α → α → Prop} {a a'}, R t a a' → holds m t R (Pure.pure a) (Pure.pure a')
  fail : ∀ {α m t} {R : Time → α → α → Prop} {e}, fine e → holds m t R (Action.fail e) (Action.fail e)
  bind : ∀ {α β m t} {R : Time → α → α → Prop} {Q : Time → β → β → Prop} {x x' f f'}, holds m t R x x' →
    (∀ {t' a a'}, later t t' → R t' a a' → holds m t' Q (f a) (f' a')) → holds m t Q (x >>= f) (x' >>= f')
  succeeds : ∀ {α m t} {R : Time → α → α → Prop} {x x'}, holds m t R x x' →
    holds m t (fun _ => Eq) (Action.succeeds x) (Action.succeeds x')
  read : ∀ {m t s s'} name, here m t s s' → holds m t alike (Eval.read s name) (Eval.read s' name)
  readField : ∀ {m t v v'} key, alike t v v' → holds m t alike (Eval.readField v key) (Eval.readField v' key)
  item : ∀ {m t l l'} position, alike t (.list l) (.list l') →
    holds m t (fun t => Option.Rel (alike t)) (Eval.item? l position) (Eval.item? l' position)
  itemCount : ∀ {m t l l'}, alike t (.list l) (.list l') →
    holds m t (fun _ => Eq) (Eval.itemCount l) (Eval.itemCount l')
  text : ∀ {m t v v'}, alike t v v' → holds m t (fun _ => Eq) (Eval.text v) (Eval.text v')
  format : ∀ {m t vs vs'} form, List.Forall₂ (alike t) vs vs' →
    holds m t (fun _ => Eq) (Eval.format form vs) (Eval.format form vs')
  applyBinary : ∀ {m t v v' u u'} op, alike t v v' → alike t u u' →
    holds m t alike (Eval.applyBinary op v u) (Eval.applyBinary op v' u')
  checkArity : ∀ {m t f f'} count, alike t (.func f) (.func f') →
    holds m t (fun _ _ _ => True) (Eval.checkArity f count) (Eval.checkArity f' count)
  bindName : ∀ {m t s s' name v v'}, here m t s s' → writable m (.var name) → alike t v v' →
    holds m t (fun _ _ _ => True) (Action.modify (·.bind s name v)) (Action.modify (·.bind s' name v'))
  bindField : ∀ {m t r key s s' v v'}, writable m (.field r key) → alike t (.scope s) (.scope s') → alike t v v' →
    holds m t (fun _ _ _ => True) (Action.modify (·.bind s key v)) (Action.modify (·.bind s' key v'))
  setEntry : ∀ {m t r key id id' v v'}, writable m (.field r key) → alike t (.map id) (.map id') → alike t v v' →
    holds m t (fun _ _ _ => True) (Action.modify (·.setEntry id key v)) (Action.modify (·.setEntry id' key v'))
  setAttribute : ∀ {m t r key id id'} x, writable m (.field r key) → alike t (.attributes id) (.attributes id') →
    holds m t (fun _ _ _ => True) (Action.modify (·.setAttribute id key x)) (Action.modify (·.setAttribute id' key x))
  putItem : ∀ {m t l l' v v'} position, alike t (.list l) (.list l') → alike t v v' →
    holds m t (fun _ _ _ => True) (Action.modify (·.putItem l position v)) (Action.modify (·.putItem l' position v'))
  newList : ∀ {m t vs vs'}, List.Forall₂ (alike t) vs vs' → holds m t alike (Eval.newList vs) (Eval.newList vs')
  newMap : ∀ {m t vs vs'} (keys : List String), List.Forall₂ (alike t) vs vs' →
    holds m t alike (Eval.newMap (keys.zip vs)) (Eval.newMap (keys.zip vs'))
  newClosure : ∀ {m t s s' b} name params, here m t s s' → body b →
    holds m t alike (Eval.newClosure ⟨name, params, b, s⟩) (Eval.newClosure ⟨name, params, b, s'⟩)
  print : ∀ {m t s s'} text, here m t s s' →
    holds m t (fun _ _ _ => True) (Eval.print s text) (Eval.print s' text)
  enter : ∀ {m t s s' id id' vs vs' n n'}, here m t s s' → alike t (.func (.closure id)) (.func (.closure id')) →
    List.Forall₂ (alike t) vs vs' →
    (∀ {m t s s' b}, here m t s s' → tree m (.stmt b) →
      holds m t (fun t => Flow.Alike (alike t)) (exec n s b) (exec n' s' b)) →
    holds m t alike (invoke (n + 1) s (.closure id) vs) (invoke (n' + 1) s' (.closure id') vs')

namespace Regime

variable {G : Regime} {m : G.Mode} {t t' : G.Time} {s s' : ScopeId} {v v' u u' : Value} {vs vs' : List Value}
variable {α : Type} {n n' : Nat}

theorem allLater (later : G.later t t') (all : List.Forall₂ (G.alike t) vs vs') :
    List.Forall₂ (G.alike t') vs vs' := all.imp fun _ _ => G.alikeLater later

theorem ofExcept {result : Except EvalError α} (plain : NoArity result) :
    G.holds m t (fun _ => Eq) (Action.ofExcept result) (Action.ofExcept result) := by
  cases result with
  | ok a => exact G.pure rfl
  | error e => exact G.fail (G.plain (plain e rfl))

theorem scalars {result : Except EvalError Value} (scalar : GivesScalar result) (plain : NoArity result) :
    G.holds m t G.alike (Action.ofExcept result) (Action.ofExcept result) := by
  cases result with
  | ok value =>
    obtain ⟨x, rfl⟩ := scalar value rfl
    exact G.pure (G.scalar t x)
  | error e => exact G.fail (G.plain (plain e rfl))

theorem toList (alike : G.alike t v v') :
    G.holds m t (fun t l l' => G.alike t (.list l) (.list l')) (Action.ofExcept v.toList)
      (Action.ofExcept v'.toList) := by
  cases G.like alike with
  | list id id' => exact G.pure alike
  | _ => exact G.fail (G.plain id)

theorem readItem {l l' : ListId} (position : Int64) (alike : G.alike t (.list l) (.list l')) :
    G.holds m t G.alike (Eval.readItem l position) (Eval.readItem l' position) := by
  unfold Eval.readItem
  split
  · refine G.bind (G.item _ alike) fun _ found => ?_
    cases found with
    | some same => exact G.pure same
    | none => exact G.fail (G.plain id)
  · exact G.fail (G.plain id)

theorem writeItem {l l' : ListId} (position : Int64) (list : G.alike t (.list l) (.list l'))
    (value : G.alike t v v') :
    G.holds m t (fun _ _ _ => True) (Eval.writeItem l position v) (Eval.writeItem l' position v') := by
  unfold Eval.writeItem Eval.putItem
  split
  · refine G.bind (G.itemCount list) fun {_ count _} later same => ?_
    cases same
    split
    · exact G.putItem _ (G.alikeLater later list) (G.alikeLater later value)
    · exact G.fail (G.plain id)
  · exact G.fail (G.plain id)

theorem writeField {r : Reference} {key : String} (may : G.writable m (.field r key)) (target : G.alike t v v')
    (value : G.alike t u u') :
    G.holds m t (fun _ _ _ => True) (Eval.writeField v key u) (Eval.writeField v' key u') := by
  cases G.like target with
  | map id id' => exact G.setEntry may target value
  | scope id id' => exact G.bindField may target value
  | attributes id id' =>
    unfold Eval.writeField
    rw [(G.like value).toScalar]
    refine G.bind (ofExcept u.toScalarNoArity) fun {_ x _} later same => ?_
    cases same
    exact G.setAttribute x may (G.alikeLater later target)
  | _ => exact G.fail (G.plain id)

section Builtins

variable {b : Builtin}

theorem miscounted (all : List.Forall₂ (G.alike t) vs vs') :
    G.holds m t G.alike (Action.fail (.arityMismatch b.name b.arity vs.length))
      (Action.fail (.arityMismatch b.name b.arity vs'.length)) := by
  rw [← all.length_eq]
  exact G.fail (G.counted b _)

theorem unary (none : b.apply [] = Action.fail (.arityMismatch b.name b.arity 0))
    (many : ∀ first second rest, b.apply (first :: second :: rest) =
      Action.fail (.arityMismatch b.name b.arity (first :: second :: rest).length))
    (one : ∀ {v v'}, G.alike t v v' → G.holds m t G.alike (b.apply [v]) (b.apply [v']))
    (all : List.Forall₂ (G.alike t) vs vs') : G.holds m t G.alike (b.apply vs) (b.apply vs') := by
  have lengths := miscounted (m := m) (b := b) all
  cases all with
  | nil =>
    rw [none]
    exact G.fail (G.counted b 0)
  | cons first rest =>
    cases rest with
    | nil => exact one first
    | cons second rest =>
      rw [many, many]
      exact lengths

theorem mapped {f : Value → Except EvalError α} {g : α → Value} (plain : ∀ v, NoArity (f v))
    (same : ∀ {v v' : Value}, v.Like v' → f v' = f v) (scalar : ∀ a, ∃ x, g a = .scalar x) (alike : G.alike t v v') :
    G.holds m t G.alike (Action.ofExcept ((f v).map g)) (Action.ofExcept ((f v').map g)) := by
  rw [same (G.like alike)]
  exact scalars (givesScalarMap scalar) ((plain v).map g)

theorem abs (alike : G.alike t v v') :
    G.holds m t G.alike (Builtin.abs.apply [v]) (Builtin.abs.apply [v']) := by
  have measured : G.holds m t G.alike (Action.ofExcept (v.toFloat.map fun x => .float x.abs))
      (Action.ofExcept (v'.toFloat.map fun x => .float x.abs)) :=
    mapped Value.toFloatNoArity Value.Like.toFloat (fun _ => ⟨_, rfl⟩) alike
  cases G.like alike with
  | scalar x =>
    cases x with
    | int n => exact G.pure (G.scalar t (.int n.abs))
    | float x => exact measured
    | bool b => exact measured
    | str s => exact measured
  | _ => exact measured

theorem pick (wanted : Ordering) (best : G.alike t v v') (rest : List.Forall₂ (G.alike t) vs vs') :
    G.holds m t G.alike (Action.ofExcept (Builtin.pick wanted v vs))
      (Action.ofExcept (Builtin.pick wanted v' vs')) := by
  induction rest generalizing v v' with
  | nil => exact G.pure best
  | @cons next next' rest rest' first others ih =>
    simp only [Builtin.pick]
    rw [(G.like first).order (G.like best)]
    cases ordered : next.order v with
    | error e => exact G.fail (G.plain (Value.orderNoArity next v e ordered))
    | ok found =>
      show G.holds m t G.alike (Action.ofExcept (Builtin.pick wanted (if found = wanted then next else v) rest))
        (Action.ofExcept (Builtin.pick wanted (if found = wanted then next' else v') rest'))
      split
      · exact ih first
      · exact ih best

theorem apply (b : Builtin) (all : List.Forall₂ (G.alike t) vs vs') :
    G.holds m t G.alike (b.apply vs) (b.apply vs') := by
  cases b with
  | format =>
    cases all with
    | nil => exact G.fail (G.counted .format 0)
    | cons form rest =>
      refine G.bind (G.text form) fun {_ form _} later same => ?_
      cases same
      exact G.bind (G.format form (allLater later rest)) fun {t text _} _ same => by
        cases same
        exact G.pure (G.scalar t (.str text))
  | isPresent => exact unary rfl (fun _ _ _ => rfl) (fun _ => G.pure (G.scalar t (.bool true))) all
  | sizeOf =>
    refine unary rfl (fun _ _ _ => rfl) (fun alike => ?_) all
    refine G.bind (toList alike) fun _ list => G.bind (G.itemCount list) fun {t count _} _ same => ?_
    cases same
    exact G.pure (G.scalar t (.int (Int64.ofNat count)))
  | newMap =>
    cases all with
    | nil => exact G.newMap [] .nil
    | cons first rest => exact miscounted (b := .newMap) (.cons first rest)
  | newList =>
    cases all with
    | nil => exact G.newList .nil
    | cons first rest => exact miscounted (b := .newList) (.cons first rest)
  | int | bitsNeededFor =>
    refine unary rfl (fun _ _ _ => rfl) (fun alike => ?_) all
    exact mapped Value.toIntNoArity Value.Like.toInt (fun _ => ⟨_, rfl⟩) alike
  | float | ceil | floor | round | log2 =>
    refine unary rfl (fun _ _ _ => rfl) (fun alike => ?_) all
    exact mapped Value.toFloatNoArity Value.Like.toFloat (fun _ => ⟨_, rfl⟩) alike
  | abs => exact unary rfl (fun _ _ _ => by simp [Builtin.apply]) abs all
  | min =>
    cases all with
    | nil => exact G.fail (G.counted .min 0)
    | cons first rest => exact pick .lt first rest
  | max =>
    cases all with
    | nil => exact G.fail (G.counted .max 0)
    | cons first rest => exact pick .gt first rest
  | identifier | toUpper | toLower =>
    refine unary rfl (fun _ _ _ => rfl) (fun alike => G.bind (G.text alike) fun {t text _} _ same => ?_) all
    cases same
    exact G.pure (G.scalar t (.str _))
  | splitString =>
    refine unary rfl (fun _ _ _ => rfl) (fun alike => G.bind (G.text alike) fun {t text _} _ same => ?_) all
    cases same
    refine G.newList (List.forall₂_map_left_iff.mpr (List.forall₂_map_right_iff.mpr ?_))
    exact List.forall₂_same.mpr fun word _ => G.scalar t (.str (String.ofList word))

end Builtins

/-- With these budgets, all the functions of evaluation keep to the regime. -/
structure Walked (G : Regime) (n n' : Nat) : Prop where
  expr : ∀ {m t s s' e}, G.here m t s s' → G.tree m (.expr e) →
    G.holds m t G.alike (evalExpr n s e) (evalExpr n' s' e)
  condition : ∀ {m t s s' e}, G.here m t s s' → G.tree m (.expr e) →
    G.holds m t (fun _ => Eq) (evalCondition n s e) (evalCondition n' s' e)
  all : ∀ {m t s s' es}, G.here m t s s' → (∀ e ∈ es, G.tree m (.expr e)) →
    G.holds m t (fun t vs vs' => List.Forall₂ (G.alike t) vs vs' ∧ vs.length = es.length) (evalAll n s es)
      (evalAll n' s' es)
  readRef : ∀ {m t s s' r}, G.here m t s s' → G.tree m (.ref r) →
    G.holds m t G.alike (readReference n s r) (readReference n' s' r)
  writeRef : ∀ {m t s s' r v v'}, G.here m t s s' → G.tree m (.ref r) → G.writable m r → G.alike t v v' →
    G.holds m t (fun _ _ _ => True) (writeReference n s r v) (writeReference n' s' r v')
  position : ∀ {m t s s' e}, G.here m t s s' → G.tree m (.expr e) →
    G.holds m t (fun _ => Eq) (evalPosition n s e) (evalPosition n' s' e)
  calls : ∀ {m t s s' f f' es}, G.here m t s s' → G.alike t (.func f) (.func f') →
    (∀ e ∈ es, G.tree m (.expr e)) → G.holds m t G.alike (call n s f es) (call n' s' f' es)
  invokes : ∀ {m t s s' f f' vs vs'}, G.here m t s s' → G.alike t (.func f) (.func f') →
    List.Forall₂ (G.alike t) vs vs' → G.holds m t G.alike (invoke n s f vs) (invoke n' s' f' vs')
  stmt : ∀ {m t s s' b}, G.here m t s s' → G.tree m (.stmt b) →
    G.holds m t (fun t => Flow.Alike (G.alike t)) (exec n s b) (exec n' s' b)
  stmts : ∀ {m t s s' bs}, G.here m t s s' → (∀ b ∈ bs, G.tree m (.stmt b)) →
    G.holds m t (fun t => Flow.Alike (G.alike t)) (execAll n s bs) (execAll n' s' bs)
  loop : ∀ {m t s s' e step b}, G.here m t s s' → G.tree m (.expr e) → G.tree m (.stmt step) →
    G.tree m (.stmt b) →
    G.holds m t (fun t => Flow.Alike (G.alike t)) (execFor n s e step b) (execFor n' s' e step b)
  prints : ∀ {m t s s' es}, G.here m t s s' → (∀ e ∈ es, G.tree m (.expr e)) →
    G.holds m t (fun _ _ _ => True) (execPrint n s es) (execPrint n' s' es)

namespace Walked

theorem zero (G : Regime) : G.Walked 0 G.more where
  expr _ _ := G.spent fun none => by rw [none]; rfl
  condition _ _ := G.spent fun none => by rw [none]; rfl
  all _ _ := G.spent fun none => by rw [none]; rfl
  readRef _ _ := G.spent fun none => by rw [none]; rfl
  writeRef _ _ _ _ := G.spent fun none => by rw [none]; rfl
  position _ _ := G.spent fun none => by rw [none]; rfl
  calls _ _ _ := G.spent fun none => by rw [none]; rfl
  invokes _ _ _ := G.spent fun none => by rw [none]; rfl
  stmt _ _ := G.spent fun none => by rw [none]; rfl
  stmts _ _ := G.spent fun none => by rw [none]; rfl
  loop _ _ _ _ := G.spent fun none => by rw [none]; rfl
  prints _ _ := G.spent fun none => by rw [none]; rfl

variable (below : G.Walked n n') (here : G.here m t s s')
include below here

theorem exprNext {e : Expr} (tree : G.tree m (.expr e)) :
    G.holds m t G.alike (evalExpr (n + 1) s e) (evalExpr (n' + 1) s' e) := by
  have inner := G.inner tree
  cases e with
  | literal x =>
    unfold evalExpr
    exact G.pure (G.scalar t x)
  | ref r =>
    unfold evalExpr
    exact below.readRef here (inner _ List.mem_cons_self)
  | unary op operand =>
    unfold evalExpr
    refine G.bind (below.expr here (inner _ List.mem_cons_self)) fun {_ v _} _ same => ?_
    rw [(G.like same).applyUnary]
    exact scalars (applyUnaryScalar op v) (Store.applyUnaryNoArity op v)
  | binary op left right =>
    have hl : G.tree m (.expr left) := inner _ List.mem_cons_self
    have hr : G.tree m (.expr right) := inner _ (List.mem_cons_of_mem _ List.mem_cons_self)
    have both : G.holds m t G.alike
        (do
          let a ← evalExpr n s left
          let b ← evalExpr n s right
          Eval.applyBinary op a b)
        (do
          let a ← evalExpr n' s' left
          let b ← evalExpr n' s' right
          Eval.applyBinary op a b) :=
      G.bind (below.expr here hl) fun later first =>
        G.bind (below.expr (G.hereLater later here) hr) fun later second =>
          G.applyBinary op (G.alikeLater later first) second
    have second {t' : G.Time} (later : G.later t t') : G.holds m t' G.alike
        (do
          let b ← evalCondition n s right
          Pure.pure (.bool b))
        (do
          let b ← evalCondition n' s' right
          Pure.pure (.bool b)) :=
      G.bind (below.condition (G.hereLater later here) hr) fun {t b _} _ same => by
        cases same
        exact G.pure (G.scalar t (.bool b))
    cases op with
    | and =>
      unfold evalExpr
      refine G.bind (below.condition here hl) fun {t b _} later same => ?_
      cases same
      cases b with
      | true => exact second later
      | false => exact G.pure (G.scalar t (.bool false))
    | or =>
      unfold evalExpr
      refine G.bind (below.condition here hl) fun {t b _} later same => ?_
      cases same
      cases b with
      | true => exact G.pure (G.scalar t (.bool true))
      | false => exact second later
    | add | sub | mul | div | rem | eq | ne | lt | le | gt | ge | bitAnd | bitOr | bitXor | shl | shr
    | ushr =>
      unfold evalExpr
      exact both
  | call callee args =>
    have trees : ∀ e ∈ args, G.tree m (.expr e) :=
      fun e member => inner _ (List.mem_cons_of_mem _ (List.mem_map_of_mem member))
    unfold evalExpr
    refine G.bind (below.expr here (inner _ List.mem_cons_self)) fun later found => ?_
    have calls {f f' : FunctionId} (same : G.alike _ (.func f) (.func f')) :=
      below.calls (G.hereLater later here) same trees
    cases G.like found with
    | builtin b => exact calls found
    | closure id id' => exact calls found
    | _ => exact G.fail (G.plain id)
  | list items =>
    unfold evalExpr
    refine G.bind (below.all here fun e member => inner _ (List.mem_map_of_mem member)) fun _ values => ?_
    exact G.newList values.1
  | map entries =>
    unfold evalExpr
    have trees : ∀ e ∈ entries.map (·.2), G.tree m (.expr e) := by
      intro e member
      obtain ⟨entry, inside, rfl⟩ := List.mem_map.mp member
      exact inner _ (List.mem_map.mpr ⟨entry, inside, rfl⟩)
    exact G.bind (below.all here trees) fun _ values => G.newMap _ values.1
  | func params b =>
    unfold evalExpr
    exact G.newClosure "<anonymous>" params here (G.literal tree)

theorem conditionNext {e : Expr} (tree : G.tree m (.expr e)) :
    G.holds m t (fun _ => Eq) (evalCondition (n + 1) s e) (evalCondition (n' + 1) s' e) := by
  unfold evalCondition
  refine G.bind (below.expr here tree) fun {_ v _} _ same => ?_
  rw [(G.like same).toBool]
  exact ofExcept v.toBoolNoArity

theorem positionNext {e : Expr} (tree : G.tree m (.expr e)) :
    G.holds m t (fun _ => Eq) (evalPosition (n + 1) s e) (evalPosition (n' + 1) s' e) := by
  unfold evalPosition
  refine G.bind (below.expr here tree) fun {_ v _} _ same => ?_
  rw [(G.like same).toInt]
  exact ofExcept v.toIntNoArity

theorem allNext {es : List Expr} (trees : ∀ e ∈ es, G.tree m (.expr e)) :
    G.holds m t (fun t vs vs' => List.Forall₂ (G.alike t) vs vs' ∧ vs.length = es.length) (evalAll (n + 1) s es)
      (evalAll (n' + 1) s' es) := by
  cases es with
  | nil => exact G.pure ⟨.nil, rfl⟩
  | cons e rest =>
    obtain ⟨first, others⟩ := List.forall_mem_cons.mp trees
    unfold evalAll
    refine G.bind (below.expr here first) fun later value => ?_
    refine G.bind (below.all (G.hereLater later here) others) fun later values => ?_
    exact G.pure ⟨.cons (G.alikeLater later value) values.1, congrArg Nat.succ values.2⟩

theorem readRefNext {r : Reference} (tree : G.tree m (.ref r)) :
    G.holds m t G.alike (readReference (n + 1) s r) (readReference (n' + 1) s' r) := by
  have inner := G.inner tree
  unfold readReference
  cases r with
  | var name => exact G.read name here
  | index parent position =>
    refine G.bind (below.readRef here (inner _ List.mem_cons_self)) fun later target => ?_
    have here := G.hereLater later here
    refine G.bind (toList target) fun later list => ?_
    refine G.bind (below.position (G.hereLater later here)
      (inner _ (List.mem_cons_of_mem _ List.mem_cons_self))) fun {_ i _} later same => ?_
    cases same
    exact readItem i (G.alikeLater later list)
  | field parent key =>
    exact G.bind (below.readRef here (inner _ List.mem_cons_self)) fun _ target => G.readField key target

theorem writeRefNext {r : Reference} (tree : G.tree m (.ref r)) (may : G.writable m r) (value : G.alike t v v') :
    G.holds m t (fun _ _ _ => True) (writeReference (n + 1) s r v) (writeReference (n' + 1) s' r v') := by
  have inner := G.inner tree
  unfold writeReference
  cases r with
  | var name => exact G.bindName here may value
  | index parent position =>
    refine G.bind (below.readRef here (inner _ List.mem_cons_self)) fun later target => ?_
    have here := G.hereLater later here
    have value := G.alikeLater later value
    refine G.bind (toList target) fun later list => ?_
    have value := G.alikeLater later value
    refine G.bind (below.position (G.hereLater later here)
      (inner _ (List.mem_cons_of_mem _ List.mem_cons_self))) fun {_ i _} later same => ?_
    cases same
    exact writeItem i (G.alikeLater later list) (G.alikeLater later value)
  | field parent key =>
    exact G.bind (below.readRef here (inner _ List.mem_cons_self)) fun later target =>
      writeField may target (G.alikeLater later value)

theorem callNext {f f' : FunctionId} {es : List Expr} (called : G.alike t (.func f) (.func f'))
    (trees : ∀ e ∈ es, G.tree m (.expr e)) :
    G.holds m t G.alike (call (n + 1) s f es) (call (n' + 1) s' f' es) := by
  have eager {t' : G.Time} (later : G.later t t') : G.holds m t' G.alike
      (do
        let values ← evalAll n s es
        invoke n s f values)
      (do
        let values ← evalAll n' s' es
        invoke n' s' f' values) := by
    have here := G.hereLater later here
    refine G.bind (below.all here trees) fun more values => ?_
    exact below.invokes (G.hereLater more here) (G.alikeLater more (G.alikeLater later called)) values.1
  unfold call
  refine G.bind (G.checkArity es.length called) fun later _ => ?_
  -- Only `isPresent` on one argument is not called with values.
  cases G.like called with
  | closure id id' => exact eager later
  | builtin b =>
    by_cases lazy : b = .isPresent
    · subst lazy
      cases es with
      | nil => exact eager later
      | cons e rest =>
        cases rest with
        | nil =>
          have tried := G.succeeds (below.expr (G.hereLater later here) (trees e List.mem_cons_self))
          refine G.bind tried fun {t present _} _ same => ?_
          cases same
          exact G.pure (G.scalar t (.bool present))
        | cons second rest => exact eager later
    · cases b
      case isPresent => exact absurd rfl lazy
      all_goals exact eager later

theorem invokeNext {f f' : FunctionId} (called : G.alike t (.func f) (.func f'))
    (all : List.Forall₂ (G.alike t) vs vs') :
    G.holds m t G.alike (invoke (n + 1) s f vs) (invoke (n' + 1) s' f' vs') := by
  cases G.like called with
  | builtin b =>
    unfold invoke
    exact apply b all
  | closure id id' => exact G.enter here called all below.stmt

theorem stmtNext {b : Stmt} (tree : G.tree m (.stmt b)) :
    G.holds m t (fun t => Flow.Alike (G.alike t)) (exec (n + 1) s b) (exec (n' + 1) s' b) := by
  have inner := G.inner tree
  unfold exec
  cases b with
  | block body => exact below.stmts here fun b member => inner _ (List.mem_map_of_mem member)
  | assign target e =>
    refine G.bind (below.expr here (inner _ (List.mem_cons_of_mem _ List.mem_cons_self))) fun later value => ?_
    refine G.bind (below.writeRef (G.hereLater later here) (inner _ List.mem_cons_self) (G.assigned tree) value)
      fun _ _ => G.pure .next
  | compound target op e =>
    have place := inner _ List.mem_cons_self
    refine G.bind (below.readRef here place) fun later current => ?_
    have here := G.hereLater later here
    refine G.bind (below.expr here (inner _ (List.mem_cons_of_mem _ List.mem_cons_self))) fun later operand => ?_
    have here := G.hereLater later here
    refine G.bind (G.applyBinary op (G.alikeLater later current) operand) fun later value => ?_
    exact G.bind (below.writeRef (G.hereLater later here) place (G.compounded tree) value) fun _ _ => G.pure .next
  | ifThen condition yes no =>
    refine G.bind (below.condition here (inner _ List.mem_cons_self)) fun {_ b _} later same => ?_
    cases same
    have here := G.hereLater later here
    cases b with
    | true => exact below.stmt here (inner _ (List.mem_cons_of_mem _ List.mem_cons_self))
    | false =>
      cases no with
      | some stmt =>
        exact below.stmt here (inner _ (List.mem_cons_of_mem _ (List.mem_cons_of_mem _ List.mem_cons_self)))
      | none => exact G.pure .next
  | whileDo condition body =>
    refine G.bind (below.condition here (inner _ List.mem_cons_self)) fun {_ b _} later same => ?_
    cases same
    have here := G.hereLater later here
    cases b with
    | true =>
      refine G.bind (below.stmt here (inner _ (List.mem_cons_of_mem _ List.mem_cons_self))) fun later flow => ?_
      cases flow with
      | returned same => exact G.pure (.returned same)
      | next => exact below.stmt (G.hereLater later here) tree
    | false => exact G.pure .next
  | repeatUntil body condition =>
    refine G.bind (below.stmt here (inner _ List.mem_cons_self)) fun later flow => ?_
    have here := G.hereLater later here
    cases flow with
    | returned same => exact G.pure (.returned same)
    | next =>
      refine G.bind (below.condition here (inner _ (List.mem_cons_of_mem _ List.mem_cons_self)))
        fun {_ b _} later same => ?_
      cases same
      cases b with
      | true => exact G.pure .next
      | false => exact below.stmt (G.hereLater later here) tree
  | forLoop first condition step body =>
    obtain ⟨hf, hc, hs, hb⟩ : G.tree m (.stmt first) ∧ G.tree m (.expr condition) ∧ G.tree m (.stmt step) ∧
        G.tree m (.stmt body) := by simpa [Part.inner, Part.children] using inner
    exact G.bind (below.stmt here hf) fun later _ => below.loop (G.hereLater later here) hc hs hb
  | func name params body =>
    obtain ⟨known, may⟩ := G.declared tree
    refine G.bind (G.newClosure name params here known) fun later value => ?_
    exact G.bind (G.bindName (G.hereLater later here) may value) fun _ _ => G.pure .next
  | ret e =>
    exact G.bind (below.expr here (inner _ List.mem_cons_self)) fun _ value => G.pure (.returned value)
  | print args =>
    exact G.bind (below.prints here fun e member => inner _ (List.mem_map_of_mem member)) fun _ _ => G.pure .next
  | printf args =>
    refine G.bind (below.all here fun e member => inner _ (List.mem_map_of_mem member)) fun later values => ?_
    obtain ⟨values, count⟩ := values
    have here := G.hereLater later here
    cases values with
    | nil =>
      -- There are as many values as arguments.
      obtain rfl : args = [] := List.length_eq_zero_iff.mp count.symm
      exact G.fail (G.printed tree)
    | cons form rest =>
      refine G.bind (G.text form) fun {_ form _} later same => ?_
      cases same
      have here := G.hereLater later here
      refine G.bind (G.format form (allLater later rest)) fun {_ text _} later same => ?_
      cases same
      exact G.bind (G.print text (G.hereLater later here)) fun _ _ => G.pure .next
  | fail e =>
    refine G.bind (below.expr here (inner _ List.mem_cons_self)) fun _ value => ?_
    refine G.bind (G.text value) fun _ same => ?_
    cases same
    exact G.fail (G.plain id)
  | text text => exact G.bind (G.print text here) fun _ _ => G.pure .next
  | expr e => exact G.bind (below.expr here (inner _ List.mem_cons_self)) fun _ _ => G.pure .next

theorem stmtsNext {bs : List Stmt} (trees : ∀ b ∈ bs, G.tree m (.stmt b)) :
    G.holds m t (fun t => Flow.Alike (G.alike t)) (execAll (n + 1) s bs) (execAll (n' + 1) s' bs) := by
  cases bs with
  | nil => exact G.pure .next
  | cons b rest =>
    obtain ⟨first, others⟩ := List.forall_mem_cons.mp trees
    unfold execAll
    refine G.bind (below.stmt here first) fun later flow => ?_
    cases flow with
    | returned same => exact G.pure (.returned same)
    | next => exact below.stmts (G.hereLater later here) others

theorem loopNext {e : Expr} {step b : Stmt} (he : G.tree m (.expr e)) (hs : G.tree m (.stmt step))
    (hb : G.tree m (.stmt b)) :
    G.holds m t (fun t => Flow.Alike (G.alike t)) (execFor (n + 1) s e step b) (execFor (n' + 1) s' e step b) := by
  unfold execFor
  refine G.bind (below.condition here he) fun {_ b _} later same => ?_
  cases same
  have here := G.hereLater later here
  cases b with
  | true =>
    refine G.bind (below.stmt here hb) fun later flow => ?_
    have here := G.hereLater later here
    cases flow with
    | returned same => exact G.pure (.returned same)
    | next => exact G.bind (below.stmt here hs) fun later _ => below.loop (G.hereLater later here) he hs hb
  | false => exact G.pure .next

theorem printsNext {es : List Expr} (trees : ∀ e ∈ es, G.tree m (.expr e)) :
    G.holds m t (fun _ _ _ => True) (execPrint (n + 1) s es) (execPrint (n' + 1) s' es) := by
  cases es with
  | nil => exact G.pure trivial
  | cons e rest =>
    obtain ⟨first, others⟩ := List.forall_mem_cons.mp trees
    unfold execPrint
    refine G.bind (below.expr here first) fun later value => ?_
    have here := G.hereLater later here
    refine G.bind (G.text value) fun {_ text _} later same => ?_
    cases same
    have here := G.hereLater later here
    exact G.bind (G.print text here) fun later _ => below.prints (G.hereLater later here) others

omit here in
theorem next : G.Walked (n + 1) (n' + 1) where
  expr here := below.exprNext here
  condition here := below.conditionNext here
  all here := below.allNext here
  readRef here := below.readRefNext here
  writeRef here := below.writeRefNext here
  position here := below.positionNext here
  calls here := below.callNext here
  invokes here := below.invokeNext here
  stmt here := below.stmtNext here
  stmts here := below.stmtsNext here
  loop here := below.loopNext here
  prints here := below.printsNext here

end Walked

theorem walked (G : Regime) (n : Nat) : G.Walked n (n + G.more) := by
  induction n with
  | zero =>
    rw [Nat.zero_add]
    exact .zero G
  | succ n below =>
    rw [Nat.succ_add]
    exact below.next

end Regime

end CircuitScript
