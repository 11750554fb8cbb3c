import CircuitScript.Eval

/-! Steps of evaluation that only look at the store, and operators, which give nothing but scalars. None of them counts
arguments, so none fails for their number, and none tells values apart that differ in their places only. -/
namespace CircuitScript

theorem Eval.readLooks (scope : ScopeId) (name : String) (store : Store) :
    Eval.read scope name store = Action.ofExcept (store.read scope name) store := by
  unfold Eval.read
  cases store.read scope name <;> rfl

theorem Eval.readFieldLooks (target : Value) (key : String) (store : Store) :
    Eval.readField target key store = Action.ofExcept (store.readField target key) store := by
  unfold Eval.readField
  cases store.readField target key <;> rfl

theorem Eval.formatLooks (text : String) (args : List Value) (store : Store) :
    Eval.format text args store = Action.ofExcept (store.format text args) store := by
  unfold Eval.format
  cases store.format text args <;> rfl

theorem Eval.applyBinaryLooks (op : BinaryOp) (a b : Value) (store : Store) :
    Eval.applyBinary op a b store = Action.ofExcept (store.applyBinary op a b) store := by
  unfold Eval.applyBinary
  cases store.applyBinary op a b <;> rfl

variable {α β : Type}

def GivesScalar (result : Except EvalError Value) : Prop :=
  ∀ value, result = .ok value → ∃ s, value = .scalar s

theorem givesScalarMap {result : Except EvalError α} {f : α → Value}
    (scalar : ∀ a, ∃ s, f a = .scalar s) : GivesScalar (result.map f) := by
  intro value ok
  cases result with
  | ok a =>
    cases ok
    exact scalar a
  | error e => cases ok

theorem givesScalarBind {result : Except EvalError α} {f : α → Except EvalError Value}
    (scalar : ∀ a, GivesScalar (f a)) : GivesScalar (result >>= f) := by
  intro value ok
  cases result with
  | ok a => exact scalar a value ok
  | error e => cases ok

theorem givesScalarOk (s : Scalar) : GivesScalar (.ok (.scalar s)) := by
  intro value ok
  cases ok
  exact ⟨s, rfl⟩

theorem toValueScalar (number : Number) : ∃ s, number.toValue = .scalar s := by
  cases number <;> exact ⟨_, rfl⟩

theorem arithmeticScalar (op : Number → Number → Except EvalError Number) (a b : Value) :
    GivesScalar (Value.arithmetic op a b) := by
  refine givesScalarBind fun x => givesScalarBind fun y => givesScalarBind fun z => ?_
  obtain ⟨s, same⟩ := toValueScalar z
  rw [same]
  exact givesScalarOk s

theorem bitwiseScalar (bools : Bool → Bool → Bool) (ints : Int64 → Int64 → Int64) (a b : Value) :
    GivesScalar (Value.bitwise bools ints a b) := by
  unfold Value.bitwise
  split
  · exact givesScalarOk _
  · exact givesScalarBind fun x => givesScalarBind fun y => givesScalarOk _

theorem shiftScalar (op : Int64 → Int64 → Int64) (a b : Value) :
    GivesScalar (Value.shift op a b) :=
  givesScalarBind fun _ => givesScalarBind fun _ => givesScalarOk _

theorem compareScalar (holds : Ordering → Bool) (a b : Value) :
    GivesScalar (Value.compareBy holds a b) :=
  givesScalarBind fun _ => givesScalarOk _

theorem addScalar (store : Store) (a b : Value) : GivesScalar (store.add a b) := by
  unfold Store.add
  split
  · exact givesScalarOk _
  · exact arithmeticScalar _ a b

theorem applyBinaryScalar (store : Store) (op : BinaryOp) (a b : Value) :
    GivesScalar (store.applyBinary op a b) := by
  cases op with
  | add => exact addScalar store a b
  | sub | mul | div | rem => exact arithmeticScalar _ a b
  | eq | ne => exact givesScalarOk _
  | lt | le | gt | ge => exact compareScalar _ a b
  | and | or =>
    refine givesScalarBind fun x => ?_
    cases x
    all_goals first
      | exact givesScalarOk _
      | exact givesScalarMap fun _ => ⟨_, rfl⟩
  | bitAnd | bitOr | bitXor => exact bitwiseScalar _ _ a b
  | shl | shr | ushr => exact shiftScalar _ a b

theorem applyUnaryScalar (op : UnaryOp) (value : Value) :
    GivesScalar (Store.applyUnary op value) := by
  cases op with
  | neg => exact givesScalarMap fun number => toValueScalar number.neg
  | not => exact givesScalarMap fun _ => ⟨_, rfl⟩
  | bitNot =>
    show GivesScalar value.invert
    unfold Value.invert
    split
    · exact givesScalarOk _
    · exact givesScalarMap fun _ => ⟨_, rfl⟩

def EvalError.OfArity : EvalError → Prop
  | .arityMismatch _ _ _ => True
  | _ => False

/-- An operation on values does not count arguments. -/
def NoArity (result : Except EvalError α) : Prop := ∀ e, result = .error e → ¬e.OfArity

namespace NoArity

theorem ok (a : α) : NoArity (.ok a) := nofun

theorem error {e : EvalError} (other : ¬e.OfArity) : NoArity (.error e : Except EvalError α) := by
  intro e' same
  cases same
  exact other

theorem map {result : Except EvalError α} (h : NoArity result) (f : α → β) : NoArity (result.map f) := by
  intro e failed
  cases result with
  | ok a => cases failed
  | error e' =>
    cases failed
    exact h e rfl

theorem bind {result : Except EvalError α} {f : α → Except EvalError β} (h : NoArity result)
    (later : ∀ a, NoArity (f a)) : NoArity (result >>= f) := by
  intro e failed
  cases result with
  | ok a => exact later a e failed
  | error e' =>
    cases failed
    exact h e rfl

theorem mismatch (value : Value) (needed : Needed) : NoArity (value.mismatch needed : Except EvalError α) :=
  error id

end NoArity

namespace Value

theorem toNumberNoArity (value : Value) : NoArity value.toNumber := by
  unfold toNumber
  split
  · exact .ok _
  · exact .ok _
  · split
    · exact .ok _
    · exact .mismatch _ _
  · exact .mismatch _ _

theorem toIntNoArity (value : Value) : NoArity value.toInt := by
  unfold toInt
  split
  · exact .ok _
  · exact (toNumberNoArity _).map _

theorem toFloatNoArity (value : Value) : NoArity value.toFloat := (toNumberNoArity value).map _

theorem toBoolNoArity (value : Value) : NoArity value.toBool := by
  unfold toBool
  split
  · exact .ok _
  · exact .ok _
  · exact .mismatch _ _

theorem toScalarNoArity (value : Value) : NoArity value.toScalar := by
  unfold toScalar
  split
  · exact .ok _
  · exact .mismatch _ _

theorem arithmeticNoArity {op : Number → Number → Except EvalError Number} (h : ∀ x y, NoArity (op x y))
    (a b : Value) : NoArity (arithmetic op a b) :=
  (toNumberNoArity a).bind fun x => (toNumberNoArity b).bind fun y => (h x y).bind fun _ => .ok _

theorem bitwiseNoArity (bools : Bool → Bool → Bool) (ints : Int64 → Int64 → Int64) (a b : Value) :
    NoArity (bitwise bools ints a b) := by
  unfold bitwise
  split
  · exact .ok _
  · exact (toIntNoArity _).bind fun _ => (toIntNoArity _).bind fun _ => .ok _

theorem shiftNoArity (op : Int64 → Int64 → Int64) (a b : Value) : NoArity (shift op a b) :=
  (toIntNoArity a).bind fun _ => (toIntNoArity b).bind fun _ => .ok _

theorem orderNoArity (a b : Value) : NoArity (a.order b) := by
  unfold order
  split
  · exact .ok _
  · exact (toNumberNoArity _).bind fun _ => (toNumberNoArity _).bind fun _ => .ok _

theorem compareNoArity (holds : Ordering → Bool) (a b : Value) : NoArity (compareBy holds a b) :=
  (orderNoArity a b).bind fun _ => .ok _

end Value

theorem Number.divideNoArity (ints : Int64 → Int64 → Int64) (floats : Float → Float → Float) (x y : Number) :
    NoArity (divide ints floats x y) := by
  unfold divide
  split
  · split
    · exact .error id
    · exact .ok _
  · exact .ok _

theorem Directive.convertNoArity (store : Store) (d : Directive) (value : Value) :
    NoArity (d.convert store value) := by
  unfold convert
  split
  · exact value.toIntNoArity.map _
  · exact value.toIntNoArity.map _
  · exact value.toIntNoArity.map _
  · exact value.toIntNoArity.map _
  · exact value.toIntNoArity.map _
  · exact value.toFloatNoArity.map _
  · dsimp only
    split
    · exact .ok _
    · exact .ok _
  · refine value.toIntNoArity.bind fun n => ?_
    split
    · exact .ok _
    · exact .error id
  · exact .ok _

theorem Piece.fillNoArity (store : Store) (pieces : List Piece) (args : List Value) :
    NoArity (fill store pieces args) := by
  induction pieces generalizing args with
  | nil => exact .ok _
  | cons piece rest ih =>
    cases piece with
    | plain c => exact (ih args).bind fun _ => .ok _
    | directive d =>
      unfold fill
      split
      · exact (ih args).bind fun _ => .ok _
      · split
        · exact .error id
        · exact (d.convertNoArity store _).bind fun _ => (ih _).bind fun _ => .ok _

namespace Store

theorem formatNoArity (store : Store) (text : String) (args : List Value) : NoArity (store.format text args) :=
  (Piece.fillNoArity store _ args).map _

theorem addNoArity (store : Store) (a b : Value) : NoArity (store.add a b) := by
  unfold add
  split
  · exact .ok _
  · exact Value.arithmeticNoArity (fun _ _ => .ok _) a b

theorem applyBinaryNoArity (store : Store) (op : BinaryOp) (a b : Value) : NoArity (store.applyBinary op a b) := by
  cases op with
  | add => exact store.addNoArity a b
  | sub | mul => exact Value.arithmeticNoArity (fun _ _ => .ok _) a b
  | div | rem => exact Value.arithmeticNoArity (Number.divideNoArity _ _) a b
  | eq | ne => exact .ok _
  | lt | le | gt | ge => exact Value.compareNoArity _ a b
  | and | or =>
    refine a.toBoolNoArity.bind fun x => ?_
    cases x
    all_goals first
      | exact .ok _
      | exact b.toBoolNoArity.map _
  | bitAnd | bitOr | bitXor => exact Value.bitwiseNoArity _ _ a b
  | shl | shr | ushr => exact Value.shiftNoArity _ a b

theorem applyUnaryNoArity (op : UnaryOp) (value : Value) : NoArity (applyUnary op value) := by
  cases op with
  | neg => exact value.toNumberNoArity.map _
  | not => exact value.toBoolNoArity.map _
  | bitNot =>
    show NoArity value.invert
    unfold Value.invert
    split
    · exact .ok _
    · exact (Value.toIntNoArity _).map _

theorem readNoArity (store : Store) (scope : ScopeId) (name : String) : NoArity (store.read scope name) := by
  unfold read
  split
  · exact .ok _
  · split
    · exact .ok _
    · exact .error id

theorem readFieldNoArity (store : Store) (value : Value) (key : String) : NoArity (store.readField value key) := by
  unfold readField
  split
  · split
    · exact .ok _
    · exact .error id
  · exact store.readNoArity _ key
  · split
    · exact .ok _
    · exact .error id
  · exact .mismatch _ _

end Store

/-- Values that only their places tell apart. -/
inductive Value.Like : Value → Value → Prop where
  | scalar (s : Scalar) : Like (.scalar s) (.scalar s)
  | list (id id' : ListId) : Like (.list id) (.list id')
  | map (id id' : MapId) : Like (.map id) (.map id')
  | builtin (b : Builtin) : Like (.func (.builtin b)) (.func (.builtin b))
  | closure (id id' : ClosureId) : Like (.func (.closure id)) (.func (.closure id'))
  | scope (id id' : ScopeId) : Like (.scope id) (.scope id')
  | attributes (id id' : HandleId) : Like (.attributes id) (.attributes id')

namespace Value.Like

variable {v v' u u' : Value}

theorem refl (v : Value) : v.Like v := by
  cases v with
  | func f => cases f <;> constructor
  | _ => constructor

theorem toInt (like : v.Like v') : v'.toInt = v.toInt := by
  cases like <;> rfl

theorem toFloat (like : v.Like v') : v'.toFloat = v.toFloat := by
  cases like <;> rfl

theorem toBool (like : v.Like v') : v'.toBool = v.toBool := by
  cases like <;> rfl

theorem toScalar (like : v.Like v') : v'.toScalar = v.toScalar := by
  cases like <;> rfl

theorem order (first : v.Like v') (second : u.Like u') : v'.order u' = v.order u := by
  cases first with
  | scalar x => cases second <;> cases x <;> rfl
  | _ => cases second <;> rfl

theorem applyUnary (like : v.Like v') (op : UnaryOp) : Store.applyUnary op v' = Store.applyUnary op v := by
  cases like <;> cases op <;> rfl

end Value.Like

/-- The failure of a `printf` without arguments. -/
def EvalError.emptyPrintf : EvalError := .arityMismatch "printf" (.atLeast 1) 0

end CircuitScript
