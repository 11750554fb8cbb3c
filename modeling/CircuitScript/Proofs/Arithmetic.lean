import Mathlib.Data.Int.Bitwise
import CircuitScript.Evaluation
import CircuitScript.Proofs.Outcome
import CircuitScript.Proofs.ReadBack

/-! The operators on integers as exact arithmetic. Each gives the integer that the operation has among all whole
numbers, brought into the range of 64 bits where it can leave it. -/
namespace CircuitScript

namespace Bits

/-- A whole number reduced modulo `2 ^ 64` into the range from `-2 ^ 63` to `2 ^ 63 - 1`. -/
def wrapped (n : Int) : Int := n.bmod Int64.size

/-- How far a shift moves: the amount modulo 64. -/
def places (amount : Int64) : Nat := (amount.toInt % 64).toNat

theorem unsignedValue (n : Int64) : (n.toUInt64.toNat : Int) = n.toInt % Int64.size := by
  have signed : n.toInt = (n.toUInt64.toNat : Int).bmod Int64.size := by
    rw [← Int64.toInt_toBitVec, BitVec.toInt_eq_toNat_bmod]
    rfl
  have small : n.toUInt64.toNat < Int64.size := n.toUInt64.toNat_lt
  rw [signed, Int.bmod_emod, Int.emod_eq_of_lt (by omega) (by omega)]

theorem signedValue (u : UInt64) : u.toInt64.toInt = wrapped u.toNat := by
  rw [← Int64.toInt_toBitVec, BitVec.toInt_eq_toNat_bmod]
  rfl

theorem testBitSigned (n : Int64) (i : Nat) :
    n.toInt.testBit i = if i < 64 then n.toBitVec.getLsbD i else n.toBitVec.msb := by
  have small := n.toBitVec.isLt
  rw [← Int64.toInt_toBitVec, BitVec.toInt_eq_toNat_cond, BitVec.msb_eq_decide]
  split
  · rename_i positive
    show n.toBitVec.toNat.testBit i = _
    split
    · rfl
    · rename_i high
      have wide : 2 ^ 64 ≤ 2 ^ i := Nat.pow_le_pow_right (by decide) (by omega)
      rw [Nat.testBit_lt_two_pow (by omega), eq_comm, decide_eq_false_iff_not]
      omega
  · rename_i negative
    have shape : (n.toBitVec.toNat : Int) - (2 ^ 64 : Nat) = Int.negSucc (2 ^ 64 - (n.toBitVec.toNat + 1)) := by
      omega
    rw [shape]
    show (!(2 ^ 64 - (n.toBitVec.toNat + 1)).testBit i) = _
    rw [Nat.testBit_two_pow_sub_succ small]
    split
    · rename_i low
      simp [low, BitVec.getLsbD]
    · rename_i high
      simp [high]
      omega

theorem placesLt (amount : Int64) : places amount < 64 := by
  unfold places
  omega

theorem shiftAmountPlaces (amount : Int64) : (shiftAmount amount).toNat = places amount := by
  have bits : (amount.toUInt64.toNat : Int) = amount.toInt % 18446744073709551616 := unsignedValue amount
  have low : (shiftAmount amount).toNat = amount.toUInt64.toNat % 64 := by
    rw [shiftAmount, UInt64.toNat_and]
    exact Nat.and_two_pow_sub_one_eq_mod _ 6
  rw [low, places]
  omega

theorem shiftedLeftValue (n amount : Int64) :
    (shiftedLeft n amount).toInt = wrapped (n.toInt * 2 ^ places amount) := by
  rw [shiftedLeft, signedValue, UInt64.toNat_shiftLeft, shiftAmountPlaces, Nat.mod_eq_of_lt (placesLt amount),
    Nat.shiftLeft_eq, wrapped, Int.natCast_emod, Int.natCast_mul, unsignedValue, Int.natCast_pow]
  exact (Int.emod_bmod ..).trans (Int.emod_mul_bmod ..)

theorem shiftedRightUnsignedValue (n amount : Int64) :
    (shiftedRightUnsigned n amount).toInt = wrapped (n.toInt % Int64.size / 2 ^ places amount) := by
  rw [shiftedRightUnsigned, signedValue, UInt64.toNat_shiftRight, shiftAmountPlaces,
    Nat.mod_eq_of_lt (placesLt amount), Nat.shiftRight_eq_div_pow, Int.natCast_ediv, unsignedValue, Int.natCast_pow]
  rfl

theorem smodSmall {amount : BitVec 64} (small : amount.toNat < 64) : (amount.smod 64).toNat = amount.toNat := by
  have positive : amount.msb = false := by
    rw [BitVec.msb_eq_false_iff_two_mul_lt]
    omega
  rw [BitVec.smod_eq, positive]
  exact Nat.mod_eq_of_lt small

theorem shiftedRightValue (n amount : Int64) :
    (shiftedRight n amount).toInt = n.toInt.fdiv (2 ^ places amount) := by
  have low := placesLt amount
  rw [← shiftAmountPlaces] at low
  have same : ((shiftAmount amount).toInt64.toBitVec.smod 64).toNat = places amount :=
    (smodSmall low).trans (shiftAmountPlaces amount)
  have positive : (0 : Int) ≤ 2 ^ places amount := Int.pow_nonneg (by decide)
  rw [shiftedRight, ← Int64.toInt_toBitVec, Int64.toBitVec_shiftRight, BitVec.sshiftRight', same,
    BitVec.toInt_sshiftRight, Int64.toInt_toBitVec, Int.shiftRight_eq_div_pow, Int.fdiv_eq_ediv_of_nonneg _ positive,
    Int.natCast_pow]
  rfl

theorem quotientRestores (a b : Int64) : a / b * b + a % b = a := by
  apply Int64.toInt_inj.mp
  rw [Int64.toInt_add, Int64.toInt_mul, Int64.toInt_div, Int64.toInt_mod, Int.bmod_mul_bmod, Int.bmod_add_bmod,
    Int.tdiv_mul_add_tmod]
  exact a.toInt_bmod_size

end Bits

/-- An integer as an operand: the number itself, or a string with its decimal text. -/
inductive Value.Operand (n : Int64) : Value → Prop where
  | number : Operand n (.int n)
  | text : Operand n (.str (Scalar.int n).text)

theorem Value.Operand.toNumber {n : Int64} {value : Value} (operand : value.Operand n) :
    value.toNumber = .ok (.int n) := by
  cases operand with
  | number => rfl
  | text =>
    have read : Number.ofText? (Scalar.int n).text = some (.int n) := by
      simp only [Number.ofText?, Scalar.text, String.toList_ofList, readIntegerText]
    simp only [Value.str, Value.toNumber, read]

theorem arithmeticOperands {op : Number → Number → Except EvalError Number} {a b : Int64} {left right : Value}
    (first : left.Operand a) (second : right.Operand b) :
    Value.arithmetic op left right = Value.arithmetic op (.int a) (.int b) := by
  unfold Value.arithmetic
  rw [first.toNumber, second.toNumber]
  rfl

namespace Store

/-- The operator gives the integer of this value, and does not fail. -/
def Computes (store : Store) (op : BinaryOp) (a b : Int64) (n : Int) : Prop :=
  ∃ r : Int64, store.applyBinary op (.int a) (.int b) = .ok (.int r) ∧ r.toInt = n

/-- The operator gives an integer made bit by bit. -/
def ComputesBits (store : Store) (op : BinaryOp) (a b : Int64) (meaning : Bool → Bool → Bool) : Prop :=
  ∃ r : Int64, store.applyBinary op (.int a) (.int b) = .ok (.int r) ∧
    ∀ i, r.toInt.testBit i = meaning (a.toInt.testBit i) (b.toInt.testBit i)

variable (store : Store) (a b : Int64)

theorem divideInts : store.applyBinary .div (.int a) (.int b) =
    if b = 0 then .error .divisionByZero else .ok (.int (a / b)) := by
  show (Number.divide (· / ·) (· / ·) (.int a) (.int b)).bind (fun z => .ok z.toValue) = _
  rw [Number.divide]
  split <;> rfl

theorem remainInts : store.applyBinary .rem (.int a) (.int b) =
    if b = 0 then .error .divisionByZero else .ok (.int (a % b)) := by
  show (Number.divide (· % ·) Numeral.remainder (.int a) (.int b)).bind (fun z => .ok z.toValue) = _
  rw [Number.divide]
  split <;> rfl

theorem divisionFails {op : BinaryOp} (division : op ∈ [BinaryOp.div, .rem]) :
    store.applyBinary op (.int a) (.int b) = .error .divisionByZero ↔ b = 0 := by
  rcases List.mem_pair.mp division with rfl | rfl
  · rw [divideInts]
    split <;> simp_all
  · rw [remainInts]
    split <;> simp_all

theorem binaryRuns {op : BinaryOp} (strict : op ≠ .and ∧ op ≠ .or) {n : Nat} {scope : ScopeId} {left right : Expr}
    {u v w : Value} (first : evalExpr n scope left store = .done u store)
    (second : evalExpr n scope right store = .done v store) (applied : store.applyBinary op u v = .ok w) :
    evalExpr (n + 1) scope (.binary op left right) store = .done w store := by
  rw [evalExpr]
  · refine Action.thenDone first (Action.thenDone second ?_)
    simp only [Eval.applyBinary, applied]
  · exact fun same => strict.1 same
  · exact fun same => strict.2 same

/-- `(a / b) * b + a % b` with literals for the two numbers. -/
def restoring (a b : Int64) : Expr :=
  .binary .add
    (.binary .mul (.binary .div (.literal (.int a)) (.literal (.int b))) (.literal (.int b)))
    (.binary .rem (.literal (.int a)) (.literal (.int b)))

theorem restoringRuns {b : Int64} (filled : b ≠ 0) (n : Nat) (scope : ScopeId) :
    evalExpr (n + 4) scope (restoring a b) store = .done (.int a) store := by
  have quotient : store.applyBinary .div (.int a) (.int b) = .ok (.int (a / b)) := by
    rw [divideInts, if_neg filled]
  have rest : store.applyBinary .rem (.int a) (.int b) = .ok (.int (a % b)) := by
    rw [remainInts, if_neg filled]
  have product : store.applyBinary .mul (.int (a / b)) (.int b) = .ok (.int (a / b * b)) := rfl
  have sum : store.applyBinary .add (.int (a / b * b)) (.int (a % b)) = .ok (.int (a / b * b + a % b)) := rfl
  rw [Bits.quotientRestores] at sum
  have literal : ∀ n k, evalExpr (n + 1) scope (.literal (.int k)) store = .done (.int k) store := fun _ _ => rfl
  have divided := binaryRuns store (by decide) (literal n a) (literal n b) quotient
  have multiplied := binaryRuns store (by decide) divided (literal (n + 1) b) product
  have remaining := binaryRuns store (by decide) (literal (n + 1) a) (literal (n + 1) b) rest
  exact binaryRuns store (by decide) multiplied remaining sum

theorem computesBits {op : BinaryOp} {meaning : Bool → Bool → Bool} {r : Int64}
    (gives : store.applyBinary op (.int a) (.int b) = .ok (.int r))
    (low : ∀ i, i < 64 → r.toBitVec.getLsbD i = meaning (a.toBitVec.getLsbD i) (b.toBitVec.getLsbD i))
    (high : r.toBitVec.msb = meaning a.toBitVec.msb b.toBitVec.msb) : store.ComputesBits op a b meaning := by
  refine ⟨r, gives, fun i => ?_⟩
  rw [Bits.testBitSigned, Bits.testBitSigned, Bits.testBitSigned]
  split
  · exact low i (by assumption)
  · exact high

/-- Every operator on two integers is exact arithmetic, brought into the range of 64 bits. Only a division by zero
fails, and in differences, products and divisions a decimal text counts as its number. -/
theorem integersAreExact :
    store.Computes .add a b (Bits.wrapped (a.toInt + b.toInt)) ∧
    store.Computes .sub a b (Bits.wrapped (a.toInt - b.toInt)) ∧
    store.Computes .mul a b (Bits.wrapped (a.toInt * b.toInt)) ∧
    (∀ op ∈ [BinaryOp.div, .rem], store.applyBinary op (.int a) (.int b) = .error .divisionByZero ↔ b = 0) ∧
    (b ≠ 0 →
      store.Computes .div a b (Bits.wrapped (a.toInt.tdiv b.toInt)) ∧
      store.Computes .rem a b (a.toInt.tmod b.toInt) ∧
      ∀ n scope, evalExpr (n + 4) scope (restoring a b) store = .done (.int a) store) ∧
    store.Computes .shl a b (Bits.wrapped (a.toInt * 2 ^ Bits.places b)) ∧
    store.Computes .shr a b (a.toInt.fdiv (2 ^ Bits.places b)) ∧
    store.Computes .ushr a b (Bits.wrapped (a.toInt % Int64.size / 2 ^ Bits.places b)) ∧
    store.ComputesBits .bitAnd a b (· && ·) ∧
    store.ComputesBits .bitOr a b (· || ·) ∧
    store.ComputesBits .bitXor a b (· ^^ ·) ∧
    ∀ op ∈ [BinaryOp.sub, .mul, .div, .rem], ∀ left right : Value, left.Operand a → right.Operand b →
      store.applyBinary op left right = store.applyBinary op (.int a) (.int b) := by
  refine ⟨⟨_, rfl, Int64.toInt_add a b⟩, ⟨_, rfl, Int64.toInt_sub a b⟩, ⟨_, rfl, Int64.toInt_mul a b⟩,
    fun op division => divisionFails store a b division, fun filled => ⟨?_, ?_, restoringRuns store a filled⟩,
    ⟨_, rfl, Bits.shiftedLeftValue a b⟩, ⟨_, rfl, Bits.shiftedRightValue a b⟩,
    ⟨_, rfl, Bits.shiftedRightUnsignedValue a b⟩, ?_, ?_, ?_, ?_⟩
  · exact ⟨a / b, by rw [divideInts, if_neg filled], Int64.toInt_div a b⟩
  · exact ⟨a % b, by rw [remainInts, if_neg filled], Int64.toInt_mod a b⟩
  · exact computesBits store a b rfl (fun i _ => BitVec.getLsbD_and) BitVec.msb_and
  · exact computesBits store a b rfl (fun i _ => BitVec.getLsbD_or) BitVec.msb_or
  · exact computesBits store a b rfl (fun i _ => BitVec.getLsbD_xor) BitVec.msb_xor
  · intro op listed left right first second
    simp only [List.mem_cons, List.not_mem_nil, or_false] at listed
    rcases listed with rfl | rfl | rfl | rfl
    all_goals exact arithmeticOperands first second

theorem leastByMinusOne :
    empty.Computes .div Int64.minValue (-1) (-9223372036854775808) ∧
    empty.Computes .rem Int64.minValue (-1) 0 ∧
    evalExpr 4 ⟨0⟩ (restoring Int64.minValue (-1)) empty = .done (.int Int64.minValue) empty ∧
    empty.applyBinary .div (.str "-9223372036854775808") (.str "-1") =
      empty.applyBinary .div (.int Int64.minValue) (.int (-1)) := by
  obtain ⟨_, _, _, _, divides, _, _, _, _, _, _, texts⟩ := integersAreExact empty Int64.minValue (-1)
  obtain ⟨quotient, rest, restored⟩ := divides (by decide)
  have spelled : (Scalar.int Int64.minValue).text = "-9223372036854775808" ∧ (Scalar.int (-1)).text = "-1" := by
    decide +kernel
  refine ⟨quotient, rest, restored 0 ⟨0⟩, ?_⟩
  rw [← spelled.1, ← spelled.2]
  exact texts .div (by decide) _ _ .text .text

end Store

end CircuitScript
