import Mathlib.Data.Nat.Log
import CircuitScript.Proofs.Arithmetic

/-! How wide an integer is. Its width is that of its 64 bits without the leading zeros, and the binary digits that a
format text writes are as many. -/
namespace CircuitScript

open Builtin (bitCount)

theorem Numeral.writeLength (radix : Radix) (n : Nat) : (write radix n).length = Nat.log radix.base n + 1 := by
  fun_induction write radix n with
  | case1 n small => simp [Nat.log_of_lt small]
  | case2 n large ih =>
    have step : Nat.log radix.base n = Nat.log radix.base (n / radix.base) + 1 :=
      Nat.log_of_one_lt_of_le radix.oneLtBase (Nat.le_of_not_lt large)
    rw [step, List.length_append, ih, List.length_singleton]

theorem bitTextLength (n : Int64) : (Directive.bitText .binary n).length = bitCount n := by
  have binary : Numeral.Radix.binary.base = 2 := rfl
  rw [Directive.bitText, Numeral.writeLength, binary, bitCount, Nat.log2_eq_log_two]

theorem bitCountIff {n : Int64} (filled : n.toUInt64.toNat ≠ 0) (others : Nat) :
    bitCount n = others + 1 ↔ 2 ^ others ≤ n.toUInt64.toNat ∧ n.toUInt64.toNat < 2 ^ (others + 1) := by
  rw [bitCount, Nat.add_right_cancel_iff, Nat.log2_eq_iff filled]

theorem bitCountLeadingZeros (n : Int64) : bitCount n = max 1 (64 - n.toBitVec.clz.toNat) := by
  by_cases empty : n.toBitVec = 0#64
  · have zero : n = 0 := Int64.toBitVec.inj empty
    rw [zero]
    decide
  · have few : n.toBitVec.clz.toNat < 64 := BitVec.clz_lt_iff_ne_zero.mpr empty
    have lower : 2 ^ (63 - n.toBitVec.clz.toNat) ≤ n.toUInt64.toNat :=
      BitVec.two_pow_sub_clz_le_toNat_of_ne_zero (by decide) empty
    have upper : n.toUInt64.toNat < 2 ^ (64 - n.toBitVec.clz.toNat) := BitVec.toNat_lt_two_pow_sub_clz
    have positive := Nat.two_pow_pos (63 - n.toBitVec.clz.toNat)
    rw [show 64 - n.toBitVec.clz.toNat = 63 - n.toBitVec.clz.toNat + 1 by omega] at upper ⊢
    rw [(bitCountIff (by omega) _).mpr ⟨lower, upper⟩]
    omega

theorem bitCountPositive {n : Int64} (positive : 1 ≤ n) :
    2 ^ (bitCount n - 1) ≤ n.toInt ∧ n.toInt < 2 ^ bitCount n := by
  have least : 1 ≤ n.toInt := Int64.le_iff_toInt_le.mp positive
  have most := n.toInt_lt
  have bits : (n.toUInt64.toNat : Int) = n.toInt % 18446744073709551616 := Bits.unsignedValue n
  have same : n.toInt = n.toUInt64.toNat := by omega
  obtain ⟨lower, upper⟩ := (bitCountIff (n := n) (by omega) (bitCount n - 1)).mp rfl
  rw [same]
  exact ⟨by exact_mod_cast lower, by exact_mod_cast upper⟩

-- Seen as a number without sign, a negative integer lies in the upper half of the 64 bits.
theorem bitCountNegative {n : Int64} (negative : n < 0) : bitCount n = 64 := by
  have below : n.toInt < 0 := Int64.lt_iff_toInt_lt.mp negative
  have least := n.le_toInt
  have bits : (n.toUInt64.toNat : Int) = n.toInt % 18446744073709551616 := Bits.unsignedValue n
  refine (bitCountIff (by omega) 63).mpr ⟨?_, ?_⟩
  · omega
  · omega

theorem formatBinary (store : Store) (n : Int64) :
    store.format "%b" [.int n] = .ok (String.ofList (Directive.bitText .binary n)) := by
  have spelled : "%b" = Directive.spelling [] none .binary := rfl
  have written : (Directive.made [] (Directive.widthText none) [] .binary).convert store (.int n) =
      .ok (Directive.bitText .binary n) := rfl
  have narrow : (Directive.made [] (Directive.widthText none) [] .binary).pad (Directive.bitText .binary n) =
      Directive.bitText .binary n := by
    simp [Directive.pad, Directive.made, Directive.widthText, Directive.readCount?]
  rw [spelled, Directive.formatOne store (List.forall_mem_nil _) none (by decide) written, narrow]

theorem applyFormat {store : Store} {form text : String} {args : List Value}
    (formatted : store.format form args = .ok text) :
    Builtin.format.apply (.str form :: args) store = .done (.str text) store := by
  have ran : Eval.format form args store = .done text store := by rw [Eval.format, formatted]
  have shown : Eval.text (.str form) store = .done form store := rfl
  exact Action.thenDone shown (Action.thenDone ran rfl)

/-- The width of an integer is the number of its binary digits. -/
theorem widthsAreDigitCounts (store : Store) (scope : ScopeId) (budget : Nat) (n : Int64) :
    ∃ (bits : Nat) (width : Int64) (digits : String),
      callValues (budget + 1) scope (.builtin .bitsNeededFor) [.int n] store = .done (.int width) store ∧
      callValues (budget + 1) scope (.builtin .format) [.str "%b", .int n] store = .done (.str digits) store ∧
      width.toInt = bits ∧ digits.length = bits ∧
      (1 ≤ n → 2 ^ (bits - 1) ≤ n.toInt ∧ n.toInt < 2 ^ bits) ∧
      (n = 0 → bits = 1) ∧
      (n < 0 → bits = 64) ∧
      bits = max 1 (64 - n.toBitVec.clz.toNat) := by
  have zeros := bitCountLeadingZeros n
  refine ⟨bitCount n, Int64.ofNat (bitCount n), _, callValuesBuiltin rfl budget scope store,
    (callValuesBuiltin rfl budget scope store).trans (applyFormat (formatBinary store n)), ?_, ?_,
    bitCountPositive, ?_, bitCountNegative, zeros⟩
  · exact Int64.toInt_ofNat_of_lt (by omega)
  · rw [String.length_ofList, bitTextLength]
  · rintro rfl
    rfl

theorem widthOfAPowerOfTwo :
    ∃ digits : String,
      callValues 1 ⟨0⟩ (.builtin .bitsNeededFor) [.int 256] Store.empty = .done (.int 9) Store.empty ∧
      callValues 1 ⟨0⟩ (.builtin .format) [.str "%b", .int 256] Store.empty = .done (.str digits) Store.empty ∧
      digits.length = 9 ∧ 2 ^ 8 ≤ (256 : Int64).toInt ∧ (256 : Int64).toInt < 2 ^ 9 := by
  obtain ⟨bits, width, digits, counted, written, value, length, bounds, _⟩ :=
    widthsAreDigitCounts Store.empty ⟨0⟩ 0 256
  have nine : callValues 1 ⟨0⟩ (.builtin .bitsNeededFor) [.int 256] Store.empty = .done (.int 9) Store.empty := rfl
  have same : (.int 9 : Value) = .int width := (Outcome.done.inj (nine.symm.trans counted)).1
  cases same
  obtain rfl : 9 = bits := Int.ofNat.inj value
  exact ⟨digits, nine, written, length, bounds (by decide)⟩

end CircuitScript
