import CircuitScript.Numeral.Reading

/-! Whole numbers written in digits and read again. Zeros in front and capital letters make no difference to
the number. -/
namespace CircuitScript.Numeral

theorem Radix.baseLe (radix : Radix) : radix.base ≤ 16 := by
  cases radix <;> decide

theorem digitValueChar : ∀ d, d < 16 → digitValue (digitChar d) = some d := by decide

theorem digitValueUpper : ∀ d, d < 16 → digitValue (digitChar d).toUpper = some d := by decide

theorem hasDigitValue {radix : Radix} {c : Char} {d : Nat} (read : digitValue c = some d)
    (small : d < radix.base) : radix.hasDigit c = true := by
  simp [Radix.hasDigit, read, small]

theorem valueDigit (radix : Radix) (digits : List Char) (c : Char) :
    value radix (digits ++ [c]) = value radix digits * radix.base + (digitValue c).getD 0 := by
  simp [value]

theorem valueZeros (radix : Radix) (count : Nat) (digits : List Char) :
    value radix (List.replicate count '0' ++ digits) = value radix digits := by
  induction count with
  | zero => rfl
  | succ count ih =>
    rw [← ih, List.replicate_succ, List.cons_append]
    simp [value, show digitValue '0' = some 0 from rfl]

theorem valueMap {f : Char → Char} {digits : List Char}
    (same : ∀ c ∈ digits, digitValue (f c) = digitValue c) (radix : Radix) :
    value radix (digits.map f) = value radix digits := by
  have further : ∀ total, (digits.map f).foldl (fun total c => total * radix.base + (digitValue c).getD 0) total =
      digits.foldl (fun total c => total * radix.base + (digitValue c).getD 0) total := by
    induction digits with
    | nil => exact fun _ => rfl
    | cons c digits ih =>
      obtain ⟨first, others⟩ := List.forall_mem_cons.mp same
      intro total
      simp only [List.map_cons, List.foldl_cons, first]
      exact ih others _
  exact further 0

theorem writeDigits (radix : Radix) (n : Nat) : ∀ c ∈ write radix n, ∃ d, d < radix.base ∧ c = digitChar d := by
  fun_induction write radix n with
  | case1 n small =>
    intro c member
    exact ⟨n, small, List.mem_singleton.mp member⟩
  | case2 n large ih =>
    have positive := radix.oneLtBase
    intro c member
    rcases List.mem_append.mp member with inside | last
    · exact ih c inside
    · exact ⟨n % radix.base, Nat.mod_lt n (by omega), List.mem_singleton.mp last⟩

theorem writeFilled (radix : Radix) (n : Nat) : write radix n ≠ [] := by
  unfold write
  split <;> simp

theorem writeHasDigit (radix : Radix) (n : Nat) : ∀ c ∈ write radix n, radix.hasDigit c = true := by
  intro c member
  obtain ⟨d, small, rfl⟩ := writeDigits radix n c member
  exact hasDigitValue (digitValueChar d (by have := radix.baseLe; omega)) small

theorem valueWrite (radix : Radix) (n : Nat) : value radix (write radix n) = n := by
  have bound := radix.baseLe
  have positive := radix.oneLtBase
  fun_induction write radix n with
  | case1 n small => simp [value, digitValueChar n (by omega)]
  | case2 n large ih =>
    have last : n % radix.base < 16 := by
      have := Nat.mod_lt n (show radix.base > 0 by omega)
      omega
    rw [valueDigit, ih, digitValueChar _ last]
    exact Nat.div_add_mod' n radix.base

theorem writeNoZero (radix : Radix) {n : Nat} (positive : 0 < n) : (write radix n).head? ≠ some '0' := by
  have zeroless : ∀ d, d < 16 → d ≠ 0 → digitChar d ≠ '0' := by decide
  have bound := radix.baseLe
  fun_induction write radix n with
  | case1 n small => simpa using zeroless n (by omega) (by omega)
  | case2 n large ih =>
    have more : 0 < n / radix.base := Nat.div_pos (by omega) (by have := radix.oneLtBase; omega)
    obtain ⟨c, rest, shape⟩ := List.exists_cons_of_ne_nil (writeFilled radix (n / radix.base))
    rw [shape] at ih ⊢
    exact ih more

theorem writeDecimal (n : Nat) : write .decimal n = Nat.toDigits 10 n := by
  have digit : ∀ d, d < 10 → digitChar d = Nat.digitChar d := by decide
  fun_induction write .decimal n with
  | case1 n small =>
    have small : n < 10 := small
    rw [Nat.toDigits_of_lt_base small, digit n small]
  | case2 n large ih =>
    have large : 10 ≤ n := Nat.le_of_not_lt large
    have last : n % 10 < 10 := Nat.mod_lt n (by decide)
    rw [Nat.toDigits_of_base_le (by decide) large, ← digit _ last]
    exact congrArg (· ++ [digitChar (n % 10)]) ih

theorem ofNatBits (n : Int64) : Int64.ofNat n.toUInt64.toNat = n := by
  obtain ⟨⟨bits⟩⟩ := n
  simp [Int64.ofNat]

theorem signedSize (n : Int64) : signed? (decide (n < 0)) n.toInt.natAbs = some n := by
  have low := n.le_toInt
  have high := n.toInt_lt
  have sign : n < 0 ↔ n.toInt < 0 := Int64.lt_iff_toInt_lt
  unfold signed?
  by_cases negative : n < 0
  · have size : -(n.toInt.natAbs : Int) = n.toInt := by
      have := sign.mp negative
      omega
    rw [decide_eq_true negative, if_pos rfl, if_pos (show n.toInt.natAbs ≤ 9223372036854775808 by omega), size,
      Int64.ofInt_toInt]
  · have size : (n.toInt.natAbs : Int) = n.toInt := by
      have : ¬n.toInt < 0 := fun below => negative (sign.mpr below)
      omega
    rw [decide_eq_false negative, if_neg Bool.false_ne_true,
      if_pos (show n.toInt.natAbs < 9223372036854775808 by omega), ← Int64.ofInt_eq_ofNat, size, Int64.ofInt_toInt]

theorem integerTextSigned (n : Int64) :
    integerText n = (if n < 0 then ['-'] else []) ++ write .decimal n.toInt.natAbs := by
  unfold integerText
  split <;> rfl

theorem splitSignDigits {digits : List Char} (decimal : ∀ c ∈ digits, Radix.decimal.hasDigit c = true) :
    splitSign digits = (false, digits) := by
  unfold splitSign
  split
  · exact absurd (decimal '-' (by simp)) (by decide)
  · exact absurd (decimal '+' (by simp)) (by decide)
  · rfl

/-- An integer is read from its sign and its digits, with any number of zeros between them. -/
theorem readSigned (n : Int64) (zeros : Nat) :
    readInteger? ((if n < 0 then ['-'] else []) ++ (List.replicate zeros '0' ++ write .decimal n.toInt.natAbs)) =
      some n := by
  have digits : ∀ c ∈ List.replicate zeros '0' ++ write .decimal n.toInt.natAbs, Radix.decimal.hasDigit c = true := by
    intro c member
    rcases List.mem_append.mp member with zero | digit
    · rw [List.eq_of_mem_replicate zero]
      decide
    · exact writeHasDigit .decimal _ c digit
  have filled : List.replicate zeros '0' ++ write .decimal n.toInt.natAbs ≠ [] := by
    simp [writeFilled]
  have split : splitSign ((if n < 0 then ['-'] else []) ++
      (List.replicate zeros '0' ++ write .decimal n.toInt.natAbs)) =
      (decide (n < 0), List.replicate zeros '0' ++ write .decimal n.toInt.natAbs) := by
    by_cases negative : n < 0
    · rw [if_pos negative, decide_eq_true negative]
      rfl
    · rw [if_neg negative, decide_eq_false negative, List.nil_append, splitSignDigits digits]
  unfold readInteger?
  rw [split]
  simp only
  rw [if_pos ⟨filled, List.all_eq_true.mpr digits⟩, valueZeros, valueWrite, signedSize]

end CircuitScript.Numeral
