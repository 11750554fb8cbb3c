import CircuitScript.Table

/-! Names by their bytes. Names are kept in the order of their characters, and this is the order of the bytes that
they are stored as. -/
namespace CircuitScript

def nameBytes (name : String) : List UInt8 := name.toUTF8.data.toList

theorem bytesEncoded (name : String) : nameBytes name = name.toList.flatMap String.utf8EncodeChar := by
  rw [nameBytes, String.toUTF8, ← String.utf8Encode_toList, List.utf8Encode, List.toList_data_toByteArray]

section

variable {a b : Nat} {rest rest' : List UInt8}

theorem byteLess (small : b < 256) (less : a < b) : UInt8.ofNat a :: rest < UInt8.ofNat b :: rest' := by
  have first : UInt8.ofNat a < UInt8.ofNat b := by
    rw [UInt8.lt_iff_toNat_lt, UInt8.toNat_ofNat', UInt8.toNat_ofNat']
    omega
  exact List.cons_lt_cons_iff.mpr (.inl first)

theorem byteThen (small : b < 256) (le : a ≤ b) (later : a = b → rest < rest') :
    UInt8.ofNat a :: rest < UInt8.ofNat b :: rest' := by
  rcases Nat.lt_or_eq_of_le le with less | same
  · exact byteLess small less
  · subst same
    exact List.cons_lt_cons_iff.mpr (.inr ⟨rfl, later rfl⟩)

end

theorem encodedLess {c d : Char} (less : c < d) (s t : List UInt8) :
    String.utf8EncodeChar c ++ s < String.utf8EncodeChar d ++ t := by
  have order : c.val.toNat < d.val.toNat := UInt32.lt_iff_toNat_lt.mp (Char.lt_def.mp less)
  have bound : d.val.toNat < 1114112 := by
    have valid := d.valid
    simp only [UInt32.isValidChar, Nat.isValidChar] at valid
    omega
  simp only [String.utf8EncodeChar]
  generalize c.val.toNat = v at order ⊢
  generalize d.val.toNat = w at order bound ⊢
  -- The first byte tells how many there are; for the same number they are digits in base 64.
  repeat' split
  all_goals simp only [List.cons_append]
  all_goals try omega
  · exact byteLess (by omega) order
  · exact byteLess (by omega) (by omega)
  · exact byteLess (by omega) (by omega)
  · exact byteLess (by omega) (by omega)
  · exact byteThen (by omega) (by omega) fun _ => byteLess (by omega) (by omega)
  · exact byteLess (by omega) (by omega)
  · exact byteLess (by omega) (by omega)
  · refine byteThen (by omega) (by omega) fun _ => ?_
    exact byteThen (by omega) (by omega) fun _ => byteLess (by omega) (by omega)
  · exact byteLess (by omega) (by omega)
  · refine byteThen (by omega) (by omega) fun _ => byteThen (by omega) (by omega) fun _ => ?_
    exact byteThen (by omega) (by omega) fun _ => byteLess (by omega) (by omega)

theorem textLess {s t : List Char} (less : s < t) :
    s.flatMap String.utf8EncodeChar < t.flatMap String.utf8EncodeChar := by
  induction t generalizing s with
  | nil => exact absurd less (List.not_lt_nil s)
  | cons d t ih =>
    cases s with
    | nil =>
      obtain ⟨byte, bytes, shape⟩ := List.exists_cons_of_ne_nil (String.utf8EncodeChar_ne_nil (c := d))
      simp [shape]
    | cons c s =>
      rcases List.cons_lt_cons_iff.mp less with first | ⟨same, later⟩
      · simpa using encodedLess first _ _
      · subst same
        simpa using List.append_left_lt (ih later)

theorem bytesOrdered {a b : String} : nameBytes a < nameBytes b ↔ a < b := by
  have forward {a b : String} (less : a < b) : nameBytes a < nameBytes b := by
    rw [bytesEncoded, bytesEncoded]
    exact textLess less
  refine ⟨fun less => ?_, forward⟩
  by_cases same : a = b
  · subst same
    exact absurd less (List.lt_irrefl _)
  · refine Table.ltOfNotLt (fun above => ?_) (Ne.symm same)
    exact List.lt_asymm less (forward above)

end CircuitScript
