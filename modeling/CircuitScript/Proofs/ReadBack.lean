import CircuitScript.Definition
import CircuitScript.Eval
import CircuitScript.Proofs.Digits
import CircuitScript.Proofs.Formatting
import CircuitScript.Proofs.Written

/-! Formatted integers read back. Whatever flags and width a directive has, the text of an integer is its sign and
its digits with zeros or blanks put in, and none of these changes what the readers of numbers make of it. -/
namespace CircuitScript

namespace Directive

def widthText : Option Nat → List Char
  | none => []
  | some w => Nat.toDigits 10 w

/-- A percent sign, flags, a width and a conversion. -/
def spelling (flags : List Char) (width : Option Nat) (conversion : Conversion) : String :=
  String.ofList ('%' :: (flags ++ (widthText width ++ [conversion.toChar])))

theorem digitsDecimal (w : Nat) : ∀ c ∈ Nat.toDigits 10 w, Text.isDecimalDigit c ∧ c.isDigit := by
  have digit : ∀ d, d < 10 → Text.isDecimalDigit (Numeral.digitChar d) ∧ (Numeral.digitChar d).isDigit := by
    decide +kernel
  intro c member
  rw [← Numeral.writeDecimal] at member
  obtain ⟨d, small, rfl⟩ := Numeral.writeDigits .decimal w c member
  exact digit d small

theorem widthTextDigits (width : Option Nat) : ∀ c ∈ widthText width, Text.isDecimalDigit c := by
  cases width with
  | none => exact List.forall_mem_nil _
  | some w => exact fun c member => (digitsDecimal w c member).1

theorem readCountDigits {w : Nat} (fits : w < Nat.pow 2 64) : readCount? (Nat.toDigits 10 w) = some w := by
  have digits : (Nat.toDigits 10 w).all Char.isDigit = true :=
    List.all_eq_true.mpr fun c member => (digitsDecimal w c member).2
  have number : Numeral.value .decimal (Nat.toDigits 10 w) = w := by
    rw [← Numeral.writeDecimal, Numeral.valueWrite]
  unfold readCount?
  simp only [number]
  exact if_pos ⟨Nat.toDigits_ne_nil, digits, fits⟩

theorem madeWidth (flags : List Char) {width : Option Nat} (fits : ∀ w ∈ width, w < Nat.pow 2 64)
    (conversion : Conversion) : (made flags (widthText width) [] conversion).width = width.getD 0 := by
  cases width with
  | none => rfl
  | some w =>
    show (readCount? ((Nat.toDigits 10 w).dropWhile isFlag)).getD 0 = w
    cases w with
    | zero => rfl
    | succ w =>
      have noFlag : (Nat.toDigits 10 (w + 1)).dropWhile isFlag = Nat.toDigits 10 (w + 1) := by
        have noZero := Numeral.writeNoZero .decimal (Nat.succ_pos w)
        have digits := digitsDecimal (w + 1)
        rw [Numeral.writeDecimal] at noZero
        cases shape : Nat.toDigits 10 (w + 1) with
        | nil => rfl
        | cons c rest =>
          rw [shape] at noZero digits
          have zero : c ≠ '0' := by simpa using noZero
          have minus : c ≠ '-' := by
            rintro rfl
            exact absurd (digits '-' (by simp)).2 (by decide)
          exact List.dropWhile_cons_of_neg (by simp [isFlag, zero, minus])
      rw [noFlag, readCountDigits (fits _ rfl)]
      rfl

theorem madeFlags {flags : List Char} (flag : ∀ f ∈ flags, isFlag f) (width : List Char) (conversion : Conversion)
    (some : flags ≠ []) :
    (made flags width [] conversion).left = true ∨ (made flags width [] conversion).zeros = true := by
  obtain ⟨f, rest, rfl⟩ := List.exists_cons_of_ne_nil some
  have first : isFlag f := flag f List.mem_cons_self
  have taken : ((f :: rest) ++ width).takeWhile isFlag = f :: (rest ++ width).takeWhile isFlag :=
    List.takeWhile_cons_of_pos first
  unfold made
  simp only [taken]
  rcases Bool.or_eq_true_iff.mp first with minus | zero
  · simp [eq_of_beq minus]
  · simp [eq_of_beq zero]

theorem padLength (d : Directive) (body : List Char) : (d.pad body).length = max d.width body.length := by
  unfold pad
  dsimp only
  split
  · simp
    omega
  · split
    · split
      · simp
        omega
      · simp
        omega
    · simp
      omega

theorem padNumber {d : Directive} (numeric : d.conversion.isNumeric = true) {sign digits : List Char}
    (signed : sign = [] ∨ sign = ['-']) (unsigned : '-' ∉ digits) :
    ∃ before zeros after, d.pad (sign ++ digits) =
        List.replicate before ' ' ++ (sign ++ (List.replicate zeros '0' ++ digits) ++ List.replicate after ' ') ∧
      (d.left = true ∨ d.zeros = true ∨ d.width = 0 → before = 0) := by
  unfold pad
  dsimp only
  split
  · exact ⟨0, 0, _, by simp; rfl, fun _ => rfl⟩
  · rename_i right
    split
    · refine ⟨0, d.width - (sign ++ digits).length, 0, ?_, fun _ => rfl⟩
      rcases signed with rfl | rfl
      · split
        · rename_i same
          exact absurd (by rw [← List.nil_append digits, same]; simp) unsigned
        · simp
      · simp
    · rename_i noZeros
      refine ⟨_, 0, 0, by simp; rfl, ?_⟩
      rintro (left | zeros | narrow)
      · exact absurd left right
      · simp [zeros, numeric] at noZeros
      · simp [narrow]

theorem formatOne (store : Store) {flags : List Char} (flag : ∀ f ∈ flags, isFlag f) (width : Option Nat)
    {conversion : Conversion} (valued : conversion ≠ .percent) {value : Value} {body : List Char}
    (written : (made flags (widthText width) [] conversion).convert store value = .ok body) :
    store.format (spelling flags width conversion) [value] =
      .ok (String.ofList ((made flags (widthText width) [] conversion).pad body)) := by
  have converts : Conversion.ofChar? conversion.toChar = some conversion := ofCharOf conversion
  have some : (Conversion.ofChar? conversion.toChar).isSome := by simp [converts]
  have read : read? (flags ++ (widthText width ++ [conversion.toChar])) =
      .some (made flags (widthText width) [] conversion, []) :=
    readParts flag (widthTextDigits width) (precisionStops .absent some) (splitPrecisionText .absent some) converts
  have pieces : Piece.split (spelling flags width conversion).toList =
      [.directive (made flags (widthText width) [] conversion)] := by
    rw [spelling, String.toList_ofList, Piece.splitRead read]
    simp [Piece.split]
  have valued' : (made flags (widthText width) [] conversion).conversion ≠ .percent := valued
  rw [Store.format, pieces, Piece.fill, if_neg valued', written]
  simp [Piece.fill, Except.map, bind, Except.bind]

end Directive

theorem trimPadded {body : List Char} (filled : body ≠ []) (solid : ∀ c ∈ body, Text.isBlank c = false)
    (before after : Nat) :
    Text.trimBlank (List.replicate before ' ' ++ (body ++ List.replicate after ' ')) = body := by
  have blanks : ∀ count, ∀ c ∈ List.replicate count ' ', Text.isBlank c = true := by
    intro count c member
    rw [List.eq_of_mem_replicate member]
    decide
  have stays : ∀ {text rest : List Char}, text ≠ [] → (∀ c ∈ text, Text.isBlank c = false) →
      (text ++ rest).dropWhile Text.isBlank = text ++ rest := by
    intro text rest filled solid
    obtain ⟨c, text, rfl⟩ := List.exists_cons_of_ne_nil filled
    exact List.dropWhile_cons_of_neg (by simp [solid c])
  unfold Text.trimBlank
  rw [List.dropWhile_append_of_pos (blanks before), stays filled solid, List.reverse_append, List.reverse_replicate,
    List.dropWhile_append_of_pos (blanks after), ← List.append_nil body.reverse,
    stays (by simpa using filled) (by simpa using solid), List.append_nil, List.reverse_reverse]

theorem signedSolid (n : Int64) (zeros : Nat) :
    ∀ c ∈ (if n < 0 then ['-'] else []) ++ (List.replicate zeros '0' ++ Numeral.write .decimal n.toInt.natAbs),
      Text.isBlank c = false := by
  intro c member
  have digit : ∀ d, d < 10 → Text.isBlank (Numeral.digitChar d) = false := by decide +kernel
  rcases List.mem_append.mp member with sign | member
  · split at sign
    · rw [List.mem_singleton.mp sign]
      decide
    · cases sign
  · rcases List.mem_append.mp member with zero | member
    · rw [List.eq_of_mem_replicate zero]
      decide
    · obtain ⟨d, small, rfl⟩ := Numeral.writeDigits .decimal _ c member
      exact digit d small

theorem readIntegerText (n : Int64) : Numeral.readInteger? (Text.trimBlank (Numeral.integerText n)) = some n := by
  have trimmed := trimPadded (by simp [Numeral.writeFilled]) (signedSolid n 0) 0 0
  have read := Numeral.readSigned n 0
  simp only [List.replicate_zero, List.nil_append, List.append_nil] at trimmed read
  rw [Numeral.integerTextSigned, trimmed, read]

theorem skipBlanks (line count : Nat) : skipGap .blank line (List.replicate count ' ') = .ok (line, []) := by
  induction count with
  | zero => rfl
  | succ count ih => exact ih

theorem blankTokens (line count : Nat) :
    Scan.tokens false ⟨.code, line, List.replicate count ' '⟩ = .ok [⟨line, .eof⟩] := by
  have gap : skipGap .blank line (List.replicate count ' ') = skipGap .blank line [] := skipBlanks line count
  rw [Scan.tokensAfterGap (by decide) gap, Scan.tokensAtEnd]

theorem severedBlanks (count : Nat) : Severed (List.replicate count ' ') := by
  intro stop rest same
  obtain rfl : stop = ' ' := List.eq_of_mem_replicate (same ▸ List.mem_cons_self)
  exact breaksBlank rfl

theorem readPrefixedDigits {radix : Numeral.Radix} {digits : List Char} (filled : digits ≠ [])
    (digit : ∀ c ∈ digits, radix.hasDigit c = true) (small : Numeral.value radix digits < Nat.pow 2 64) (line : Nat) :
    readPrefixed radix line digits = .ok (.int (Int64.ofNat (Numeral.value radix digits)), []) := by
  unfold readPrefixed
  simp only [digitRunDigits digit]
  exact if_neg (not_or.mpr ⟨filled, Nat.not_le.mpr small⟩)

theorem prefixedTokens {radix : Numeral.Radix} {mark : Char}
    (marked : ∀ line rest, readNumber line ('0' :: mark :: rest) = readPrefixed radix line rest) {digits : List Char}
    (filled : digits ≠ []) (digit : ∀ c ∈ digits, radix.hasDigit c = true)
    (small : Numeral.value radix digits < Nat.pow 2 64) (blanks : Nat) :
    Scan.tokens false ⟨.code, 1, '0' :: mark :: (digits ++ List.replicate blanks ' ')⟩ =
      .ok [⟨1, .int (Int64.ofNat (Numeral.value radix digits))⟩, ⟨1, .eof⟩] := by
  have gap : skipGap .blank 1 ('0' :: mark :: (digits ++ List.replicate blanks ' ')) =
      .ok (1, '0' :: mark :: (digits ++ List.replicate blanks ' ')) := rfl
  have token : readToken 1 '0' (mark :: (digits ++ List.replicate blanks ' ')) =
      .ok (.int (Int64.ofNat (Numeral.value radix digits)), 1, List.replicate blanks ' ') := by
    have number := readPrefixedBefore (severedBlanks blanks).parted radix 1 1 digits
    rw [readPrefixedDigits filled digit small 1] at number
    rw [readToken, if_pos (by decide), marked, okOfToOption number]
    rfl
  rw [Scan.tokensMore (Scan.nextRead gap token) rfl, blankTokens]
  rfl

section

variable (store : Store) (n : Int64) {flags : List Char} (flag : ∀ f ∈ flags, Directive.isFlag f) (width : Option Nat)

include flag

theorem formatDecimal :
    ∃ text, store.format (Directive.spelling flags width .decimal) [.int n] = .ok text ∧
      Numeral.readInteger? (Text.trimBlank text.toList) = some n := by
  have unsigned : '-' ∉ Numeral.write .decimal n.toInt.natAbs := fun member =>
    absurd (Numeral.writeHasDigit .decimal _ _ member) (by decide)
  have signed : (if n < 0 then ['-'] else []) = [] ∨ (if n < 0 then ['-'] else []) = ['-'] := by
    split <;> simp
  obtain ⟨before, zeros, after, padded, _⟩ :=
    Directive.padNumber (show (Directive.made flags (Directive.widthText width) [] .decimal).conversion.isNumeric = true
      from rfl) signed unsigned
  rw [← Numeral.integerTextSigned] at padded
  have written : (Directive.made flags (Directive.widthText width) [] .decimal).convert store (.int n) =
      .ok (Numeral.integerText n) := rfl
  refine ⟨_, Directive.formatOne store flag width (by decide) written, ?_⟩
  rw [String.toList_ofList, padded, trimPadded (by simp [Numeral.writeFilled]) (signedSolid n zeros),
    Numeral.readSigned]

theorem formatBits (conversion : Conversion) (numeric : conversion.isNumeric = true) (valued : conversion ≠ .percent)
    (radix : Numeral.Radix) (mark : Char)
    (marked : ∀ line rest, readNumber line ('0' :: mark :: rest) = readPrefixed radix line rest) {digits : List Char}
    (written : (Directive.made flags (Directive.widthText width) [] conversion).convert store (.int n) = .ok digits)
    (digit : ∀ c ∈ digits, radix.hasDigit c = true) (filled : digits ≠ [])
    (number : Numeral.value radix digits = n.toUInt64.toNat) (aligned : width = none ∨ flags ≠ []) :
    ∃ text, store.format (Directive.spelling flags width conversion) [.int n] = .ok text ∧
      Scan.tokens false ⟨.code, 1, '0' :: mark :: text.toList⟩ = .ok [⟨1, .int n⟩, ⟨1, .eof⟩] := by
  have unsigned : '-' ∉ digits := fun member => absurd (digit _ member) (by cases radix <;> decide)
  obtain ⟨before, zeros, after, padded, leads⟩ :=
    Directive.padNumber
      (show (Directive.made flags (Directive.widthText width) [] conversion).conversion.isNumeric = true from numeric)
      (.inl rfl) unsigned
  obtain rfl : before = 0 := by
    apply leads
    rcases aligned with rfl | some
    · exact .inr (.inr rfl)
    · exact (Directive.madeFlags flag _ conversion some).imp_right .inl
  refine ⟨_, Directive.formatOne store flag width valued written, ?_⟩
  have digit' : ∀ c ∈ List.replicate zeros '0' ++ digits, radix.hasDigit c = true := by
    intro c member
    rcases List.mem_append.mp member with zero | member
    · rw [List.eq_of_mem_replicate zero]
      cases radix <;> decide
    · exact digit c member
  have number' : Numeral.value radix (List.replicate zeros '0' ++ digits) = n.toUInt64.toNat := by
    rw [Numeral.valueZeros, number]
  have small : Numeral.value radix (List.replicate zeros '0' ++ digits) < Nat.pow 2 64 := by
    rw [number']
    exact n.toUInt64.toNat_lt
  have text := prefixedTokens marked (by simp [filled]) digit' small after
  rw [number', Numeral.ofNatBits] at text
  rw [String.toList_ofList, ← List.nil_append digits, padded]
  exact text

theorem formatLength (fits : ∀ w ∈ width, w < Nat.pow 2 64) {conversion : Conversion} (valued : conversion ≠ .percent)
    {digits : List Char}
    (written : (Directive.made flags (Directive.widthText width) [] conversion).convert store (.int n) = .ok digits) :
    ∃ text plain, store.format (Directive.spelling flags width conversion) [.int n] = .ok text ∧
      store.format (Directive.spelling [] none conversion) [.int n] = .ok plain ∧
      text.length = max (width.getD 0) plain.length := by
  have writtenPlain :
      (Directive.made [] (Directive.widthText none) [] conversion).convert store (.int n) = .ok digits := by
    cases conversion <;> exact written
  have plainWidth : (Directive.made [] (Directive.widthText none) [] conversion).width = 0 := rfl
  refine ⟨_, _, Directive.formatOne store flag width valued written,
    Directive.formatOne store (List.forall_mem_nil _) none valued writtenPlain, ?_⟩
  rw [String.length_ofList, String.length_ofList, Directive.padLength, Directive.padLength,
    Directive.madeWidth flags fits, plainWidth, Nat.zero_max]

end

theorem upperDigits {digits : List Char} (digit : ∀ c ∈ digits, ∃ d, d < 16 ∧ c = Numeral.digitChar d) :
    (∀ c ∈ digits.map Char.toUpper, Numeral.Radix.hexadecimal.hasDigit c = true) ∧
      Numeral.value .hexadecimal (digits.map Char.toUpper) = Numeral.value .hexadecimal digits := by
  constructor
  · intro c member
    obtain ⟨c, inside, rfl⟩ := List.mem_map.mp member
    obtain ⟨d, small, rfl⟩ := digit c inside
    exact Numeral.hasDigitValue (Numeral.digitValueUpper d small) small
  · apply Numeral.valueMap
    intro c member
    obtain ⟨d, small, rfl⟩ := digit c member
    rw [Numeral.digitValueUpper d small, Numeral.digitValueChar d small]

/-- What an integer is written as, it is read as: in decimal by the readers of numbers in texts and definitions,
in other bases by the tokenizer behind the mark of the base. Blanks in front of the digits would part them from
the mark, so there a width needs a flag. -/
theorem formattedReadsBack (store : Store) (n : Int64) {flags : List Char} (flag : ∀ f ∈ flags, f = '-' ∨ f = '0')
    {width : Option Nat} (fits : ∀ w ∈ width, w < Nat.pow 2 64) :
    (∃ text, store.format (Directive.spelling flags width .decimal) [.int n] = .ok text ∧
      (Value.str text).toInt = .ok n ∧
      Builtin.int.apply [.str text] store = .done (.int n) store ∧
      Definition.readValue text = .int n) ∧
    (width = none ∨ flags ≠ [] →
      ∀ conversion opening,
        (conversion, opening) ∈ [(Conversion.hexLower, "0x"), (.hexUpper, "0x"), (.binary, "0b")] →
        ∃ text, store.format (Directive.spelling flags width conversion) [.int n] = .ok text ∧
          tokenizeCode (opening ++ text) = .ok [⟨1, .int n⟩, ⟨1, .eof⟩]) ∧
    ∀ conversion ∈ [Conversion.decimal, .hexLower, .hexUpper, .binary],
      ∃ text plain, store.format (Directive.spelling flags width conversion) [.int n] = .ok text ∧
        store.format (Directive.spelling [] none conversion) [.int n] = .ok plain ∧
        text.length = max (width.getD 0) plain.length := by
  have flag : ∀ f ∈ flags, Directive.isFlag f := by
    intro f member
    rcases flag f member with rfl | rfl <;> rfl
  refine ⟨?_, ?_, ?_⟩
  · obtain ⟨text, written, read⟩ := formatDecimal store n flag width
    have number : (Value.str text).toInt = .ok n := by
      simp [Value.str, Value.toInt, Value.toNumber, Number.ofText?, read, Except.map, Number.toInt]
    refine ⟨text, written, number, ?_, ?_⟩
    · simp only [Builtin.apply, number]
      rfl
    · simp [Definition.readValue, read]
  · intro aligned conversion opening member
    have upper := upperDigits (Numeral.writeDigits .hexadecimal n.toUInt64.toNat)
    have bits : ∃ text, store.format (Directive.spelling flags width conversion) [.int n] = .ok text ∧
        Scan.tokens false ⟨.code, 1, opening.toList ++ text.toList⟩ = .ok [⟨1, .int n⟩, ⟨1, .eof⟩] := by
      simp only [List.mem_cons, Prod.mk.injEq, List.not_mem_nil, or_false] at member
      rcases member with ⟨rfl, rfl⟩ | ⟨rfl, rfl⟩ | ⟨rfl, rfl⟩
      · exact formatBits store n flag width .hexLower rfl nofun .hexadecimal 'x' (fun _ _ => rfl) rfl
          (Numeral.writeHasDigit _ _) (Numeral.writeFilled _ _) (Numeral.valueWrite _ _) aligned
      · exact formatBits store n flag width .hexUpper rfl nofun .hexadecimal 'x' (fun _ _ => rfl) rfl
          upper.1 (by simp [Directive.bitText, Numeral.writeFilled])
          (upper.2.trans (Numeral.valueWrite _ _)) aligned
      · exact formatBits store n flag width .binary rfl nofun .binary 'b' (fun _ _ => rfl) rfl
          (Numeral.writeHasDigit _ _) (Numeral.writeFilled _ _) (Numeral.valueWrite _ _) aligned
    obtain ⟨text, written, read⟩ := bits
    exact ⟨text, written, by rw [tokenizeCode, String.toList_append, read]⟩
  · intro conversion member
    simp only [List.mem_cons, List.not_mem_nil, or_false] at member
    rcases member with rfl | rfl | rfl | rfl
    all_goals exact formatLength store n flag width fits (by decide) rfl

theorem leastReadsBack :
    ∃ text plain, Store.empty.format "%030d" [.int Int64.minValue] = .ok text ∧
      (Value.str text).toInt = .ok Int64.minValue ∧
      Store.empty.format "%d" [.int Int64.minValue] = .ok plain ∧ text.length = max 30 plain.length := by
  have flag : ∀ f ∈ ['0'], f = '-' ∨ f = '0' := List.forall_mem_cons.mpr ⟨.inr rfl, List.forall_mem_nil _⟩
  have fits : ∀ w ∈ some 30, w < Nat.pow 2 64 := by
    intro w same
    cases same
    decide
  obtain ⟨⟨text, written, read, _⟩, _, length⟩ := formattedReadsBack Store.empty Int64.minValue flag fits
  obtain ⟨text', plain, written', writtenPlain, wide⟩ := length .decimal (by simp)
  cases written.symm.trans written'
  exact ⟨text, plain, written, read, writtenPlain, wide⟩

end CircuitScript
