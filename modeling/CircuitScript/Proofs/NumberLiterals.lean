import CircuitScript.Proofs.Digits
import CircuitScript.Proofs.Joined
import CircuitScript.Proofs.Written
import Mathlib.Data.Nat.Digits.Defs

/-! Number literals. A row of digits with underscores among them stands for the number it spells in its base, if that
number fits, and is refused otherwise. Behind the mark of a base all 64 bits can be written, so the upper half of them
stands for the negative numbers. -/
namespace CircuitScript

namespace Numeral

def Radix.alphabet : Radix → List Char
  | binary => "01".toList
  | octal => "01234567".toList
  | decimal => "0123456789".toList
  | hexadecimal => "0123456789abcdefABCDEF".toList

def digitSize (c : Char) : Nat := "0123456789abcdef".toList.idxOf c.toLower

/-- The number that digits spell by the places they stand at; underscores take no place. -/
def worth (radix : Radix) (text : List Char) : Nat :=
  Nat.ofDigits radix.base ((text.filter (· != '_')).reverse.map digitSize)

theorem alphabetHasDigit {radix : Radix} {c : Char} (listed : c ∈ radix.alphabet) : radix.hasDigit c = true := by
  have all : radix.alphabet.all radix.hasDigit = true := by
    cases radix <;> decide +kernel
  exact List.all_eq_true.mp all c listed

theorem alphabetSize {radix : Radix} {c : Char} (listed : c ∈ radix.alphabet) :
    (digitValue c).getD 0 = digitSize c := by
  have all : radix.alphabet.all (fun c => (digitValue c).getD 0 == digitSize c) = true := by
    cases radix <;> decide +kernel
  exact beq_iff_eq.mp (List.all_eq_true.mp all c listed)

theorem digitSmall {radix : Radix} {c : Char} (digit : radix.hasDigit c = true) : c.toNat < 128 := by
  have bound : ∀ top : Char, top.toNat < 128 → c ≤ top → c.toNat < 128 :=
    fun top small below => Nat.lt_of_le_of_lt (Char.le_def.mp below) small
  unfold Radix.hasDigit digitValue at digit
  split at digit
  · rename_i read
    split at read
    · exact bound '9' (by decide) (by simp_all)
    · split at read
      · exact bound 'f' (by decide) (by simp_all)
      · split at read
        · exact bound 'F' (by decide) (by simp_all)
        · cases read
  · cases digit

theorem alphabetOfDigit {radix : Radix} {c : Char} (digit : radix.hasDigit c = true) : c ∈ radix.alphabet := by
  have all : (List.range 128).all (fun k => !radix.hasDigit (Char.ofNat k) || radix.alphabet.elem (Char.ofNat k)) =
      true := by
    cases radix <;> decide +kernel
  have here := List.all_eq_true.mp all c.toNat (List.mem_range.mpr (digitSmall digit))
  rw [Char.ofNat_toNat, digit, Bool.not_true, Bool.false_or] at here
  exact List.elem_iff.mp here

theorem valueWorth {radix : Radix} {digits : List Char} (listed : ∀ c ∈ digits, c ∈ radix.alphabet) :
    value radix digits = Nat.ofDigits radix.base (digits.reverse.map digitSize) := by
  induction digits using List.reverseRecOn with
  | nil => rfl
  | append_singleton digits c ih =>
    obtain ⟨early, last⟩ := List.forall_mem_append.mp listed
    rw [valueDigit, ih early, alphabetSize (last c List.mem_cons_self), List.reverse_concat, List.map_cons,
      Nat.ofDigits_cons, Nat.mul_comm, Nat.add_comm]

end Numeral

section

variable {radix : Numeral.Radix} {text rest : List Char}

theorem digitRunWritten (among : ∀ c ∈ text, c ∈ radix.alphabet ∨ c = '_')
    (stops : ∀ c ∈ rest.head?, c ∉ radix.alphabet ∧ c ≠ '_') :
    digitRun radix (text ++ rest) = (text.filter (· != '_'), rest) := by
  have inside : ∀ c ∈ text, isDigitOrGap radix c = true := by
    intro c member
    rcases among c member with listed | rfl
    · simp [isDigitOrGap, Numeral.alphabetHasDigit listed]
    · simp [isDigitOrGap]
  have outside : ∀ c behind, rest = c :: behind → isDigitOrGap radix c = false := by
    rintro c behind rfl
    obtain ⟨unlisted, noGap⟩ := stops c rfl
    have noDigit : radix.hasDigit c = false :=
      Bool.eq_false_iff.mpr fun digit => unlisted (Numeral.alphabetOfDigit digit)
    simp [isDigitOrGap, noDigit, noGap]
  rw [digitRun, takeWhileBefore outside, dropWhileBefore outside, List.takeWhile_eq_self_iff.mpr inside,
    List.dropWhile_eq_nil_iff.mpr inside, List.nil_append]

theorem writtenDigits (among : ∀ c ∈ text, c ∈ radix.alphabet ∨ c = '_') :
    ∀ c ∈ text.filter (· != '_'), c ∈ radix.alphabet := by
  intro c member
  obtain ⟨member, noGap⟩ := List.mem_filter.mp member
  exact (among c member).resolve_right (bne_iff_ne.mp noGap)

theorem valueWritten (among : ∀ c ∈ text, c ∈ radix.alphabet ∨ c = '_') :
    Numeral.value radix (text.filter (· != '_')) = Numeral.worth radix text :=
  Numeral.valueWorth (writtenDigits among)

theorem digitsFound (among : ∀ c ∈ text, c ∈ radix.alphabet ∨ c = '_') :
    text.filter (· != '_') ≠ [] ↔ ∃ c ∈ text, c ∈ radix.alphabet := by
  constructor
  · intro filled
    obtain ⟨c, member⟩ := List.exists_mem_of_ne_nil _ filled
    exact ⟨c, (List.mem_filter.mp member).1, writtenDigits among c member⟩
  · rintro ⟨c, member, listed⟩
    have noGap : c ≠ '_' := by
      rintro rfl
      cases Numeral.alphabetHasDigit listed
    exact List.ne_nil_of_mem (List.mem_filter.mpr ⟨member, bne_iff_ne.mpr noGap⟩)

theorem readPrefixedWritten (among : ∀ c ∈ text, c ∈ radix.alphabet ∨ c = '_')
    (stops : ∀ c ∈ rest.head?, c ∉ radix.alphabet ∧ c ≠ '_') (line : Nat) :
    readPrefixed radix line (text ++ rest) =
      if text.filter (· != '_') = [] ∨ Nat.pow 2 64 ≤ Numeral.worth radix text then
        .error ⟨line, .malformedNumber ("0" ++ String.ofList (text.filter (· != '_')))⟩
      else .ok (.int (Int64.ofNat (Numeral.worth radix text)), rest) := by
  unfold readPrefixed
  simp only [digitRunWritten among stops, valueWritten among]

end

theorem readDecimalWritten {text : List Char} (among : ∀ c ∈ text, c ∈ Numeral.Radix.decimal.alphabet ∨ c = '_')
    (line : Nat) :
    readDecimal line text =
      if Numeral.worth .decimal text < Nat.pow 2 63 then .ok (.int (Int64.ofNat (Numeral.worth .decimal text)), [])
      else .error ⟨line, .integerOutOfRange (String.ofList (text.filter (· != '_')))⟩ := by
  have run : digitRun .decimal (text ++ []) = (text.filter (· != '_'), []) := digitRunWritten among (by simp)
  rw [List.append_nil] at run
  unfold readDecimal
  simp only [run, splitFractionDigits, splitExponent, valueWritten among]

/-- The text is the next token of code where `rest` stands behind it, or is refused there. -/
def Scan.Finds (text rest : List Char) (outcome : Except ParseError.Cause Token) : Prop :=
  ∀ templated mode line, mode ≠ .text → next templated ⟨mode, line, text ++ rest⟩ =
    (outcome.map fun token => (⟨line, token⟩, ⟨mode, line, rest⟩)).mapError fun cause => ⟨line, cause⟩

theorem decimalStart {c : Char} (listed : c ∈ Numeral.Radix.decimal.alphabet) :
    c.isDigit = true ∧ Text.isBlank c = false ∧ c ≠ '/' ∧ c ≠ '?' := by
  have all : Numeral.Radix.decimal.alphabet.all
      (fun c => c.isDigit && !Text.isBlank c && c != '/' && c != '?') = true := by
    decide +kernel
  simpa [and_assoc] using List.all_eq_true.mp all c listed

theorem numberFound {c : Char} {text rest : List Char} (listed : c ∈ Numeral.Radix.decimal.alphabet)
    {outcome : Except ParseError.Cause Token}
    (read : ∀ line, readNumber line (c :: (text ++ rest)) =
      (outcome.map fun token => (token, rest)).mapError fun cause => ⟨line, cause⟩) :
    Scan.Finds (c :: text) rest outcome := by
  intro templated mode line code
  obtain ⟨digit, filled, slash, question⟩ := decimalStart listed
  rw [List.cons_append, Scan.nextInCode mode code, Scan.nextCode]
  simp only [skipNothing filled slash line, bind, Except.bind]
  split
  · simp_all
  · simp_all
  · rename_i shape
    cases shape
    rw [readToken, if_pos digit, read]
    cases outcome <;> rfl

/-- A source that is a number and nothing else, and a number in front of anything that does not go on with it. -/
def Scan.Literal (text : List Char) (ends : List Char → Prop) (outcome : Except ParseError.Cause Token) : Prop :=
  tokenizeCode (String.ofList text) =
    (outcome.map fun token => [⟨1, token⟩, ⟨1, .eof⟩]).mapError (fun cause => ⟨1, cause⟩) ∧
  ∀ rest, ends rest → Finds text rest outcome

theorem Scan.tokensStopped {templated : Bool} {scan : Scan} {e : ParseError}
    (refused : scan.next templated = .error e) : scan.tokens templated = .error e := by
  rw [tokens]
  split <;> simp_all

theorem Scan.literalAlone {text : List Char} {ends : List Char → Prop} {outcome : Except ParseError.Cause Token}
    (found : ∀ rest, ends rest → Finds text rest outcome) (whole : ends [])
    (filled : ∀ token, outcome = .ok token → token.isEof = false) : Literal text ends outcome := by
  refine ⟨?_, found⟩
  have read := found [] whole false .code 1 (by decide)
  rw [List.append_nil] at read
  rw [tokenizeCode, String.toList_ofList]
  cases outcome with
  | ok token =>
    rw [tokensMore read (filled token rfl), tokensAtEnd]
    rfl
  | error cause => exact tokensStopped read

/-- The letters that, behind a zero, stand for a base. -/
def Numeral.marks : List (Radix × Char) :=
  [(.hexadecimal, 'x'), (.hexadecimal, 'X'), (.binary, 'b'), (.binary, 'B')]

theorem readNumberMarked {radix : Numeral.Radix} {mark : Char} (marked : (radix, mark) ∈ Numeral.marks)
    (line : Nat) (text : List Char) : readNumber line ('0' :: mark :: text) = readPrefixed radix line text := by
  simp only [Numeral.marks, List.mem_cons, Prod.mk.injEq, List.not_mem_nil, or_false] at marked
  rcases marked with ⟨rfl, rfl⟩ | ⟨rfl, rfl⟩ | ⟨rfl, rfl⟩ | ⟨rfl, rfl⟩ <;> rfl

/-- A text that cannot go on with a number of the base. -/
def Numeral.Radix.Ends (radix : Radix) (rest : List Char) : Prop :=
  ∀ c ∈ rest.head?, c ∉ radix.alphabet ∧ c ≠ '_'

theorem markedLiteral {radix : Numeral.Radix} {mark : Char} (marked : (radix, mark) ∈ Numeral.marks) {text : List Char}
    (among : ∀ c ∈ text, c ∈ radix.alphabet ∨ c = '_') :
    Scan.Literal ('0' :: mark :: text) radix.Ends
      (if text.filter (· != '_') = [] ∨ Nat.pow 2 64 ≤ Numeral.worth radix text then
        .error (.malformedNumber ("0" ++ String.ofList (text.filter (· != '_'))))
      else .ok (.int (Int64.ofNat (Numeral.worth radix text)))) := by
  refine Scan.literalAlone (fun rest ends => numberFound (by decide) fun line => ?_) (by simp [Numeral.Radix.Ends]) ?_
  · rw [List.cons_append, readNumberMarked marked, readPrefixedWritten among ends]
    split <;> rfl
  · intro token same
    split at same <;> cases same
    rfl

theorem decimalLiteral {c : Char} {text : List Char} (listed : c ∈ Numeral.Radix.decimal.alphabet)
    (among : ∀ d ∈ text, d ∈ Numeral.Radix.decimal.alphabet ∨ d = '_') :
    Scan.Literal (c :: text) (· = [])
      (if Numeral.worth .decimal (c :: text) < Nat.pow 2 63 then
        .ok (.int (Int64.ofNat (Numeral.worth .decimal (c :: text))))
      else .error (.integerOutOfRange (String.ofList ((c :: text).filter (· != '_'))))) := by
  have among : ∀ d ∈ c :: text, d ∈ Numeral.Radix.decimal.alphabet ∨ d = '_' :=
    List.forall_mem_cons.mpr ⟨.inl listed, among⟩
  have plain : ∀ d ∈ c :: text, d ∉ ['x', 'X', 'b', 'B'] := by
    intro d member
    rcases among d member with digit | rfl
    · exact digitNoMark (Numeral.alphabetHasDigit digit)
    · decide
  refine Scan.literalAlone (fun rest ends => numberFound listed fun line => ?_) rfl ?_
  · rw [ends, List.append_nil, readNumberPlain plain, readDecimalWritten among]
    split <;> rfl
  · intro token same
    split at same <;> cases same
    rfl

/-- A literal stands for the number it spells if that number fits, and is refused otherwise. -/
theorem literalsDenote :
    (∀ radix mark, (radix, mark) ∈ Numeral.marks →
      ∀ text : List Char, (∀ c ∈ text, c ∈ radix.alphabet ∨ c = '_') →
        ((∃ c ∈ text, c ∈ radix.alphabet) → Numeral.worth radix text < Nat.pow 2 64 →
          ∃ n : Int64, n.toInt = Int.bmod (Numeral.worth radix text) (Nat.pow 2 64) ∧
            Scan.Literal ('0' :: mark :: text) radix.Ends (.ok (.int n))) ∧
        ((∀ c ∈ text, c ∉ radix.alphabet) ∨ Nat.pow 2 64 ≤ Numeral.worth radix text →
          Scan.Literal ('0' :: mark :: text) radix.Ends
            (.error (.malformedNumber ("0" ++ String.ofList (text.filter (· != '_'))))))) ∧
    ∀ c ∈ Numeral.Radix.decimal.alphabet,
      ∀ text : List Char, (∀ d ∈ text, d ∈ Numeral.Radix.decimal.alphabet ∨ d = '_') →
        (Numeral.worth .decimal (c :: text) < Nat.pow 2 63 →
          ∃ n : Int64, n.toInt = Numeral.worth .decimal (c :: text) ∧
            Scan.Literal (c :: text) (· = []) (.ok (.int n))) ∧
        (Nat.pow 2 63 ≤ Numeral.worth .decimal (c :: text) →
          Scan.Literal (c :: text) (· = [])
            (.error (.integerOutOfRange (String.ofList ((c :: text).filter (· != '_')))))) := by
  constructor
  · intro radix mark marked text among
    have literal := markedLiteral marked among
    refine ⟨fun found small => ?_, fun refused => ?_⟩
    · rw [if_neg (by simp [(digitsFound among).mpr found, Nat.not_le.mpr small])] at literal
      exact ⟨_, Int64.toInt_ofNat, literal⟩
    · have unfit : text.filter (· != '_') = [] ∨ Nat.pow 2 64 ≤ Numeral.worth radix text := by
        refine refused.imp_left fun none => Classical.not_not.mp fun filled => ?_
        obtain ⟨c, member, listed⟩ := (digitsFound among).mp filled
        exact none c member listed
      rwa [if_pos unfit] at literal
  · intro c listed text among
    have literal := decimalLiteral listed among
    refine ⟨fun small => ?_, fun large => ?_⟩
    · rw [if_pos small] at literal
      exact ⟨_, Int64.toInt_ofNat_of_lt small, literal⟩
    · rwa [if_neg (Nat.not_lt.mpr large)] at literal

theorem amongOfAll {radix : Numeral.Radix} {text : List Char}
    (all : text.all (fun c => radix.alphabet.elem c || c == '_') = true) :
    ∀ c ∈ text, c ∈ radix.alphabet ∨ c = '_' := by
  intro c member
  simpa using List.all_eq_true.mp all c member

theorem literalsAtTheLimits :
    (∃ n : Int64, n.toInt = -1 ∧
      Scan.Literal ('0' :: 'x' :: "FFFF_ffff_FFFF_ffff".toList) Numeral.Radix.hexadecimal.Ends (.ok (.int n))) ∧
    Scan.Literal ('0' :: 'B' :: "__".toList) Numeral.Radix.binary.Ends (.error (.malformedNumber "0")) ∧
    (∃ n : Int64, n.toInt = 9223372036854775807 ∧
      Scan.Literal ('0' :: "9_223_372_036_854_775_807".toList) (· = []) (.ok (.int n))) ∧
    Scan.Literal ('9' :: "_223_372_036_854_775_808".toList) (· = [])
      (.error (.integerOutOfRange "9223372036854775808")) := by
  have bits : Numeral.worth .hexadecimal "FFFF_ffff_FFFF_ffff".toList = 18446744073709551615 := by decide +kernel
  have most : Numeral.worth .decimal ('0' :: "9_223_372_036_854_775_807".toList) = 9223372036854775807 := by
    decide +kernel
  have excess : Numeral.worth .decimal ('9' :: "_223_372_036_854_775_808".toList) = 9223372036854775808 := by
    decide +kernel
  refine ⟨?_, ?_, ?_, ?_⟩
  · obtain ⟨n, size, literal⟩ := (literalsDenote.1 .hexadecimal 'x' (by decide) "FFFF_ffff_FFFF_ffff".toList
      (amongOfAll (by decide +kernel))).1 ⟨'F', by decide +kernel, by decide +kernel⟩
        (Nat.lt_of_le_of_lt (Nat.le_of_eq bits) (by decide))
    rw [bits] at size
    exact ⟨n, size.trans (by decide +kernel), literal⟩
  · have digits : "0" ++ String.ofList ("__".toList.filter (· != '_')) = "0" := by decide +kernel
    have refused := (literalsDenote.1 .binary 'B' (by decide) "__".toList (amongOfAll (by decide +kernel))).2
    rw [digits] at refused
    refine refused (.inl fun c member listed => ?_)
    obtain rfl : c = '_' := by simpa using member
    exact absurd listed (by decide)
  · obtain ⟨n, size, literal⟩ := (literalsDenote.2 '0' (by decide) "9_223_372_036_854_775_807".toList
      (amongOfAll (by decide +kernel))).1 (Nat.lt_of_le_of_lt (Nat.le_of_eq most) (by decide))
    rw [most] at size
    exact ⟨n, size, literal⟩
  · have digits : String.ofList (('9' :: "_223_372_036_854_775_808".toList).filter (· != '_')) =
        "9223372036854775808" := by
      decide +kernel
    have refused := (literalsDenote.2 '9' (by decide) "_223_372_036_854_775_808".toList
      (amongOfAll (by decide +kernel))).2 (Nat.le_of_eq excess.symm)
    rwa [digits] at refused

end CircuitScript
