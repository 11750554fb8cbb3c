import Mathlib.Data.List.Forall2
import CircuitScript.Evaluation
import CircuitScript.Proofs.Outcome
import CircuitScript.Proofs.Written

/-! Names made of any text. The plain characters of the text stay in their places, the name is read as one token, and
a name so made is made into itself. -/
namespace CircuitScript

namespace Text

/-- An ASCII letter or digit, or an underscore. -/
def Plain (c : Char) : Prop := 'A' ≤ c ∧ c ≤ 'Z' ∨ 'a' ≤ c ∧ c ≤ 'z' ∨ '0' ≤ c ∧ c ≤ '9' ∨ c = '_'

/-- A character of a text, and what stands in its place in a name. -/
inductive Becomes : Char → Char → Prop where
  | kept {c : Char} (plain : Plain c) : Becomes c c
  | replaced {c : Char} (other : ¬Plain c) : Becomes c '_'

theorem plainIff {c : Char} : Builtin.isPlainWordPart c = true ↔ Plain c := by
  have upper : c.isUpper = true ↔ 'A' ≤ c ∧ c ≤ 'Z' := decide_eq_true_iff
  have lower : c.isLower = true ↔ 'a' ≤ c ∧ c ≤ 'z' :=
    Bool.and_eq_true_iff.trans (and_congr decide_eq_true_iff decide_eq_true_iff)
  have parts : Builtin.isPlainWordPart c = (c.isUpper || c.isLower || c.isDigit || c == '_') := rfl
  rw [parts, Bool.or_eq_true, Bool.or_eq_true, Bool.or_eq_true, upper, lower, Numeral.isDigitIff, beq_iff_eq,
    or_assoc, or_assoc]
  rfl

theorem Plain.small {c : Char} (plain : Plain c) : c.toNat < 128 := by
  have below : ∀ bound : Char, c ≤ bound → c.toNat ≤ bound.toNat := fun _ le => Char.le_def.mp le
  rcases plain with ⟨_, high⟩ | ⟨_, high⟩ | ⟨_, high⟩ | rfl
  · exact Nat.lt_of_le_of_lt (below _ high) (by decide)
  · exact Nat.lt_of_le_of_lt (below _ high) (by decide)
  · exact Nat.lt_of_le_of_lt (below _ high) (by decide)
  · decide

theorem Plain.word {c : Char} (plain : Plain c) : isWordPart c = true ∧ (c.isDigit = false → isWordStart c = true) := by
  have codes : ∀ n, n < 128 → Builtin.isPlainWordPart (Char.ofNat n) = true → isWordPart (Char.ofNat n) = true ∧
      ((Char.ofNat n).isDigit = false → isWordStart (Char.ofNat n) = true) := by decide +kernel
  have here := codes c.toNat plain.small
  rw [Char.ofNat_toNat] at here
  exact here (plainIff.mpr plain)

theorem Becomes.plain {c d : Char} (becomes : Becomes c d) : Plain d := by
  cases becomes with
  | kept plain => exact plain
  | replaced _ => exact .inr (.inr (.inr rfl))

theorem Becomes.digit {c d : Char} (becomes : Becomes c d) : d.isDigit = c.isDigit := by
  cases becomes with
  | kept _ => rfl
  | replaced other =>
    have none : c.isDigit = false := by
      rw [← Bool.not_eq_true]
      intro digit
      exact other (.inr (.inr (.inl (Numeral.isDigitIff.mp digit))))
    rw [none]
    rfl

theorem becomesWritten (c : Char) : Becomes c (if Builtin.isPlainWordPart c then c else '_') := by
  split
  · rename_i plain
    exact .kept (plainIff.mp plain)
  · rename_i other
    exact .replaced fun plain => other (plainIff.mpr plain)

theorem plainAll {text plain : List Char} (becomes : List.Forall₂ Becomes text plain) : ∀ c ∈ plain, Plain c := by
  induction becomes with
  | nil => exact List.forall_mem_nil _
  | cons first _ ih => exact List.forall_mem_cons.mpr ⟨first.plain, ih⟩

/-- Plain characters, the first of them no digit. -/
structure PlainName (text : List Char) : Prop where
  plain : ∀ c ∈ text, Plain c
  starts : text.head?.all Char.isDigit = false

theorem PlainName.isIdentifier {text : List Char} (name : PlainName text) : isIdentifier text = true := by
  cases text with
  | nil => cases name.starts
  | cons c rest =>
    obtain ⟨first, others⟩ := List.forall_mem_cons.mp name.plain
    have start := first.word.2 (by simpa using name.starts)
    have parts : ∀ d ∈ rest, isWordPart d = true := fun d member => (others d member).word.1
    simpa [Text.isIdentifier, start] using parts

end Text

namespace Builtin

open Text

theorem identifierOfParts (text : List Char) :
    ∃ plain, List.Forall₂ Becomes text plain ∧
      identifierOf text = (if text.head?.all Char.isDigit then ['_'] else []) ++ plain := by
  have replaced : List.Forall₂ Becomes text (text.map fun c => if isPlainWordPart c then c else '_') := by
    induction text with
    | nil => exact .nil
    | cons c text ih => exact .cons (becomesWritten c) ih
  refine ⟨_, replaced, ?_⟩
  cases text with
  | nil => rfl
  | cons c text =>
    have same := (becomesWritten c).digit
    by_cases digit : c.isDigit
    · simp [identifierOf, same, digit]
    · simp [identifierOf, same, digit]

example : identifierOf "4 bit-adder".toList = "_4_bit_adder".toList := by decide

theorem identifierOfName (text : List Char) : PlainName (identifierOf text) := by
  obtain ⟨plain, becomes, shape⟩ := identifierOfParts text
  have others := plainAll becomes
  rw [shape]
  split
  · exact ⟨List.forall_mem_cons.mpr ⟨.inr (.inr (.inr rfl)), others⟩, rfl⟩
  · rename_i starts
    refine ⟨others, ?_⟩
    cases becomes with
    | nil => exact absurd rfl starts
    | cons first _ => simpa [first.digit] using starts

theorem identifierOfPlain {text : List Char} (name : PlainName text) : identifierOf text = text := by
  have kept : (text.map fun c => if isPlainWordPart c then c else '_') = text := by
    rw [List.map_congr_left fun c member => if_pos (plainIff.mpr (name.plain c member)), List.map_id']
  have starts := name.starts
  unfold identifierOf
  rw [kept]
  cases text with
  | nil => cases starts
  | cons c rest =>
    have first : c.isDigit = false := by simpa using starts
    simp [first]

theorem applyIdentifier (store : Store) (value : Value) :
    identifier.apply [value] store = .done (.str (String.ofList (identifierOf (store.text value).toList))) store := rfl

end Builtin

theorem nameTokens {name : String} (named : Text.isIdentifier name.toList = true) :
    tokenizeCode name = .ok [⟨1, .ident name⟩, ⟨1, .eof⟩] := by
  have whole : String.ofList name.toList = name := String.ofList_toList
  rw [tokenizeCode]
  cases shape : name.toList with
  | nil =>
    rw [shape] at named
    cases named
  | cons c rest =>
    rw [shape] at named whole
    obtain ⟨stands, taken⟩ := readTokenWord named 1
    have read := Scan.nextRead stands taken
    rw [whole] at read
    rw [Scan.tokensMore read rfl, Scan.tokensAtEnd]
    rfl

/-- Of every value a name is made: of its text character by character, with an underscore in front where there is
none or the first is a digit. -/
theorem identifiersAreNames (store : Store) (scope : ScopeId) (budget : Nat) (value : Value) :
    ∃ (name : String) (plain : List Char),
      callValues (budget + 1) scope (.builtin .identifier) [value] store = .done (.str name) store ∧
      Text.isIdentifier name.toList = true ∧
      tokenizeCode name = .ok [⟨1, .ident name⟩, ⟨1, .eof⟩] ∧
      List.Forall₂ Text.Becomes (store.text value).toList plain ∧
      name.toList = (if (store.text value).toList.head?.all Char.isDigit then ['_'] else []) ++ plain ∧
      callValues (budget + 1) scope (.builtin .identifier) [.str name] store = .done (.str name) store := by
  have made := Builtin.identifierOfName (store.text value).toList
  obtain ⟨plain, becomes, shape⟩ := Builtin.identifierOfParts (store.text value).toList
  have calls : ∀ v, callValues (budget + 1) scope (.builtin .identifier) [v] store =
      .done (.str (String.ofList (Builtin.identifierOf (store.text v).toList))) store := fun v =>
    (callValuesBuiltin rfl budget scope store).trans (Builtin.applyIdentifier store v)
  have named : Text.isIdentifier (String.ofList (Builtin.identifierOf (store.text value).toList)).toList = true := by
    rw [String.toList_ofList]
    exact made.isIdentifier
  refine ⟨_, plain, calls value, named, nameTokens named, becomes, ?_, ?_⟩
  · rw [String.toList_ofList, shape]
  · have shown : ∀ s, store.text (.str s) = s := fun _ => rfl
    rw [calls, shown, String.toList_ofList, Builtin.identifierOfPlain made]

end CircuitScript
