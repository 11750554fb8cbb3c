import CircuitScript.Text.Word
import CircuitScript.Token.Gap

/-! Single tokens read from the head of a text: numbers, strings, names and marks. Each takes a first
character and at most what follows it. -/
namespace CircuitScript

def isDigitOrGap (radix : Numeral.Radix) (c : Char) : Bool := radix.hasDigit c || c == '_'

def digitRun (radix : Numeral.Radix) (text : List Char) : List Char × List Char :=
  ((text.takeWhile (isDigitOrGap radix)).filter (· != '_'), text.dropWhile (isDigitOrGap radix))

/-- A whole number in another radix than ten; the upper half of 64 bits stands for negative numbers. -/
def readPrefixed (radix : Numeral.Radix) (line : Nat) (text : List Char) :
    Except ParseError (Token × List Char) :=
  let (digits, rest) := digitRun radix text
  let n := Numeral.value radix digits
  if digits = [] ∨ Nat.pow 2 64 ≤ n then .error ⟨line, .malformedNumber ("0" ++ String.ofList digits)⟩
  else .ok (.int (Int64.ofNat n), rest)

def splitFractionDigits : List Char → Option (List Char) × List Char
  | '.' :: c :: rest =>
    if c.isDigit then
      let (digits, rest) := digitRun .decimal (c :: rest)
      (some digits, rest)
    else (none, '.' :: c :: rest)
  | text => (none, text)

/-- The exponent behind `e`, if a digit follows it and its sign. -/
def splitExponent : List Char → Option Int × List Char
  | mark :: rest =>
    let (negative, unsigned) := Numeral.splitSign rest
    if (mark = 'e' ∨ mark = 'E') ∧ (unsigned.head?.map Char.isDigit).getD false then
      let (digits, after) := digitRun .decimal unsigned
      let size : Int := Numeral.value .decimal digits
      (some (if negative then -size else size), after)
    else (none, mark :: rest)
  | [] => (none, [])

def readDecimal (line : Nat) (text : List Char) : Except ParseError (Token × List Char) :=
  let (whole, rest) := digitRun .decimal text
  let (fraction, rest) := splitFractionDigits rest
  let (exponent, rest) := splitExponent rest
  match fraction, exponent with
  | none, none =>
    let n := Numeral.value .decimal whole
    if n < Nat.pow 2 63 then .ok (.int (Int64.ofNat n), rest)
    else .error ⟨line, .integerOutOfRange (String.ofList whole)⟩
  | _, _ =>
    let digits := fraction.getD []
    .ok (.float (Numeral.scaled (whole ++ digits) (exponent.getD 0 - digits.length)), rest)

def readNumber (line : Nat) : List Char → Except ParseError (Token × List Char)
  | '0' :: 'x' :: rest => readPrefixed .hexadecimal line rest
  | '0' :: 'X' :: rest => readPrefixed .hexadecimal line rest
  | '0' :: 'b' :: rest => readPrefixed .binary line rest
  | '0' :: 'B' :: rest => readPrefixed .binary line rest
  | text => readDecimal line text

def unescape (c : Char) : Char :=
  if c = 'n' then '\n' else if c = 't' then '\t' else if c = 'r' then '\r' else c

def readQuoted : Nat → List Char → Option (List Char × Nat × List Char)
  | _, [] => none
  | line, '"' :: rest => some ([], line, rest)
  | _, ['\\'] => none
  | line, '\\' :: c :: rest =>
    (readQuoted (lineAfter line c) rest).map fun (s, after) => (unescape c :: s, after)
  | line, c :: rest => (readQuoted (lineAfter line c) rest).map fun (s, after) => (c :: s, after)

def readToken (line : Nat) (c : Char) (rest : List Char) :
    Except ParseError (Token × Nat × List Char) :=
  if c.isDigit then
    (readNumber line (c :: rest)).map fun (token, after) => (token, line, after)
  else if c = '"' then
    match readQuoted line rest with
    | some (s, after) => .ok (.str (String.ofList s), after)
    | none => .error ⟨line, .unterminatedString⟩
  else if Text.isWordStart c then
    .ok (.ident (String.ofList (c :: rest.takeWhile Text.isWordPart)), line,
      rest.dropWhile Text.isWordPart)
  else
    match Mark.ofChar? c with
    | some mark =>
      let (mark, after) := mark.grow rest
      .ok (.mark mark, line, after)
    | none => .ok (.unknown c, line, rest)

theorem digitRunLength (radix : Numeral.Radix) (text : List Char) :
    (digitRun radix text).2.length ≤ text.length := by
  exact (List.dropWhile_suffix _).length_le

theorem splitFractionDigitsLength (text : List Char) :
    (splitFractionDigits text).2.length ≤ text.length := by
  unfold splitFractionDigits
  split
  · split
    · rename_i c rest _
      have run := digitRunLength .decimal (c :: rest)
      simp only [List.length_cons] at run ⊢
      omega
    · simp
  · simp

theorem splitSignLength (text : List Char) :
    (Numeral.splitSign text).2.length ≤ text.length := by
  unfold Numeral.splitSign
  split <;> simp

theorem splitExponentLength (text : List Char) :
    (splitExponent text).2.length ≤ text.length := by
  unfold splitExponent
  split
  · rename_i mark rest
    have sign := splitSignLength rest
    have run := digitRunLength .decimal (Numeral.splitSign rest).2
    dsimp only
    split
    · simp only [List.length_cons]; omega
    · simp
  · simp

theorem readPrefixedLength {radix : Numeral.Radix} {line : Nat} {text : List Char}
    {read : Token × List Char} (ok : readPrefixed radix line text = .ok read) :
    read.2.length ≤ text.length := by
  have run := digitRunLength radix text
  unfold readPrefixed at ok
  dsimp only at ok
  split at ok <;> cases ok
  exact run

theorem readDecimalLength {line : Nat} {text : List Char} {read : Token × List Char}
    (ok : readDecimal line text = .ok read) : read.2.length ≤ (digitRun .decimal text).2.length := by
  have fraction := splitFractionDigitsLength (digitRun .decimal text).2
  have exponent := splitExponentLength (splitFractionDigits (digitRun .decimal text).2).2
  unfold readDecimal at ok
  dsimp only at ok
  split at ok
  · split at ok <;> cases ok
    exact Nat.le_trans exponent fraction
  · cases ok
    exact Nat.le_trans exponent fraction

theorem digitRunLengthLt {c : Char} (digit : c.isDigit) (rest : List Char) :
    (digitRun .decimal (c :: rest)).2.length < (c :: rest).length := by
  have held : isDigitOrGap .decimal c = true := by
    have bounds := Numeral.isDigitIff.mp digit
    have size : c.toNat ≤ 57 := Char.le_def.mp bounds.2
    have small : c.toNat - 48 < 10 := by omega
    simp [isDigitOrGap, Numeral.Radix.hasDigit, Numeral.digitValue, bounds, Numeral.Radix.base, small]
  simp only [digitRun, List.dropWhile_cons, held, if_true, List.length_cons]
  exact Nat.lt_succ_of_le (List.dropWhile_suffix _).length_le

theorem readNumberLength {line : Nat} {c : Char} {rest : List Char} {read : Token × List Char}
    (digit : c.isDigit) (ok : readNumber line (c :: rest) = .ok read) :
    read.2.length ≤ rest.length := by
  unfold readNumber at ok
  split at ok
  case h_5 =>
    have := readDecimalLength ok
    have := digitRunLengthLt digit rest
    simp only [List.length_cons] at this
    omega
  all_goals
    rename_i shape
    have := readPrefixedLength ok
    cases shape
    simp only [List.length_cons]
    omega

theorem readQuotedLength {line : Nat} {text : List Char} {read : List Char × Nat × List Char}
    (ok : readQuoted line text = some read) : read.2.2.length ≤ text.length := by
  fun_induction readQuoted line text generalizing read with
  | case1 | case3 => cases ok
  | case2 => cases ok; simp
  | case4 line c rest ih =>
    obtain ⟨inner, found, rfl⟩ := Option.map_eq_some_iff.mp ok
    have := ih found
    simp only [List.length_cons]
    omega
  | case5 line c rest _ _ _ ih =>
    obtain ⟨inner, found, rfl⟩ := Option.map_eq_some_iff.mp ok
    have := ih found
    simp only [List.length_cons]
    omega

theorem Mark.growLength (mark : Mark) (text : List Char) :
    (mark.grow text).2.length ≤ text.length := by
  fun_induction Mark.grow mark text <;> grind

theorem readTokenLength {line : Nat} {c : Char} {rest : List Char} {read : Token × Nat × List Char}
    (ok : readToken line c rest = .ok read) : read.2.2.length ≤ rest.length := by
  unfold readToken at ok
  split at ok
  · cases number : readNumber line (c :: rest) with
    | error e => simp [number, Except.map] at ok
    | ok found =>
      simp only [number, Except.map, Except.ok.injEq] at ok
      subst ok
      exact readNumberLength (by assumption) number
  · split at ok
    · split at ok <;> cases ok
      exact readQuotedLength (by assumption)
    · split at ok
      · cases ok
        exact (List.dropWhile_suffix _).length_le
      · split at ok <;> cases ok
        · exact Mark.growLength _ _
        · exact Nat.le_refl _

end CircuitScript
