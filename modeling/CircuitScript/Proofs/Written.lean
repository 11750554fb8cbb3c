import Mathlib.Data.List.TakeWhile
import CircuitScript.Proofs.Comments
import CircuitScript.Proofs.Digits
import CircuitScript.Proofs.Joined

/-! Tokens written out and read again. Any white space between two tokens keeps them apart, with more of it and
comments behind, so a row of tokens is read from every way to write it down. -/
namespace CircuitScript

/-- The 25 characters of white space. -/
def blankChars : List Char :=
  [9, 10, 11, 12, 13, 32, 133, 160, 5760, 8192, 8193, 8194, 8195, 8196, 8197, 8198, 8199, 8200, 8201, 8202, 8232, 8233,
    8239, 8287, 12288].map Char.ofNat

theorem blankListed {c : Char} (white : Text.isBlank c) : c ∈ blankChars := by
  have code : c = Char.ofNat c.toNat := (Char.ofNat_toNat c).symm
  rw [code]
  refine List.mem_map_of_mem ?_
  simp only [Text.isBlank, Text.Ranges.has, Text.blankRanges, List.any_cons, List.any_nil, Bool.or_false,
    Bool.or_eq_true, Bool.and_eq_true, decide_eq_true_eq] at white
  simp only [List.mem_cons, List.not_mem_nil, or_false]
  omega

theorem breaksBlank {c : Char} (white : Text.isBlank c) : Breaks c where
  digits radix := by
    have none : blankChars.all (fun c => (Numeral.digitValue c).isNone && c != '_') = true := by decide +kernel
    have here := List.all_eq_true.mp none c (blankListed white)
    simp only [Bool.and_eq_true, Option.isNone_iff_eq_none, bne_iff_ne] at here
    simp [isDigitOrGap, Numeral.Radix.hasDigit, here]
  digit := by
    have none : blankChars.all (fun c => !c.isDigit) = true := by decide +kernel
    simpa using List.all_eq_true.mp none c (blankListed white)
  words := by
    have none : blankChars.all (fun c => !Text.isWordPart c) = true := by decide +kernel
    simpa using List.all_eq_true.mp none c (blankListed white)
  marks mark := by
    have none : blankChars.all (fun c => (mark.extend? c).isNone) = true := by cases mark <;> decide +kernel
    simpa using List.all_eq_true.mp none c (blankListed white)
  point := by
    rintro rfl
    cases white
  comments := by
    constructor <;> rintro rfl <;> cases white

/-- White space and whole comments. -/
inductive Spacing : List Char → Prop where
  | empty : Spacing []
  | blank {c : Char} {rest : List Char} (white : Text.isBlank c) (more : Spacing rest) : Spacing (c :: rest)
  | line {comment rest : List Char} (inside : '\n' ∉ comment) (more : Spacing rest) :
      Spacing ('/' :: '/' :: (comment ++ '\n' :: rest))
  | block {comment rest : List Char} (inside : ¬['*', '/'] <:+: comment) (more : Spacing rest) :
      Spacing ('/' :: '*' :: (comment ++ '*' :: '/' :: rest))

theorem Spacing.skipped {gap : List Char} (spacing : Spacing gap) (line : Nat) (rest : List Char) :
    ∃ last, skipGap .blank line (gap ++ rest) = skipGap .blank last rest := by
  induction spacing generalizing line with
  | empty => exact ⟨line, rfl⟩
  | blank white more ih =>
    rw [List.cons_append, skipBlank white]
    exact ih _
  | @line comment gap inside more ih =>
    simp only [List.cons_append, List.append_assoc]
    rw [skipGap, skipLine inside, skipGap, if_pos rfl]
    exact ih _
  | @block comment gap inside more ih =>
    simp only [List.cons_append, List.append_assoc]
    obtain ⟨last, skipped⟩ := skipBlock inside line line (gap ++ rest)
    rw [skipGap, skipped]
    exact ih last

/-- A character inside quotes, behind a backslash if it would end them or begin an escape. -/
def shielded (c : Char) : List Char := if c = '"' ∨ c = '\\' then ['\\', c] else [c]

inductive Token.Spelled : Token → List Char → Prop where
  | int (n : Int64) (positive : 0 ≤ n) : Spelled (.int n) (Nat.toDigits 10 n.toInt.toNat)
  | str (s : String) : Spelled (.str s) ('"' :: (s.toList.flatMap shielded ++ ['"']))
  | ident (word : String) (named : Text.isIdentifier word.toList = true) : Spelled (.ident word) word.toList
  | mark (m : Mark) : Spelled (.mark m) m.spelling.toList

/-- A text that is one token: no gap comes first, and nothing is left behind it. -/
def Token.Sole (token : Token) (text : List Char) : Prop :=
  ∃ c rest, text = c :: rest ∧ ∀ line, skipGap .blank line text = .ok (line, text) ∧
    ∃ there, readToken line c rest = .ok (token, there, [])

theorem skipNothing {c : Char} (filled : Text.isBlank c = false) (slash : c ≠ '/') (line : Nat) (rest : List Char) :
    skipGap .blank line (c :: rest) = .ok (line, c :: rest) :=
  skipGapStands filled (fun same => absurd same slash) line

theorem digitRunDigits {radix : Numeral.Radix} {digits : List Char}
    (digit : ∀ c ∈ digits, radix.hasDigit c = true) : digitRun radix digits = (digits, []) := by
  have among : ∀ c ∈ digits, isDigitOrGap radix c = true := by
    intro c member
    simp [isDigitOrGap, digit c member]
  have noGap : ∀ c ∈ digits, (c != '_') = true := by
    intro c member
    have found := digit c member
    simp only [bne_iff_ne]
    rintro rfl
    cases found
  rw [digitRun, List.takeWhile_eq_self_iff.mpr among, List.dropWhile_eq_nil_iff.mpr among,
    List.filter_eq_self.mpr noGap]

theorem readDecimalDigits {digits : List Char} (digit : ∀ c ∈ digits, Numeral.Radix.decimal.hasDigit c = true)
    (small : Numeral.value .decimal digits < Nat.pow 2 63) (line : Nat) :
    readDecimal line digits = .ok (.int (Int64.ofNat (Numeral.value .decimal digits)), []) := by
  unfold readDecimal
  simp only [digitRunDigits digit, splitFractionDigits, splitExponent]
  exact if_pos small

theorem readNumberPlain {text : List Char} (plain : ∀ c ∈ text, c ∉ ['x', 'X', 'b', 'B']) (line : Nat) :
    readNumber line text = readDecimal line text := by
  unfold readNumber
  split
  case h_5 => rfl
  all_goals exact absurd (by decide) (plain _ (List.mem_cons_of_mem _ List.mem_cons_self))

theorem digitNoMark {c : Char} (digit : Numeral.Radix.decimal.hasDigit c = true) : c ∉ ['x', 'X', 'b', 'B'] := by
  simp only [List.mem_cons, List.not_mem_nil, or_false]
  rintro (rfl | rfl | rfl | rfl)
  all_goals cases digit

theorem Token.soleInt (n : Int64) (positive : 0 ≤ n) : Token.Sole (.int n) (Nat.toDigits 10 n.toInt.toNat) := by
  have size : 0 ≤ n.toInt := Int64.le_iff_toInt_le.mp positive
  have high := n.toInt_lt
  have number : Int64.ofNat n.toInt.toNat = n := by
    rw [← Int64.ofInt_eq_ofNat, Int.toNat_of_nonneg size, Int64.ofInt_toInt]
  have digit := Numeral.writeDigits .decimal n.toInt.toNat
  have digits := Numeral.writeHasDigit .decimal n.toInt.toNat
  have small : Numeral.value .decimal (Numeral.write .decimal n.toInt.toNat) < Nat.pow 2 63 := by
    rw [Numeral.valueWrite]
    show n.toInt.toNat < 9223372036854775808
    omega
  have solid : ∀ d, d < 10 → (Numeral.digitChar d).isDigit ∧ Text.isBlank (Numeral.digitChar d) = false ∧
      Numeral.digitChar d ≠ '/' := by decide
  have read : ∀ line, readNumber line (Numeral.write .decimal n.toInt.toNat) = .ok (.int n, []) := by
    intro line
    rw [readNumberPlain fun c member => digitNoMark (digits c member), readDecimalDigits digits small,
      Numeral.valueWrite, number]
  rw [← Numeral.writeDecimal]
  obtain ⟨c, rest, shape⟩ := List.exists_cons_of_ne_nil (Numeral.writeFilled .decimal n.toInt.toNat)
  rw [shape] at digit read ⊢
  obtain ⟨d, below, rfl⟩ := digit c List.mem_cons_self
  obtain ⟨isDigit, filled, slash⟩ := solid d below
  refine ⟨_, rest, rfl, fun line => ⟨skipNothing filled slash line rest, line, ?_⟩⟩
  rw [readToken, if_pos isDigit, read]
  rfl

theorem readQuotedShielded (text : List Char) (line : Nat) :
    ∃ there, readQuoted line (text.flatMap shielded ++ ['"']) = some (text, there, []) := by
  induction text generalizing line with
  | nil => exact ⟨line, rfl⟩
  | cons c text ih =>
    obtain ⟨there, read⟩ := ih (lineAfter line c)
    refine ⟨there, ?_⟩
    rw [List.flatMap_cons, shielded]
    split
    · rename_i special
      have plain : unescape c = c := by rcases special with rfl | rfl <;> rfl
      simp [readQuoted, read, plain]
    · rename_i plain
      obtain ⟨quote, escape⟩ := not_or.mp plain
      rw [List.append_assoc, List.singleton_append, readQuoted, read]
      all_goals simp_all

theorem Token.soleStr (s : String) : Token.Sole (.str s) ('"' :: (s.toList.flatMap shielded ++ ['"'])) := by
  refine ⟨_, _, rfl, fun line => ⟨skipNothing (by decide) (by decide) line _, ?_⟩⟩
  obtain ⟨there, read⟩ := readQuotedShielded s.toList line
  refine ⟨there, ?_⟩
  rw [readToken, if_neg (by decide), if_pos rfl, read]
  simp

theorem wordStarts {c : Char} (start : Text.isWordStart c = true) :
    c.isDigit = false ∧ c ≠ '"' ∧ c ≠ '/' ∧ Text.isBlank c = false := by
  refine ⟨?_, ?_, ?_, ?_⟩
  · rw [← Bool.not_eq_true]
    intro digit
    have range := Numeral.isDigitIff.mp digit
    have low : 48 ≤ c.toNat := Char.le_def.mp range.1
    have high : c.toNat ≤ 57 := Char.le_def.mp range.2
    have digits : ∀ n, n < 58 → 48 ≤ n → Text.isWordStart (Char.ofNat n) = false := by decide
    rw [← Char.ofNat_toNat c, digits c.toNat (by omega) low] at start
    cases start
  · rintro rfl
    exact absurd start (by decide)
  · rintro rfl
    exact absurd start (by decide)
  · rw [← Bool.not_eq_true]
    intro white
    have part := (breaksBlank white).words
    simp_all [Text.isWordStart, Text.isWordPart]

theorem readTokenWord {c : Char} {rest : List Char} (named : Text.isIdentifier (c :: rest) = true) (line : Nat) :
    skipGap .blank line (c :: rest) = .ok (line, c :: rest) ∧
      readToken line c rest = .ok (.ident (String.ofList (c :: rest)), line, []) := by
  obtain ⟨start, parts⟩ := Bool.and_eq_true_iff.mp named
  obtain ⟨digit, quote, slash, filled⟩ := wordStarts start
  have parts : ∀ d ∈ rest, Text.isWordPart d = true := List.all_eq_true.mp parts
  refine ⟨skipNothing filled slash line rest, ?_⟩
  rw [readToken, if_neg (by simp [digit]), if_neg quote, if_pos start, List.takeWhile_eq_self_iff.mpr parts,
    List.dropWhile_eq_nil_iff.mpr parts]

theorem Token.soleIdent (word : String) (named : Text.isIdentifier word.toList = true) :
    Token.Sole (.ident word) word.toList := by
  have whole : String.ofList word.toList = word := String.ofList_toList
  cases shape : word.toList with
  | nil =>
    rw [shape] at named
    cases named
  | cons c rest =>
    rw [shape] at named whole
    refine ⟨c, rest, rfl, fun line => ⟨(readTokenWord named line).1, line, ?_⟩⟩
    rw [(readTokenWord named line).2, whole]

theorem Token.soleMark (m : Mark) : Token.Sole (.mark m) m.spelling.toList := by
  cases m
  all_goals refine ⟨_, _, rfl, fun line => ⟨rfl, line, rfl⟩⟩

theorem Token.Spelled.sole {token : Token} {text : List Char} (spelled : token.Spelled text) : token.Sole text := by
  cases spelled with
  | int n positive => exact soleInt n positive
  | str s => exact soleStr s
  | ident word named => exact soleIdent word named
  | mark m => exact soleMark m

theorem Token.Spelled.notEnd {token : Token} {text : List Char} (spelled : token.Spelled text) :
    token.isEof = false := by
  cases spelled <;> rfl

theorem Token.Sole.next {token : Token} {text more : List Char} (sole : token.Sole text) (severed : Severed more)
    (line : Nat) :
    ∃ there, Scan.next false ⟨.code, line, text ++ more⟩ = .ok (⟨line, token⟩, ⟨.code, there, more⟩) := by
  obtain ⟨c, rest, rfl, read⟩ := sole
  obtain ⟨gap, there, taken⟩ := read line
  obtain ⟨last, _, taken'⟩ := readTokenBefore severed.parted taken line
  exact ⟨last, Scan.nextRead (skipGapEnded gap severed line) taken'⟩

theorem Scan.nextMark (m : Mark) (solid : m ≠ .slash) {more : List Char}
    (ends : ∀ c rest, more = c :: rest → m.extend? c = none) (line : Nat) :
    next false ⟨.code, line, m.spelling.toList ++ more⟩ = .ok (⟨line, .mark m⟩, ⟨.code, line, more⟩) := by
  have stops : m.grow more = (m, more) := by
    cases more with
    | nil => rfl
    | cons c rest => simp [Mark.grow, ends c rest rfl]
  have read : ∃ c tail, m.spelling.toList = c :: tail ∧ Text.isBlank c = false ∧ c ≠ '/' ∧
      readToken line c (tail ++ more) = .ok (.mark (m.grow more).1, line, (m.grow more).2) := by
    cases m
    case slash => exact absurd rfl solid
    all_goals exact ⟨_, _, rfl, by decide, by decide, rfl⟩
  obtain ⟨c, tail, spelled, filled, slash, taken⟩ := read
  rw [stops] at taken
  rw [spelled]
  exact nextRead (skipNothing filled slash line _) taken

theorem breaksPunctuation {c : Char} (listed : c ∈ ['(', ')', ';', '{', '"']) : Breaks c := by
  simp only [List.mem_cons, List.not_mem_nil, or_false] at listed
  rcases listed with rfl | rfl | rfl | rfl | rfl
  all_goals exact
    { digits := fun radix => by cases radix <;> decide
      digit := by decide
      words := by decide +kernel
      marks := fun mark => by cases mark <;> rfl
      point := by decide
      comments := by decide }

theorem semicolonTokens (line : Nat) :
    Scan.tokens false ⟨.code, line, [';']⟩ = .ok [⟨line, .mark .semicolon⟩, ⟨line, .eof⟩] := by
  have mark : Scan.next false ⟨.code, line, [';']⟩ = .ok (⟨line, .mark .semicolon⟩, ⟨.code, line, []⟩) := rfl
  rw [Scan.tokensMore mark rfl, Scan.tokensAtEnd]
  rfl

/-- A row of tokens as a text. Between neighbours stands a character of white space, and then any spacing. -/
inductive Written : List Token → List Char → Prop where
  | empty : Written [] []
  | last {token : Token} {text : List Char} (spelled : token.Spelled text) : Written [token] text
  | next {token second : Token} {tokens : List Token} {text gap rest : List Char} {c : Char}
      (spelled : token.Spelled text) (white : Text.isBlank c) (spacing : Spacing gap)
      (more : Written (second :: tokens) rest) : Written (token :: second :: tokens) (text ++ c :: (gap ++ rest))

theorem Written.tokens {tokens : List Token} {text : List Char} (written : Written tokens text) (line : Nat) :
    ∃ row, Scan.tokens false ⟨.code, line, text⟩ = .ok row ∧ row.map Lexeme.token = tokens ++ [.eof] := by
  induction written generalizing line with
  | empty => exact ⟨_, Scan.tokensAtEnd line, rfl⟩
  | last spelled =>
    obtain ⟨there, read⟩ := spelled.sole.next severedNil line
    rw [List.append_nil] at read
    refine ⟨_, (Scan.tokensMore read spelled.notEnd).trans (by rw [Scan.tokensAtEnd]; rfl), rfl⟩
  | @next token second tokens text gap rest c spelled white spacing more ih =>
    obtain ⟨there, read⟩ := spelled.sole.next ((breaksBlank white).severed (gap ++ rest)) line
    obtain ⟨last, skipped⟩ := spacing.skipped (lineAfter there c) rest
    obtain ⟨row, later, spells⟩ := ih last
    refine ⟨⟨line, token⟩ :: row, ?_, by simp [spells]⟩
    rw [Scan.tokensMore read spelled.notEnd,
      Scan.tokensAfterGap (by decide) ((skipBlank white there _).trans skipped), later]
    rfl

/-- A row of tokens is read from every text it is written as, and a text is a name exactly if it is read as one. -/
theorem writtenTokensRead {tokens : List Token} {text : List Char} (written : Written tokens text) :
    (∃ row, tokenizeCode (String.ofList text) = .ok row ∧ row.map Lexeme.token = tokens ++ [.eof]) ∧
    ∀ word : String, Text.isIdentifier word.toList = true ↔
      ∃ row, tokenizeCode word = .ok row ∧ row.map Lexeme.token = [.ident word, .eof] := by
  refine ⟨?_, fun word => ⟨fun named => ?_, ?_⟩⟩
  · obtain ⟨row, read, spells⟩ := written.tokens 1
    exact ⟨row, by rw [tokenizeCode, String.toList_ofList, read], spells⟩
  · exact (Written.last (.ident word named)).tokens 1
  · rintro ⟨row, read, spells⟩
    obtain ⟨lexeme, member, same⟩ := List.mem_map.mp (show .ident word ∈ row.map Lexeme.token by simp [spells])
    have lexed := (Scan.tokensEnd read).1 lexeme member
    rw [same] at lexed
    exact lexed

theorem shieldedTextRead :
    ∃ row, tokenizeCode "\"\\\"\\\\\" /* ?> */>\n> >= // <?\n7" = .ok row ∧
      row.map Lexeme.token = [.str "\"\\", .mark .gt, .mark .gt, .mark .ge, .int 7, .eof] := by
  have block : Spacing ['/', '*', ' ', '?', '>', ' ', '*', '/'] :=
    .block (show ¬['*', '/'] <:+: [' ', '?', '>', ' '] by decide) .empty
  have line : Spacing ['/', '/', ' ', '<', '?', '\n'] :=
    .line (show '\n' ∉ [' ', '<', '?'] by decide) .empty
  have white : Text.isBlank ' ' ∧ Text.isBlank '\n' := by decide
  have written := Written.next (.str "\"\\") white.1 block (.next (.mark .gt) white.2 .empty
    (.next (.mark .gt) white.1 .empty (.next (.mark .ge) white.1 line (.last (.int 7 (by decide))))))
  exact (writtenTokensRead written).1

end CircuitScript
