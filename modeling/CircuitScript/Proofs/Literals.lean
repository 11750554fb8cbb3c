import CircuitScript.Definition
import CircuitScript.Proofs.Lookup
import CircuitScript.Proofs.ReadBack
import CircuitScript.Script

/-! Integers written as they are shown. A minus sign and the digits behind it are two tokens, and the digits must
be an integer by themselves, so of all integers only the least one cannot be written so. -/
namespace CircuitScript

theorem Scan.tokensRefused {line last : Nat} {source rest : List Char} {c : Char} {e : ParseError}
    (skipped : skipGap .blank line source = .ok (last, c :: rest)) (refused : readToken last c rest = .error e) :
    tokens false ⟨.code, line, source⟩ = .error e := by
  have next : next false ⟨.code, line, source⟩ = .error e := by
    rw [nextInCode .code (by decide), nextCode]
    simp only [skipped, bind, Except.bind, refused]
  rw [tokens]
  split
  · simp_all
  · simp_all

theorem severedSemicolon : Severed [';'] := (breaksPunctuation (by decide)).severed []

theorem readNumberWritten (size line : Nat) :
    readNumber line (Numeral.write .decimal size ++ [';']) =
      if size < Nat.pow 2 63 then .ok (.int (Int64.ofNat size), [';'])
      else .error ⟨line, .integerOutOfRange (String.ofList (Numeral.write .decimal size))⟩ := by
  have digit := Numeral.writeHasDigit .decimal size
  have plain : ∀ c ∈ Numeral.write .decimal size ++ [';'], c ∉ ['x', 'X', 'b', 'B'] := by
    intro c member
    rcases List.mem_append.mp member with digits | last
    · exact digitNoMark (digit c digits)
    · cases List.mem_singleton.mp last
      decide
  have run : digitRun .decimal (Numeral.write .decimal size ++ [';']) = (Numeral.write .decimal size, [';']) := by
    rw [digitRunBefore severedSemicolon.parted, digitRunDigits digit]
    rfl
  have noFraction : splitFractionDigits [';'] = (none, [';']) := rfl
  have noExponent : splitExponent [';'] = (none, [';']) := rfl
  rw [readNumberPlain plain]
  simp only [readDecimal, run, noFraction, noExponent, Numeral.valueWrite]

theorem writtenStart (size : Nat) : ∃ c rest, Numeral.write .decimal size = c :: rest ∧ c.isDigit ∧
    Text.isBlank c = false ∧ c ≠ '/' ∧ Mark.minus.extend? c = none := by
  have solid : ∀ d, d < 10 → (Numeral.digitChar d).isDigit ∧ Text.isBlank (Numeral.digitChar d) = false ∧
      Numeral.digitChar d ≠ '/' ∧ Mark.minus.extend? (Numeral.digitChar d) = none := by decide
  obtain ⟨c, rest, shape⟩ := List.exists_cons_of_ne_nil (Numeral.writeFilled .decimal size)
  obtain ⟨d, below, rfl⟩ := Numeral.writeDigits .decimal size c (by simp [shape])
  exact ⟨_, rest, shape, solid d below⟩

theorem writtenTokens (size line : Nat) :
    Scan.tokens false ⟨.code, line, Numeral.write .decimal size ++ [';']⟩ =
      if size < Nat.pow 2 63 then
        .ok [⟨line, .int (Int64.ofNat size)⟩, ⟨line, .mark .semicolon⟩, ⟨line, .eof⟩]
      else .error ⟨line, .integerOutOfRange (String.ofList (Numeral.write .decimal size))⟩ := by
  have read := readNumberWritten size line
  obtain ⟨c, rest, shape, digit, filled, slash, _⟩ := writtenStart size
  have gap := skipNothing filled slash line (rest ++ [';'])
  rw [shape] at read
  rw [List.cons_append] at read
  split
  · rename_i small
    rw [if_pos small] at read
    have token : readToken line c (rest ++ [';']) = .ok (.int (Int64.ofNat size), line, [';']) := by
      rw [readToken, if_pos digit, read]
      rfl
    rw [shape, List.cons_append, Scan.tokensMore (Scan.nextRead gap token) rfl, semicolonTokens]
    rfl
  · rename_i large
    rw [if_neg large] at read
    have token : readToken line c (rest ++ [';']) =
        .error ⟨line, .integerOutOfRange (String.ofList (Numeral.write .decimal size))⟩ := by
      rw [readToken, if_pos digit, read, shape]
      rfl
    rw [shape] at token
    rw [shape, List.cons_append]
    exact Scan.tokensRefused gap token

theorem minusTokens (size line : Nat) :
    Scan.tokens false ⟨.code, line, '-' :: (Numeral.write .decimal size ++ [';'])⟩ =
      (Scan.tokens false ⟨.code, line, Numeral.write .decimal size ++ [';']⟩).map (⟨line, .mark .minus⟩ :: ·) := by
  obtain ⟨c, rest, shape, _, _, _, ends⟩ := writtenStart size
  have apart : ∀ c rest, Numeral.write .decimal size ++ [';'] = c :: rest → Mark.minus.extend? c = none := by
    intro c rest same
    rw [shape] at same
    cases same
    exact ends
  exact Scan.tokensMore (Scan.nextMark .minus (by decide) apart line) rfl

theorem sizeBelow (n : Int64) : n.toInt.natAbs < Nat.pow 2 63 ↔ n ≠ Int64.minValue := by
  have low := n.le_toInt
  have high := n.toInt_lt
  have least : n = Int64.minValue ↔ n.toInt = -9223372036854775808 := Int64.toInt_inj.symm
  rw [ne_eq, least]
  show n.toInt.natAbs < 9223372036854775808 ↔ _
  omega

theorem negatedSize {n : Int64} (negative : n < 0) : -Int64.ofNat n.toInt.natAbs = n := by
  have below : n.toInt < 0 := Int64.lt_iff_toInt_lt.mp negative
  have size : -(n.toInt.natAbs : Int) = n.toInt := by omega
  rw [← Int64.ofInt_eq_ofNat, ← Int64.ofInt_neg, size, Int64.ofInt_toInt]

theorem plainSize {n : Int64} (positive : ¬n < 0) : Int64.ofNat n.toInt.natAbs = n := by
  have above : ¬n.toInt < 0 := fun below => positive (Int64.lt_iff_toInt_lt.mpr below)
  have size : (n.toInt.natAbs : Int) = n.toInt := by omega
  rw [← Int64.ofInt_eq_ofNat, size, Int64.ofInt_toInt]

theorem assignedTokens (text : List Char) :
    Scan.tokens false ⟨.code, 1, "x := ".toList ++ text⟩ =
      (Scan.tokens false ⟨.code, 1, text⟩).map fun row => ⟨1, .ident "x"⟩ :: ⟨1, .mark .declare⟩ :: row := by
  have name : Scan.next false ⟨.code, 1, "x := ".toList ++ text⟩ =
      .ok (⟨1, .ident "x"⟩, ⟨.code, 1, " := ".toList ++ text⟩) := rfl
  have mark : Scan.next false ⟨.code, 1, " := ".toList ++ text⟩ =
      .ok (⟨1, .mark .declare⟩, ⟨.code, 1, ' ' :: text⟩) := rfl
  rw [Scan.tokensMore name rfl, Scan.tokensMore mark rfl, Scan.tokensAfterGap (by decide) (skipBlank rfl 1 text)]
  show Except.map _ (Except.map _ (Scan.tokens false ⟨.code, 1, text⟩)) = _
  cases Scan.tokens false ⟨.code, 1, text⟩ <;> rfl

theorem leastDigits :
    String.ofList (Numeral.write .decimal Int64.minValue.toInt.natAbs) = "9223372036854775808" := by
  decide +kernel

theorem parseShown (n : Int64) :
    parseCode ("x := " ++ (Scalar.int n).text ++ ";") =
      if n = Int64.minValue then .error ⟨1, .integerOutOfRange "9223372036854775808"⟩
      else .ok (.block [.assign (.var "x") (.literal (.int n))]) := by
  have text : ("x := " ++ (Scalar.int n).text ++ ";").toList =
      "x := ".toList ++ (Numeral.integerText n ++ [';']) := by
    simp [Scalar.text]
  have shown : parseCode ("x := " ++ (Scalar.int n).text ++ ";") =
      (Scan.tokens false ⟨.code, 1, Numeral.integerText n ++ [';']⟩ >>= fun row =>
        parseTokens (⟨1, .ident "x"⟩ :: ⟨1, .mark .declare⟩ :: row)) := by
    rw [parseCode, tokenizeCode, text, assignedTokens]
    cases Scan.tokens false ⟨.code, 1, Numeral.integerText n ++ [';']⟩ <;> rfl
  rw [shown]
  by_cases negative : n < 0
  · have digits : Numeral.integerText n = '-' :: Numeral.write .decimal n.toInt.natAbs := by
      rw [Numeral.integerText, if_pos negative]
    rw [digits, List.cons_append, minusTokens, writtenTokens]
    by_cases least : n = Int64.minValue
    · rw [if_neg fun small => (sizeBelow n).mp small least, if_pos least, least, leastDigits]
      rfl
    · rw [if_pos ((sizeBelow n).mpr least), if_neg least]
      show Except.ok (Stmt.block [.assign (.var "x") (.literal (.int (-Int64.ofNat n.toInt.natAbs)))]) = _
      rw [negatedSize negative]
  · have above : n ≠ Int64.minValue := fun least => negative (least ▸ by decide)
    have digits : Numeral.integerText n = Numeral.write .decimal n.toInt.natAbs := by
      rw [Numeral.integerText, if_neg negative]
    rw [digits, writtenTokens, if_pos ((sizeBelow n).mpr above), if_neg above]
    show Except.ok (Stmt.block [.assign (.var "x") (.literal (.int (Int64.ofNat n.toInt.natAbs)))]) = _
    rw [plainSize negative]

theorem assignedRead (store : Store) {scope : ScopeId} (there : scope.index < store.scopes.size) (name : String)
    (value : Value) : (store.bind scope name value).read scope name = .ok value := by
  refine Store.readFound (Store.lookupOwn ?_)
  rw [Store.namesBoundHere there, Table.getInsert, if_pos rfl]

/-- An integer assigned as it is shown is the integer again, and the least one is refused. -/
theorem shownIntegersAreLiterals (store : Store) {scope : ScopeId} (there : scope.index < store.scopes.size)
    (n : Int64) :
    if n = Int64.minValue then
      parseCode ("x := " ++ store.text (.int n) ++ ";") =
        .error ⟨1, .integerOutOfRange "9223372036854775808"⟩
    else
      parseCode ("x := " ++ store.text (.int n) ++ ";") =
        .ok (.block [.assign (.var "x") (.literal (.int n))]) ∧
      ∀ budget, 4 ≤ budget → ∃ after : Store,
        Script.runIn budget scope false ("x := " ++ store.text (.int n) ++ ";") store = .done () after ∧
        after.read scope "x" = .ok (.int n) := by
  have parsed := parseShown n
  split
  · rename_i least
    rwa [if_pos least] at parsed
  · rename_i above
    rw [if_neg above] at parsed
    refine ⟨parsed, fun budget enough => ?_⟩
    obtain ⟨more, rfl⟩ := Nat.exists_eq_add_of_le' enough
    have run : Script.runIn (more + 4) scope false ("x := " ++ store.text (.int n) ++ ";") store =
        .done () (store.bind scope "x" (.int n)) := by
      unfold Script.runIn
      rw [if_neg (by decide)]
      show (Action.ofExcept (Except.mapError _ (parseCode ("x := " ++ (Scalar.int n).text ++ ";"))) >>= _) store = _
      rw [parsed]
      rfl
    exact ⟨_, run, assignedRead store there "x" (.int n)⟩

theorem leastButOneIsLiteral :
    Store.empty.newRoot.1.index < Store.empty.newRoot.2.scopes.size ∧
    parseCode ("x := " ++ Store.empty.newRoot.2.text (.int (-9223372036854775807)) ++ ";") =
      .ok (.block [.assign (.var "x") (.literal (.int (-9223372036854775807)))]) ∧
    ∀ budget, 4 ≤ budget → ∃ after : Store,
      Script.runIn budget Store.empty.newRoot.1 false
        ("x := " ++ Store.empty.newRoot.2.text (.int (-9223372036854775807)) ++ ";") Store.empty.newRoot.2 =
          .done () after ∧
      after.read Store.empty.newRoot.1 "x" = .ok (.int (-9223372036854775807)) := by
  have there : Store.empty.newRoot.1.index < Store.empty.newRoot.2.scopes.size := by decide
  have above : (-9223372036854775807 : Int64) ≠ Int64.minValue := by decide
  have read := shownIntegersAreLiterals _ there (-9223372036854775807)
  rw [if_neg above] at read
  exact ⟨there, read⟩

theorem leastIsNoLiteral :
    Store.empty.text (.int Int64.minValue) = "-9223372036854775808" ∧
    parseCode "x := -9223372036854775808;" = .error ⟨1, .integerOutOfRange "9223372036854775808"⟩ ∧
    Definition.readValue "-9223372036854775808" = .int Int64.minValue ∧
    (Value.str "-9223372036854775808").toInt = .ok Int64.minValue := by
  have digits : Numeral.integerText Int64.minValue = "-9223372036854775808".toList := by decide +kernel
  have shown : (Scalar.int Int64.minValue).text = "-9223372036854775808" := by
    rw [Scalar.text, digits, String.ofList_toList]
  have parsed := parseShown Int64.minValue
  have read := readIntegerText Int64.minValue
  rw [shown, if_pos rfl] at parsed
  rw [digits] at read
  refine ⟨shown, parsed, ?_, ?_⟩
  · rw [Definition.readValue, read]
  · show Except.map Number.toInt (Value.toNumber (.str "-9223372036854775808")) = _
    rw [Value.str, Value.toNumber, Number.ofText?, read]
    rfl

end CircuitScript
