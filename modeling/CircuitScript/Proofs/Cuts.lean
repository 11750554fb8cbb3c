import CircuitScript.Proofs.Scanning

/-! Where a text can be cut. What is read of its first part is the same whatever stands behind the cut, as
long as this does not go on with the token that the first part ends in. -/
namespace CircuitScript

inductive Region where
  | code
  | quoted
  | lineComment
  | blockComment
  deriving DecidableEq, Repr

/-- Where a text that begins in a region ends: in code, inside quotes or inside a comment. -/
def Region.after : Region → List Char → Region
  | region, [] => region
  | code, '/' :: '/' :: rest => lineComment.after rest
  | code, '/' :: '*' :: rest => blockComment.after rest
  | code, '"' :: rest => quoted.after rest
  | code, _ :: rest => code.after rest
  | quoted, '\\' :: _ :: rest => quoted.after rest
  | quoted, '"' :: rest => code.after rest
  | quoted, _ :: rest => quoted.after rest
  | lineComment, '\n' :: rest => code.after rest
  | lineComment, _ :: rest => lineComment.after rest
  | blockComment, '*' :: '/' :: rest => code.after rest
  | blockComment, _ :: rest => blockComment.after rest

theorem Region.afterPlain {c : Char} (slash : c ≠ '/') (quote : c ≠ '"') (rest : List Char) :
    code.after (c :: rest) = code.after rest := by
  rw [Region.after]
  all_goals simp_all

def Gap.region : Gap → Region
  | blank => .code
  | lineComment => .lineComment
  | blockComment _ => .blockComment

/-- The gap as it would be with its comment begun on another line. -/
def Gap.begun (start : Nat) : Gap → Gap
  | blockComment _ => blockComment start
  | gap => gap

theorem lineAfterSame {line line' last last' : Nat} {c : Char}
    (lines : last' + lineAfter line c = lineAfter line' c + last) : last' + line = line' + last := by
  unfold lineAfter at lines
  split at lines <;> omega

theorem skipGapBefore {gap : Gap} {line last : Nat} {text rest : List Char}
    (skipped : skipGap gap line text = .ok (last, rest)) (start line' : Nat) :
    ∃ ending last', last' + line = line' + last ∧ (ending = .blank ∨ ending = .lineComment ∧ rest = []) ∧
      ending.region.after rest = gap.region.after text ∧
      ∀ more, skipGap (gap.begun start) line' (text ++ more) = skipGap ending last' (rest ++ more) := by
  fun_induction skipGap gap line text generalizing start line' with
  | case1 line =>
    cases skipped
    exact ⟨.blank, line', by omega, .inl rfl, rfl, fun _ => rfl⟩
  | case2 line text ih => exact ih skipped start line'
  | case3 line text ih => exact ih skipped line' line'
  | case4 line c text noLine noBlock blank ih =>
    have plain : c ≠ '/' ∧ c ≠ '"' := by
      constructor <;> rintro rfl <;> exact absurd blank (by decide)
    obtain ⟨ending, last', lines, kind, region, same⟩ := ih skipped start (lineAfter line' c)
    refine ⟨ending, last', lineAfterSame lines, kind, ?_, fun more => ?_⟩
    · exact region.trans (Region.afterPlain plain.1 plain.2 text).symm
    · rw [← same more, List.cons_append, Gap.begun, skipGap, if_pos blank]
      all_goals simp_all [Gap.begun]
  | case5 line c text noLine noBlock filled =>
    cases skipped
    exact ⟨.blank, line', by omega, .inl rfl, rfl, fun _ => rfl⟩
  | case6 line =>
    cases skipped
    exact ⟨.lineComment, line', by omega, .inr ⟨rfl, rfl⟩, rfl, fun _ => rfl⟩
  | case7 line text ih =>
    obtain ⟨ending, last', lines, kind, region, same⟩ := ih skipped start (line' + 1)
    exact ⟨ending, last', by omega, kind, region, same⟩
  | case8 line c text other ih =>
    obtain ⟨ending, last', lines, kind, region, same⟩ := ih skipped start line'
    refine ⟨ending, last', lines, kind, ?_, fun more => ?_⟩
    · rw [region, Gap.region, Region.after]
      all_goals simp_all
    · rw [← same more]
      simp [Gap.begun, skipGap, other]
  | case9 start => cases skipped
  | case10 start' line text ih => exact ih skipped start line'
  | case11 start' line c text inside ih =>
    obtain ⟨ending, last', lines, kind, region, same⟩ := ih skipped start (lineAfter line' c)
    refine ⟨ending, last', lineAfterSame lines, kind, ?_, fun more => ?_⟩
    · rw [region, Gap.region, Region.after]
      all_goals simp_all
    · rw [← same more, List.cons_append, Gap.begun, skipGap]
      -- A star at the very end leaves the comment open, and then nothing was skipped.
      intro rest star next
      cases text with
      | nil => cases skipped
      | cons d text => simp_all

theorem skipGapStops {gap : Gap} {line last : Nat} {text rest : List Char} {c : Char}
    (skipped : skipGap gap line text = .ok (last, c :: rest)) :
    Text.isBlank c = false ∧ (c = '/' → rest.head? ≠ some '/' ∧ rest.head? ≠ some '*') := by
  fun_induction skipGap gap line text with
  | case5 line c text noLine noBlock filled =>
    cases skipped
    refine ⟨by simpa using filled, fun slash => ?_⟩
    cases rest <;> simp_all
  | case1 | case6 | case9 => cases skipped
  | case2 _ _ ih | case3 _ _ ih | case4 _ _ _ _ _ _ ih | case7 _ _ ih | case8 _ _ _ _ ih
  | case10 _ _ _ ih | case11 _ _ _ _ _ ih => exact ih skipped

/-- A character that goes on with no number, name or mark. -/
structure Parting (stop : Char) : Prop where
  digits : ∀ radix, isDigitOrGap radix stop = false
  digit : stop.isDigit = false
  words : Text.isWordPart stop = false
  marks : ∀ mark : Mark, mark.extend? stop = none
  point : stop ≠ '.'

/-- One that does not make a comment of a slash either. -/
structure Breaks (stop : Char) : Prop extends Parting stop where
  comments : stop ≠ '/' ∧ stop ≠ '*'

theorem breaksQuestion : Breaks '?' where
  digits radix := by cases radix <;> decide
  digit := by decide
  words := by decide +kernel
  marks mark := by cases mark <;> rfl
  point := by decide
  comments := by decide

theorem breaksNewline : Breaks '\n' where
  digits radix := by cases radix <;> decide
  digit := by decide
  words := by decide +kernel
  marks mark := by cases mark <;> rfl
  point := by decide
  comments := by decide

theorem Parting.noSign {stop : Char} (parting : Parting stop) : stop ≠ '-' ∧ stop ≠ '+' := by
  constructor
  · rintro rfl
    cases parting.marks .minus
  · rintro rfl
    cases parting.marks .plus

theorem Parting.noExponent {stop : Char} (parting : Parting stop) : stop ≠ 'e' ∧ stop ≠ 'E' := by
  constructor <;> rintro rfl <;> exact absurd (parting.digits .hexadecimal) (by decide)

theorem Parting.noRadix {stop : Char} (parting : Parting stop) :
    stop ≠ 'x' ∧ stop ≠ 'X' ∧ stop ≠ 'b' ∧ stop ≠ 'B' := by
  refine ⟨?_, ?_, ?_, ?_⟩ <;> rintro rfl <;> exact absurd parting.words (by decide +kernel)

/-- Nothing stands behind the cut, or such a character. -/
def Severed (more : List Char) : Prop := ∀ stop rest, more = stop :: rest → Breaks stop

/-- What stands behind the cut goes on with no token, but may begin a comment. -/
def Parted (more : List Char) : Prop := ∀ stop rest, more = stop :: rest → Parting stop

theorem Severed.parted {more : List Char} (severed : Severed more) : Parted more :=
  fun stop rest same => (severed stop rest same).toParting

theorem severedNil : Severed [] := nofun

theorem Breaks.severed {stop : Char} (breaks : Breaks stop) (rest : List Char) : Severed (stop :: rest) := by
  intro stop' rest' same
  cases same
  exact breaks

theorem skipGapStands {c : Char} {text : List Char} (filled : Text.isBlank c = false)
    (apart : c = '/' → text.head? ≠ some '/' ∧ text.head? ≠ some '*') (line : Nat) :
    skipGap .blank line (c :: text) = .ok (line, c :: text) := by
  rw [skipGap, if_neg (by simp [filled])]
  all_goals
    intro behind slash same
    rw [same] at apart
    simp_all

theorem skipGapEnded {gap : Gap} {line last : Nat} {text rest more : List Char} {c : Char}
    (skipped : skipGap gap line text = .ok (last, c :: rest)) (severed : Severed more) (line' : Nat) :
    skipGap .blank line' (c :: (rest ++ more)) = .ok (line', c :: (rest ++ more)) := by
  obtain ⟨filled, apart⟩ := skipGapStops skipped
  -- A slash at the end of the first part does not become a comment.
  refine skipGapStands filled (fun slash => ?_) line'
  cases rest with
  | cons d rest => exact apart slash
  | nil =>
    cases more with
    | nil => simp
    | cons stop more => simpa using (severed stop more rfl).comments

section

variable {p : Char → Bool} {text more : List Char}

theorem takeWhileBefore (stops : ∀ stop rest, more = stop :: rest → p stop = false) :
    (text ++ more).takeWhile p = text.takeWhile p := by
  induction text with
  | nil => cases more <;> simp_all
  | cons c text ih => by_cases held : p c = true <;> simp [held, ih]

theorem dropWhileBefore (stops : ∀ stop rest, more = stop :: rest → p stop = false) :
    (text ++ more).dropWhile p = text.dropWhile p ++ more := by
  induction text with
  | nil => cases more <;> simp_all
  | cons c text ih => by_cases held : p c = true <;> simp [held, ih]

end

theorem noEscape {c : Char} {rest : List Char} (lone : c = '\\' → rest = [] → False)
    (escape : ∀ d behind, c = '\\' → rest = d :: behind → False) : c ≠ '\\' := by
  intro same
  cases rest with
  | nil => exact lone same rfl
  | cons d behind => exact escape d behind same rfl

theorem readQuotedBefore {line : Nat} {text : List Char} {read : List Char × Nat × List Char}
    (ok : readQuoted line text = some read) (line' : Nat) (more : List Char) :
    ∃ last, last + line = line' + read.2.1 ∧
      readQuoted line' (text ++ more) = some (read.1, last, read.2.2 ++ more) := by
  fun_induction readQuoted line text generalizing read line' with
  | case1 | case3 => cases ok
  | case2 line rest =>
    cases ok
    exact ⟨line', rfl, rfl⟩
  | case4 line c rest ih =>
    obtain ⟨inner, found, rfl⟩ := Option.map_eq_some_iff.mp ok
    obtain ⟨last, lines, read⟩ := ih found (lineAfter line' c)
    refine ⟨last, lineAfterSame lines, by simp [readQuoted, read]⟩
  | case5 line c rest quote lone escape ih =>
    obtain ⟨inner, found, rfl⟩ := Option.map_eq_some_iff.mp ok
    obtain ⟨last, lines, read⟩ := ih found (lineAfter line' c)
    have plain := noEscape lone escape
    refine ⟨last, lineAfterSame lines, ?_⟩
    rw [List.cons_append, readQuoted, read]
    all_goals simp_all

section

variable {more : List Char} (parted : Parted more)
include parted

theorem digitRunBefore (radix : Numeral.Radix) (text : List Char) :
    digitRun radix (text ++ more) = ((digitRun radix text).1, (digitRun radix text).2 ++ more) := by
  have stops : ∀ stop rest, more = stop :: rest → isDigitOrGap radix stop = false :=
    fun stop rest same => (parted stop rest same).digits radix
  simp only [digitRun, takeWhileBefore stops, dropWhileBefore stops]

theorem splitFractionBefore (text : List Char) :
    splitFractionDigits (text ++ more) =
      ((splitFractionDigits text).1, (splitFractionDigits text).2 ++ more) := by
  fun_cases splitFractionDigits text with
  | case1 c rest digit digits rest' run =>
    have run' := digitRunBefore parted .decimal (c :: rest)
    rw [List.cons_append, run] at run'
    simp [splitFractionDigits, digit, run']
  | case2 c rest other => simp [splitFractionDigits, other]
  | case3 text other =>
    cases text with
    | nil =>
      cases more with
      | nil => rfl
      | cons stop more =>
        have point := (parted stop more rfl).point
        simp [splitFractionDigits, point]
    | cons c text =>
      cases text with
      | cons d text => simp_all [splitFractionDigits]
      | nil =>
        cases more with
        | nil => simp_all [splitFractionDigits]
        | cons stop more =>
          have digit := (parted stop more rfl).digit
          by_cases point : c = '.' <;> simp_all [splitFractionDigits]

theorem splitSignBefore (text : List Char) :
    Numeral.splitSign (text ++ more) = ((Numeral.splitSign text).1, (Numeral.splitSign text).2 ++ more) := by
  fun_cases Numeral.splitSign text with
  | case1 | case2 => simp [Numeral.splitSign]
  | case3 text minus plus =>
    cases text with
    | cons c text => simp_all [Numeral.splitSign]
    | nil =>
      cases more with
      | nil => rfl
      | cons stop more =>
        have sign := (parted stop more rfl).noSign
        simp [Numeral.splitSign, sign]

theorem splitExponentBefore (text : List Char) :
    splitExponent (text ++ more) = ((splitExponent text).1, (splitExponent text).2 ++ more) := by
  cases text with
  | nil =>
    cases more with
    | nil => rfl
    | cons stop more =>
      have mark := (parted stop more rfl).noExponent
      simp [splitExponent, mark]
  | cons mark rest =>
    have next : (((Numeral.splitSign rest).2 ++ more).head?.map Char.isDigit).getD false =
        ((Numeral.splitSign rest).2.head?.map Char.isDigit).getD false := by
      cases (Numeral.splitSign rest).2 with
      | cons c after => simp
      | nil =>
        cases more with
        | nil => rfl
        | cons stop more => simpa using (parted stop more rfl).digit
    simp only [List.cons_append, splitExponent, splitSignBefore parted, digitRunBefore parted, next]
    split <;> rfl

theorem readPrefixedBefore (radix : Numeral.Radix) (line line' : Nat) (text : List Char) :
    (readPrefixed radix line' (text ++ more)).toOption =
      (readPrefixed radix line text).toOption.map fun read => (read.1, read.2 ++ more) := by
  unfold readPrefixed
  simp only [digitRunBefore parted]
  split <;> rfl

theorem readDecimalBefore (line line' : Nat) (text : List Char) :
    (readDecimal line' (text ++ more)).toOption =
      (readDecimal line text).toOption.map fun read => (read.1, read.2 ++ more) := by
  unfold readDecimal
  simp only [digitRunBefore parted, splitFractionBefore parted, splitExponentBefore parted]
  split
  · split <;> rfl
  · rfl

theorem readNumberBefore {text : List Char} (filled : text ≠ []) (line line' : Nat) :
    (readNumber line' (text ++ more)).toOption =
      (readNumber line text).toOption.map fun read => (read.1, read.2 ++ more) := by
  rw [readNumber.eq_def line text]
  split
  case h_5 =>
    rw [readNumber, readDecimalBefore parted]
    all_goals
      intro behind same
      cases text with
      | nil => contradiction
      | cons c text =>
        cases text with
        | cons d text => simp_all
        | nil =>
          cases more with
          | nil => simp_all
          | cons stop more =>
            have radix := (parted stop more rfl).noRadix
            simp_all
  all_goals exact readPrefixedBefore parted _ line line' _

theorem growBefore (mark : Mark) (text : List Char) :
    mark.grow (text ++ more) = ((mark.grow text).1, (mark.grow text).2 ++ more) := by
  fun_induction Mark.grow mark text with
  | case1 mark =>
    cases more with
    | nil => rfl
    | cons stop more =>
      have stops := (parted stop more rfl).marks mark
      simp [Mark.grow, stops]
  | case2 mark c rest longer extends' ih => simpa [Mark.grow, extends'] using ih
  | case3 mark c rest stops => simp [Mark.grow, stops]

theorem readTokenBefore {line : Nat} {c : Char} {rest : List Char} {read : Token × Nat × List Char}
    (ok : readToken line c rest = .ok read) (line' : Nat) :
    ∃ last, last + line = line' + read.2.1 ∧
      readToken line' c (rest ++ more) = .ok (read.1, last, read.2.2 ++ more) := by
  unfold readToken at ok ⊢
  split at ok
  · rename_i digit
    cases number : readNumber line (c :: rest) with
    | error e => simp [number, Except.map] at ok
    | ok found =>
      have same := readNumberBefore parted (List.cons_ne_nil c rest) line line'
      rw [number] at same
      simp only [number, Except.map, Except.ok.injEq] at ok
      subst ok
      refine ⟨line', rfl, ?_⟩
      rw [if_pos digit, ← List.cons_append, okOfToOption same]
      rfl
  · rename_i noDigit
    rw [if_neg noDigit]
    split at ok
    · rename_i quote
      cases quoted : readQuoted line rest with
      | none => simp [quoted] at ok
      | some found =>
        obtain ⟨last, lines, same⟩ := readQuotedBefore quoted line' more
        simp only [quoted, Except.ok.injEq] at ok
        subst ok
        exact ⟨last, lines, by rw [if_pos quote, same]⟩
    · rename_i noQuote
      rw [if_neg noQuote]
      split at ok
      · rename_i word
        have stops : ∀ stop rest, more = stop :: rest → Text.isWordPart stop = false :=
          fun stop rest same => (parted stop rest same).words
        cases ok
        exact ⟨line', rfl, by rw [if_pos word, takeWhileBefore stops, dropWhileBefore stops]⟩
      · rename_i noWord
        rw [if_neg noWord]
        split at ok
        · rename_i mark found
          cases ok
          exact ⟨line', rfl, by simp only [growBefore parted]⟩
        · cases ok
          exact ⟨line', rfl, rfl⟩

end

/-- A relation between a text and what is left of it that allows to leave out the characters inside of numbers, names
and marks. -/
structure Passing (leaves : List Char → List Char → Prop) : Prop where
  refl : ∀ text, leaves text text
  trans : ∀ {text middle rest}, leaves text middle → leaves middle rest → leaves text rest
  plain : ∀ c rest, c ≠ '/' → c ≠ '"' → c ≠ '\n' → leaves (c :: rest) rest

section

variable {leaves : List Char → List Char → Prop} (passing : Passing leaves)
include passing

theorem dropWhilePasses {p : Char → Bool} (stops : p '/' = false ∧ p '"' = false ∧ p '\n' = false)
    (text : List Char) : leaves text (text.dropWhile p) := by
  induction text with
  | nil => exact passing.refl []
  | cons c text ih =>
    by_cases held : p c = true
    · have plain : c ≠ '/' ∧ c ≠ '"' ∧ c ≠ '\n' := by
        refine ⟨?_, ?_, ?_⟩ <;> rintro rfl <;> simp_all
      rw [List.dropWhile_cons_of_pos held]
      exact passing.trans (passing.plain c text plain.1 plain.2.1 plain.2.2) ih
    · rw [List.dropWhile_cons_of_neg held]
      exact passing.refl _

theorem digitRunPasses (radix : Numeral.Radix) (text : List Char) : leaves text (digitRun radix text).2 :=
  dropWhilePasses passing (by cases radix <;> decide) text

theorem splitFractionPasses (text : List Char) : leaves text (splitFractionDigits text).2 := by
  fun_cases splitFractionDigits text with
  | case1 c rest digit digits rest' run =>
    have later := digitRunPasses passing .decimal (c :: rest)
    rw [run] at later
    exact passing.trans (passing.plain '.' _ (by decide) (by decide) (by decide)) later
  | case2 => exact passing.refl _
  | case3 => exact passing.refl _

theorem splitSignPasses (text : List Char) : leaves text (Numeral.splitSign text).2 := by
  fun_cases Numeral.splitSign text with
  | case1 | case2 => exact passing.plain _ _ (by decide) (by decide) (by decide)
  | case3 => exact passing.refl _

theorem splitExponentPasses (text : List Char) : leaves text (splitExponent text).2 := by
  cases text with
  | nil => exact passing.refl []
  | cons mark rest =>
    simp only [splitExponent]
    split
    · rename_i found
      have plain : mark ≠ '/' ∧ mark ≠ '"' ∧ mark ≠ '\n' := by
        rcases found.1 with rfl | rfl <;> decide
      refine passing.trans (passing.plain mark rest plain.1 plain.2.1 plain.2.2) ?_
      exact passing.trans (splitSignPasses passing rest) (digitRunPasses passing .decimal _)
    · exact passing.refl _

theorem readPrefixedPasses {radix : Numeral.Radix} {line : Nat} {text : List Char} {read : Token × List Char}
    (ok : readPrefixed radix line text = .ok read) : leaves text read.2 := by
  unfold readPrefixed at ok
  dsimp only at ok
  split at ok <;> cases ok
  exact digitRunPasses passing radix text

theorem readDecimalPasses {line : Nat} {text : List Char} {read : Token × List Char}
    (ok : readDecimal line text = .ok read) : leaves text read.2 := by
  have passes : leaves text (splitExponent (splitFractionDigits (digitRun .decimal text).2).2).2 :=
    passing.trans (digitRunPasses passing .decimal text)
      (passing.trans (splitFractionPasses passing _) (splitExponentPasses passing _))
  unfold readDecimal at ok
  dsimp only at ok
  split at ok
  · split at ok <;> cases ok
    exact passes
  · cases ok
    exact passes

theorem readNumberPasses {line : Nat} {text : List Char} {read : Token × List Char}
    (ok : readNumber line text = .ok read) : leaves text read.2 := by
  unfold readNumber at ok
  split at ok
  case h_5 => exact readDecimalPasses passing ok
  all_goals
    refine passing.trans (passing.plain _ _ (by decide) (by decide) (by decide)) ?_
    exact passing.trans (passing.plain _ _ (by decide) (by decide) (by decide)) (readPrefixedPasses passing ok)

theorem growPasses (mark : Mark) (text : List Char) : leaves text (mark.grow text).2 := by
  fun_induction Mark.grow mark text with
  | case1 => exact passing.refl []
  | case2 mark c rest longer extends' ih =>
    have plain : c ≠ '/' ∧ c ≠ '"' ∧ c ≠ '\n' := by
      refine ⟨?_, ?_, ?_⟩ <;> rintro rfl <;> cases mark <;> cases extends'
    exact passing.trans (passing.plain c rest plain.1 plain.2.1 plain.2.2) ih
  | case3 => exact passing.refl _

theorem readTokenPasses {line : Nat} {c : Char} {rest : List Char} {read : Token × Nat × List Char}
    (ok : readToken line c rest = .ok read) (noQuote : c ≠ '"') :
    (leaves rest read.2.2 ∨ c.isDigit = true ∧ leaves (c :: rest) read.2.2) ∧ read.2.1 = line := by
  unfold readToken at ok
  split at ok
  · rename_i digit
    cases number : readNumber line (c :: rest) with
    | error e => simp [number, Except.map] at ok
    | ok found =>
      simp only [number, Except.map, Except.ok.injEq] at ok
      subst ok
      exact ⟨.inr ⟨digit, readNumberPasses passing number⟩, rfl⟩
  · split at ok
    · cases ok
      exact ⟨.inl (dropWhilePasses passing (by decide +kernel) rest), rfl⟩
    · split at ok <;> cases ok
      · exact ⟨.inl (growPasses passing _ rest), rfl⟩
      · exact ⟨.inl (passing.refl rest), rfl⟩

end

/-- A measure of texts that the characters inside of numbers, names and marks do not change. -/
def Blind {β : Type} (m : List Char → β) : Prop :=
  ∀ c rest, c ≠ '/' → c ≠ '"' → c ≠ '\n' → m (c :: rest) = m rest

theorem Blind.passing {β : Type} {m : List Char → β} (blind : Blind m) : Passing fun text rest => m rest = m text where
  refl _ := rfl
  trans first later := later.trans first
  plain c rest slash quote newline := (blind c rest slash quote newline).symm

theorem readTokenKeeps {β : Type} {m : List Char → β} (blind : Blind m) {line : Nat} {c : Char} {rest : List Char}
    {read : Token × Nat × List Char} (ok : readToken line c rest = .ok read) (noQuote : c ≠ '"') :
    m read.2.2 = m rest ∧ read.2.1 = line := by
  obtain ⟨same | ⟨digit, same⟩, stays⟩ := readTokenPasses blind.passing ok noQuote
  · exact ⟨same, stays⟩
  · have plain : c ≠ '/' ∧ c ≠ '\n' := by
      constructor <;> rintro rfl <;> cases digit
    exact ⟨same.trans (blind c rest plain.1 noQuote plain.2), stays⟩

theorem readTokenQuoted {line : Nat} {rest : List Char} {read : Token × Nat × List Char}
    (ok : readToken line '"' rest = .ok read) :
    ∃ found, readQuoted line rest = some found ∧ read = (.str (String.ofList found.1), found.2) := by
  unfold readToken at ok
  rw [if_neg (by decide), if_pos rfl] at ok
  cases quoted : readQuoted line rest with
  | none => simp [quoted] at ok
  | some found =>
    simp only [quoted, Except.ok.injEq] at ok
    exact ⟨found, rfl, ok.symm⟩

theorem suffixPassing : Passing fun text rest => rest <:+ text where
  refl := List.suffix_refl
  trans first later := later.trans first
  plain c rest _ _ _ := List.suffix_cons c rest

theorem readQuotedSuffix {line : Nat} {text : List Char} {read : List Char × Nat × List Char}
    (ok : readQuoted line text = some read) : read.2.2 <:+ text := by
  fun_induction readQuoted line text generalizing read with
  | case1 | case3 => cases ok
  | case2 line rest =>
    cases ok
    exact List.suffix_cons _ rest
  | case4 line c rest ih =>
    obtain ⟨inner, found, rfl⟩ := Option.map_eq_some_iff.mp ok
    exact (ih found).trans ((List.suffix_cons c rest).trans (List.suffix_cons _ _))
  | case5 line c rest _ _ _ ih =>
    obtain ⟨inner, found, rfl⟩ := Option.map_eq_some_iff.mp ok
    exact (ih found).trans (List.suffix_cons c rest)

theorem readTokenSuffix {line : Nat} {c : Char} {rest : List Char} {read : Token × Nat × List Char}
    (ok : readToken line c rest = .ok read) : read.2.2 <:+ rest := by
  by_cases quote : c = '"'
  · subst quote
    obtain ⟨found, quoted, rfl⟩ := readTokenQuoted ok
    exact readQuotedSuffix quoted
  · rcases (readTokenPasses suffixPassing ok quote).1 with inside | ⟨_, inside⟩
    · exact inside
    · exact List.suffix_of_suffix_length_le inside (List.suffix_cons c rest) (readTokenLength ok)

end CircuitScript
