import CircuitScript.Proofs.Accepted
import CircuitScript.Proofs.Joined
import CircuitScript.Proofs.Sections

/-! Where the reader of tokens stands, and on which line. A source is cut into stretches, each a token behind the gap
in front of it, and the line of a token counts the line breaks before its first character. -/
namespace CircuitScript

theorem lineBreaksAppend (before after : List Char) :
    lineBreaks (before ++ after) = lineBreaks before + lineBreaks after :=
  List.count_append

theorem lineAfterAll (line : Nat) (text : List Char) : text.foldl lineAfter line = line + lineBreaks text := by
  induction text generalizing line with
  | nil => rfl
  | cons c text ih => rw [List.foldl_cons, ih, lineBreaksCons]

theorem skipGapSuffix {gap : Gap} {line last : Nat} {text rest : List Char}
    (skipped : skipGap gap line text = .ok (last, rest)) : rest <:+ text := by
  fun_induction skipGap gap line text with
  | case1 | case5 | case6 =>
    cases skipped
    exact List.suffix_refl _
  | case2 line text ih | case3 line text ih | case10 start line text ih =>
    exact (ih skipped).trans ((List.suffix_cons _ text).trans (List.suffix_cons _ _))
  | case4 line c text _ _ _ ih | case8 line c text _ ih | case11 start line c text _ ih =>
    exact (ih skipped).trans (List.suffix_cons c text)
  | case7 line text ih => exact (ih skipped).trans (List.suffix_cons _ text)
  | case9 => cases skipped

theorem skipGapCut {gap : Gap} {line last : Nat} {text rest : List Char}
    (skipped : skipGap gap line text = .ok (last, rest)) :
    ∃ before, text = before ++ rest ∧ last = line + lineBreaks before := by
  obtain ⟨before, rfl⟩ := skipGapSuffix skipped
  have breaks := skipGapBreaks skipped
  rw [lineBreaksAppend] at breaks
  exact ⟨before, rfl, by omega⟩

theorem readTokenCut {line there : Nat} {c : Char} {rest behind : List Char} {token : Token}
    (ok : readToken line c rest = .ok (token, there, behind)) (filled : Text.isBlank c = false) :
    ∃ taken, rest = taken ++ behind ∧ there = line + lineBreaks (c :: taken) := by
  obtain ⟨taken, rfl⟩ := readTokenSuffix ok
  have breaks := readTokenBreaks ok filled
  simp only at breaks
  rw [← List.cons_append, lineBreaksAppend] at breaks
  exact ⟨taken, rfl, by omega⟩

theorem splitTextCut (text : List Char) : (splitText text).1 ++ (splitText text).2 = text := by
  fun_induction splitText text with
  | case1 | case2 => rfl
  | case3 c rest _ text after cut ih =>
    rw [cut] at ih
    rw [List.cons_append, ih]

/-- The line that a gap began on, as far as it is remembered. -/
def Gap.since (line : Nat) : Gap → Nat
  | .blockComment start => start
  | _ => line

theorem lineAfterLe (line : Nat) (c : Char) : line ≤ lineAfter line c := by
  unfold lineAfter
  split <;> omega

theorem skipGapRefused {gap : Gap} {line : Nat} {text : List Char} {e : ParseError}
    (refused : skipGap gap line text = .error e) (began : gap.since line ≤ line) :
    gap.since line ≤ e.line ∧ e.line ≤ line + lineBreaks text := by
  fun_induction skipGap gap line text with
  | case1 | case5 | case6 => cases refused
  | case2 line text ih =>
    rw [lineBreaksPlain (by decide), lineBreaksPlain (by decide)]
    exact ih refused (Nat.le_refl line)
  | case3 line text ih =>
    rw [lineBreaksPlain (by decide), lineBreaksPlain (by decide)]
    exact ih refused (Nat.le_refl line)
  | case4 line c text _ _ _ ih =>
    have inside := ih refused (Nat.le_refl _)
    rw [lineBreaksCons]
    exact ⟨Nat.le_trans (lineAfterLe line c) inside.1, inside.2⟩
  | case7 line text ih =>
    have inside := ih refused (Nat.le_refl _)
    rw [lineBreaksCons]
    exact ⟨Nat.le_of_succ_le inside.1, inside.2⟩
  | case8 line c text other ih =>
    rw [lineBreaksPlain other]
    exact ih refused (Nat.le_refl line)
  | case9 start line =>
    cases refused
    exact ⟨Nat.le_refl start, Nat.le_trans began (Nat.le_add_right line _)⟩
  | case10 start line text ih =>
    have inside := ih refused (Nat.le_refl line)
    rw [lineBreaksPlain (by decide), lineBreaksPlain (by decide)]
    exact ⟨Nat.le_trans began inside.1, inside.2⟩
  | case11 start line c text _ ih =>
    rw [lineBreaksCons]
    exact ih refused (Nat.le_trans began (lineAfterLe line c))

theorem readPrefixedRefused {radix : Numeral.Radix} {line : Nat} {text : List Char} {e : ParseError}
    (refused : readPrefixed radix line text = .error e) : e.line = line := by
  unfold readPrefixed at refused
  dsimp only at refused
  split at refused <;> cases refused
  rfl

theorem readDecimalRefused {line : Nat} {text : List Char} {e : ParseError}
    (refused : readDecimal line text = .error e) : e.line = line := by
  unfold readDecimal at refused
  dsimp only at refused
  split at refused
  · split at refused <;> cases refused
    rfl
  · cases refused

theorem readNumberRefused {line : Nat} {text : List Char} {e : ParseError}
    (refused : readNumber line text = .error e) : e.line = line := by
  unfold readNumber at refused
  split at refused
  case h_5 => exact readDecimalRefused refused
  all_goals exact readPrefixedRefused refused

theorem readTokenRefused {line : Nat} {c : Char} {rest : List Char} {e : ParseError}
    (refused : readToken line c rest = .error e) : e.line = line := by
  unfold readToken at refused
  split at refused
  · cases number : readNumber line (c :: rest) with
    | error e' =>
      rw [number] at refused
      cases refused
      exact readNumberRefused number
    | ok found =>
      rw [number] at refused
      cases refused
  · split at refused
    · split at refused <;> cases refused
      rfl
    · split at refused
      · cases refused
      · split at refused <;> cases refused

/-- A token of a source with its own characters, and the gap in front of them. -/
structure Stretch where
  gap : List Char
  taken : List Char
  lexeme : Lexeme

namespace Stretch

def joined (stretches : List Stretch) : List Char := stretches.flatMap fun stretch => stretch.gap ++ stretch.taken

/-- White space and comments in front of a token of code, behind the opening of a section if one stands there. -/
def Spaced (templated : Bool) (gap behind : List Char) : Prop :=
  ∃ opening spacing line last, gap = opening ++ spacing ∧
    (opening = [] ∨ templated = true ∧ opening = ['<', '?']) ∧
    skipGap .blank line (spacing ++ behind) = .ok (last, behind)

/-- The characters of a stretch spell its token, in front of what stands behind it. -/
inductive Spelled (templated : Bool) : Stretch → List Char → Prop
  | text {line : Nat} {taken behind : List Char} (template : templated = true) (filled : taken ≠ [])
    (split : splitText (taken ++ behind) = (taken, behind)) :
    Spelled templated ⟨[], taken, ⟨line, .text (String.ofList taken)⟩⟩ behind
  | opening {line : Nat} {behind : List Char} (template : templated = true) :
    Spelled templated ⟨[], ['<', '?', '='], ⟨line, .echoOpen⟩⟩ behind
  | closing {gap : List Char} {mode : Mode} {line : Nat} {behind : List Char} (template : templated = true)
    (spaced : Spaced templated gap (['?', '>'] ++ behind)) :
    Spelled templated ⟨gap, ['?', '>'], ⟨line, Scan.closing mode⟩⟩ behind
  | code {gap taken behind : List Char} {c : Char} {line there : Nat} {token : Token}
    (spaced : Spaced templated gap (c :: taken ++ behind))
    (read : readToken line c (taken ++ behind) = .ok (token, there, behind)) :
    Spelled templated ⟨gap, c :: taken, ⟨line, token⟩⟩ behind
  | ending {gap : List Char} {line : Nat} (spaced : Spaced templated gap []) :
    Spelled templated ⟨gap, [], ⟨line, .eof⟩⟩ []

theorem Spaced.nothing (templated : Bool) : Spaced templated [] [] := ⟨[], [], 0, 0, rfl, .inl rfl, rfl⟩

variable {templated : Bool} {stretch : Stretch} {behind : List Char}

theorem Spelled.takes (spelled : stretch.Spelled templated behind) (more : stretch.lexeme.token ≠ .eof) :
    stretch.taken ≠ [] := by
  cases spelled with
  | text _ filled _ => exact filled
  | opening | closing | code => exact List.cons_ne_nil _ _
  | ending => exact absurd rfl more

theorem Spelled.ends (spelled : stretch.Spelled templated behind) (ended : stretch.lexeme.token = .eof) :
    stretch.taken = [] ∧ behind = [] := by
  cases spelled with
  | text | opening => cases ended
  | @closing _ mode => cases mode <;> cases ended
  | code _ read => exact absurd ended (readTokenLexed read).1
  | ending => exact ⟨rfl, rfl⟩

end Stretch

namespace Scan

variable {templated : Bool} {scan after : Scan} {lexeme : Lexeme}

/-- From one scan to another the characters of a stretch are passed, and their line breaks counted. -/
structure Passes (templated : Bool) (scan : Scan) (stretch : Stretch) (after : Scan) : Prop where
  cut : scan.rest = stretch.gap ++ stretch.taken ++ after.rest
  starts : stretch.lexeme.line = scan.line + lineBreaks stretch.gap
  ends : after.line = stretch.lexeme.line + lineBreaks stretch.taken
  spelled : stretch.Spelled templated after.rest
  mode : after.mode = .text → scan.mode = .text ∨ templated = true

theorem nextCodePasses (read : nextCode templated scan = .ok (lexeme, after)) {opening : List Char}
    (opened : opening = [] ∨ templated = true ∧ opening = ['<', '?']) :
    ∃ gap taken,
      Passes templated ⟨scan.mode, scan.line, opening ++ scan.rest⟩ ⟨opening ++ gap, taken, lexeme⟩ after := by
  have plain : lineBreaks opening = 0 := by
    rcases opened with rfl | ⟨_, rfl⟩ <;> rfl
  unfold nextCode at read
  cases skipped : skipGap .blank scan.line scan.rest with
  | error e => simp [skipped, bind, Except.bind] at read
  | ok found =>
    obtain ⟨last, rest⟩ := found
    obtain ⟨gap, cut, rfl⟩ := skipGapCut skipped
    have spaced : Stretch.Spaced templated (opening ++ gap) rest := by
      rw [cut] at skipped
      exact ⟨opening, gap, _, _, rfl, opened, skipped⟩
    have counted : scan.line + lineBreaks gap = scan.line + lineBreaks (opening ++ gap) := by
      rw [lineBreaksAppend, plain, Nat.zero_add]
    simp only [skipped, bind, Except.bind] at read
    split at read
    · cases read
      refine ⟨gap, ['?', '>'], by simp [cut], counted, rfl, .closing rfl spaced, fun _ => .inr rfl⟩
    · cases read
      exact ⟨gap, [], by simp [cut], counted, rfl, .ending spaced, .inl⟩
    · rename_i c rest _
      cases token : readToken (scan.line + lineBreaks gap) c rest with
      | error e => simp [token] at read
      | ok found =>
        obtain ⟨_, there, left⟩ := found
        obtain ⟨taken, rfl, rfl⟩ := readTokenCut token (skipGapStops skipped).1
        simp only [token] at read
        cases read
        exact ⟨gap, c :: taken, by simp [cut], counted, rfl, .code spaced token, .inl⟩

theorem nextPasses (read : scan.next templated = .ok (lexeme, after)) (allowed : scan.mode = .text → templated = true) :
    ∃ gap taken, Passes templated scan ⟨gap, taken, lexeme⟩ after := by
  obtain ⟨mode, line, rest⟩ := scan
  unfold next at read
  split at read
  case h_1 same empty =>
    cases same
    cases empty
    cases read
    exact ⟨[], [], rfl, rfl, rfl, .ending (.nothing templated), .inl⟩
  case h_2 same shape =>
    cases same
    cases shape
    cases read
    exact ⟨[], ['<', '?', '='], rfl, rfl, rfl, .opening (allowed rfl), fun _ => .inl rfl⟩
  case h_3 same shape =>
    cases same
    cases shape
    obtain ⟨gap, taken, passes⟩ := nextCodePasses read (.inr ⟨allowed rfl, rfl⟩)
    exact ⟨_, taken, passes.cut, passes.starts, passes.ends, passes.spelled, fun _ => .inl rfl⟩
  case h_4 same filled _ plain =>
    obtain rfl : mode = .text := same
    cases shape : splitText rest with
    | mk taken behind =>
      have cut := splitTextCut rest
      have shorter := splitTextLengthLt filled plain
      simp only [shape] at cut shorter read
      subst cut
      cases read
      refine ⟨[], taken, rfl, rfl, lineAfterAll line taken, .text (allowed rfl) ?_ shape, .inl⟩
      rintro rfl
      exact Nat.lt_irrefl _ shorter
  case h_5 =>
    obtain ⟨gap, taken, passes⟩ := nextCodePasses read (.inl rfl)
    exact ⟨_, taken, passes⟩

theorem nextCodeRefused {e : ParseError} (refused : nextCode templated scan = .error e) :
    scan.line ≤ e.line ∧ e.line ≤ scan.line + lineBreaks scan.rest := by
  unfold nextCode at refused
  cases skipped : skipGap .blank scan.line scan.rest with
  | error e' =>
    simp only [skipped, bind, Except.bind] at refused
    cases refused
    exact skipGapRefused skipped (Nat.le_refl _)
  | ok found =>
    obtain ⟨last, rest⟩ := found
    obtain ⟨gap, cut, rfl⟩ := skipGapCut skipped
    simp only [skipped, bind, Except.bind] at refused
    split at refused
    · cases refused
    · cases refused
    · rename_i c rest _
      cases token : readToken (scan.line + lineBreaks gap) c rest with
      | error e' =>
        simp only [token] at refused
        cases refused
        rw [readTokenRefused token, cut, lineBreaksAppend]
        omega
      | ok found => simp [token] at refused

theorem nextRefused {e : ParseError} (refused : scan.next templated = .error e) :
    scan.line ≤ e.line ∧ e.line ≤ scan.line + lineBreaks scan.rest := by
  obtain ⟨mode, line, rest⟩ := scan
  unfold next at refused
  split at refused
  case h_3 same shape =>
    cases shape
    have inside := nextCodeRefused refused
    rw [lineBreaksPlain (by decide), lineBreaksPlain (by decide)]
    exact inside
  case h_5 => exact nextCodeRefused refused
  all_goals cases refused

theorem tokensRefusedCases {e : ParseError} (refused : scan.tokens templated = .error e) :
    scan.next templated = .error e ∨ ∃ lexeme after, scan.next templated = .ok (lexeme, after) ∧
      lexeme.token.isEof = false ∧ after.tokens templated = .error e := by
  rw [tokens] at refused
  split at refused
  · rename_i found
    cases refused
    exact .inl found
  · rename_i lexeme after found
    split at refused
    · rename_i more
      cases later : after.tokens templated with
      | error e' =>
        rw [later] at refused
        cases refused
        exact .inr ⟨lexeme, after, found, more, later⟩
      | ok row =>
        rw [later] at refused
        cases refused
    · cases refused

/-- The section of statements that begins where the scan stands. -/
def opens? (scan : Scan) : Option Scan :=
  match scan.mode, scan.rest with
  | .text, '<' :: '?' :: '=' :: _ => none
  | .text, '<' :: '?' :: rest => some ⟨.code, scan.line, rest⟩
  | _, _ => none

/-- One call of the reader: the opening of a section of statements is passed without giving a token. -/
def call (templated : Bool) (scan : Scan) : Except ParseError (Option Lexeme × Scan) :=
  match scan.opens? with
  | some inside => .ok (none, inside)
  | none => (scan.next templated).map fun (lexeme, after) => (some lexeme, after)

theorem opensCases {inside : Scan} (opens : scan.opens? = some inside) :
    scan.rest = ['<', '?'] ++ inside.rest ∧ inside.line = scan.line ∧ scan.mode = .text ∧ inside.opens? = none ∧
      ∀ templated, scan.next templated = inside.next templated := by
  obtain ⟨mode, line, rest⟩ := scan
  unfold opens? at opens
  split at opens
  · cases opens
  · rename_i plain same shape
    cases opens
    cases same
    cases shape
    refine ⟨rfl, rfl, rfl, rfl, fun templated => ?_⟩
    rw [nextInCode .code (by decide)]
    unfold next
    split <;> simp_all
  · cases opens

theorem callCases {found : Option Lexeme} (called : scan.call templated = .ok (found, after)) :
    (found = none ∧ scan.opens? = some after) ∨
      ∃ lexeme, found = some lexeme ∧ scan.opens? = none ∧ scan.next templated = .ok (lexeme, after) := by
  unfold call at called
  cases opens : scan.opens? with
  | some inside =>
    rw [opens] at called
    cases called
    exact .inl ⟨rfl, rfl⟩
  | none =>
    rw [opens] at called
    cases read : scan.next templated with
    | error e =>
      rw [read] at called
      cases called
    | ok found =>
      rw [read] at called
      cases called
      exact .inr ⟨_, rfl, rfl, rfl⟩

theorem callNext (plain : scan.opens? = none) :
    scan.call templated = (scan.next templated).map fun (lexeme, after) => (some lexeme, after) := by
  rw [call, plain]

/-- What a number of calls one after the other has given, and where the last of them leaves the reader. -/
inductive Calls (templated : Bool) (start : Scan) : Nat → List Lexeme → Scan → Prop
  | none : Calls templated start 0 [] start
  | token {n : Nat} {row : List Lexeme} {scan after : Scan} {lexeme : Lexeme}
    (before : Calls templated start n row scan)
    (called : scan.call templated = .ok (some lexeme, after)) : Calls templated start (n + 1) (row ++ [lexeme]) after
  | opening {n : Nat} {row : List Lexeme} {scan after : Scan} (before : Calls templated start n row scan)
    (called : scan.call templated = .ok (none, after)) : Calls templated start (n + 1) row after

theorem nextCalls {start : Scan} {n : Nat} {row : List Lexeme} (before : Calls templated start n row scan) :
    ∃ m scan', Calls templated start m row scan' ∧
      scan'.call templated = (scan.next templated).map fun (lexeme, after) => (some lexeme, after) := by
  cases opens : scan.opens? with
  | none => exact ⟨n, scan, before, callNext opens⟩
  | some inside =>
    obtain ⟨_, _, _, plain, same⟩ := opensCases opens
    refine ⟨n + 1, inside, .opening before (by rw [call, opens]), ?_⟩
    rw [callNext plain, same]

theorem tokensCalls {start : Scan} {n : Nat} {seen row : List Lexeme} (before : Calls templated start n seen scan)
    (read : scan.tokens templated = .ok row) : ∃ m last, Calls templated start m (seen ++ row) last := by
  induction row generalizing scan n seen with
  | nil => exact absurd read tokensFilled
  | cons first row ih =>
    obtain ⟨lexeme, after, found, shape⟩ := tokensCases read
    obtain ⟨m, scan', calls, called⟩ := nextCalls before
    rw [found] at called
    have calls := calls.token called
    obtain ⟨_, same⟩ | ⟨_, rest, later, same⟩ := shape
    · cases same
      exact ⟨_, _, calls⟩
    · cases same
      obtain ⟨k, last, ran⟩ := ih calls later
      rw [List.append_assoc] at ran
      exact ⟨k, last, ran⟩

theorem refusedCalls {start : Scan} {n : Nat} {seen : List Lexeme} {e : ParseError}
    (before : Calls templated start n seen scan) (refused : scan.tokens templated = .error e) :
    ∃ m row last, Calls templated start m row last ∧ last.call templated = .error e := by
  induction length : scan.rest.length using Nat.strongRecOn generalizing scan n seen with
  | ind length' ih =>
    obtain ⟨m, scan', calls, called⟩ := nextCalls before
    obtain found | ⟨lexeme, after, found, more, later⟩ := tokensRefusedCases refused
    · rw [found] at called
      exact ⟨m, seen, scan', calls, called⟩
    · rw [found] at called
      have shorter := nextLength found more
      exact ih _ (length ▸ shorter) (calls.token called) later rfl

/-- The reader stands at a position of the source, and its line counts the line breaks before it. -/
structure Stands (source : List Char) (scan : Scan) (position : Nat) : Prop where
  inside : position ≤ source.length
  ahead : scan.rest = source.drop position
  counted : scan.line = 1 + lineBreaks (source.take position)

variable {source : List Char} {position : Nat}

theorem Stands.later (stands : scan.Stands source position) {passed : List Char}
    (cut : scan.rest = passed ++ after.rest) (counted : after.line = scan.line + lineBreaks passed) :
    after.Stands source (position + passed.length) := by
  have ahead : source.drop position = passed ++ after.rest := stands.ahead.symm.trans cut
  have size := congrArg List.length ahead
  rw [List.length_drop, List.length_append] at size
  have inside := stands.inside
  refine ⟨by omega, ?_, ?_⟩
  · rw [← List.drop_drop, ahead, List.drop_left]
  · rw [List.take_add, ahead, List.take_left, lineBreaksAppend, counted, stands.counted, Nat.add_assoc]

/-- Sections of text are found in template text only. -/
def Placed (templated : Bool) (scan : Scan) : Prop := scan.mode = .text → templated = true

theorem Passes.placed {stretch : Stretch} (passes : scan.Passes templated stretch after)
    (placed : scan.Placed templated) : after.Placed templated :=
  fun text => (passes.mode text).elim placed id

theorem callStands {found : Option Lexeme} (placed : scan.Placed templated) (stands : scan.Stands source position)
    (called : scan.call templated = .ok (found, after)) :
    after.Placed templated ∧ ∃ later, after.Stands source later ∧ position ≤ later ∧
      ((∀ lexeme ∈ found, lexeme.token ≠ .eof) → position < later) := by
  obtain ⟨rfl, opens⟩ | ⟨lexeme, rfl, _, read⟩ := callCases called
  · obtain ⟨cut, line, text, _, _⟩ := opensCases opens
    refine ⟨fun _ => placed text, _, stands.later cut line, Nat.le_add_right _ _, fun _ => ?_⟩
    exact Nat.lt_add_of_pos_right (by decide)
  · obtain ⟨gap, taken, passes⟩ := nextPasses read placed
    have line : after.line = scan.line + lineBreaks (gap ++ taken) := by
      rw [passes.ends, passes.starts, lineBreaksAppend, Nat.add_assoc]
    have later : after.Stands source (position + (gap ++ taken).length) := stands.later passes.cut line
    refine ⟨passes.placed placed, _, later, Nat.le_add_right _ _, fun more => ?_⟩
    have filled : taken ≠ [] := passes.spelled.takes (more lexeme rfl)
    have size := List.length_pos_iff.mpr filled
    rw [List.length_append]
    omega

/-- Where reading begins. -/
def start (template : Bool) (source : List Char) : Scan := ⟨if template then .text else .code, 1, source⟩

theorem startStands (template : Bool) (source : List Char) :
    (start template source).Placed template ∧ (start template source).Stands source 0 := by
  refine ⟨fun text => ?_, Nat.zero_le _, rfl, rfl⟩
  cases template with
  | true => rfl
  | false => cases text

theorem callsStand {n : Nat} {row : List Lexeme} (calls : Calls templated (start templated source) n row scan) :
    scan.Placed templated ∧ ∃ position, scan.Stands source position ∧
      ((∀ lexeme ∈ row, lexeme.token ≠ .eof) → n ≤ position) := by
  induction calls with
  | none =>
    obtain ⟨placed, stands⟩ := startStands templated source
    exact ⟨placed, 0, stands, fun _ => Nat.le_refl 0⟩
  | token _ called ih =>
    obtain ⟨placed, position, stands, counted⟩ := ih
    obtain ⟨placed', later, stands', _, moved⟩ := callStands placed stands called
    refine ⟨placed', later, stands', fun more => ?_⟩
    obtain ⟨early, last⟩ := List.forall_mem_append.mp more
    have before := counted early
    have behind := moved fun lexeme member => by
      cases member
      exact last _ List.mem_cons_self
    omega
  | opening _ called ih =>
    obtain ⟨placed, position, stands, counted⟩ := ih
    obtain ⟨placed', later, stands', _, moved⟩ := callStands placed stands called
    refine ⟨placed', later, stands', fun more => ?_⟩
    have before := counted more
    have behind := moved fun lexeme member => by cases member
    omega

end Scan

/-- The tokens of a source as stretches that make it up, each on the line of its first character. -/
structure Stretch.Cover (templated : Bool) (line : Nat) (source : List Char) (row : List Lexeme)
    (stretches : List Stretch) : Prop where
  tokens : stretches.map Stretch.lexeme = row
  whole : joined stretches = source
  spelled : ∀ before stretch after, stretches = before ++ stretch :: after → stretch.Spelled templated (joined after)
  counted : ∀ before stretch after, stretches = before ++ stretch :: after →
    stretch.lexeme.line = line + lineBreaks (joined before ++ stretch.gap)

namespace Stretch

theorem joinedCons (stretch : Stretch) (stretches : List Stretch) :
    joined (stretch :: stretches) = stretch.gap ++ stretch.taken ++ joined stretches :=
  rfl

theorem nilCover (templated : Bool) (line : Nat) : Cover templated line [] [] [] := by
  refine ⟨rfl, rfl, ?_, ?_⟩
  all_goals
    intro before stretch after same
    cases before <;> cases same

theorem consCover {templated : Bool} {scan after : Scan} {row : List Lexeme} {first : Stretch}
    {stretches : List Stretch} (passes : scan.Passes templated first after)
    (cover : Cover templated after.line after.rest row stretches) :
    Cover templated scan.line scan.rest (first.lexeme :: row) (first :: stretches) where
  tokens := by rw [List.map_cons, cover.tokens]
  whole := by rw [joinedCons, cover.whole, passes.cut]
  spelled before stretch behind same := by
    cases before with
    | nil =>
      cases same
      rw [cover.whole]
      exact passes.spelled
    | cons _ before =>
      cases same
      exact cover.spelled before stretch behind rfl
  counted before stretch behind same := by
    cases before with
    | nil =>
      cases same
      exact passes.starts
    | cons _ before =>
      cases same
      rw [cover.counted before stretch behind rfl, passes.ends, passes.starts]
      simp only [joinedCons, lineBreaksAppend]
      omega

theorem linesAscend {line : Nat} {stretches : List Stretch}
    (counted : ∀ before stretch after, stretches = before ++ stretch :: after →
      stretch.lexeme.line = line + lineBreaks (joined before ++ stretch.gap)) :
    (stretches.map Stretch.lexeme).Pairwise fun a b => a.line ≤ b.line := by
  induction stretches generalizing line with
  | nil => exact .nil
  | cons first stretches ih =>
    have inside : ∀ before stretch after, stretches = before ++ stretch :: after → stretch.lexeme.line =
        line + lineBreaks (first.gap ++ first.taken) + lineBreaks (joined before ++ stretch.gap) := by
      intro before stretch after same
      rw [counted (first :: before) stretch after (congrArg (first :: ·) same)]
      simp only [joinedCons, lineBreaksAppend]
      omega
    refine List.pairwise_cons.mpr ⟨fun lexeme member => ?_, ih inside⟩
    obtain ⟨stretch, found, rfl⟩ := List.mem_map.mp member
    obtain ⟨before, after, same⟩ := List.append_of_mem found
    rw [counted [] first stretches rfl, inside before stretch after same]
    simp only [lineBreaksAppend]
    have empty : lineBreaks (joined []) = 0 := rfl
    omega

end Stretch

theorem Scan.tokensCover {templated : Bool} {scan : Scan} {row : List Lexeme} (placed : scan.Placed templated)
    (read : scan.tokens templated = .ok row) :
    ∃ stretches, Stretch.Cover templated scan.line scan.rest row stretches := by
  induction row generalizing scan with
  | nil => exact absurd read tokensFilled
  | cons first row ih =>
    obtain ⟨lexeme, after, found, shape⟩ := tokensCases read
    obtain ⟨gap, taken, passes⟩ := nextPasses found placed
    obtain ⟨ended, same⟩ | ⟨_, rest, later, same⟩ := shape
    · cases same
      obtain ⟨_, nothing⟩ := passes.spelled.ends ended
      have covered := Stretch.nilCover templated after.line
      rw [← nothing] at covered
      exact ⟨_, Stretch.consCover passes covered⟩
    · cases same
      obtain ⟨stretches, cover⟩ := ih (passes.placed placed) later
      exact ⟨_, Stretch.consCover passes cover⟩

theorem Scan.tokensRefusedLine {templated : Bool} {scan : Scan} {e : ParseError} (placed : scan.Placed templated)
    (refused : scan.tokens templated = .error e) :
    scan.line ≤ e.line ∧ e.line ≤ scan.line + lineBreaks scan.rest := by
  induction length : scan.rest.length using Nat.strongRecOn generalizing scan with
  | ind length' ih =>
    obtain found | ⟨lexeme, after, found, more, later⟩ := tokensRefusedCases refused
    · exact nextRefused found
    · obtain ⟨gap, taken, passes⟩ := nextPasses found placed
      have shorter := nextLength found more
      have inside := ih _ (length ▸ shorter) (passes.placed placed) later rfl
      have ends := passes.ends
      have starts := passes.starts
      rw [passes.cut]
      simp only [lineBreaksAppend] at ends starts ⊢
      omega

theorem tokenizeStart (template : Bool) (source : String) :
    tokenize template source = (Scan.start template source.toList).tokens template := by
  cases template <;> rfl

/-- Between two calls the reader stands further on, with the line breaks so far counted; so reading ends, tokens
stand on the lines of their first characters, and a refusal names a line of the source. -/
theorem linesCounted (template : Bool) (source : String) :
    (∀ calls row scan, Scan.Calls template (.start template source.toList) calls row scan →
      ∃ position, scan.Stands source.toList position ∧
        ((∀ lexeme ∈ row, lexeme.token ≠ .eof) → calls ≤ position) ∧
        ∀ found after, scan.call template = .ok (found, after) →
          ∃ later, after.Stands source.toList later ∧ position ≤ later ∧
            ((∀ lexeme ∈ found, lexeme.token ≠ .eof) → position < later)) ∧
    (∀ row, tokenize template source = .ok row →
      (∃ calls last, Scan.Calls template (.start template source.toList) calls row last) ∧
      (∃ stretches, Stretch.Cover template 1 source.toList row stretches) ∧
      row.Pairwise fun a b => a.line ≤ b.line) ∧
    ∀ e, tokenize template source = .error e →
      (∃ calls row scan, Scan.Calls template (.start template source.toList) calls row scan ∧
        scan.call template = .error e) ∧
      1 ≤ e.line ∧ e.line ≤ 1 + lineBreaks source.toList := by
  obtain ⟨placed, _⟩ := Scan.startStands template source.toList
  refine ⟨fun calls row scan called => ?_, fun row read => ?_, fun e refused => ?_⟩
  · obtain ⟨placed', position, stands, counted⟩ := Scan.callsStand called
    exact ⟨position, stands, counted, fun found after called => (Scan.callStands placed' stands called).2⟩
  · rw [tokenizeStart] at read
    obtain ⟨stretches, cover⟩ := Scan.tokensCover placed read
    refine ⟨Scan.tokensCalls .none read, ⟨stretches, cover⟩, ?_⟩
    rw [← cover.tokens]
    exact Stretch.linesAscend cover.counted
  · rw [tokenizeStart] at refused
    exact ⟨Scan.refusedCalls .none refused, Scan.tokensRefusedLine placed refused⟩

theorem linesOfSection :
    (∃ row, tokenize true "a\n<? \n b ?>" = .ok row ∧ row.map Lexeme.line = [1, 3, 3, 3] ∧
      (∃ calls last, Scan.Calls true (.start true "a\n<? \n b ?>".toList) calls row last) ∧
      ∃ stretches, Stretch.Cover true 1 "a\n<? \n b ?>".toList row stretches) ∧
    ∃ e, tokenize false "a\n\"b\n" = .error e ∧ 1 ≤ e.line ∧ e.line ≤ 3 := by
  have lines : (tokenize true "a\n<? \n b ?>").toOption.map (List.map Lexeme.line) = some [1, 3, 3, 3] := by
    decide +kernel
  obtain ⟨row, found, lines⟩ := Option.map_eq_some_iff.mp lines
  have read := okOfToOption found
  obtain ⟨calls, cover, _⟩ := (linesCounted true _).2.1 row read
  refine ⟨⟨row, read, lines, calls, cover⟩, ?_⟩
  cases refused : tokenize false "a\n\"b\n" with
  | ok row =>
    have unread : (tokenize false "a\n\"b\n").toBool = false := by decide +kernel
    rw [refused] at unread
    cases unread
  | error e => exact ⟨e, rfl, ((linesCounted false _).2.2 e refused).2⟩

end CircuitScript
