import CircuitScript.Proofs.Closing

/-! Code whose last token is a semicolon, with that semicolon replaced by something else or left out. Up to it all
these rows are read alike. What the semicolon is for decides which of them come to the same result: it ends a
statement that the end of input ends as well, it is a statement by itself, as an empty pair of braces is, or it stands
for the value of a return, as an empty string does. -/
namespace CircuitScript

open CircuitScript.Parser

/-- The tokens in front of the last semicolon, the line of this semicolon, and the line of the end. -/
structure Code where
  row : List Lexeme
  line : Nat
  final : Nat

inductive Ending where
  | semicolon
  | nothing
  | braces
  | quotes

namespace Code

def ending (code : Code) : Ending → List Lexeme
  | .semicolon => [⟨code.line, .mark .semicolon⟩, ⟨code.final, .eof⟩]
  | .nothing => [⟨code.final, .eof⟩]
  | .braces => [⟨code.line, .mark .lBrace⟩, ⟨code.line, .mark .rBrace⟩, ⟨code.final, .eof⟩]
  | .quotes => [⟨code.line, .str ""⟩, ⟨code.final, .eof⟩]

def last? (code : Code) : Option Token := code.row.getLast?.map Lexeme.token

def AtEnd (code : Code) (c : Cursor) : Prop := c.ahead = code.ending .nothing

def AtBraces (code : Code) (c : Cursor) : Prop := c.ahead = code.ending .braces

end Code

/-- The token just passed and those still ahead, up to the ending. -/
structure Spot where
  previous : Option Lexeme
  row : List Lexeme

namespace Spot

def cursor (place : Spot) (tail : List Lexeme) : Cursor := ⟨place.previous, place.row ++ tail⟩

def last? (place : Spot) : Option Token := (place.row.getLast?.or place.previous).map Lexeme.token

end Spot

/-- A place in the code. In front of its ending it is not behind a slash, where an operand is still to come. -/
structure Code.Has (code : Code) (place : Spot) : Prop where
  last : place.last? = code.last?
  ready : place.row = [] → code.last? ≠ some (.mark .slash)

theorem Code.Has.pass {code : Code} {previous : Option Lexeme} {lexeme : Lexeme} {row : List Lexeme}
    (has : code.Has ⟨previous, lexeme :: row⟩) (ready : row = [] → lexeme.token ≠ .mark .slash) :
    code.Has ⟨some lexeme, row⟩ := by
  obtain ⟨last, _⟩ := has
  have same : (Spot.mk (some lexeme) row).last? = code.last? := by
    rw [← last]
    cases row with
    | nil => rfl
    | cons next row => simp [Spot.last?, List.getLast?_cons]
  refine ⟨same, fun none => ?_⟩
  rw [← same]
  obtain rfl : row = [] := none
  exact fun slash => ready rfl (Option.some.inj slash)

variable {α β : Type} {code : Code}

/-- The result comes at the end of input, unless the budget is spent. -/
def Code.Comes (code : Code) (a : α) (parsed : Parsed α) : Prop :=
  parsed = .spent ∨ ∃ rest, parsed = .ok a rest ∧ code.AtEnd rest

/-- A value is missing at the end of input, unless the budget is spent. -/
def Code.Lacks (code : Code) (parsed : Parsed α) : Prop :=
  parsed = .spent ∨ parsed = .refused ⟨code.final, .expected .expression .eof⟩

/-- What the semicolon is for: it ends a statement, which leaves braces alone that stand there instead, it is a
statement, or it ends a return without a value. -/
inductive Fate (code : Code) (p : Parser α) (place : Spot) (a : α) : Prop where
  | optional {rest : Cursor} (ran : p (place.cursor (code.ending .nothing)) = .ok a rest) (ended : code.AtEnd rest)
      (idle : ∀ b rest, p (place.cursor (code.ending .braces)) = .ok b rest → b = a ∧ code.AtBraces rest)
  | empty (comes : code.Comes a (p (place.cursor (code.ending .braces))))
      (lost : ∀ b rest, p (place.cursor (code.ending .nothing)) ≠ .ok b rest)
  | bare (word : code.last? = some (.ident "return")) (comes : code.Comes a (p (place.cursor (code.ending .quotes))))
      (lacks : code.Lacks (p (place.cursor (code.ending .nothing))))

/-- How far reading has come: it is in front of the ending, or at the end of input. -/
inductive Code.Time (code : Code) where
  | before (place : Spot) (has : code.Has place)
  | ended

def Code.Time.cursor : code.Time → Cursor
  | before place _ => place.cursor (code.ending .semicolon)
  | ended => ⟨none, code.ending .nothing⟩

def Code.Time.AtEnding : code.Time → Prop
  | before place _ => place.row = []
  | ended => True

/-- A result in front of the semicolon is the result in front of every ending; one behind it has a fate. -/
inductive Mended (code : Code) (p : Parser α) (place : Spot) (post : code.Time → α → Prop) (a : α) : Cursor → Prop where
  | within {next : Spot} (has : code.Has next)
      (alike : ∀ ending, p (place.cursor (code.ending ending)) = .ok a (next.cursor (code.ending ending)))
      (got : post (.before next has) a) : Mended code p place post a (next.cursor (code.ending .semicolon))
  | behind {rest : Cursor} (ended : code.AtEnd rest) (steady : code.last? ≠ some (.mark .slash))
      (fate : Fate code p place a) (got : post .ended a) : Mended code p place post a rest

def Mends (code : Code) (p : Parser α) (place : Spot) (post : code.Time → α → Prop) : Prop :=
  ∀ a rest, p (place.cursor (code.ending .semicolon)) = .ok a rest → Mended code p place post a rest

/-- At the end of input there is no result, or one that does not depend on what was passed. Braces that stand there
instead are left alone. -/
inductive Still (code : Code) (p : Parser α) (post : code.Time → α → Prop) : Prop where
  | never (none : ∀ c, code.AtEnd c → ∀ a rest, p c ≠ .ok a rest)
  | always (a : α) (ends : ∀ c, code.AtEnd c → ∃ rest, p c = .ok a rest ∧ code.AtEnd rest)
      (idle : ∀ c, code.AtBraces c → ∀ b rest, p c = .ok b rest → b = a ∧ code.AtBraces rest) (got : post .ended a)

def Closes (code : Code) : code.Time → (code.Time → α → Prop) → Parser α → Prop
  | .before place _, post, p => Mends code p place post
  | .ended, post, p => Still code p post

section

variable {p q : Parser α} {f : α → Parser β} {place next : Spot} {a : α} {b : β} {rest : Cursor}
variable {mid : code.Time → α → Prop} {post : code.Time → β → Prop}

theorem Code.AtEnd.token {c : Cursor} (ended : code.AtEnd c) : c.token = .eof := by
  unfold Cursor.token
  rw [ended]
  rfl

theorem Code.AtBraces.token {c : Cursor} (there : code.AtBraces c) : c.token = .mark .lBrace := by
  unfold Cursor.token
  rw [there]
  rfl

theorem Fate.like (same : ∀ ending, p (place.cursor (code.ending ending)) = q (next.cursor (code.ending ending)))
    (fate : Fate code q next a) : Fate code p place a := by
  cases fate with
  | optional ran ended idle => exact .optional ((same _).trans ran) ended (by rw [same]; exact idle)
  | empty comes lost => exact .empty (by rw [same]; exact comes) (by rw [same]; exact lost)
  | bare word comes lacks => exact .bare word (by rw [same]; exact comes) (by rw [same]; exact lacks)

theorem Mends.like (mends : Mends code q next mid)
    (same : ∀ ending, p (place.cursor (code.ending ending)) = q (next.cursor (code.ending ending))) :
    Mends code p place mid := by
  intro a rest ran
  rw [same] at ran
  cases mends a rest ran with
  | within has alike got => exact .within has (fun ending => (same ending).trans (alike ending)) got
  | behind ended steady fate got => exact .behind ended steady (fate.like same) got

theorem Mends.vacuous (never : ∀ a rest, p (place.cursor (code.ending .semicolon)) ≠ .ok a rest) :
    Mends code p place mid := fun a rest ran => absurd ran (never a rest)

theorem Still.like (same : ∀ c, code.AtEnd c ∨ code.AtBraces c → p c = q c) (still : Still code q mid) :
    Still code p mid := by
  cases still with
  | never none =>
    refine .never fun c ended => ?_
    rw [same c (.inl ended)]
    exact none c ended
  | always a ends idle got =>
    refine .always a (fun c ended => ?_) (fun c there => ?_) got
    · rw [same c (.inl ended)]
      exact ends c ended
    · rw [same c (.inr there)]
      exact idle c there

theorem Needs.still (needs : Needs .eof p) : Still code p mid := .never fun c ended => needs c ended.token

theorem Still.bind (first : Still code p mid) (second : ∀ {a}, mid .ended a → Still code (f a) post) :
    Still code (p >>= f) post := by
  cases first with
  | never none =>
    refine .never fun c ended b rest ran => ?_
    obtain ⟨a, middle, ran, _⟩ := bindEqOk.mp ran
    exact none c ended a middle ran
  | always a ends idle got =>
    cases second got with
    | never none =>
      refine .never fun c ended b rest ran => ?_
      obtain ⟨middle, ran₁, there⟩ := ends c ended
      rw [bindApply, ran₁] at ran
      exact none middle there b rest ran
    | always b ends' idle' got' =>
      refine .always b (fun c ended => ?_) (fun c there b' rest ran => ?_) got'
      · obtain ⟨middle, ran₁, there⟩ := ends c ended
        obtain ⟨rest, ran₂, there⟩ := ends' middle there
        exact ⟨rest, bindEqOk.mpr ⟨a, middle, ran₁, ran₂⟩, there⟩
      · obtain ⟨a', middle, ran₁, ran₂⟩ := bindEqOk.mp ran
        obtain ⟨rfl, there⟩ := idle c there a' middle ran₁
        exact idle' middle there b' rest ran₂

theorem Code.Comes.bind {c : Cursor} (comes : code.Comes a (p c))
    (ends : ∀ c, code.AtEnd c → ∃ rest, f a c = .ok b rest ∧ code.AtEnd rest) : code.Comes b ((p >>= f) c) := by
  rcases comes with spent | ⟨middle, first, there⟩
  · exact .inl (by rw [bindApply, spent])
  · obtain ⟨final, second, there⟩ := ends middle there
    exact .inr ⟨final, bindEqOk.mpr ⟨a, middle, first, second⟩, there⟩

theorem Code.Lacks.bind {c : Cursor} (lacks : code.Lacks (p c)) (f : α → Parser β) : code.Lacks ((p >>= f) c) := by
  rcases lacks with spent | refused
  · exact .inl (by rw [bindApply, spent])
  · exact .inr (by rw [bindApply, refused])

theorem Fate.bind (fate : Fate code p place a) (ended : code.AtEnd rest) (still : Still code (f a) post)
    {after : Cursor} (ran : f a rest = .ok b after) :
    code.AtEnd after ∧ Fate code (p >>= f) place b ∧ post .ended b := by
  cases still with
  | never none => exact absurd ran (none rest ended b after)
  | always b' ends idle got =>
    obtain ⟨after', ran', there⟩ := ends rest ended
    cases ran'.symm.trans ran
    refine ⟨there, ?_, got⟩
    cases fate with
    | optional first there idle' =>
      obtain ⟨final, second, there⟩ := ends _ there
      refine .optional (bindEqOk.mpr ⟨a, _, first, second⟩) there fun b' rest ran => ?_
      obtain ⟨a', middle, ran₁, ran₂⟩ := bindEqOk.mp ran
      obtain ⟨rfl, there⟩ := idle' a' middle ran₁
      exact idle middle there b' rest ran₂
    | empty first lost =>
      refine .empty (first.bind ends) fun b' rest ran => ?_
      obtain ⟨a', middle, ran, _⟩ := bindEqOk.mp ran
      exact lost a' middle ran
    | bare word first lacks => exact .bare word (first.bind ends) (lacks.bind f)

theorem Mends.bind (first : Mends code p place mid) (second : ∀ {t a}, mid t a → Closes code t post (f a)) :
    Mends code (p >>= f) place post := by
  intro b rest ran
  obtain ⟨a, middle, ran₁, ran₂⟩ := bindEqOk.mp ran
  cases first a middle ran₁ with
  | @within next has alike got =>
    have later : Mends code (f a) next post := second got
    refine later.like (fun ending => ?_) b rest ran
    rw [bindApply, alike]
  | behind ended steady fate got =>
    obtain ⟨there, fate, got⟩ := fate.bind ended (second got) ran₂
    exact .behind there steady fate got

theorem Closes.bind {t : code.Time} (first : Closes code t mid p)
    (second : ∀ {t' a}, mid t' a → Closes code t' post (f a)) : Closes code t post (p >>= f) := by
  cases t with
  | before place has => exact Mends.bind first second
  | ended => exact Still.bind first fun got => second got

theorem Closes.never {t : code.Time} (none : ∀ c a rest, p c ≠ .ok a rest) : Closes code t mid p := by
  cases t with
  | before place has => exact Mends.vacuous (none _)
  | ended => exact Still.never fun c _ => none c

theorem Closes.pure {t : code.Time} (got : mid t a) : Closes code t mid (Pure.pure a) := by
  cases t with
  | before place has =>
    intro b rest ran
    cases ran
    exact .within has (fun _ => rfl) got
  | ended =>
    refine Still.always a (fun c ended => ⟨c, rfl, ended⟩) (fun c there b rest ran => ?_) got
    cases ran
    exact ⟨rfl, there⟩

end

theorem Code.Has.behindWord {previous : Option Lexeme} {row : List Lexeme} (has : code.Has ⟨previous, row⟩)
    (word : String) :
    (∀ ending, Cursor.behindWord word (row ++ code.ending ending) = none) ∨
      ∃ next : Spot, code.Has next ∧
        ∀ ending, Cursor.behindWord word (row ++ code.ending ending) = some (next.cursor (code.ending ending)) := by
  induction row generalizing previous with
  | nil =>
    refine .inl fun ending => ?_
    cases ending <;> rfl
  | cons lexeme row ih =>
    cases token : lexeme.token with
    | mark m =>
      cases m with
      | semicolon =>
        rcases ih (has.pass (by simp [token])) with none | ⟨next, there, some⟩
        · exact .inl fun ending => by simp only [List.cons_append, Cursor.behindWord, token, none]
        · exact .inr ⟨next, there, fun ending => by simp only [List.cons_append, Cursor.behindWord, token, some]⟩
      | _ => exact .inl fun ending => by simp only [List.cons_append, Cursor.behindWord, token]
    | ident name =>
      by_cases same : name = word
      · refine .inr ⟨⟨some lexeme, row⟩, has.pass (by simp [token]), fun ending => ?_⟩
        simp only [List.cons_append, Cursor.behindWord, token, if_pos same]
        rfl
      · exact .inl fun ending => by simp only [List.cons_append, Cursor.behindWord, token, if_neg same]
    | _ => exact .inl fun ending => by simp only [List.cons_append, Cursor.behindWord, token]

theorem Code.AtEnd.endStatement {c : Cursor} (ended : code.AtEnd c) : Parser.endStatement c = .ok () c :=
  endLeftOut (by rw [ended.token]; rfl) (.inr (by rw [ended.token]; trivial))

theorem Code.AtBraces.endStatement {c rest : Cursor} {a : Unit} (there : code.AtBraces c)
    (ran : Parser.endStatement c = .ok a rest) : a = () ∧ code.AtBraces rest := by
  rcases endOk ran with ⟨held, _⟩ | ⟨_, rfl, _⟩
  · rw [there.token] at held
    cases held
  · exact ⟨rfl, there⟩

theorem Token.otherMark {mark held : Mark} (other : mark ≠ held) : (Token.mark held).isMark mark = false := by
  simpa [Token.isMark] using Ne.symm other

theorem Token.notSlash {token : Token} {mark : Mark} (other : mark ≠ .slash) (held : token.isMark mark = true) :
    token ≠ .mark .slash := by
  rintro rfl
  exact other (eq_of_beq held).symm

theorem Ending.idle (code : Code) (ending : Ending) (previous : Option Lexeme) :
    (Spot.cursor ⟨previous, []⟩ (code.ending ending)).token.Idle := by
  cases ending with
  | semicolon => exact .final .semicolon
  | nothing => exact .final .eof
  | braces => exact .brace
  | quotes => exact .str ""

namespace Closes

variable {t : code.Time} {post : code.Time → β → Prop}

theorem peek {f : Token → Parser β} (h : Closes code t post (f t.cursor.token))
    (idle : t.AtEnding → ∀ token : Token, token.Idle → f token = f .eof) : Closes code t post (Parser.peek >>= f) := by
  cases t with
  | before place has =>
    obtain ⟨previous, row⟩ := place
    cases row with
    | nil =>
      refine Mends.like h fun ending => ?_
      have same := idle rfl _ (ending.idle code previous)
      exact congrFun (same.trans (idle rfl _ (.final .semicolon)).symm) _
    | cons lexeme row => exact Mends.like h fun _ => rfl
  | ended =>
    refine Still.like (fun c there => ?_) h
    rcases there with ended | braces
    · exact congrFun (congrArg f ended.token) c
    · exact congrFun ((congrArg f braces.token).trans (idle trivial _ .brace)) c

theorem advance {f : Token → Parser β} (h : Closes code t post (Parser.advance >>= fun _ => f t.cursor.token))
    (fails : ∀ token : Token, token.Final → ∀ c b rest, f token c ≠ .ok b rest) :
    Closes code t post (Parser.advance >>= f) := by
  cases t with
  | before place has =>
    obtain ⟨previous, row⟩ := place
    cases row with
    | nil => exact Mends.vacuous (fails _ .semicolon _)
    | cons lexeme row => exact Mends.like h fun _ => rfl
  | ended =>
    refine Still.never fun c ended b rest => ?_
    show f c.token c.advance ≠ _
    rw [ended.token]
    exact fails _ .eof _ b rest

theorem pass {q : Parser β} (more : t.cursor.token ≠ .eof) (inside : t.cursor.token.Final → ¬t.AtEnding)
    (needs : t.cursor.token = .mark .slash → Needs (.mark .semicolon) q)
    (later : ∀ {next : code.Time}, next.cursor = t.cursor.advance → Closes code next post q) :
    Closes code t post (Parser.advance >>= fun _ => q) := by
  cases t with
  | before place has =>
    obtain ⟨previous, row⟩ := place
    cases row with
    | nil => exact absurd rfl (inside .semicolon)
    | cons lexeme row =>
      -- Only a slash could stand here in front of the ending, and an operand would be missing.
      by_cases last : row = [] ∧ lexeme.token = .mark .slash
      · obtain ⟨rfl, slash⟩ := last
        exact Mends.vacuous fun b rest => needs slash ⟨some lexeme, _⟩ rfl b rest
      · have there := has.pass fun none slash => last ⟨none, slash⟩
        exact Mends.like (@later (.before _ there) rfl) fun _ => rfl
  | ended => exact absurd rfl more

theorem eat {f : Bool → Parser β} {mark : Mark} (slash : mark ≠ .slash)
    (stuck : mark = .semicolon ∨ mark = .lBrace → ∀ c b rest, f false c ≠ .ok b rest)
    (needs : mark = .semicolon → Needs .eof (f true))
    (found : ∀ {next : code.Time}, t.cursor.token.isMark mark = true → next.cursor = t.cursor.advance →
      Closes code next post (f true))
    (missing : Closes code t post (f false)) : Closes code t post (Parser.eat mark >>= f) := by
  cases t with
  | before place has =>
    obtain ⟨previous, row⟩ := place
    cases row with
    | nil =>
      by_cases semicolon : mark = .semicolon
      · subst semicolon
        refine Mends.vacuous fun b rest ran => ?_
        rw [eatHeld rfl] at ran
        exact needs rfl _ rfl b rest ran
      have other : (Token.mark .semicolon).isMark mark = false := Token.otherMark semicolon
      by_cases brace : mark = .lBrace
      · refine Mends.vacuous fun b rest ran => stuck (.inr brace) _ b rest ((eatLeft ?_).symm.trans ran)
        exact other
      · refine Mends.like missing fun ending => eatLeft ?_
        cases ending with
        | semicolon => exact other
        | braces => exact Token.otherMark brace
        | nothing | quotes => rfl
    | cons lexeme row =>
      cases held : lexeme.token.isMark mark with
      | true =>
        have there := has.pass fun _ => Token.notSlash slash held
        exact Mends.like (@found (.before _ there) held rfl) fun _ => eatHeld held
      | false => exact Mends.like missing fun _ => eatLeft held
  | ended =>
    by_cases first : mark = .semicolon ∨ mark = .lBrace
    · refine Still.never fun c ended b rest ran => ?_
      rw [eatLeft (by rw [ended.token]; rfl)] at ran
      exact stuck first c b rest ran
    · refine Still.like (fun c there => eatLeft ?_) missing
      rcases there with ended | braces
      · rw [ended.token]
        rfl
      · rw [braces.token]
        exact Token.otherMark fun brace => first (.inr brace)

theorem eatWord {f : Bool → Parser β} {word : String}
    (found : ∀ {next : code.Time}, Cursor.behindWord word t.cursor.ahead = some next.cursor →
      Closes code next post (f true))
    (missing : Cursor.behindWord word t.cursor.ahead = none → Closes code t post (f false)) :
    Closes code t post (Parser.eatWord word >>= f) := by
  cases t with
  | before place has =>
    rcases has.behindWord word with none | ⟨next, there, some⟩
    · exact Mends.like (missing (none .semicolon)) fun ending => eatWordLeft (none ending)
    · exact Mends.like (@found (.before next there) (some .semicolon)) fun ending => eatWordHeld (some ending)
  | ended =>
    refine Still.like (fun c there => eatWordLeft ?_) (missing rfl)
    rcases there with ended | braces
    · rw [ended]
      rfl
    · rw [braces]
      rfl

theorem endStatement {post : code.Time → Unit → Prop}
    (got : ∀ {next : code.Time}, next.cursor.left ≤ t.cursor.left → post next ()) :
    Closes code t post Parser.endStatement := by
  cases t with
  | before place has =>
    intro a rest ran
    obtain ⟨previous, row⟩ := place
    cases row with
    | nil =>
      cases (endEaten rfl).symm.trans ran
      refine .behind rfl (has.ready rfl) (.optional (endLeftOut rfl (.inr trivial)) rfl fun _ _ => ?_) (got ?_)
      · exact Code.AtBraces.endStatement rfl
      · exact Nat.le_succ 1
    | cons lexeme row =>
      rcases endOk ran with ⟨held, rfl⟩ | ⟨none, rfl, settled⟩
      · have there := has.pass fun _ => Token.notSlash (by decide) held
        exact .within there (fun _ => endEaten held) (got (Nat.le_succ _))
      · exact .within has (fun _ => endLeftOut none settled) (got (Nat.le_refl _))
  | ended =>
    exact Still.always () (fun c ended => ⟨c, ended.endStatement, ended⟩) (fun c there _ _ => there.endStatement)
      (got (Nat.le_refl _))

theorem atEnding {p : Parser α} {mid : code.Time → α → Prop} (there : t.AtEnding) (needs : Needs .eof p)
    (last : ∀ previous (has : code.Has ⟨previous, []⟩), t = .before _ has → Mends code p ⟨previous, []⟩ mid) :
    Closes code t mid p := by
  cases t with
  | before place has =>
    obtain ⟨previous, row⟩ := place
    obtain rfl : row = [] := there
    exact last previous has rfl
  | ended => exact needs.still

end Closes

end CircuitScript
