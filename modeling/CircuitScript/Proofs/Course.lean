import CircuitScript.Proofs.Enough

/-! What a parser comes to, told by the tokens alone. The lines of the tokens have no say in it; they only
give a refusal the line of the place where it is made. -/
namespace CircuitScript

structure View where
  previous : Option Token
  ahead : List Token

namespace View

def token (view : View) : Token := view.ahead.headD .eof

def advance (view : View) : View :=
  match view.ahead with
  | [] => view
  | token :: rest => ⟨some token, rest⟩

def skip : View → Nat → View
  | view, 0 => view
  | view, n + 1 => view.advance.skip n

theorem skipSkip (view : View) (n m : Nat) : (view.skip n).skip m = view.skip (n + m) := by
  induction n generalizing view with
  | zero => rw [Nat.zero_add, skip]
  | succ n ih => rw [Nat.succ_add, skip, skip, ih]

theorem skipAhead (view : View) (n : Nat) : (view.skip n).ahead = view.ahead.drop n := by
  induction n generalizing view with
  | zero => rfl
  | succ n ih =>
    obtain ⟨previous, ahead⟩ := view
    cases ahead with
    | nil =>
      show (skip ⟨previous, []⟩ n).ahead = _
      rw [ih, List.drop_nil, List.drop_nil]
    | cons token rest => exact ih ⟨some token, rest⟩

theorem aheadOfToken {view : View} {token : Token} (seen : view.token = token) (more : token ≠ .eof) :
    view.ahead = token :: view.ahead.drop 1 := by
  obtain ⟨previous, ahead⟩ := view
  cases ahead with
  | nil => exact absurd seen.symm more
  | cons first rest => cases seen; rfl

def afterTerminator (view : View) : Bool :=
  match view.previous with
  | some token => token.isMark .semicolon || token.isMark .rBrace
  | none => false

/-- The number of tokens up to and including a word, if only semicolons stand in front of it. -/
def wordAhead? (word : String) : List Token → Option Nat
  | [] => none
  | .mark .semicolon :: rest => (wordAhead? word rest).map (· + 1)
  | .ident name :: _ => if name = word then some 1 else none
  | _ :: _ => none

theorem wordWalked {word : String} {tokens : List Token} {n : Nat} (found : wordAhead? word tokens = some n)
    (stack : List Bracket) : walk stack (tokens.take n) = some stack := by
  fun_induction wordAhead? word tokens generalizing n with
  | case1 => cases found
  | case2 rest ih =>
    obtain ⟨m, there, rfl⟩ := Option.map_eq_some_iff.mp found
    exact ih there
  | case3 => cases found; rfl
  | case4 => cases found
  | case5 => cases found

end View

namespace Cursor

def view (cursor : Cursor) : View := ⟨cursor.previous.map Lexeme.token, cursor.ahead.map Lexeme.token⟩

theorem viewToken (cursor : Cursor) : cursor.view.token = cursor.token := by
  obtain ⟨previous, ahead⟩ := cursor
  cases ahead <;> rfl

theorem viewAdvance (cursor : Cursor) : cursor.advance.view = cursor.view.advance := by
  obtain ⟨previous, ahead⟩ := cursor
  cases ahead <;> rfl

theorem viewSkip (cursor : Cursor) (n : Nat) : (cursor.skip n).view = cursor.view.skip n := by
  induction n generalizing cursor with
  | zero => rfl
  | succ n ih => rw [skip, ih, viewAdvance]; rfl

theorem viewAfterTerminator (cursor : Cursor) : cursor.afterTerminator = cursor.view.afterTerminator := by
  obtain ⟨previous, ahead⟩ := cursor
  cases previous <;> rfl

theorem viewBehindWord (word : String) (cursor : Cursor) :
    behindWord word cursor.ahead = (View.wordAhead? word cursor.view.ahead).map cursor.skip := by
  obtain ⟨previous, ahead⟩ := cursor
  show behindWord word ahead = (View.wordAhead? word (ahead.map Lexeme.token)).map (skip ⟨previous, ahead⟩)
  fun_induction behindWord word ahead generalizing previous with
  | case1 => rfl
  | case2 lexeme rest semicolon ih =>
    rw [ih (some lexeme), List.map_cons, semicolon, View.wordAhead?, Option.map_map]
    rfl
  | case3 lexeme rest seen =>
    rw [List.map_cons, seen, View.wordAhead?, if_pos rfl]
    rfl
  | case4 lexeme rest name seen other => rw [List.map_cons, seen, View.wordAhead?, if_neg other]; rfl
  | case5 lexeme rest noSemicolon noIdent =>
    rw [List.map_cons, View.wordAhead?]
    · rfl
    · exact noSemicolon
    · exact noIdent

end Cursor

/-- How many tokens a refusal for this cause lies behind the token that it tells of. -/
def ParseError.Cause.delay : ParseError.Cause → Nat
  | expected wanted _ => if wanted.late then 1 else 0
  | _ => 0

/-- The course a parser takes, with places given as numbers of tokens passed. -/
inductive Course (α : Type) where
  | ok (result : α) (passed : Nat)
  | refused (place : Nat) (cause : ParseError.Cause)
  | spent

namespace Course

variable {α β : Type}

def parsed (cursor : Cursor) : Course α → Parsed α
  | ok a passed => .ok a (cursor.skip passed)
  | refused place cause => .refused ⟨(cursor.skip (place + cause.delay)).line, cause⟩
  | spent => .spent

def behind (passed : Nat) : Course α → Course α
  | ok a more => ok a (passed + more)
  | refused place cause => refused (passed + place) cause
  | spent => spent

theorem parsedBehind (course : Course α) (cursor : Cursor) (passed : Nat) :
    course.parsed (cursor.skip passed) = (course.behind passed).parsed cursor := by
  cases course <;> simp [parsed, behind, Cursor.skipSkip, Nat.add_assoc]

end Course

/-- A place among tokens from a text, with the brackets open there. -/
structure Standing where
  view : View
  stack : List Bracket
  lexed : ∀ token ∈ view.ahead, token.Lexed

namespace Standing

def skip (place : Standing) (passed : Nat) (stack : List Bracket) : Standing where
  view := place.view.skip passed
  stack := stack
  lexed := by
    rw [View.skipAhead]
    exact fun token member => place.lexed token (List.mem_of_mem_drop member)

theorem tokenLexed (place : Standing) : place.view.token.Lexed := by
  obtain ⟨⟨previous, ahead⟩, stack, lexed⟩ := place
  cases ahead with
  | nil => exact trivial
  | cons token rest => exact lexed token List.mem_cons_self

end Standing

namespace Course

variable {α : Type} {post : Standing → α → Prop} {place : Standing}

/-- A course that accounts for the tokens from a place on: those passed lead from the brackets open there to those open
behind them, and those passed before a refusal lead up to the token that it tells of. -/
def Accounts (place : Standing) (post : Standing → α → Prop) : Course α → Prop
  | ok a passed => ∃ stack, walk place.stack (place.view.ahead.take passed) = some stack ∧
      post (place.skip passed stack) a
  | refused passed cause => (∃ stack, walk place.stack (place.view.ahead.take passed) = some stack) ∧
      ∀ found, cause.found? = some found → (place.view.skip passed).token = found
  | spent => True

theorem Accounts.behind {passed : Nat} {stack : List Bracket} {course : Course α}
    (walked : walk place.stack (place.view.ahead.take passed) = some stack)
    (h : course.Accounts (place.skip passed stack) post) : (course.behind passed).Accounts place post := by
  have onward (more : Nat) : walk place.stack (place.view.ahead.take (passed + more)) =
      walk stack ((place.view.skip passed).ahead.take more) := by
    rw [List.take_add, walkAppend, walked, View.skipAhead]
    rfl
  cases course with
  | ok a more =>
    obtain ⟨stack', walked', got⟩ := h
    refine ⟨stack', (onward more).trans walked', ?_⟩
    unfold Standing.skip at got ⊢
    simpa only [View.skipSkip] using got
  | refused more cause =>
    obtain ⟨reached, told⟩ := h
    refine ⟨reached.imp fun _ => (onward more).trans, ?_⟩
    rw [← View.skipSkip]
    exact told
  | spent => trivial

end Course

namespace Parser

variable {α β : Type}

/-- From this place on, whatever the lines, the parser takes one course, which accounts for the tokens. -/
def Leads (place : Standing) (post : Standing → α → Prop) (p : Parser α) : Prop :=
  ∃ course : Course α, (∀ cursor, cursor.view = place.view → p cursor = course.parsed cursor) ∧
    course.Accounts place post

namespace Leads

variable {place : Standing} {post : Standing → β → Prop}

theorem pure {a : β} (h : post place a) : Leads place post (Pure.pure a) :=
  ⟨.ok a 0, fun _ _ => rfl, place.stack, rfl, h⟩

theorem spent : Leads place post Parser.spent := ⟨.spent, fun _ _ => rfl, trivial⟩

theorem refuse {cause : ParseError.Cause} (other : cause.found? = none) :
    Leads place post (Parser.refuse cause) := by
  refine ⟨.refused 0 cause, fun cursor _ => ?_, ⟨place.stack, rfl⟩, by simp [other]⟩
  cases cause with
  | expected wanted found => cases other
  | _ => rfl

theorem unexpected {wanted : Wanted} (early : wanted.late = false) :
    Leads place post (Parser.unexpected wanted) := by
  refine ⟨.refused 0 (.expected wanted place.view.token), fun cursor same => ?_, ⟨place.stack, rfl⟩, ?_⟩
  · rw [← same, Cursor.viewToken]
    simp only [Course.parsed, ParseError.Cause.delay, early]
    rfl
  · intro _ h
    cases h
    rfl

theorem bind {mid : Standing → α → Prop} {p : Parser α} {f : α → Parser β} (first : Leads place mid p)
    (second : ∀ {next a}, mid next a → Leads next post (f a)) : Leads place post (p >>= f) := by
  obtain ⟨course, ran, accounts⟩ := first
  cases course with
  -- Only what the first parser accepts is followed by the second one.
  | ok a passed =>
    obtain ⟨stack, walked, got⟩ := accounts
    obtain ⟨course, ran', accounts'⟩ := second got
    refine ⟨course.behind passed, fun cursor same => ?_, accounts'.behind walked⟩
    rw [bindApply, ran cursor same, ← course.parsedBehind]
    exact ran' _ (by rw [Cursor.viewSkip, same]; rfl)
  | refused passed cause =>
    refine ⟨.refused passed cause, fun cursor same => ?_, accounts⟩
    rw [bindApply, ran cursor same]
    rfl
  | spent =>
    refine ⟨.spent, fun cursor same => ?_, trivial⟩
    rw [bindApply, ran cursor same]
    rfl

theorem look {read : Cursor → α} {seen : View → α} {f : α → Parser β}
    (same : ∀ cursor, read cursor = seen cursor.view) (h : Leads place post (f (seen place.view))) :
    Leads place post ((fun cursor => .ok (read cursor) cursor : Parser α) >>= f) := by
  obtain ⟨course, ran, accounts⟩ := h
  refine ⟨course, fun cursor here => ?_, accounts⟩
  rw [← ran cursor here, ← here, ← same]
  rfl

theorem peek {f : Token → Parser β} (h : Leads place post (f place.view.token)) :
    Leads place post (Parser.peek >>= f) :=
  look (fun cursor => cursor.viewToken.symm) h

theorem ofTurn {stack : List Bracket} (turned : place.view.token.turn place.stack = some stack) :
    walk place.stack (place.view.ahead.take 1) = some stack := by
  rw [View.aheadOfToken rfl (Token.turnedMore turned)]
  show (place.view.token.turn place.stack).bind _ = _
  rw [turned]
  rfl

theorem advance {f : Token → Parser β} (h : Leads place post (Parser.advance >>= fun _ => f place.view.token)) :
    Leads place post (Parser.advance >>= f) := by
  obtain ⟨course, ran, accounts⟩ := h
  refine ⟨course, fun cursor same => ?_, accounts⟩
  rw [← ran cursor same, ← same, Cursor.viewToken]
  rfl

theorem pass {q : Parser β} {stack : List Bracket} (turned : place.view.token.turn place.stack = some stack)
    (h : Leads (place.skip 1 stack) post q) : Leads place post (Parser.advance >>= fun _ => q) := by
  have step : Leads place (fun next _ => next = place.skip 1 stack) Parser.advance := by
    refine ⟨.ok place.view.token 1, fun cursor same => ?_, stack, ofTurn turned, rfl⟩
    rw [← same, Cursor.viewToken]
    rfl
  exact step.bind fun same => same ▸ h

theorem late {wanted : Wanted} (late : wanted.late = true) :
    Leads place post (Parser.advance >>= fun _ => Parser.refuse (.expected wanted place.view.token)) := by
  refine ⟨.refused 0 (.expected wanted place.view.token), fun cursor _ => ?_, ⟨place.stack, rfl⟩, ?_⟩
  · simp only [Course.parsed, ParseError.Cause.delay, late]
    rfl
  · intro _ h
    cases h
    rfl

theorem eat {f : Bool → Parser β} {mark : Mark} {stack : List Bracket}
    (turned : (Token.mark mark).turn place.stack = some stack)
    (found : place.view.token = .mark mark → Leads (place.skip 1 stack) post (f true))
    (missing : Leads place post (f false)) : Leads place post (Parser.eat mark >>= f) := by
  cases held : place.view.token.isMark mark with
  | true =>
    have seen : place.view.token = .mark mark := by
      cases shape : place.view.token <;> simp_all [Token.isMark]
    obtain ⟨course, ran, accounts⟩ := pass (seen ▸ turned) (found seen)
    refine ⟨course, fun cursor same => ?_, accounts⟩
    rw [← ran cursor same, eatHeld (by rw [← Cursor.viewToken, same, held])]
    rfl
  | false =>
    obtain ⟨course, ran, accounts⟩ := missing
    refine ⟨course, fun cursor same => ?_, accounts⟩
    rw [← ran cursor same, eatLeft (by rw [← Cursor.viewToken, same, held])]

theorem eatWord {f : Bool → Parser β} {word : String}
    (found : ∀ n, View.wordAhead? word place.view.ahead = some n → Leads (place.skip n place.stack) post (f true))
    (missing : View.wordAhead? word place.view.ahead = none → Leads place post (f false)) :
    Leads place post (Parser.eatWord word >>= f) := by
  have same (cursor : Cursor) (here : cursor.view = place.view) :
      Cursor.behindWord word cursor.ahead = (View.wordAhead? word place.view.ahead).map cursor.skip :=
    here ▸ cursor.viewBehindWord word
  cases ahead : View.wordAhead? word place.view.ahead with
  | none =>
    obtain ⟨course, ran, accounts⟩ := missing ahead
    refine ⟨course, fun cursor here => ?_, accounts⟩
    rw [← ran cursor here, eatWordLeft (by rw [same cursor here, ahead]; rfl)]
  | some n =>
    have step : Leads place (fun next _ => next = place.skip n place.stack) (fun cursor => .ok true (cursor.skip n)) :=
      ⟨.ok true n, fun _ _ => rfl, place.stack, View.wordWalked ahead place.stack, rfl⟩
    obtain ⟨course, ran, accounts⟩ := step.bind fun {_ _} there => there ▸ found n ahead
    refine ⟨course, fun cursor here => ?_, accounts⟩
    rw [← ran cursor here, eatWordHeld (by rw [same cursor here, ahead]; rfl)]
    rfl

end Leads

end Parser

end CircuitScript
