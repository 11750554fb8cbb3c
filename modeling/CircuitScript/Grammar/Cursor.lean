import CircuitScript.ParseError

/-! Reading along a row of tokens: the place reached, and parsers that move it forward. -/
namespace CircuitScript

structure Cursor where
  previous : Option Lexeme
  ahead : List Lexeme

namespace Cursor

def token (cursor : Cursor) : Token :=
  match cursor.ahead with
  | [] => .eof
  | lexeme :: _ => lexeme.token

/-- The line of this place; beyond the last token it is that token's line. -/
def line (cursor : Cursor) : Nat :=
  match cursor.ahead, cursor.previous with
  | lexeme :: _, _ => lexeme.line
  | [], some lexeme => lexeme.line
  | [], none => 1

def advance (cursor : Cursor) : Cursor :=
  match cursor.ahead with
  | [] => cursor
  | lexeme :: rest => ⟨some lexeme, rest⟩

def afterTerminator (cursor : Cursor) : Bool :=
  match cursor.previous with
  | some lexeme => lexeme.token.isMark .semicolon || lexeme.token.isMark .rBrace
  | none => false

/-- The place behind a word, if only semicolons stand in front of it. -/
def behindWord (word : String) : List Lexeme → Option Cursor
  | [] => none
  | lexeme :: rest =>
    match lexeme.token with
    | .mark .semicolon => behindWord word rest
    | .ident name => if name = word then some ⟨some lexeme, rest⟩ else none
    | _ => none

end Cursor

inductive Parsed (α : Type) where
  | ok (result : α) (rest : Cursor)
  | refused (e : ParseError)
  | spent

def Parser (α : Type) := Cursor → Parsed α

namespace Parser

instance : Monad Parser where
  pure a := fun cursor => .ok a cursor
  bind p f := fun cursor =>
    match p cursor with
    | .ok a rest => f a rest
    | .refused e => .refused e
    | .spent => .spent

theorem pureApply {α : Type} (a : α) (cursor : Cursor) :
    (pure a : Parser α) cursor = .ok a cursor := rfl

theorem bindApply {α β : Type} (p : Parser α) (f : α → Parser β) (cursor : Cursor) :
    (p >>= f) cursor =
      match p cursor with
      | .ok a rest => f a rest
      | .refused e => .refused e
      | .spent => .spent := rfl

theorem bindEqOk {α β : Type} {p : Parser α} {f : α → Parser β} {cursor rest : Cursor} {b : β} :
    (p >>= f) cursor = .ok b rest ↔
      ∃ a middle, p cursor = .ok a middle ∧ f a middle = .ok b rest := by
  rw [bindApply]
  cases p cursor <;> simp [and_assoc]

def spent {α : Type} : Parser α := fun _ => .spent

def refuse {α : Type} (cause : ParseError.Cause) : Parser α := fun cursor =>
  .refused ⟨cursor.line, cause⟩

def peek : Parser Token := fun cursor => .ok cursor.token cursor

def advance : Parser Token := fun cursor => .ok cursor.token cursor.advance

def unexpected {α : Type} (wanted : Wanted) : Parser α := do
  refuse (.expected wanted (← peek))

def eat (mark : Mark) : Parser Bool := fun cursor =>
  if cursor.token.isMark mark then .ok true cursor.advance else .ok false cursor

def expectAs (mark : Mark) (wanted : Wanted) : Parser Unit := do
  if ← eat mark then pure () else unexpected wanted

def expect (mark : Mark) : Parser Unit := expectAs mark (.mark mark)

def eatWord (word : String) : Parser Bool := fun cursor =>
  match Cursor.behindWord word cursor.ahead with
  | some rest => .ok true rest
  | none => .ok false cursor

end Parser

end CircuitScript
