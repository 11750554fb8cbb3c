import CircuitScript.Token

/-! Brackets in a row of tokens. Rows that are nested are those that a stack of the open brackets follows to
their end. -/
namespace CircuitScript

inductive Bracket where
  | paren
  | square
  | brace
  | echo
  deriving DecidableEq, Repr

namespace Token

def opens? : Token → Option Bracket
  | mark .lParen => some .paren
  | mark .lBracket => some .square
  | mark .lBrace => some .brace
  | echoOpen => some .echo
  | _ => none

def closes? : Token → Option Bracket
  | mark .rParen => some .paren
  | mark .rBracket => some .square
  | mark .rBrace => some .brace
  | echoClose => some .echo
  | _ => none

/-- Whether the token can be part of a script: it is neither the end of input nor a character by itself. -/
def known : Token → Bool
  | unknown _ => false
  | eof => false
  | _ => true

end Token

inductive Nested : List Token → Prop where
  | nil : Nested []
  | other {token : Token} {rest : List Token} (noOpening : token.opens? = none)
      (noClosing : token.closes? = none) (later : Nested rest) : Nested (token :: rest)
  | pair {bracket : Bracket} {opening closing : Token} {inner rest : List Token}
      (opened : opening.opens? = some bracket) (closed : closing.closes? = some bracket)
      (inside : Nested inner) (later : Nested rest) : Nested (opening :: inner ++ closing :: rest)

theorem Nested.append {first second : List Token} (h : Nested first) (h' : Nested second) :
    Nested (first ++ second) := by
  induction h with
  | nil => exact h'
  | other noOpening noClosing _ ih => exact .other noOpening noClosing ih
  | pair opened closed inside _ _ ih =>
    rw [List.append_assoc, List.cons_append]
    exact .pair opened closed inside ih

/-- The brackets open behind a token, the innermost first. Nothing follows an unknown token or the end. -/
def Token.turn (stack : List Bracket) (token : Token) : Option (List Bracket) :=
  match token.opens?, token.closes?, stack with
  | some bracket, _, stack => some (bracket :: stack)
  | none, some bracket, top :: stack => if top = bracket then some stack else none
  | none, some _, [] => none
  | none, none, stack => if token.known then some stack else none

def walk (stack : List Bracket) (tokens : List Token) : Option (List Bracket) :=
  tokens.foldlM Token.turn stack

theorem walkAppend (stack : List Bracket) (first second : List Token) :
    walk stack (first ++ second) = (walk stack first).bind (walk · second) := List.foldlM_append

theorem walkKnown {stack after : List Bracket} {tokens : List Token} (walked : walk stack tokens = some after) :
    ∀ token ∈ tokens, token.known = true := by
  induction tokens generalizing stack with
  | nil => nofun
  | cons token rest ih =>
    obtain ⟨middle, turned, later⟩ := Option.bind_eq_some_iff.mp walked
    refine List.forall_mem_cons.mpr ⟨?_, ih later⟩
    cases token with
    | unknown c => cases turned
    | eof => cases turned
    | _ => rfl

/-- Nested stretches, one for the outside of each open bracket, with the closing tokens between them. -/
def Unwinds : List Bracket → List Token → Prop
  | [], tokens => Nested tokens
  | bracket :: stack, tokens =>
    ∃ inner closing rest, tokens = inner ++ closing :: rest ∧ Nested inner ∧
      closing.closes? = some bracket ∧ Unwinds stack rest

theorem Nested.unwinds {stack : List Bracket} {first rest : List Token} (nested : Nested first)
    (h : Unwinds stack rest) : Unwinds stack (first ++ rest) := by
  cases stack with
  | nil => exact nested.append h
  | cons bracket stack =>
    obtain ⟨inner, closing, later, rfl, inside, closed, outside⟩ := h
    exact ⟨first ++ inner, closing, later, (List.append_assoc ..).symm, nested.append inside, closed, outside⟩

theorem walkUnwinds {stack : List Bracket} {tokens : List Token} (walked : walk stack tokens = some []) :
    Unwinds stack tokens := by
  induction tokens generalizing stack with
  | nil =>
    cases walked
    exact .nil
  | cons token rest ih =>
    obtain ⟨middle, turned, later⟩ := Option.bind_eq_some_iff.mp walked
    have unwinds := ih later
    unfold Token.turn at turned
    split at turned
    · rename_i opened
      cases turned
      obtain ⟨inner, closing, outer, rfl, inside, closed, outside⟩ := unwinds
      have pair : Nested (token :: inner ++ [closing]) := .pair opened closed inside .nil
      simpa using pair.unwinds outside
    · rename_i closed
      split at turned
      · rename_i same
        cases turned
        exact ⟨[], token, rest, rfl, .nil, same ▸ closed, unwinds⟩
      · cases turned
    · cases turned
    · rename_i noOpening noClosing
      split at turned
      · cases turned
        exact (Nested.other noOpening noClosing .nil).unwinds unwinds
      · cases turned

end CircuitScript
