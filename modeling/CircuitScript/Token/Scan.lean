import CircuitScript.Token.Literal

/-! Source text cut into tokens. A script is code from its first character on; template text holds code
in sections, `<? … ?>` for statements and `<?= … ?>` for an expression to print. Every token but the
last shortens what is left to read, so reading ends. -/
namespace CircuitScript

def splitText : List Char → List Char × List Char
  | [] => ([], [])
  | '<' :: '?' :: rest => ([], '<' :: '?' :: rest)
  | c :: rest =>
    let (text, after) := splitText rest
    (c :: text, after)

inductive Mode where
  | text
  | code
  | echo
  deriving DecidableEq, Repr

structure Scan where
  mode : Mode
  line : Nat
  rest : List Char

namespace Scan

/-- The next token of a section of code. Only in template text does `?>` end the section. -/
def nextCode (templated : Bool) (scan : Scan) : Except ParseError (Lexeme × Scan) := do
  let (line, rest) ← skipGap .blank scan.line scan.rest
  match templated, rest with
  | true, '?' :: '>' :: after =>
    let closing := if scan.mode = .echo then Token.echoClose else .mark .semicolon
    .ok (⟨line, closing⟩, ⟨.text, line, after⟩)
  | _, [] => .ok (⟨line, .eof⟩, ⟨scan.mode, line, []⟩)
  | _, c :: rest =>
    let (token, lineThere, after) ← readToken line c rest
    .ok (⟨line, token⟩, ⟨scan.mode, lineThere, after⟩)

def next (templated : Bool) (scan : Scan) : Except ParseError (Lexeme × Scan) :=
  match scan.mode, scan.rest with
  | .text, [] => .ok (⟨scan.line, .eof⟩, scan)
  | .text, '<' :: '?' :: '=' :: rest => .ok (⟨scan.line, .echoOpen⟩, ⟨.echo, scan.line, rest⟩)
  | .text, '<' :: '?' :: rest => nextCode templated ⟨.code, scan.line, rest⟩
  | .text, rest =>
    let (text, after) := splitText rest
    .ok (⟨scan.line, .text (String.ofList text)⟩,
      ⟨.text, text.foldl lineAfter scan.line, after⟩)
  | _, _ => nextCode templated scan

end Scan

theorem splitTextLength (text : List Char) : (splitText text).2.length ≤ text.length := by
  fun_induction splitText text <;> grind

theorem splitTextLengthLt {text : List Char} (filled : text ≠ [])
    (plain : ∀ rest, text ≠ '<' :: '?' :: rest) : (splitText text).2.length < text.length := by
  unfold splitText
  split
  · contradiction
  · exact absurd rfl (plain _)
  · simpa using Nat.lt_succ_of_le (splitTextLength _)

namespace Scan

theorem nextCodeLength {templated : Bool} {scan : Scan} {read : Lexeme × Scan}
    (ok : nextCode templated scan = .ok read) (more : read.1.token.isEof = false) :
    read.2.rest.length < scan.rest.length := by
  unfold nextCode at ok
  cases skipped : skipGap .blank scan.line scan.rest with
  | error e => simp [skipped, bind, Except.bind] at ok
  | ok there =>
    have gap := skipGapLength skipped
    simp only [skipped, bind, Except.bind] at ok
    split at ok
    · cases ok
      simp_all
      omega
    · cases ok
      simp [Token.isEof] at more
    · rename_i c rest _ shape
      cases token : readToken there.1 c rest with
      | error e => simp [token] at ok
      | ok found =>
        have := readTokenLength token
        obtain ⟨_, _, after⟩ := found
        simp only [token] at ok
        cases ok
        simp_all
        omega

theorem nextLength {templated : Bool} {scan : Scan} {read : Lexeme × Scan}
    (ok : next templated scan = .ok read) (more : read.1.token.isEof = false) :
    read.2.rest.length < scan.rest.length := by
  unfold next at ok
  split at ok
  · cases ok
    simp [Token.isEof] at more
  · cases ok
    simp_all
    omega
  · have := nextCodeLength ok more
    simp_all
    omega
  · rename_i filled _ plain
    cases ok
    exact splitTextLengthLt filled plain
  · exact nextCodeLength ok more

def tokens (templated : Bool) (scan : Scan) : Except ParseError (List Lexeme) :=
  match _ : scan.next templated with
  | .error e => .error e
  | .ok (lexeme, after) =>
    if _ : lexeme.token.isEof = false then (after.tokens templated).map (lexeme :: ·)
    else .ok [lexeme]
termination_by scan.rest.length
decreasing_by exact nextLength (by assumption) (by assumption)

end Scan

def tokenizeCode (source : String) : Except ParseError (List Lexeme) :=
  Scan.tokens false ⟨.code, 1, source.toList⟩

def tokenizeTemplate (source : String) : Except ParseError (List Lexeme) :=
  Scan.tokens true ⟨.text, 1, source.toList⟩

end CircuitScript
