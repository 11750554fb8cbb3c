import CircuitScript.Store.Display
import CircuitScript.Text.Numeric

/-! Format texts: plain characters and directives, each of which writes one argument. -/
namespace CircuitScript

inductive Conversion where
  | decimal
  | hexLower
  | hexUpper
  | octal
  | binary
  | text
  | character
  | fixed
  | percent
  deriving DecidableEq, Repr

namespace Conversion

def ofChar? : Char → Option Conversion
  | 'd' => some decimal
  | 'x' => some hexLower
  | 'X' => some hexUpper
  | 'o' => some octal
  | 'b' => some binary
  | 's' => some text
  | 'c' => some character
  | 'f' => some fixed
  | '%' => some percent
  | _ => none

def toChar : Conversion → Char
  | decimal => 'd'
  | hexLower => 'x'
  | hexUpper => 'X'
  | octal => 'o'
  | binary => 'b'
  | text => 's'
  | character => 'c'
  | fixed => 'f'
  | percent => '%'

def isNumeric : Conversion → Bool
  | text => false
  | character => false
  | _ => true

end Conversion

structure Directive where
  left : Bool
  zeros : Bool
  width : Nat
  precision : Option Nat
  conversion : Conversion
  deriving DecidableEq, Repr

namespace Directive

def readCount? (digits : List Char) : Option Nat :=
  let n := Numeral.value .decimal digits
  if digits ≠ [] ∧ digits.all Char.isDigit ∧ n < Nat.pow 2 64 then some n else none

def isFlag (c : Char) : Bool := c == '-' || c == '0'

def splitPrecision : List Char → List Char × List Char
  | '.' :: c :: rest =>
    if Text.isDecimalDigit c then
      (c :: rest.takeWhile Text.isDecimalDigit, rest.dropWhile Text.isDecimalDigit)
    else ([], '.' :: c :: rest)
  | text => ([], text)

/-- The directive behind a percent sign, and what follows it. Flags come before the width, so leading
zeros are flags. -/
def read? (text : List Char) : Option (Directive × List Char) :=
  let flags := text.takeWhile isFlag
  let afterFlags := text.dropWhile isFlag
  let width := afterFlags.takeWhile Text.isDecimalDigit
  let (precision, rest) := splitPrecision (afterFlags.dropWhile Text.isDecimalDigit)
  match rest with
  | [] => none
  | c :: after =>
    (Conversion.ofChar? c).map fun conversion =>
      (⟨flags.contains '-', flags.contains '0', (readCount? width).getD 0, readCount? precision,
        conversion⟩, after)

theorem splitPrecisionLength (text : List Char) :
    (splitPrecision text).2.length ≤ text.length := by
  unfold splitPrecision
  split
  · split
    · rename_i c rest _
      have := (List.dropWhile_suffix (l := rest) Text.isDecimalDigit).length_le
      simp only [List.length_cons]
      omega
    · simp
  · simp

theorem readLength {text : List Char} {found : Directive × List Char}
    (read : read? text = some found) : found.2.length < text.length := by
  have flags := (List.dropWhile_suffix (l := text) isFlag).length_le
  have width := (List.dropWhile_suffix (l := text.dropWhile isFlag) Text.isDecimalDigit).length_le
  have precision :=
    splitPrecisionLength ((text.dropWhile isFlag).dropWhile Text.isDecimalDigit)
  unfold read? at read
  dsimp only at read
  split at read
  · cases read
  · rename_i c after shape
    obtain ⟨conversion, _, rfl⟩ := Option.map_eq_some_iff.mp read
    rw [shape, List.length_cons] at precision
    show after.length < text.length
    omega

/-- The text filled up to the directive's width. Zeros go behind a minus sign. -/
def pad (directive : Directive) (body : List Char) : List Char :=
  let fill := directive.width - body.length
  if directive.left then body ++ List.replicate fill ' '
  else if directive.zeros && directive.conversion.isNumeric then
    match body with
    | '-' :: digits => '-' :: (List.replicate fill '0' ++ digits)
    | digits => List.replicate fill '0' ++ digits
  else List.replicate fill ' ' ++ body

def bitText (radix : Numeral.Radix) (n : Int64) : List Char :=
  Numeral.write radix n.toUInt64.toNat

def characterOf? (n : Int64) : Option Char :=
  if 0 ≤ n ∧ n.toInt.toNat.isValidChar then some (Char.ofNat n.toInt.toNat) else none

def convert (store : Store) (directive : Directive) (value : Value) :
    Except EvalError (List Char) :=
  match directive.conversion with
  | .decimal => value.toInt.map Numeral.integerText
  | .hexLower => value.toInt.map (bitText .hexadecimal)
  | .hexUpper => value.toInt.map fun n => (bitText .hexadecimal n).map Char.toUpper
  | .octal => value.toInt.map (bitText .octal)
  | .binary => value.toInt.map (bitText .binary)
  | .fixed => value.toFloat.map (Numeral.fixedText (directive.precision.getD 6))
  | .text =>
    let text := (store.text value).toList
    match directive.precision with
    | some count => .ok (text.take count)
    | none => .ok text
  | .character => do
    let n ← value.toInt
    match characterOf? n with
    | some c => .ok [c]
    | none => .error (.format (.badCharacterCode (store.text value)))
  | .percent => .ok ['%']

end Directive

inductive Piece where
  | plain (c : Char)
  | directive (d : Directive)
  deriving DecidableEq, Repr

namespace Piece

/-- A format text in parts. A percent sign that begins no directive is plain. -/
def split (text : List Char) : List Piece :=
  match text with
  | [] => []
  | c :: rest =>
    if c = '%' then
      match _ : Directive.read? rest with
      | some (found, after) => .directive found :: split after
      | none => .plain c :: split rest
    else .plain c :: split rest
termination_by text.length
decreasing_by
  · rename_i found
    have : after.length < rest.length := Directive.readLength found
    simp only [List.length_cons]
    omega
  · simp
  · simp

def fill (store : Store) : List Piece → List Value → Except EvalError (List Char)
  | [], _ => .ok []
  | .plain c :: rest, args => do
    let more ← fill store rest args
    .ok (c :: more)
  | .directive d :: rest, args =>
    if d.conversion = .percent then do
      let more ← fill store rest args
      .ok ('%' :: more)
    else
      match args with
      | [] => .error (.format (.missingArgument d.conversion.toChar))
      | value :: args => do
        let body ← d.convert store value
        let more ← fill store rest args
        .ok (d.pad body ++ more)

end Piece

def Store.format (store : Store) (text : String) (args : List Value) : Except EvalError String :=
  (Piece.fill store (Piece.split text.toList) args).map String.ofList

end CircuitScript
