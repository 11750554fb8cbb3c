/-! The words of a command line sorted into options and operands. -/
namespace CircuitScript

inductive UsageError where
  | argumentConflict
  | unknownArgument
  | missingValue
  | unneededValue
  | helpAsked
  | versionAsked
  deriving DecidableEq, Repr

structure Arguments where
  file : Option String
  eval : Option String
  template : Bool
  definitions : List String
  prelude : Option String
  noPrelude : Bool
  verbosity : Nat
  deriving DecidableEq, Repr

namespace Arguments

def none : Arguments := ⟨.none, .none, false, [], .none, false, 0⟩

inductive Slot where
  | file
  | eval
  | define
  | prelude
  deriving DecidableEq, Repr

inductive Switch where
  | template
  | noPrelude
  | verbose
  | help
  | version
  deriving DecidableEq, Repr

def longSlot? : String → Option Slot
  | "eval" => some .eval
  | "define" => some .define
  | "prelude" => some .prelude
  | _ => .none

def longSwitch? : String → Option Switch
  | "template" => some .template
  | "no-prelude" => some .noPrelude
  | "verbose" => some .verbose
  | "help" => some .help
  | "version" => some .version
  | _ => .none

def shortSlot? : Char → Option Slot
  | 'e' => some .eval
  | 'D' => some .define
  | _ => .none

def shortSwitch? : Char → Option Switch
  | 't' => some .template
  | 'v' => some .verbose
  | 'h' => some .help
  | 'V' => some .version
  | _ => .none

/-- Puts a value into its slot. Only definitions may be repeated, and a path is not empty. -/
def store (arguments : Arguments) (slot : Slot) (value : String) : Except UsageError Arguments :=
  match slot with
  | .file =>
    if arguments.file.isSome then .error .argumentConflict
    else if value = "" then .error .missingValue
    else .ok { arguments with file := some value }
  | .eval =>
    if arguments.eval.isSome then .error .argumentConflict
    else .ok { arguments with eval := some value }
  | .define => .ok { arguments with definitions := arguments.definitions ++ [value] }
  | .prelude =>
    if arguments.prelude.isSome then .error .argumentConflict
    else if value = "" then .error .missingValue
    else .ok { arguments with prelude := some value }

def turnOn (arguments : Arguments) : Switch → Except UsageError Arguments
  | .template =>
    if arguments.template then .error .argumentConflict else .ok { arguments with template := true }
  | .noPrelude =>
    if arguments.noPrelude then .error .argumentConflict
    else .ok { arguments with noPrelude := true }
  | .verbose => .ok { arguments with verbosity := arguments.verbosity + 1 }
  | .help => .error .helpAsked
  | .version => .error .versionAsked

def check (arguments : Arguments) : Except UsageError Arguments :=
  if arguments.file.isSome && arguments.eval.isSome then .error .argumentConflict
  else if arguments.prelude.isSome && arguments.noPrelude then .error .argumentConflict
  else .ok arguments

/-- How far a command line has been read. A slot stays pending with its value until the next option or
operand begins. -/
structure Reading where
  found : Arguments
  pending : Option (Slot × Option String)
  operandsOnly : Bool
  operandSeen : Bool
  deriving DecidableEq, Repr

namespace Reading

def start : Reading := ⟨Arguments.none, .none, false, false⟩

def settle (reading : Reading) : Except UsageError Reading :=
  match reading.pending with
  | .none => .ok reading
  | some (_, .none) => .error .missingValue
  | some (slot, some value) => do
    let found ← reading.found.store slot value
    .ok { reading with found := found, pending := .none }

def openSlot (reading : Reading) (slot : Slot) : Except UsageError Reading := do
  let settled ← reading.settle
  .ok { settled with pending := some (slot, .none) }

def fillSlot (reading : Reading) (slot : Slot) (value : String) : Except UsageError Reading := do
  let settled ← reading.settle
  let found ← settled.found.store slot value
  .ok { settled with found := found }

def throwSwitch (reading : Reading) (switch : Switch) : Except UsageError Reading := do
  let settled ← reading.settle
  let found ← settled.found.turnOn switch
  .ok { settled with found := found }

def word (reading : Reading) (text : String) : Except UsageError Reading :=
  match reading.operandsOnly, reading.pending with
  | false, some (slot, .none) => .ok { reading with pending := some (slot, some text) }
  | _, _ =>
    if reading.operandSeen then .error .unknownArgument
    else do
      let settled ← reading.settle
      .ok { settled with pending := some (.file, some text), operandSeen := true }

def long (reading : Reading) (name : String) (value : Option String) :
    Except UsageError Reading :=
  match longSlot? name, longSwitch? name, value with
  | some slot, _, some value => reading.fillSlot slot value
  | some slot, _, .none => reading.openSlot slot
  | .none, some _, some _ => .error .unneededValue
  | .none, some switch, .none => reading.throwSwitch switch
  | .none, .none, _ => .error .unknownArgument

/-- Options by their short names in a row. What follows a slot is its value, an equals sign in front of
it aside. -/
def short (reading : Reading) : List Char → Except UsageError Reading
  | [] => .ok reading
  | c :: rest =>
    match shortSwitch? c, shortSlot? c with
    | some switch, _ => do
      let next ← reading.throwSwitch switch
      next.short rest
    | .none, some slot =>
      match rest with
      | [] => reading.openSlot slot
      | '=' :: value => reading.fillSlot slot (String.ofList value)
      | value => reading.fillSlot slot (String.ofList value)
    | .none, .none => .error .unknownArgument

def next (reading : Reading) (text : String) : Except UsageError Reading :=
  if reading.operandsOnly then reading.word text
  else
    match text.toList with
    | ['-', '-'] => .ok { reading with operandsOnly := true }
    | '-' :: '-' :: rest =>
      let name := String.ofList (rest.takeWhile (· != '='))
      match rest.dropWhile (· != '=') with
      | [] => reading.long name .none
      | _ :: value => reading.long name (some (String.ofList value))
    | '-' :: c :: rest => reading.short (c :: rest)
    | _ => reading.word text

end Reading

def parse (words : List String) : Except UsageError Arguments := do
  let reading ← words.foldlM Reading.next Reading.start
  let settled ← reading.settle
  settled.found.check

end Arguments

end CircuitScript
