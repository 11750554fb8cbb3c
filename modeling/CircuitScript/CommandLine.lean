import CircuitScript.CommandLine.Arguments
import CircuitScript.CommandLine.Files
import CircuitScript.Definition
import CircuitScript.Script

/-! What a command line does: it runs a prelude and a source in one root scope and gives what they
printed. The files, the input and the surroundings come from a host. -/
namespace CircuitScript

structure Host (m : Type → Type) where
  source : String → m (Except ReadError String)
  isThere : String → m Bool
  input : m (Except ReadError String)
  preludeVariable : Option String
  userPrelude : Option String

structure Config where
  prelude : Option String
  definitions : List (String × Scalar)
  template : Bool
  verbosity : Nat

def Config.logFilter (config : Config) : String :=
  match config.verbosity with
  | 0 => "warn"
  | 1 => "debug"
  | _ => "trace"

inductive CommandError where
  | unreadable (path : String) (e : ReadError)
  | input (e : ReadError)
  | script (name : String) (e : ScriptError)
  | unfinished (name : String)

def CommandError.message : CommandError → String
  | unreadable path e => "cannot read " ++ path ++ ": " ++ e.message
  | input e => "cannot read standard input: " ++ e.message
  | script name e => name ++ ": " ++ e.message
  | unfinished name => name ++ ": out of steps"

structure Source where
  name : String
  text : String

namespace CommandLine

variable {m : Type → Type} [Monad m]

def firstPresent (host : Host m) : List String → m (Option String)
  | [] => pure none
  | path :: rest => do
    if ← host.isThere path then pure (some path) else firstPresent host rest

/-- The prelude to run. One that the command line names need not be there; reading it will tell. -/
def findPrelude (host : Host m) (arguments : Arguments) : m (Option String) :=
  if arguments.noPrelude then pure none
  else
    match arguments.prelude with
    | some path => pure (some path)
    | none => firstPresent host (host.preludeVariable.toList ++ host.userPrelude.toList)

def configure (host : Host m) (arguments : Arguments) : m (Except DefinitionError Config) :=
  match Definition.readAll arguments.definitions with
  | .error e => pure (.error e)
  | .ok definitions => do
    let prelude ← findPrelude host arguments
    pure (.ok ⟨prelude, definitions, arguments.template, arguments.verbosity⟩)

def readSource (host : Host m) (path : String) : m (Except CommandError Source) := do
  match ← host.source path with
  | .ok text => pure (.ok ⟨path, text⟩)
  | .error e => pure (.error (.unreadable path e))

def selectSource (host : Host m) (arguments : Arguments) : m (Except CommandError Source) :=
  match arguments.eval, arguments.file with
  | some code, _ => pure (.ok ⟨"<eval>", code⟩)
  | none, some path => readSource host path
  | none, none => do
    match ← host.input with
    | .ok text => pure (.ok ⟨"<stdin>", text⟩)
    | .error e => pure (.error (.input e))

def runSources (budget : Nat) (scope : ScopeId) :
    List (Source × Bool) → Store → Except CommandError Store
  | [], store => .ok store
  | (source, template) :: rest, store =>
    match Script.runIn budget scope template source.text store with
    | .done _ store => runSources budget scope rest store
    | .failed e _ => .error (.script source.name e)
    | .spent => .error (.unfinished source.name)

def execute (budget : Nat) (config : Config) (prelude : Option Source) (source : Source) :
    Except CommandError String := do
  let (root, store) := Store.empty.newRoot
  let store := (store.installStandard root).bindAll root (bindDefinitions config.definitions)
  let sources := (prelude.map fun p => (p, false)).toList ++ [(source, config.template)]
  let final ← runSources budget root sources store
  .ok (final.outputText root)

def run (budget : Nat) (host : Host m) (arguments : Arguments) (config : Config) :
    m (Except CommandError String) := do
  match ← selectSource host arguments with
  | .error e => pure (.error e)
  | .ok source =>
    match config.prelude with
    | none => pure (execute budget config none source)
    | some path =>
      match ← readSource host path with
      | .error e => pure (.error e)
      | .ok prelude => pure (execute budget config (some prelude) source)

end CommandLine

end CircuitScript
