import CircuitScript.CommandLine

/-! The command line on the files, the input and the environment of the system.
Everything that is decided is decided by the command line itself; here it is read, printed and left. -/
namespace CircuitScript.CommandLine

/-- What a failed reading of a file means, by the system's number for it, which comes with either sign. -/
def readErrorOf (e : IO.Error) : ReadError :=
  match e with
  | .noFileOrDirectory _ _ _ => .missing
  | .inappropriateType _ code _ => if min code (-code) = 20 then .notDirectory else .isDirectory
  | .invalidArgument _ code _ => if min code (-code) = 36 then .nameTooLong else .other e.toString
  | _ => .other e.toString

partial def readToEnd (stream : IO.FS.Stream) (before : ByteArray) : IO ByteArray := do
  let more ← stream.read 65536
  if more.isEmpty then return before else readToEnd stream (before ++ more)

def readText (bytes : IO ByteArray) : IO (Except ReadError String) := do
  match ← bytes.toBaseIO with
  | .ok bytes => return decodeText bytes
  | .error e => return .error (readErrorOf e)

def isThere (path : String) : IO Bool := do
  match ← (IO.FS.realPath path).toBaseIO with
  | .ok _ => return true
  | .error _ => return false

/-- The prelude in the directory where the user keeps settings. A directory that is not named from
the root does not count. -/
def userPrelude : IO (Option String) := do
  let settings := (← IO.getEnv "XDG_CONFIG_HOME").filter (·.startsWith "/")
  let home := (← IO.getEnv "HOME").map (· ++ "/.config")
  return (settings <|> home).map (· ++ "/hgs/prelude.hgs")

def systemHost : IO (Host IO) := do
  let preludeVariable ← IO.getEnv "HGS_PRELUDE"
  let userPrelude ← userPrelude
  let input ← IO.getStdin
  return {
    source := fun path => readText (IO.FS.readBinFile path)
    isThere := isThere
    input := readText (readToEnd input ByteArray.empty)
    preludeVariable := preludeVariable
    userPrelude := userPrelude }

def usage : String :=
  "Usage: hgs [-t] [-D NAME=VALUE]... [--prelude FILE | --no-prelude] [-v]... [FILE | -e CODE]"

def fail (message : String) : IO UInt32 := do
  IO.eprintln ("hgs: " ++ message)
  return 1

def carryOut (arguments : Arguments) : IO UInt32 := do
  let host ← systemHost
  match ← configure host arguments with
  | .error e => fail e.message
  | .ok config =>
    match ← run Script.ample host arguments config with
    | .error e => fail e.message
    | .ok text =>
      IO.print text
      return 0

end CircuitScript.CommandLine

open CircuitScript in
def main (words : List String) : IO UInt32 := do
  match Arguments.parse words with
  | .ok arguments => CommandLine.carryOut arguments
  | .error .helpAsked =>
    IO.println CommandLine.usage
    return 0
  | .error .versionAsked =>
    IO.println "hgs 0.1.0"
    return 0
  | .error _ =>
    IO.eprintln CommandLine.usage
    return 2
