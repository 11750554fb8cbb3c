/-! Files as the command line sees them: what reading one comes to, and a tree of files held in memory. -/
namespace CircuitScript

inductive ReadError where
  | missing
  | notDirectory
  | isDirectory
  | nameTooLong
  | nulInName
  | notText
  | other (message : String)
  deriving DecidableEq, Repr

def ReadError.message : ReadError → String
  | missing => "No such file or directory (os error 2)"
  | notDirectory => "Not a directory (os error 20)"
  | isDirectory => "Is a directory (os error 21)"
  | nameTooLong => "File name too long (os error 36)"
  | nulInName => "file name contained an unexpected NUL byte"
  | notText => "stream did not contain valid UTF-8"
  | other message => message

def decodeText (bytes : ByteArray) : Except ReadError String :=
  match String.fromUTF8? bytes with
  | some text => .ok text
  | none => .error .notText

structure FileTree where
  files : List (List String × ByteArray)

/-- Where a path leads: to names from the working directory, or to a directory above it, of whose
contents nothing is known. -/
inductive Place where
  | inside (names : List String)
  | above
  deriving DecidableEq, Repr

namespace FileTree

def isIdle (name : String) : Bool := name == "" || name == "."

def ofList (files : List (String × ByteArray)) : FileTree :=
  ⟨files.map fun (path, bytes) => ((path.splitOn "/").filter (!isIdle ·), bytes)⟩

def file? (tree : FileTree) (names : List String) : Option ByteArray := tree.files.lookup names

def isDirectory (tree : FileTree) (names : List String) : Bool :=
  names.isEmpty || tree.files.any fun entry => names.length < entry.1.length && names.isPrefixOf entry.1

def step (tree : FileTree) (place : Place) (name : String) : Except ReadError Place :=
  match place with
  | .above =>
    if isIdle name || name == ".." then .ok .above
    else if 255 < name.utf8ByteSize then .error .nameTooLong
    else .error .missing
  | .inside names =>
    if !tree.isDirectory names then .error .notDirectory
    else if isIdle name then .ok (.inside names)
    else if name = ".." then
      if names.isEmpty then .ok .above else .ok (.inside names.dropLast)
    else if 255 < name.utf8ByteSize then .error .nameTooLong
    else if (tree.file? (names ++ [name])).isSome || tree.isDirectory (names ++ [name]) then
      .ok (.inside (names ++ [name]))
    else .error .missing

def find (tree : FileTree) (path : String) : Except ReadError Place :=
  if path.toList.any (·.toNat == 0) then .error .nulInName
  else if path = "" then .error .missing
  else if 4096 ≤ path.utf8ByteSize then .error .nameTooLong
  else
    let start := if path.startsWith "/" then Place.above else .inside []
    (path.splitOn "/").foldlM tree.step start

def has (tree : FileTree) (path : String) : Bool := (tree.find path).isOk

def read (tree : FileTree) (path : String) : Except ReadError String := do
  match ← tree.find path with
  | .above => .error .isDirectory
  | .inside names =>
    match tree.file? names with
    | some bytes => decodeText bytes
    | none => .error .isDirectory

end FileTree

end CircuitScript
