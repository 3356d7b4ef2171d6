/-! Files: what paths lead to, and why some cannot be read. -/
namespace EditorAssist

inductive ReadError where
  | missing
  /-- The path goes on below something that is no directory. -/
  | notDirectory
  | isDirectory
  /-- The bytes are not UTF-8. -/
  | notText
  /-- The path holds a character that no path can hold. -/
  | badPath
  deriving DecidableEq, Repr

def ReadError.message : ReadError → String
  | missing => "No such file or directory (os error 2)"
  | notDirectory => "Not a directory (os error 20)"
  | isDirectory => "Is a directory (os error 21)"
  | notText => "stream did not contain valid UTF-8"
  | badPath => "file name contained an unexpected NUL byte"

/-- What a path leads to. -/
abbrev Files := String → Except ReadError ByteArray

namespace Files

def isFile (files : Files) (path : String) : Bool :=
  match files path with
  | .ok _ => true
  | .error _ => false

def readText (files : Files) (path : String) : Except ReadError String := do
  let bytes ← files path
  match String.fromUTF8? bytes with
  | some text => return text
  | none => throw .notText

end Files

/-- The components of a path: those between slashes that are neither empty nor a single dot. -/
def pathComponents (path : String) : List String :=
  (path.splitOn "/").filter fun part => part != "" && part != "."

/-- The path of a file with an ending appended to its name. A path that names no file of its own has
none. -/
def withEnding? (path ending : String) : Option String :=
  let parts := pathComponents path
  match parts.getLast? with
  | none => none
  | some name =>
    if name == ".." then none
    else
      let shown := "/".intercalate (parts.dropLast ++ [name ++ ending])
      some (if path.startsWith "/" then "/" ++ shown else shown)

/-- A path without empty parts and single dots. -/
def tidyPath (path : String) : String :=
  let shown := "/".intercalate (pathComponents path)
  if path.startsWith "/" then "/" ++ shown else shown

end EditorAssist
