import EditorAssist.Cli.Run

/-! The program: it reads the files and variables that a command may need and prints the result. -/
namespace EditorAssist.Program

/-- The paths that a command may read. -/
def neededPaths (command : Cli.Command) : List String :=
  let settingsPaths (config : Option String) : List String :=
    ("focus.toml" :: config.toList).flatMap fun path => path :: (withEnding? path ".toml").toList
  match command with
  | .tokenize path _ config => path :: settingsPaths config
  | .indent path _ config => path :: settingsPaths config
  | .outdent path => [path]

def readPath (path : String) : IO (Except ReadError ByteArray) := do
  try
    return .ok (← IO.FS.readBinFile path)
  catch
    | .inappropriateType _ code _ =>
      return .error (if code == 20 then .notDirectory else .isDirectory)
    | _ => return .error .missing

def readVariables : IO (List (String × String)) := do
  match ← readPath "/proc/self/environ" with
  | .error _ => return []
  | .ok bytes =>
    let text := (String.fromUTF8? bytes).getD ""
    return (text.splitOn "\x00").filterMap fun entry =>
      match entry.splitOn "=" with
      | name :: value :: rest => some (name, "=".intercalate (value :: rest))
      | _ => none

end EditorAssist.Program

open EditorAssist in
def main (arguments : List String) : IO UInt32 := do
  let paths := match Cli.parse arguments with
    | .ok (.run command) => Program.neededPaths command
    | _ => []
  let contents ← paths.mapM fun path => do return (path, ← Program.readPath path)
  let files : Files := fun path => (contents.lookup path).getD (.error .missing)
  let vars ← Program.readVariables
  let result := Cli.run files vars arguments
  IO.print (String.ofList result.out)
  IO.eprint (String.ofList result.err)
  return UInt32.ofNat result.code
