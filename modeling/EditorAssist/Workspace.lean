import EditorAssist.Files

/-! Workspaces: directories of files held in memory, with paths resolved as an operating system
does. What lies outside the workspace is out of reach. -/
namespace EditorAssist

inductive Workspace.Entry where
  | file (bytes : ByteArray)
  | directory

/-- The entries of a workspace by the components of their paths. Directories on the way to an entry
need not be listed. -/
structure Workspace where
  entries : List (List String × Workspace.Entry)

namespace Workspace

def ofList (entries : List (String × Entry)) : Workspace :=
  ⟨entries.map fun (path, entry) => (pathComponents path, entry)⟩

def nodeAt? (w : Workspace) (place : List String) : Option Entry :=
  match w.entries.lookup place with
  | some entry => some entry
  | none =>
    if place.isEmpty || w.entries.any (fun (path, _) => place.isPrefixOf path) then some .directory
    else none

/-- Follow the components of a path from a directory. `above` counts the directories between it and
the workspace when it lies outside; there nothing but further directories above is known. -/
def follow (w : Workspace) (above : Nat) (place : List String) :
    List String → Except ReadError Entry
  | [] => .ok .directory
  | ".." :: rest =>
    if place.isEmpty then w.follow (above + 1) [] rest else w.follow above place.dropLast rest
  | name :: rest =>
    if 0 < above then .error .missing
    else
      match w.nodeAt? (place ++ [name]) with
      | none => .error .missing
      | some .directory => w.follow 0 (place ++ [name]) rest
      | some (.file bytes) => if rest.isEmpty then .ok (.file bytes) else .error .notDirectory

/-- Whether a path can only mean a directory. -/
def endsInDirectory (path : String) : Bool :=
  path.endsWith "/" || path.endsWith "/."

def files (w : Workspace) : Files := fun path =>
  if path.isEmpty then .error .missing
  else if path.contains '\x00' then .error .badPath
  else
    let above := if path.startsWith "/" then 1 else 0
    match w.follow above [] (pathComponents path) with
    | .error e => .error e
    | .ok .directory => .error .isDirectory
    | .ok (.file bytes) => if endsInDirectory path then .error .notDirectory else .ok bytes

end EditorAssist.Workspace
