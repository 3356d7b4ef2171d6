import EditorAssist.Files
import EditorAssist.Settings.Basic
import EditorAssist.Settings.Error
import EditorAssist.Settings.Tree
import EditorAssist.Text.Lowercase

/-! Layers of settings, and how they are loaded. What the layers hold is merged and converted by a
library. It is a parameter here: only what is asked of it is written down. -/
namespace EditorAssist.Settings

inductive Source where
  /-- A text that is written like a settings file. -/
  | text (t : String)
  /-- A settings file. -/
  | file (path : String) (required : Bool)
  /-- Variables of an environment. Those for settings have a mark in front of their names. -/
  | environment (mark separator : String) (vars : List (String × String))

structure Record where
  name : String
  fields : List String

/-- A library that collects settings from sources and reads values from them. -/
structure Collector where
  /-- The path that a key writes. -/
  path? : String → Option Path
  /-- The values that a source holds, by their keys. -/
  entries : Files → Source → Except Error (List (String × Tree))
  /-- The value for which the text of a variable stands. -/
  ofText : String → Scalar
  /-- Set a value at a path. -/
  set : Path → Tree → Tree → Except Error Tree
  /-- All that sources hold. -/
  collect : Files → List Source → Except Error Tree
  /-- What sources hold, with overrides on top. Sources and overrides are in the order in which they
  were handed over. -/
  build : Files → List Source → List (Path × Tree) → Except Error Tree
  /-- A field of a record that stands at a key, with its own key. -/
  field : Record → String → Tree → String → Except Error (String × Tree)
  natural : String → Tree → Except Error Nat
  truth : String → Tree → Except Error Bool
  /-- One of several named choices. -/
  choice : {α : Type} → String → List (String × α) → Tree → Except Error α

/-- A text with `new` in place of each `old`, from left to right. `skip` characters are left of the
last one that was found. -/
def replaceFrom (old new : Text) : Nat → Text → Text
  | _, [] => []
  | skip + 1, _ :: rest => replaceFrom old new skip rest
  | 0, c :: rest =>
    if old.isPrefixOf (c :: rest) then new ++ replaceFrom old new (old.length - 1) rest
    else c :: replaceFrom old new 0 rest

/-- The key that a variable sets, if it is marked: what follows the mark and a separator, in lower
case, with dots for separators. -/
def variableKey? (mark separator name : String) : Option String :=
  let low := Text.lower name.toList
  let start := Text.lower (mark ++ separator).toList
  if start.isPrefixOf low then
    some (String.ofList (replaceFrom separator.toList ['.'] 0 (low.drop start.length)))
  else none

/-- Overrides by path: of those of one path the last. -/
def latest : List (Path × Tree) → List (Path × Tree)
  | [] => []
  | (path, value) :: rest =>
    if rest.any (·.1 == path) then latest rest else (path, value) :: latest rest

def settingsRecord : Record :=
  ⟨"FocusConfig", ["indentation", "output"]⟩

def indentationRecord : Record :=
  ⟨"IndentationConfig", ["style", "width", "auto_outdent"]⟩

def outputRecord : Record :=
  ⟨"OutputConfig", ["format"]⟩

namespace Collector

def readIndentation (c : Collector) (key : String) (t : Tree) : Except Error Indentation := do
  let (_, styleTree) ← c.field indentationRecord key t "style"
  let style ← c.choice "IndentStyle" [("spaces", Style.spaces), ("tabs", .tabs)] styleTree
  let (widthKey, widthTree) ← c.field indentationRecord key t "width"
  let width ← c.natural widthKey widthTree
  let (outdentKey, outdentTree) ← c.field indentationRecord key t "auto_outdent"
  let autoOutdent ← c.truth outdentKey outdentTree
  return ⟨style, width, autoOutdent⟩

def readOutput (c : Collector) (key : String) (t : Tree) : Except Error Format := do
  let (_, formatTree) ← c.field outputRecord key t "format"
  c.choice "OutputFormat" [("text", Format.text), ("json", .json)] formatTree

def readSettings (c : Collector) (t : Tree) : Except Error Settings := do
  let (indentationKey, indentationTree) ← c.field settingsRecord "" t "indentation"
  let indentation ← c.readIndentation indentationKey indentationTree
  let (outputKey, outputTree) ← c.field settingsRecord "" t "output"
  let format ← c.readOutput outputKey outputTree
  return ⟨indentation, format⟩

end Collector

/-- The settings that hold before any layer, as a settings file. -/
def defaultText : String :=
  "# Built-in defaults for the focus editor-assist core.
#
# User files, FOCUS__* environment variables (e.g. FOCUS__INDENTATION__WIDTH=2)
# and command-line overrides are layered on top of these values.

[indentation]
# Indent unit: \"spaces\" or \"tabs\".
style = \"spaces\"
# Spaces per indent unit. Ignored when style is \"tabs\".
width = 4
# Re-indent a lone closing brace to its opening brace's line while typing.
auto_outdent = true

[output]
# Default output of `focus tokenize`: \"text\" or \"json\".
format = \"text\"
"

inductive Layer where
  /-- A file. One that is not required is passed over if it cannot be read. -/
  | file (path : String) (required : Bool)
  /-- Variables of an environment. -/
  | environment (vars : List (String × String))
  /-- A value for a key, which is laid over all files and environments. -/
  | assignment (key : String) (value : Tree)

/-- What layers hand over to a library. -/
structure Loader where
  sources : List Source
  overrides : List (Path × Tree)

namespace Loader

def start : Loader :=
  ⟨[.text defaultText], []⟩

def addSource (l : Loader) (source : Source) : Loader :=
  { l with sources := l.sources ++ [source] }

/-- Add a layer. The key of an assignment is read at once. -/
def add (c : Collector) (l : Loader) : Layer → Except Error Loader
  | .file path required => .ok (l.addSource (.file path required))
  | .environment vars => .ok (l.addSource (.environment "FOCUS" "__" vars))
  | .assignment key value =>
    match c.path? key with
    | none => .error .badPath
    | some path => .ok { l with overrides := l.overrides ++ [(path, value)] }

end Loader

def Collector.load (c : Collector) (files : Files) (layers : List Layer) :
    Except Error Settings := do
  let l ← layers.foldlM (Loader.add c) Loader.start
  c.readSettings (← c.build files l.sources l.overrides)

end EditorAssist.Settings
