import EditorAssist.Cli.Command
import EditorAssist.Document.Assist
import EditorAssist.Json.Codec
import EditorAssist.Json.Printer
import EditorAssist.LexedLine.Render
import EditorAssist.Settings.Merging

/-! What commands print. -/
namespace EditorAssist.Cli

inductive Failure where
  | settings (e : Settings.Error)
  | unreadable (path : String) (e : ReadError)
  | row (e : MissingRow)
  | fault (f : Fault)
  deriving DecidableEq, Repr

def Failure.message : Failure → String
  | settings e => e.message
  | unreadable path e => "cannot read " ++ path ++ ": " ++ e.message
  | row e => e.message
  | fault _ => "internal limit exceeded"

def readSource (files : Files) (path : String) : Except Failure Text :=
  match files.readText path with
  | .ok text => .ok text.toList
  | .error e => .error (.unreadable path e)

/-- The layers of settings of a command: a file in the working directory, the environment, and a
file named by an option. -/
def settingsLayers (vars : List (String × String)) (config : Option String) :
    List Settings.Layer :=
  [.file "focus.toml" false, .environment vars] ++ (config.map (.file · true)).toList

/-- An indentation with its characters made visible. -/
def showIndent (indent : Text) : Text :=
  indent.map fun c => if c == '\t' then '→' else '·'

def jsonListing (lines : List LexedLine) : Text :=
  Json.pretty 0 (.array (lines.map LexedLine.toJson)) ++ ['\n']

/-- What a command prints. Settings are loaded before the source is read. -/
def Command.output (files : Files) (vars : List (String × String)) :
    Command → Except Failure Text
  | tokenize path format config => do
    let settings ← (Settings.load files (settingsLayers vars config)).mapError .settings
    let source ← readSource files path
    let lines := lexText source
    match format.getD settings.format with
    | .json => return jsonListing lines
    | .text => return LexedLine.renderAll lines
  | indent path row config => do
    let settings ← (Settings.load files (settingsLayers vars config)).mapError .settings
    let source ← readSource files path
    let unit ← settings.indentation.unit.mapError .fault
    let indent ← ((Document.ofText source).predictIndent row unit).mapError .row
    return showIndent indent ++ ['\n']
  | outdent path => do
    let source ← readSource files path
    let (document, _) ← (Document.ofText source).outdentAll.mapError .fault
    return document.text

structure Result where
  code : Nat
  out : Text
  err : Text
  deriving DecidableEq, Repr

def usage : String :=
  "Usage: focus tokenize <path> [--format text|json] [--config <file>]\n" ++
  "       focus indent <path> --row <n> [--config <file>]\n" ++
  "       focus outdent <path>\n"

/-- Run a command line. Wrong usage gives code 2, a failure of the command code 1, and a limit
that is exceeded code 101. -/
def run (files : Files) (vars : List (String × String)) (arguments : List String) : Result :=
  match parse arguments with
  | .error _ => ⟨2, [], usage.toList⟩
  | .ok .help => ⟨0, usage.toList, []⟩
  | .ok .version => ⟨0, "focus 0.1.0\n".toList, []⟩
  | .ok (.run command) =>
    match command.output files vars with
    | .ok out => ⟨0, out, []⟩
    | .error (.fault f) => ⟨101, [], (Failure.fault f).message.toList ++ ['\n']⟩
    | .error e => ⟨1, [], "Error: ".toList ++ e.message.toList ++ ['\n']⟩

end EditorAssist.Cli
