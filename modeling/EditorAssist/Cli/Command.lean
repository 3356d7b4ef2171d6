import EditorAssist.Settings.Read

/-! Commands and how they are read from the arguments of a command line. -/
namespace EditorAssist.Cli

inductive Command where
  /-- Print the tokens of a file. -/
  | tokenize (path : String) (format : Option Settings.Format) (config : Option String)
  /-- Print the indentation of a line started after a row. -/
  | indent (path : String) (row : Nat) (config : Option String)
  /-- Print a file with its closing braces lined up. -/
  | outdent (path : String)
  deriving DecidableEq, Repr

inductive Request where
  | run (command : Command)
  | version
  | help
  deriving DecidableEq, Repr

inductive UsageError where
  | noCommand
  | unknownCommand (name : String)
  | unexpected (argument : String)
  | missingValue (option : String)
  | repeated (option : String)
  | badValue (option value : String)
  | missing (name : String)
  deriving DecidableEq, Repr

/-- An option that takes a value. -/
inductive Flag where
  | format
  | config
  | row
  deriving DecidableEq, Repr

namespace Flag

/-- The name of an option after two dashes. -/
def long : Flag → String
  | format => "format"
  | config => "config"
  | row => "row"

/-- The letter of an option after one dash. -/
def short : Flag → Char
  | format => 'f'
  | config => 'c'
  | row => 'r'

def accepts (flag : Flag) (value : String) : Bool :=
  match flag with
  | format => value == "text" || value == "json"
  | config => true
  | row => (Settings.wholeNatural? value.toList).isSome

end Flag

/-- The arguments read so far: the path, the options with their values, the option that still
needs a value, and whether two dashes have ended the options. -/
structure Progress where
  path : Option String := none
  values : List (Flag × String) := []
  pending : Option Flag := none
  ended : Bool := false

/-- What one more argument leads to. -/
inductive Outcome where
  | more (p : Progress)
  | help

namespace Progress

def give (p : Progress) (flag : Flag) (value : String) : Except UsageError Outcome :=
  if (p.values.lookup flag).isSome then .error (.repeated flag.long)
  else if flag.accepts value then
    .ok (.more { p with values := (flag, value) :: p.values, pending := none })
  else .error (.badValue flag.long value)

def take (p : Progress) (argument : String) : Except UsageError Outcome :=
  match p.path with
  | none => .ok (.more { p with path := some argument })
  | some _ => .error (.unexpected argument)

/-- Take an argument that begins with two dashes, given what follows them. -/
def takeLong (flags : List Flag) (p : Progress) (body : Text) : Except UsageError Outcome :=
  let name := String.ofList (body.takeWhile (· != '='))
  let value := body.dropWhile (· != '=')
  match flags.find? (·.long == name), value with
  | some flag, [] =>
    if (p.values.lookup flag).isSome then .error (.repeated flag.long)
    else .ok (.more { p with pending := some flag })
  | some flag, _ :: value => p.give flag (String.ofList value)
  | none, [] => if name == "help" then .ok .help else .error (.unexpected name)
  | none, _ => .error (.unexpected name)

/-- Take an argument that begins with one dash, given its letter and what follows. -/
def takeShort (flags : List Flag) (p : Progress) (letter : Char) (body : Text) :
    Except UsageError Outcome :=
  match flags.find? (·.short == letter), body with
  | some flag, [] =>
    if (p.values.lookup flag).isSome then .error (.repeated flag.long)
    else .ok (.more { p with pending := some flag })
  | some flag, '=' :: value => p.give flag (String.ofList value)
  | some flag, value => p.give flag (String.ofList value)
  | none, _ => if letter == 'h' then .ok .help else .error (.unexpected (letter.toString))

/-- Take one argument. An option that needs a value takes the next argument unless that begins
with a dash and is longer. -/
def step (flags : List Flag) (p : Progress) (argument : String) : Except UsageError Outcome :=
  if p.ended then p.take argument
  else
    match argument.toList with
    | ['-', '-'] => .ok (.more { p with ended := true })
    | '-' :: c :: body =>
      match p.pending with
      | some flag => .error (.missingValue flag.long)
      | none => if c == '-' then p.takeLong flags body else p.takeShort flags c body
    | _ =>
      match p.pending with
      | some flag => p.give flag argument
      | none => p.take argument

def scan (flags : List Flag) (p : Progress) : List String → Except UsageError (Option Progress)
  | [] =>
    match p.pending with
    | some flag => .error (.missingValue flag.long)
    | none => .ok (some p)
  | argument :: rest => do
    match ← p.step flags argument with
    | .more next => scan flags next rest
    | .help => return none

def needPath (p : Progress) : Except UsageError String :=
  match p.path with
  | some path => .ok path
  | none => .error (.missing "path")

end Progress

def readCommand (flags : List Flag) (arguments : List String)
    (build : Progress → Except UsageError Command) : Except UsageError Request := do
  match ← Progress.scan flags {} arguments with
  | some p => return .run (← build p)
  | none => return .help

def commandNames : List String :=
  ["tokenize", "indent", "outdent", "help"]

def parse : List String → Except UsageError Request
  | [] => .error .noCommand
  | "tokenize" :: arguments =>
    readCommand [.format, .config] arguments fun p => do
      let format := (p.values.lookup .format).map fun value =>
        if value == "json" then Settings.Format.json else .text
      return .tokenize (← p.needPath) format (p.values.lookup .config)
  | "indent" :: arguments =>
    readCommand [.row, .config] arguments fun p => do
      let path ← p.needPath
      match (p.values.lookup .row).bind (Settings.wholeNatural? ·.toList) with
      | some row => return .indent path row (p.values.lookup .config)
      | none => throw (.missing "row")
  | "outdent" :: arguments =>
    readCommand [] arguments fun p => do return .outdent (← p.needPath)
  | ["help"] => .ok .help
  | ["help", name] =>
    if commandNames.contains name then .ok .help else .error (.unknownCommand name)
  | "help" :: _ :: name :: _ => .error (.unknownCommand name)
  | first :: _ =>
    match first.toList with
    | '-' :: 'h' :: _ => .ok .help
    | '-' :: 'V' :: _ => .ok .version
    | _ =>
      if first == "--help" then .ok .help
      else if first == "--version" then .ok .version
      else .error (.unknownCommand first)

end EditorAssist.Cli
