import EditorAssist.Settings.Read
import EditorAssist.Toml.Parser

/-! A collector that merges trees key by key. Files are TOML; variables of an environment stand for
truth values, numbers or strings. -/
namespace EditorAssist.Settings

def assignAt (path : Path) (value t : Tree) : Except Error Tree :=
  (Tree.assign value path t).mapError .fault

/-- Set a value by a key that is read as a path if it is one, and as a single name otherwise. -/
def assignKey (t : Tree) (entry : String × Tree) : Except Error Tree :=
  assignAt ((Path.parse? entry.1).getD [.field entry.1]) entry.2 t

/-- Where the text of a settings file is found: at its path, or at its path with the usual ending.
-/
def locate? (files : Files) (path : String) : Option String :=
  if files.isFile path then some path
  else (withEnding? path ".toml").filter files.isFile

/-- The text of a settings file, and the name by which reports call it. -/
def readFile (files : Files) (path : String) : Except Error (String × Text) :=
  match locate? files path with
  | none => .error (.missingFile path)
  | some place =>
    match files.readText place with
    | .error _ => .error .notText
    | .ok text => .ok (tidyPath place, text.toList)

def isWord (word : String) (t : Text) : Bool :=
  t.map Char.toLower == word.toList

/-- A decimal number without sign, all of a text: digits with an optional point and exponent. -/
def wholeDecimal? (negative : Bool) (t : Text) : Option Float := do
  let whole := t.takeWhile Char.isDigit
  let (fraction, rest) := match t.dropWhile Char.isDigit with
    | '.' :: rest => (rest.takeWhile Char.isDigit, rest.dropWhile Char.isDigit)
    | rest => ([], rest)
  let power ← match rest with
    | [] => some 0
    | c :: rest => if c == 'e' || c == 'E' then wholeInteger? rest else none
  if whole.isEmpty && fraction.isEmpty then none
  else return Decimal.nearest negative (digitsValue (whole ++ fraction)) (power - fraction.length)

def wholeFloat? (t : Text) : Option Float :=
  let (negative, body) := match t with
    | '+' :: body => (false, body)
    | '-' :: body => (true, body)
    | body => (false, body)
  if isWord "inf" body || isWord "infinity" body then
    some (if negative then -1.0 / 0.0 else 1.0 / 0.0)
  else if isWord "nan" body then some (0.0 / 0.0)
  else wholeDecimal? negative body

/-- The value of a variable: a truth value, an integer, a float, or else a string. -/
def variableValue (s : String) : Scalar :=
  let low := lowerString s
  if low == "true" then .bool true
  else if low == "false" then .bool false
  else match (wholeInteger? s.toList).filter fitsSigned with
    | some n => .int n
    | none =>
      match wholeFloat? s.toList with
      | some x => .float x
      | none => .string s

def fileEntries (origin : Option String) (text : Text) : Except Error (List (String × Tree)) :=
  match Toml.parse? text with
  | none => .error .badSyntax
  | some fields => .ok (Tree.ofTomlFields origin fields)

def variableEntries (mark separator : String) (vars : List (String × String)) :
    List (String × Tree) :=
  vars.filterMap fun (name, text) =>
    (variableKey? mark separator name).map (·, .leaf (some "the environment") (variableValue text))

/-- The entries of a source. A file that is not required has none if it cannot be read. -/
def sourceEntries (files : Files) : Source → Except Error (List (String × Tree))
  | .text t => fileEntries none t.toList
  | .file path required =>
    match readFile files path with
    | .ok (name, text) => fileEntries (some name) text
    | .error e => if required then .error e else .ok []
  | .environment mark separator vars => .ok (variableEntries mark separator vars)

def mergeSource (files : Files) (t : Tree) (source : Source) : Except Error Tree := do
  (← sourceEntries files source).foldlM assignKey t

/-- Set the keys of a tree anew. A key that was a single name because it did not read as a path may
read as one now that it is lower-cased. -/
def resettle (t : Tree) : Except Error Tree :=
  t.fields.foldlM assignKey (.table none [])

def mergeSources (files : Files) (sources : List Source) : Except Error Tree := do
  resettle (← sources.foldlM (mergeSource files) (.table none []))

/-- A collector that merges sources in their order. Overrides are kept by path, and `arrange` is the
order in which they are carried out. -/
def merging (arrange : List (Path × Tree) → List (Path × Tree)) : Collector where
  path? := Path.parse?
  entries := sourceEntries
  ofText := variableValue
  set := assignAt
  collect := mergeSources
  build files sources overrides := do
    let t ← mergeSources files sources
    (arrange (latest overrides)).foldlM (fun t (path, value) => assignAt path value t) t
  field := fieldOf
  natural := readWidth
  truth := readBool
  choice := readChoice

/-- The settings that layers give, with overrides in the order of their last calls. -/
def load (files : Files) (layers : List Layer) : Except Error Settings :=
  (merging id).load files layers

end EditorAssist.Settings
