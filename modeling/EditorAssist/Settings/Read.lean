import EditorAssist.Decimal.Shortest
import EditorAssist.Settings.Loader
import EditorAssist.Settings.Path
import EditorAssist.Text.Quoted

/-! Values read from a tree. They are converted generously: numbers and truth values may be given as
strings, names in any case, and records as lists of their fields. -/
namespace EditorAssist.Settings

def quoted (s : String) : String :=
  String.ofList (Text.quote s.toList)

/-- How a value is named when it cannot be converted. -/
def Tree.described : Tree → String
  | leaf _ .null => "unit value"
  | leaf _ (.bool b) => "boolean `" ++ toString b ++ "`"
  | leaf _ (.int n) => "64-bit integer `" ++ toString n ++ "`"
  | leaf _ (.float x) => "floating point `" ++ String.ofList (Decimal.render x) ++ "`"
  | leaf _ (.string s) => "string " ++ quoted s
  | list _ _ => "sequence"
  | table _ _ => "map"

/-- How a value is named where a record is needed. -/
def Tree.describedPlain : Tree → String
  | leaf _ (.int n) => "integer `" ++ toString n ++ "`"
  | t => t.described

/-- A natural number below 2 ^ 64, with an optional plus sign. -/
def wholeNatural? (t : Text) : Option Nat :=
  let digits := match t with
    | '+' :: digits => digits
    | digits => digits
  if digits.isEmpty || !digits.all Char.isDigit then none
  else (some (digitsValue digits)).filter (· < wordLimit)

/-- Read a width. A float is rounded, a half away from zero, and kept within 64 bits. -/
def readWidth (key : String) (t : Tree) : Except Error Nat :=
  let refuse := .error (.wrongType t.described "an integer" key t.origin)
  match t with
  | .leaf origin (.int n) =>
    if 0 ≤ n then .ok n.toNat
    else .error (.wrongType t.described "an unsigned 64 bit or less integer" key origin)
  | .leaf _ (.float x) => .ok x.round.toUInt64.toNat
  | .leaf _ (.bool b) => .ok (if b then 1 else 0)
  | .leaf _ (.string s) =>
    let low := lowerString s
    if low == "true" || low == "on" || low == "yes" then .ok 1
    else if low == "false" || low == "off" || low == "no" then .ok 0
    else match wholeNatural? s.toList with
      | some n => .ok n
      | none => refuse
  | _ => refuse

def readBool (key : String) (t : Tree) : Except Error Bool :=
  match t with
  | .leaf _ (.bool b) => .ok b
  | .leaf _ (.int n) => .ok (n != 0)
  | .leaf _ (.float x) => .ok (x != 0.0)
  | .leaf origin (.string s) =>
    let low := lowerString s
    if low == "1" || low == "true" || low == "on" || low == "yes" then .ok true
    else if low == "0" || low == "false" || low == "off" || low == "no" then .ok false
    else .error (.wrongType ("string " ++ quoted low) "a boolean" key origin)
  | _ => .error (.wrongType t.described "a boolean" key t.origin)

/-- Read one of several named choices, given by a string or by the only key of a table. -/
def readChoice {α : Type} (choice : String) (options : List (String × α)) (t : Tree) :
    Except Error α :=
  let find (name : String) : Except Error α :=
    match options.lookup (lowerString name) with
    | some a => .ok a
    | none => .error (.unknownChoice choice name)
  match t with
  | .leaf _ (.string s) => find s
  | .table _ [(key, _)] => find key
  | _ => .error (.notChoice choice)

/-- A field of a record that stands at a key. A list has the fields in their order. -/
def fieldOf (record : Record) (key : String) (t : Tree) (name : String) :
    Except Error (String × Tree) :=
  match t with
  | .table _ fields =>
    match fields.lookup name with
    | some value => .ok (if key = "" then name else key ++ "." ++ name, value)
    | none => .error (.missingField name)
  | .list _ items =>
    let place := record.fields.idxOf name
    match items[place]? with
    | some value => .ok (key ++ "[" ++ toString place ++ "]", value)
    | none => .error (.tooShort place record.name record.fields.length)
  | .leaf _ _ => .error (.notRecord t.describedPlain record.name)

end EditorAssist.Settings
