import EditorAssist.Fault
import EditorAssist.Text.Basic

/-! TOML documents as trees, and the rules by which tables may be extended. -/
namespace EditorAssist.Toml

/-- How a table came about, which decides what may be added to it. -/
inductive Form where
  /-- It has a header of its own. -/
  | headed
  /-- It stands on the way to the header of another table. -/
  | implied
  /-- It was made by a dotted key. -/
  | dotted
  /-- It is written between braces and complete. -/
  | inline
  deriving DecidableEq, Repr

/-- A value, a table, or a list of tables that headers extend. A date or time is kept as text. -/
inductive Item where
  | string (t : Text)
  | moment (t : Text)
  | integer (n : Int)
  | float (x : Float)
  | boolean (b : Bool)
  | array (items : List Item)
  | table (form : Form) (fields : List (Text × Item))
  | tables (items : List (List (Text × Item)))

abbrev Fields := List (Text × Item)

namespace Fields

def set (key : Text) (item : Item) : Fields → Fields
  | [] => [(key, item)]
  | (k, old) :: rest => if k = key then (key, item) :: rest else (k, old) :: set key item rest

/-- Change the table that a path leads to from the given one. Tables that are missing on the way are
made; a list of tables stands for its last. A dotted key may pass only through tables that were made
without a header, and nothing may pass through a value. -/
def change (dotted : Bool) (act : Form → Fields → Option Fields) :
    List Text → Form → Fields → Option Fields
  | [], form, fields => act form fields
  | key :: path, _, fields =>
    match fields.lookup key with
    | none => do
      let form := if dotted then Form.dotted else .implied
      let inner ← change dotted act path form []
      return fields.set key (.table form inner)
    | some (.table form inner) =>
      if form = .inline ∨ (dotted ∧ form = .headed) then none
      else do
        let inner ← change dotted act path form inner
        return fields.set key (.table form inner)
    | some (.tables items) => do
      let last ← items.getLast?
      let inner ← change dotted act path .headed last
      return fields.set key (.tables (items.dropLast ++ [inner]))
    | some _ => none

/-- Add a key and its value to a table. The key may be dotted; no key is set twice, and a dotted key
does not reach into a table that has other keys by a header. -/
def addKey (path : List Text) (key : Text) (item : Item) (form : Form) (fields : Fields) :
    Option Fields :=
  change true (fun form fields =>
    if (form = .dotted ↔ path = []) ∨ (fields.lookup key).isSome then none
    else some (fields.set key item)) path form fields

/-- Open the table of a header. Only a table that was merely implied may be there already; it takes
its place among the fields anew. -/
def openTable (path : List Text) (key : Text) (root : Fields) : Option Fields :=
  change false (fun _ fields =>
    match fields.lookup key with
    | none => some (fields.set key (.table .headed []))
    | some (.table .implied inner) =>
      some (fields.filter (·.1 ≠ key) ++ [(key, .table .headed inner)])
    | some _ => none) path .headed root

def openListed (path : List Text) (key : Text) (root : Fields) : Option Fields :=
  change false (fun _ fields =>
    match fields.lookup key with
    | none => some (fields.set key (.tables [[]]))
    | some (.tables items) => some (fields.set key (.tables (items ++ [[]])))
    | some _ => none) path .headed root

def addUnder (header : List Text) (path : List Text) (key : Text) (item : Item) (root : Fields) :
    Option Fields :=
  change false (addKey path key item) header .headed root

end EditorAssist.Toml.Fields
