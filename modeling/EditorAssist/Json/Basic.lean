import EditorAssist.Fault

/-! JSON values, and how records and names are read from them. -/
namespace EditorAssist

/-- A JSON value. A number is an integer exactly if it is written as one. -/
inductive Json where
  | null
  | bool (b : Bool)
  | int (n : Int)
  | float (x : Float)
  | string (s : String)
  | array (items : List Json)
  | object (fields : List (String × Json))

namespace Json

/-- A 64-bit natural number. -/
def nat? : Json → Option Nat
  | int n => if 0 ≤ n ∧ n < wordLimit then some n.toNat else none
  | _ => none

def string? : Json → Option String
  | string s => some s
  | _ => none

def array? : Json → Option (List Json)
  | array items => some items
  | _ => none

def field? (name : String) : Json → Option Json
  | object fields => fields.lookup name
  | _ => none

/-- The fields of a record in the order of their names: from an object, which may hold other fields
too, or from a list of exactly as many values. -/
def record? (names : List String) : Json → Option (List Json)
  | object fields => names.mapM fun name => fields.lookup name
  | array items => if items.length = names.length then some items else none
  | _ => none

/-- A name out of a fixed set: a string, or an object whose only field has that name and no value.
-/
def name? : Json → Option String
  | string s => some s
  | object [(name, null)] => some name
  | _ => none

end EditorAssist.Json
