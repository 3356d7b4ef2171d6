import EditorAssist.Fault
import EditorAssist.Json.Basic
import EditorAssist.Text.Lowercase
import EditorAssist.Toml.Value

/-! Trees of settings as they come from files, the environment and direct assignment. -/
namespace EditorAssist.Settings

inductive Scalar where
  | null
  | bool (b : Bool)
  | int (n : Int)
  | float (x : Float)
  | string (s : String)
  deriving DecidableEq

/-- A tree of values. Each knows where it comes from, if that is a file or the environment. -/
inductive Tree where
  | leaf (origin : Option String) (value : Scalar)
  | list (origin : Option String) (items : List Tree)
  | table (origin : Option String) (fields : List (String × Tree))

/-- One step down a tree. A negative subscript counts from the end. -/
inductive Step where
  | field (name : String)
  | index (i : Int)
  deriving DecidableEq, Repr

abbrev Path := List Step

namespace Tree

def origin : Tree → Option String
  | leaf origin _ => origin
  | list origin _ => origin
  | table origin _ => origin

def fields : Tree → List (String × Tree)
  | table _ fields => fields
  | _ => []

def items : Tree → List Tree
  | list _ items => items
  | _ => []

/-- Give a table new fields. Any other value becomes a table without origin. -/
def withFields (fields : List (String × Tree)) : Tree → Tree
  | table origin _ => table origin fields
  | _ => table none fields

def withItems (items : List Tree) : Tree → Tree
  | list origin _ => list origin items
  | _ => list none items

/-- Set a field, keeping its place if it is there already. -/
def setField (key : String) (value : Tree) : List (String × Tree) → List (String × Tree)
  | [] => [(key, value)]
  | (k, old) :: rest =>
    if k = key then (key, value) :: rest else (k, old) :: setField key value rest

mutual

/-- Set a key of a table. The key is lower-cased; a table is merged key by key into what is there,
and any other value replaces it. -/
def put (target : Tree) (key : String) : Tree → Tree
  | table _ incoming =>
    let key := lowerString key
    let old := (target.fields.lookup key).getD (table none [])
    target.withFields (setField key (putAll old incoming) target.fields)
  | leaf origin value =>
    target.withFields (setField (lowerString key) (leaf origin value) target.fields)
  | list origin items =>
    target.withFields (setField (lowerString key) (list origin items) target.fields)

def putAll (target : Tree) : List (String × Tree) → Tree
  | [] => target
  | (key, value) :: rest => putAll (put target key value) rest

end

mutual

def ofToml (origin : Option String) : Toml.Value → Tree
  | .string t => leaf origin (.string (String.ofList t))
  | .integer n => leaf origin (.int n)
  | .float x => leaf origin (.float x)
  | .boolean b => leaf origin (.bool b)
  | .array items => list origin (ofTomlItems origin items)
  | .table fields => table origin (ofTomlFields origin fields)

def ofTomlItems (origin : Option String) : List Toml.Value → List Tree
  | [] => []
  | item :: items => ofToml origin item :: ofTomlItems origin items

def ofTomlFields (origin : Option String) : List (Text × Toml.Value) → List (String × Tree)
  | [] => []
  | (key, item) :: fields => (String.ofList key, ofToml origin item) :: ofTomlFields origin fields

end

mutual

def ofJson : Json → Tree
  | .null => leaf none .null
  | .bool b => leaf none (.bool b)
  | .int n => leaf none (.int n)
  | .float x => leaf none (.float x)
  | .string s => leaf none (.string s)
  | .array items => list none (ofJsonItems items)
  | .object fields => table none (ofJsonFields fields)

def ofJsonItems : List Json → List Tree
  | [] => []
  | item :: items => ofJson item :: ofJsonItems items

def ofJsonFields : List (String × Json) → List (String × Tree)
  | [] => []
  | (key, value) :: fields => (key, ofJson value) :: ofJsonFields fields

end

end EditorAssist.Settings.Tree
