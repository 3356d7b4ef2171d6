import EditorAssist.Fault

/-! What can be wrong with settings, and how it is reported. -/
namespace EditorAssist.Settings

inductive Error where
  /-- A key given directly cannot be read. -/
  | badPath
  | missingFile (path : String)
  | notText
  | badSyntax
  /-- A value of a kind that cannot be converted. -/
  | wrongType (found expected key : String) (origin : Option String)
  /-- A name that is none of the choices. -/
  | unknownChoice (choice name : String)
  /-- A value that cannot name a choice. -/
  | notChoice (choice : String)
  /-- A list that ends before all fields of a record are given. -/
  | tooShort (length : Nat) (record : String) (size : Nat)
  /-- A value that cannot be a record. -/
  | notRecord (found record : String)
  | missingField (name : String)
  /-- A subscript that cannot be met. -/
  | fault (f : Fault)
  deriving DecidableEq, Repr

def Error.message (e : Error) : String :=
  "configuration: " ++ match e with
  | badPath => "invalid key"
  | missingFile path => "configuration file \"" ++ path ++ "\" not found"
  | notText => "stream did not contain valid UTF-8"
  | badSyntax => "TOML parse error"
  | wrongType found expected key origin =>
    "invalid type: " ++ found ++ ", expected " ++ expected ++ " for key `" ++ key ++ "`" ++
      match origin with
      | some place => " in " ++ place
      | none => ""
  | unknownChoice choice name =>
    "enum " ++ choice ++ " does not have variant constructor " ++ name
  | notChoice choice =>
    "value of enum " ++ choice ++
      " should be represented by either string or table with exactly one key"
  | tooShort length record size =>
    "invalid length " ++ toString length ++ ", expected struct " ++ record ++ " with " ++
      toString size ++ if size = 1 then " element" else " elements"
  | notRecord found record => "invalid type: " ++ found ++ ", expected struct " ++ record
  | missingField name => "missing field `" ++ name ++ "`"
  | fault _ => "subscript out of range"

end EditorAssist.Settings
