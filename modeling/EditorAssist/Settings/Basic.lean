import EditorAssist.Fault
import EditorAssist.Text.Basic

/-! Settings of the assists and of the output. -/
namespace EditorAssist

namespace Settings

/-- What a level of indentation is made of. -/
inductive Style where
  | spaces
  | tabs
  deriving DecidableEq, Repr

def Style.name : Style → String
  | spaces => "spaces"
  | tabs => "tabs"

inductive Format where
  | text
  | json
  deriving DecidableEq, Repr

def Format.name : Format → String
  | text => "text"
  | json => "json"

/-- Settings of the indentation assists. The width counts only for spaces. -/
structure Indentation where
  style : Style := .spaces
  width : Nat := 4
  autoOutdent : Bool := true
  deriving DecidableEq, Repr

def Indentation.unit (s : Indentation) : Except Fault Text :=
  match s.style with
  | .spaces => if s.width < halfLimit then .ok (List.replicate s.width ' ') else .error .capacity
  | .tabs => .ok ['\t']

end Settings

structure Settings where
  indentation : Settings.Indentation := {}
  format : Settings.Format := .text
  deriving DecidableEq, Repr

end EditorAssist
