import EditorAssist.Toml.Scalar

/-! The values that a complete TOML document stands for. A table whose first key is a reserved one
stands for the date or time that its string writes. -/
namespace EditorAssist.Toml

/-- A value. A date or time is the string of its standard spelling. -/
inductive Value where
  | string (t : Text)
  | integer (n : Int)
  | float (x : Float)
  | boolean (b : Bool)
  | array (items : List Value)
  | table (fields : List (Text × Value))

/-- The key of a date or time that is given by a string. -/
def momentKey : Text :=
  "$__toml_private_datetime".toList

def twoPlaces (n : Nat) : Text :=
  [Nat.digitChar (n / 10), Nat.digitChar (n % 10)]

/-- An offset that is all of a text, or none. Hours and minutes are any two digits each that come to
at most a day. -/
def wholeOffset? : Text → Option Text
  | [] => some []
  | ['Z'] => some ['Z']
  | ['z'] => some ['Z']
  | c :: rest => do
    let (hours, afterHours) ← twoDigits? 0 99 rest
    match afterHours with
    | ':' :: afterColon =>
      let (minutes, last) ← twoDigits? 0 99 afterColon
      let total := 60 * hours + minutes
      if (c = '+' ∨ c = '-') ∧ last.isEmpty ∧ total ≤ 1440 then
        let shown := if total = 0 then '+' else c
        return shown :: twoPlaces (total / 60) ++ ':' :: twoPlaces (total % 60)
      else none
    | _ => none

/-- A date, a time, or both with an optional offset, all of a text. Hours run to 24, so that a day
may end with midnight. -/
def wholeMoment? (t : Text) : Option Text :=
  match date? t with
  | some (date, []) => some date
  | some (date, c :: rest) => do
    let (time, rest) ← if isDateEnd c then time? 24 rest else none
    return date ++ 'T' :: time ++ (← wholeOffset? rest)
  | none => do
    let (time, rest) ← time? 24 t
    if rest.isEmpty then some time else none

/-- The moment that the item under `momentKey` gives. Only a string gives one. -/
def Item.markedMoment? : Item → Option Value
  | .string t => (wholeMoment? t).map .string
  | _ => none

mutual

def Item.value? : Item → Option Value
  | .string t => some (.string t)
  | .moment t => some (.string t)
  | .integer n => some (.integer n)
  | .float x => some (.float x)
  | .boolean b => some (.boolean b)
  | .array items => return .array (← itemValues? items)
  | .table _ fields => tableValue? fields
  | .tables tables => return .array (← tableValues? tables)

def itemValues? : List Item → Option (List Value)
  | [] => some []
  | item :: items => return (← item.value?) :: (← itemValues? items)

/-- The value of a table. After `momentKey` its other fields do not count. -/
def tableValue? : Fields → Option Value
  | [] => some (.table [])
  | (key, item) :: fields =>
    if key = momentKey then item.markedMoment?
    else return .table ((key, ← item.value?) :: (← fieldValues? fields))

def fieldValues? : Fields → Option (List (Text × Value))
  | [] => some []
  | (key, item) :: fields => return (key, ← item.value?) :: (← fieldValues? fields)

def tableValues? : List Fields → Option (List Value)
  | [] => some []
  | fields :: tables => return (← tableValue? fields) :: (← tableValues? tables)

end

end EditorAssist.Toml
