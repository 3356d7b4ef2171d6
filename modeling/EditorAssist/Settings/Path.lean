import EditorAssist.Settings.Tree
import EditorAssist.Text.Blank

/-! Paths to settings: names joined by dots, with subscripts in square brackets. -/
namespace EditorAssist.Settings

def isNameChar (c : Char) : Bool :=
  c.isAlphanum || c == '_' || c == ' ' || c == '-'

def digitsValue (digits : Text) : Nat :=
  digits.foldl (fun n c => n * 10 + (c.toNat - 48)) 0

/-- An integer with an optional sign, all of a text. -/
def wholeInteger? (t : Text) : Option Int :=
  let (negative, digits) := match t with
    | '+' :: digits => (false, digits)
    | '-' :: digits => (true, digits)
    | digits => (false, digits)
  if digits.isEmpty || !digits.all Char.isDigit then none
  else some (if negative then -digitsValue digits else digitsValue digits)

/-- A subscript between its brackets: decimal digits, with a minus sign for a place counted from the
end. Spaces and tabs may surround it. -/
def subscript? (inner : Text) : Option Int :=
  let trimmed := ((inner.dropWhile isIndent).reverse.dropWhile isIndent).reverse
  if trimmed.head? = some '+' then none else (wholeInteger? trimmed).filter fitsSigned

/-- The steps after the first name. `fuel` bounds their number. -/
def steps? : Nat → Text → Option Path
  | 0, _ => none
  | _ + 1, [] => some []
  | fuel + 1, '.' :: rest => do
    let name := rest.takeWhile isNameChar
    if name.isEmpty then none
    else return .field (String.ofList name) :: (← steps? fuel (rest.dropWhile isNameChar))
  | fuel + 1, '[' :: rest => do
    match rest.dropWhile (· != ']') with
    | ']' :: after =>
      return .index (← subscript? (rest.takeWhile (· != ']'))) :: (← steps? fuel after)
    | _ => none
  | _ + 1, _ => none

def Path.parse? (s : String) : Option Path := do
  let t := s.toList
  let name := t.takeWhile isNameChar
  if name.isEmpty then none
  else return .field (String.ofList name) :: (← steps? (t.length + 1) (t.dropWhile isNameChar))

/-- Lists that subscripts fill up are shorter than this. -/
def listLimit : Nat := 0x100000000

def placeOf (i : Int) (length : Nat) : Except Fault Nat :=
  if 0 ≤ i then if i < listLimit then .ok i.toNat else .error .capacity
  else if i.natAbs ≤ length then .ok (length - i.natAbs) else .error .underflow

namespace Tree

/-- Change the value at a place of a list, which is filled up with nulls if it is too short. -/
def changeItem (change : Tree → Except Fault Tree) (place : Nat) :
    List Tree → Except Fault (List Tree)
  | [] => do
    return List.replicate place (leaf none .null) ++ [← change (leaf none .null)]
  | item :: items =>
    match place with
    | 0 => do return (← change item) :: items
    | place + 1 => do return item :: (← changeItem change place items)

/-- Set the value at a path. What stands on the way is turned into a table or a list as the path
demands. -/
def assign (value : Tree) : Path → Tree → Except Fault Tree
  | [], _ => .ok value
  | [.field name], target => .ok (target.put name value)
  | .field name :: step :: path, target => do
    let key := lowerString name
    let inner ← assign value (step :: path) ((target.fields.lookup key).getD (leaf none .null))
    return target.withFields (setField key inner target.fields)
  | .index i :: path, target => do
    let place ← placeOf i target.items.length
    let items ← changeItem (assign value path) place target.items
    return target.withItems items

end EditorAssist.Settings.Tree
