import EditorAssist.Toml.Value

/-! Reading of TOML documents. -/
namespace EditorAssist.Toml

def isBare (c : Char) : Bool :=
  c.isAlphanum || c == '_' || c == '-'

def keyPart? : Text → Option (Text × Text)
  | '"' :: rest => basicString rest
  | '\x27' :: rest => literalString rest
  | t =>
    let bare := t.takeWhile isBare
    if bare.isEmpty then none else some (bare, t.dropWhile isBare)

/-- The parts of a key, divided by dots that may have blanks around them. A key has fewer than
eighty parts. -/
def keyParts? : Nat → Text → Option (List Text × Text)
  | 0, _ => none
  | budget + 1, t => do
    let (part, rest) ← keyPart? t
    match skipBlank rest with
    | '.' :: afterDot =>
      let (parts, last) ← keyParts? budget (skipBlank afterDot)
      return (part :: parts, last)
    | after => return ([part], after)

/-- A key, as the tables it passes through and its last part. -/
def key? (t : Text) : Option (List Text × Text × Text) := do
  let (parts, rest) ← keyParts? 79 t
  let last ← parts.getLast?
  return (parts.dropLast, last, rest)

def skipSpace (inComment : Bool) : Text → Text
  | [] => []
  | '\n' :: rest => skipSpace false rest
  | '\r' :: '\n' :: rest => skipSpace false rest
  | c :: rest =>
    if inComment then if isVisible c then skipSpace true rest else c :: rest
    else if c == ' ' || c == '\t' then skipSpace false rest
    else if c == '#' then skipSpace true rest
    else c :: rest

/-- The text after the end of a line, where a comment may stand. -/
def lineEnd? (t : Text) : Option Text :=
  let rest := match skipBlank t with
    | '#' :: comment => comment.dropWhile isVisible
    | rest => rest
  if rest.isEmpty then some [] else newline? rest

mutual

/-- A value. `fuel` bounds the number of steps and `depth` the nesting. -/
def item? : (fuel depth : Nat) → Text → Option (Item × Text)
  | 0, _, _ => none
  | fuel + 1, depth, t =>
    match t, depth with
    | '[' :: rest, depth + 1 => do
      let (items, rest) ← items? fuel depth (skipSpace false rest)
      return (.array items, rest)
    | '{' :: rest, depth + 1 => do
      match skipBlank rest with
      | '}' :: rest => return (.table .inline [], rest)
      | rest =>
        let (fields, rest) ← pairs? fuel depth [] rest
        return (.table .inline fields, rest)
    | '[' :: _, 0 => none
    | '{' :: _, 0 => none
    | t, _ => scalarItem? t

/-- The values of an array up to its end; a comma may follow the last. -/
def items? : (fuel depth : Nat) → Text → Option (List Item × Text)
  | 0, _, _ => none
  | _ + 1, _, ']' :: rest => some ([], rest)
  | fuel + 1, depth, t => do
    let (item, rest) ← item? fuel depth t
    match skipSpace false rest with
    | ',' :: rest =>
      let (items, rest) ← items? fuel depth (skipSpace false rest)
      return (item :: items, rest)
    | ']' :: rest => return ([item], rest)
    | _ => none

/-- The keys and values between braces, of which there is at least one more. -/
def pairs? : (fuel depth : Nat) → Fields → Text → Option (Fields × Text)
  | 0, _, _, _ => none
  | fuel + 1, depth, fields, t => do
    let (path, key, rest) ← key? t
    match skipBlank rest with
    | '=' :: rest =>
      let (item, rest) ← item? fuel depth (skipBlank rest)
      let fields ← Fields.addKey path key item .inline fields
      match skipBlank rest with
      | ',' :: rest => pairs? fuel depth fields (skipBlank rest)
      | '}' :: rest => return (fields, rest)
      | _ => none
    | _ => none

end

/-- What a document says so far, and the header under which the next keys fall. -/
structure Progress where
  root : Fields
  header : List Text

/-- Read one line: nothing, a header, or a key with its value, which may span lines. -/
def statement? (p : Progress) (t : Text) : Option (Progress × Text) :=
  match skipBlank t with
  | '[' :: '[' :: rest => do
    let (path, key, rest) ← key? (skipBlank rest)
    match skipBlank rest with
    | ']' :: ']' :: rest => return (⟨← p.root.openListed path key, path ++ [key]⟩, rest)
    | _ => none
  | '[' :: rest => do
    let (path, key, rest) ← key? (skipBlank rest)
    match skipBlank rest with
    | ']' :: rest => return (⟨← p.root.openTable path key, path ++ [key]⟩, rest)
    | _ => none
  | t =>
    match t with
    | [] => some (p, [])
    | c :: _ =>
      if c == '#' || c == '\n' || c == '\r' then some (p, t)
      else do
        let (path, key, rest) ← key? t
        match skipBlank rest with
        | '=' :: rest =>
          let rest := skipBlank rest
          let (item, rest) ← item? (2 * rest.length + 2) 79 rest
          return (⟨← p.root.addUnder p.header path key item, p.header⟩, rest)
        | _ => none

def statements? : Nat → Progress → Text → Option Fields
  | 0, _, _ => none
  | fuel + 1, p, t => do
    let (p, rest) ← statement? p t
    let rest ← lineEnd? rest
    if rest.isEmpty then return p.root else statements? fuel p rest

/-- Read a document as the fields of its root, which is a table. A byte order mark at its beginning
is passed over. -/
def parse? (t : Text) : Option (List (Text × Value)) := do
  let body := match t with
    | '\ufeff' :: rest => rest
    | _ => t
  match ← tableValue? (← statements? (body.length + 1) ⟨[], []⟩ body) with
  | .table fields => some fields
  | _ => none

end EditorAssist.Toml
