import EditorAssist.Json.Codec
import EditorAssist.Proofs.Entries

/-! JSON forms of records. What is written is read back, and so is every other spelling of it: with
the fields of an object in another order and among unknown ones, or as the list of their values, at
every level. A value that misses a field, has a list of another length or a name out of none of the
choices is not read, wherever in it that is. -/
namespace EditorAssist

namespace Json

/-- Two spellings of the same data. The fields of an object may stand in any order among fields with
other names, or give way to the list of their values. -/
inductive Respells : Json → Json → Prop
  | same (j : Json) : Respells j j
  | array {items others : List Json} (h : List.Forall₂ Respells items others) :
    Respells (.array items) (.array others)
  | object {fields given extra : List (String × Json)} {values : List Json}
    (h : List.Forall₂ Respells (fields.map Prod.snd) values)
    (hgiven : given.Perm ((fields.map Prod.fst).zip values ++ extra))
    (hextra : ∀ f ∈ extra, f.1 ∉ fields.map Prod.fst) : Respells (.object fields) (.object given)
  | sequence {fields : List (String × Json)} {values : List Json}
    (h : List.Forall₂ Respells (fields.map Prod.snd) values) :
    Respells (.object fields) (.array values)

/-- The shapes of JSON data. -/
inductive Schema where
  | number
  | text
  /-- A name out of a fixed set. -/
  | name (options : List String)
  | list (item : Schema)
  | record (fields : List (String × Schema))

/-- Ways for data not to be of a shape, at any level. -/
inductive Malformed : Schema → Json → Prop
  | missing {fields : List (String × Schema)} {given : List (String × Json)} {name : String}
    (hname : name ∈ fields.map Prod.fst) (hgiven : name ∉ given.map Prod.fst) :
    Malformed (.record fields) (.object given)
  | length {fields : List (String × Schema)} {items : List Json}
    (h : items.length ≠ fields.length) : Malformed (.record fields) (.array items)
  | unknown {options : List String} {s : String} (h : s ∉ options) :
    Malformed (.name options) (.string s)
  | tagged {options : List String} {s : String} (h : s ∉ options) :
    Malformed (.name options) (.object [(s, .null)])
  | item {schema : Schema} {items : List Json} {j : Json} (hj : j ∈ items)
    (h : Malformed schema j) : Malformed (.list schema) (.array items)
  | field {fields : List (String × Schema)} {given : List (String × Json)} {name : String}
    {schema : Schema} {j : Json} (hfield : (name, schema) ∈ fields)
    (hgiven : given.lookup name = some j) (h : Malformed schema j) :
    Malformed (.record fields) (.object given)
  | place {fields : List (String × Schema)} {items : List Json} {i : Nat} {name : String}
    {schema : Schema} {j : Json} (hfield : fields[i]? = some (name, schema))
    (hitem : items[i]? = some j) (h : Malformed schema j) :
    Malformed (.record fields) (.array items)

theorem record?_object {names : List String} {given : List (String × Json)} {values : List Json} :
    (object given).record? names = some values ↔
      List.Forall₂ (fun name value => given.lookup name = some value) names values :=
  mapM_eq_some_iff

theorem record?_array {names : List String} {items values : List Json} :
    (array items).record? names = some values ↔ items.length = names.length ∧ items = values := by
  rw [record?]
  split_ifs with h <;> simp [h]

theorem length_of_record? {names : List String} {j : Json} {values : List Json}
    (h : j.record? names = some values) : values.length = names.length := by
  cases j with
  | object given => exact (record?_object.mp h).length_eq.symm
  | array items =>
    obtain ⟨hlength, rfl⟩ := record?_array.mp h
    exact hlength
  | _ => cases h

/-- Every spelling of an object is read as its fields, each of which may be spelled anew. -/
theorem record?_of_respells {fields : List (String × Json)} {j : Json}
    (h : Respells (.object fields) j) (hnames : (fields.map Prod.fst).Nodup) :
    ∃ values, j.record? (fields.map Prod.fst) = some values ∧
      List.Forall₂ Respells (fields.map Prod.snd) values := by
  cases h with
  | same =>
    refine ⟨fields.map Prod.snd, record?_object.mpr ?_, List.forall₂_same.mpr fun j _ => .same j⟩
    rw [List.forall₂_map_left_iff, List.forall₂_map_right_iff, List.forall₂_same]
    intro f hf
    refine lookup_eq_some hf fun g hg hname => ?_
    exact congrArg Prod.snd (List.inj_on_of_nodup_map hnames hg hf hname)
  | @object _ given extra values hvalues hgiven hextra =>
    refine ⟨values, record?_object.mpr ?_, hvalues⟩
    have hlength : (fields.map Prod.fst).length = values.length := by
      rw [← hvalues.length_eq, List.length_map, List.length_map]
    rw [List.forall₂_iff_zip]
    refine ⟨hlength, fun {name value} hpair => ?_⟩
    have hknown := (List.of_mem_zip hpair).1
    refine lookup_eq_some (hgiven.mem_iff.mpr (List.mem_append_left extra hpair)) ?_
    intro f hf hname
    -- A known name stands once among the known fields, and never among the others.
    rcases List.mem_append.mp (hgiven.mem_iff.mp hf) with hf | hf
    · rw [← List.map_fst_zip (Nat.le_of_eq hlength)] at hnames
      exact congrArg Prod.snd (List.inj_on_of_nodup_map hnames hf hpair hname)
    · rw [← hname] at hknown
      exact absurd hknown (hextra f hf)
  | @sequence _ values hvalues =>
    refine ⟨values, record?_array.mpr ⟨?_, rfl⟩, hvalues⟩
    rw [← hvalues.length_eq, List.length_map, List.length_map]

/-- What is read from a malformed record has a malformed part. -/
theorem exists_malformed_part {fields : List (String × Schema)} {j : Json} {values : List Json}
    (h : j.record? (fields.map Prod.fst) = some values) (hj : Malformed (.record fields) j) :
    ∃ part ∈ fields.zip values, Malformed part.1.2 part.2 := by
  have hlength : fields.length = values.length := by
    rw [length_of_record? h, List.length_map]
  have hpart : ∀ f ∈ fields, ∃ value, (f, value) ∈ fields.zip values := by
    intro f hf
    obtain ⟨i, hi, rfl⟩ := List.mem_iff_getElem.mp hf
    have hvalue : i < values.length := hlength ▸ hi
    refine ⟨values[i], List.mem_iff_getElem?.mpr ⟨i, ?_⟩⟩
    simp [List.getElem?_zip_eq_some]
  cases hj with
  | @missing _ given name hname hgiven =>
    obtain ⟨f, hf, rfl⟩ := List.mem_map.mp hname
    obtain ⟨value, hvalue⟩ := hpart f hf
    rw [record?_object, List.forall₂_map_left_iff, List.forall₂_iff_zip] at h
    exact absurd (List.mem_map_of_mem (mem_of_lookup (h.2 hvalue))) hgiven
  | length hitems =>
    rw [record?_array, List.length_map] at h
    exact absurd h.1 hitems
  | @field _ given name schema j hfield hgiven hvalue =>
    obtain ⟨value, hpair⟩ := hpart _ hfield
    rw [record?_object, List.forall₂_map_left_iff, List.forall₂_iff_zip] at h
    have hlookup := h.2 hpair
    rw [hgiven] at hlookup
    cases hlookup
    exact ⟨_, hpair, hvalue⟩
  | @place _ items i name schema j hfield hitem hvalue =>
    obtain ⟨-, rfl⟩ := record?_array.mp h
    refine ⟨((name, schema), j), List.mem_iff_getElem?.mpr ⟨i, ?_⟩, hvalue⟩
    exact List.getElem?_zip_eq_some.mpr ⟨hfield, hitem⟩

theorem Respells.eq_of_int {n : Int} {j : Json} (h : Respells (.int n) j) : j = .int n := by
  cases h
  rfl

theorem Respells.eq_of_string {s : String} {j : Json} (h : Respells (.string s) j) :
    j = .string s := by
  cases h
  rfl

theorem Respells.exists_of_array {items : List Json} {j : Json} (h : Respells (.array items) j) :
    ∃ others, j = .array others ∧ List.Forall₂ Respells items others := by
  cases h with
  | same => exact ⟨items, rfl, List.forall₂_same.mpr fun j _ => .same j⟩
  | @array _ others h => exact ⟨others, rfl, h⟩

/-- How values of a type are written and read, the shape of what is written, and the values that can
be written at all. -/
structure Form (α : Type) where
  schema : Schema
  write : α → Json
  read : Json → Option α
  InRange : α → Prop

namespace Form

/-- Every spelling of what is written is read back, and nothing malformed is read. -/
structure Faithful {α : Type} (form : Form α) : Prop where
  read_write (v : α) (hv : form.InRange v) : form.read (form.write v) = some v
  read_respelt (v : α) (hv : form.InRange v) (j : Json) (hj : Respells (form.write v) j) :
    form.read j = some v
  read_malformed (j : Json) (hj : Malformed form.schema j) : form.read j = none

/-- A form is faithful once it reads the spellings of what it writes: the form as written is one. -/
theorem Faithful.of_respelt {α : Type} {form : Form α}
    (hrespelt : ∀ v, form.InRange v → ∀ j, Respells (form.write v) j → form.read j = some v)
    (hmalformed : ∀ j, Malformed form.schema j → form.read j = none) : form.Faithful :=
  ⟨fun v hv => hrespelt v hv _ (.same _), hrespelt, hmalformed⟩

def number : Form Nat :=
  ⟨.number, fun n => .int n, nat?, (· < wordLimit)⟩

def text : Form Text :=
  ⟨.text, Text.toJson, Text.ofJson?, fun _ => True⟩

def list {α : Type} (item : Form α) : Form (List α) :=
  ⟨.list item.schema, fun vs => .array (vs.map item.write),
    fun j => j.array?.bind fun items => items.mapM item.read, fun vs => ∀ v ∈ vs, item.InRange v⟩

theorem faithful_number : number.Faithful := by
  refine .of_respelt (fun n hn j hj => ?_) (fun j hj => by cases hj)
  rw [hj.eq_of_int]
  change n < wordLimit at hn
  simp [number, nat?, hn]

theorem faithful_text : text.Faithful := by
  refine .of_respelt (fun t _ j hj => ?_) (fun j hj => by cases hj)
  rw [hj.eq_of_string]
  simp [text, Text.ofJson?, string?]

/-- A name is read as the only value that has it. -/
theorem faithful_name {α : Type} {form : Form α} {name : α → String} {ofName? : String → Option α}
    {options : List String} (hwrite : ∀ v, form.write v = .string (name v))
    (hread : ∀ j, form.read j = j.name?.bind ofName?) (hschema : form.schema = .name options)
    (hknown : ∀ v, ofName? (name v) = some v) (hunknown : ∀ s ∉ options, ofName? s = none) :
    form.Faithful := by
  refine .of_respelt (fun v _ j hj => ?_) (fun j hj => ?_)
  · rw [hwrite] at hj
    rw [hj.eq_of_string, hread]
    exact hknown v
  · rw [hschema] at hj
    rw [hread]
    cases hj with
    | unknown hs => exact hunknown _ hs
    | tagged hs => exact hunknown _ hs

theorem faithful_list {α : Type} {item : Form α} (hitem : item.Faithful) : item.list.Faithful := by
  refine .of_respelt (fun vs hvs j hj => ?_) (fun j hj => ?_)
  · obtain ⟨others, rfl, hothers⟩ := hj.exists_of_array
    refine mapM_eq_some_iff.mpr ?_
    rw [List.forall₂_map_left_iff] at hothers
    have hboth := (List.forall₂_and_left vs others).mpr ⟨hvs, hothers⟩
    exact hboth.flip.imp fun j v ⟨hv, hj⟩ => hitem.read_respelt v hv j hj
  · cases hj with
    | @item _ items j hj hmalformed =>
      rw [Option.eq_none_iff_forall_ne_some]
      intro vs hvs
      obtain ⟨i, hi, rfl⟩ := List.mem_iff_getElem.mp hj
      have hforall := mapM_eq_some_iff.mp hvs
      have hread := hforall.get hi (hforall.length_eq ▸ hi)
      rw [List.get_eq_getElem, hitem.read_malformed _ hmalformed] at hread
      cases hread

/-- A part of a record: its name, its form, and the part of each record. -/
structure Part (α : Type) where
  {β : Type}
  name : String
  form : Form β
  get : α → β

/-- A form writes an object of parts and reads the parts of a record. -/
structure IsRecord {α : Type} (form : Form α) (parts : List (Part α)) : Prop where
  names_nodup : (parts.map Part.name).Nodup
  schema_eq : form.schema = .record (parts.map fun part => (part.name, part.form.schema))
  write_eq (v : α) :
    form.write v = .object (parts.map fun part => (part.name, part.form.write (part.get v)))
  read_eq_some (j : Json) (v : α) : form.read j = some v ↔
    ∃ values, j.record? (parts.map Part.name) = some values ∧
      List.Forall₂ (fun part value => part.form.read value = some (part.get v)) parts values
  inRange (v : α) (hv : form.InRange v) (part : Part α) (hpart : part ∈ parts) :
    part.form.InRange (part.get v)

theorem IsRecord.faithful {α : Type} {form : Form α} {parts : List (Part α)}
    (h : form.IsRecord parts) (hparts : ∀ part ∈ parts, part.form.Faithful) : form.Faithful := by
  refine .of_respelt (fun v hv j hj => ?_) (fun j hj => ?_)
  · rw [h.write_eq] at hj
    have hfields := record?_of_respells hj (by simpa [Function.comp_def] using h.names_nodup)
    obtain ⟨values, hvalues, hrespelt⟩ := hfields
    refine (h.read_eq_some j v).mpr ⟨values, by simpa [Function.comp_def] using hvalues, ?_⟩
    rw [List.map_map, List.forall₂_map_left_iff, List.forall₂_iff_zip] at hrespelt
    refine List.forall₂_iff_zip.mpr ⟨hrespelt.1, fun {part value} hpair => ?_⟩
    have hpart := (List.of_mem_zip hpair).1
    exact (hparts part hpart).read_respelt _ (h.inRange v hv part hpart) _ (hrespelt.2 hpair)
  · rw [h.schema_eq] at hj
    rw [Option.eq_none_iff_forall_ne_some]
    intro v hv
    obtain ⟨values, hvalues, hread⟩ := (h.read_eq_some j v).mp hv
    have hpart := exists_malformed_part (by simpa [Function.comp_def] using hvalues) hj
    obtain ⟨⟨⟨name, schema⟩, value⟩, hpair, hmalformed⟩ := hpart
    rw [List.zip_map_left, List.mem_map] at hpair
    obtain ⟨⟨part, value⟩, hpair, heq⟩ := hpair
    cases heq
    have hsome := (List.forall₂_iff_zip.mp hread).2 hpair
    have hnone := (hparts part (List.of_mem_zip hpair).1).read_malformed value hmalformed
    exact Option.some_ne_none _ (hsome.symm.trans hnone)

end Form

end Json

open Json (Form)

/-- Kinds, written by their scopes. -/
def Token.Kind.form : Form Token.Kind where
  schema := .name ["comment", "entity.other", "support.function", "string", "constant.numeric",
    "keyword", "constant.language", "identifier", "keyword.operator", "paren.lparen",
    "paren.rparen", "text"]
  write := toJson
  read := ofJson?
  InRange _ := True

/-- Modes, written by their names. -/
def Mode.form : Form Mode where
  schema := .name ["start", "comment", "quoted-string"]
  write := toJson
  read := ofJson?
  InRange _ := True

/-- Positions, written as row and column. -/
def Position.form : Form Position where
  schema := .record [("row", .number), ("column", .number)]
  write := toJson
  read := ofJson?
  InRange p := p.row < wordLimit ∧ p.column < wordLimit

/-- Spans, written as their two ends. -/
def Span.form : Form Span where
  schema := .record [("start", Position.form.schema), ("end", Position.form.schema)]
  write := toJson
  read := ofJson?
  InRange s := Position.form.InRange s.start ∧ Position.form.InRange s.stop

/-- Edits, written as the columns of a row and the text that replaces them. -/
def RowEdit.form : Form RowEdit where
  schema := .record [("row", .number), ("start_column", .number), ("end_column", .number),
    ("new_text", .text)]
  write := toJson
  read := ofJson?
  InRange e := e.row < wordLimit ∧ e.start < wordLimit ∧ e.stop < wordLimit

/-- Tokens, written as a kind, a lexeme and its columns. -/
def Token.form : Form Token where
  schema := .record [("category", Kind.form.schema), ("lexeme", .text), ("start_column", .number),
    ("end_column", .number)]
  write := toJson
  read := ofJson?
  InRange t := t.start < wordLimit ∧ t.stop < wordLimit

/-- Lexed lines, written as tokens and the mode in which the line ends. -/
def LexedLine.form : Form LexedLine where
  schema := .record [("tokens", .list Token.form.schema), ("end_state", Mode.form.schema)]
  write := toJson
  read := ofJson?
  InRange line := ∀ t ∈ line.tokens, Token.form.InRange t

theorem Token.Kind.faithful_form : Kind.form.Faithful := by
  refine Json.Form.faithful_name (fun _ => rfl) (fun _ => rfl) rfl (fun kind => ?_) fun s hs => ?_
  · cases kind <;> rfl
  · rw [ofScope?, List.find?_eq_none]
    rintro kind - heq
    rw [← eq_of_beq heq] at hs
    cases kind <;> simp [scope] at hs

theorem Mode.faithful_form : Mode.form.Faithful := by
  refine Json.Form.faithful_name (fun _ => rfl) (fun _ => rfl) rfl (fun mode => ?_) fun s hs => ?_
  · cases mode <;> rfl
  · rw [ofName?, List.find?_eq_none]
    rintro mode - heq
    rw [← eq_of_beq heq] at hs
    cases mode <;> simp [name] at hs

theorem Position.isRecord_form :
    form.IsRecord [⟨"row", Form.number, row⟩, ⟨"column", Form.number, column⟩] where
  names_nodup := by decide
  schema_eq := rfl
  write_eq _ := rfl
  read_eq_some j p := by
    rcases hvalues : j.record? ["row", "column"] with _ | values
    · simp [form, ofJson?, hvalues]
    · obtain ⟨row, column, rfl⟩ := List.length_eq_two.mp (Json.length_of_record? hvalues)
      cases p
      simp [form, ofJson?, hvalues, Form.number, Option.bind_eq_some_iff]
  inRange p hp := by simpa [form, Form.number] using hp

theorem Position.faithful_form : form.Faithful :=
  isRecord_form.faithful (by simp [Form.faithful_number])

theorem Span.isRecord_form :
    form.IsRecord [⟨"start", Position.form, start⟩, ⟨"end", Position.form, stop⟩] where
  names_nodup := by decide
  schema_eq := rfl
  write_eq _ := rfl
  read_eq_some j s := by
    rcases hvalues : j.record? ["start", "end"] with _ | values
    · simp [form, ofJson?, hvalues]
    · obtain ⟨start, stop, rfl⟩ := List.length_eq_two.mp (Json.length_of_record? hvalues)
      cases s
      simp [form, ofJson?, hvalues, Position.form, Option.bind_eq_some_iff]
  inRange s hs := by simpa [form] using hs

theorem Span.faithful_form : form.Faithful :=
  isRecord_form.faithful (by simp [Position.faithful_form])

theorem RowEdit.isRecord_form : form.IsRecord
    [⟨"row", Form.number, row⟩, ⟨"start_column", Form.number, start⟩,
      ⟨"end_column", Form.number, stop⟩, ⟨"new_text", Form.text, text⟩] where
  names_nodup := by decide
  schema_eq := rfl
  write_eq _ := rfl
  read_eq_some j e := by
    rcases hvalues : j.record? ["row", "start_column", "end_column", "new_text"] with _ | values
    · simp [form, ofJson?, hvalues]
    · match values, Json.length_of_record? hvalues with
      | [row, start, stop, text], _ =>
        cases e
        simp [form, ofJson?, hvalues, Form.number, Form.text, Option.bind_eq_some_iff]
  inRange e he := by simpa [form, Form.number, Form.text] using he

theorem RowEdit.faithful_form : form.Faithful :=
  isRecord_form.faithful (by simp [Form.faithful_number, Form.faithful_text])

theorem Token.isRecord_form : form.IsRecord
    [⟨"category", Kind.form, kind⟩, ⟨"lexeme", Form.text, lexeme⟩,
      ⟨"start_column", Form.number, start⟩, ⟨"end_column", Form.number, stop⟩] where
  names_nodup := by decide
  schema_eq := rfl
  write_eq _ := rfl
  read_eq_some j t := by
    rcases hvalues : j.record? ["category", "lexeme", "start_column", "end_column"] with _ | values
    · simp [form, ofJson?, hvalues]
    · match values, Json.length_of_record? hvalues with
      | [kind, lexeme, start, stop], _ =>
        cases t
        simp [form, ofJson?, hvalues, Form.number, Form.text, Kind.form, Option.bind_eq_some_iff]
  inRange t ht := by simpa [form, Form.number, Form.text, Kind.form] using ht

theorem Token.faithful_form : form.Faithful :=
  isRecord_form.faithful
    (by simp [Form.faithful_number, Form.faithful_text, Kind.faithful_form])

theorem LexedLine.isRecord_form : form.IsRecord
    [⟨"tokens", Form.list Token.form, tokens⟩, ⟨"end_state", Mode.form, endMode⟩] where
  names_nodup := by decide
  schema_eq := rfl
  write_eq _ := rfl
  read_eq_some j line := by
    rcases hvalues : j.record? ["tokens", "end_state"] with _ | values
    · simp [form, ofJson?, hvalues]
    · obtain ⟨tokens, mode, rfl⟩ := List.length_eq_two.mp (Json.length_of_record? hvalues)
      cases line
      simp [form, ofJson?, hvalues, Form.list, Token.form, Mode.form, Option.bind_eq_some_iff,
        ← exists_and_right, and_assoc]
  inRange line hline := by simpa [form, Form.list, Mode.form] using hline

theorem LexedLine.faithful_form : form.Faithful :=
  isRecord_form.faithful
    (by simp [Form.faithful_list Token.faithful_form, Mode.faithful_form])

/-- Tokens, lexed lines, positions, spans and edits whose numbers fit 64 bits are read back as they
were written, from every spelling of what is written, and nothing malformed is read as one. -/
theorem jsonForms_faithful :
    Token.form.Faithful ∧ LexedLine.form.Faithful ∧ Position.form.Faithful ∧ Span.form.Faithful ∧
      RowEdit.form.Faithful :=
  ⟨Token.faithful_form, LexedLine.faithful_form, Position.faithful_form, Span.faithful_form,
    RowEdit.faithful_form⟩

open Json (Respells Malformed) in
theorem jsonForms_faithful_let :
    let line : LexedLine := ⟨[⟨.keyword, ['l', 'e', 't'], 0, 3⟩], .quoted⟩
    let token : Json := .array [.string "keyword", .string "let", .int 0, .int 3]
    let respelt : Json := .object [("note", .null), ("end_state", .string "quoted-string"),
      ("tokens", .array [token])]
    let malformed : Json := .array [.array [.array [.string "let"]], .string "start"]
    LexedLine.form.InRange line ∧ Respells line.toJson respelt ∧
      LexedLine.ofJson? respelt = some line ∧ Malformed LexedLine.form.schema malformed ∧
      LexedLine.ofJson? malformed = none := by
  intro line token respelt malformed
  have hrange : LexedLine.form.InRange line := by
    intro t ht
    rw [List.mem_singleton.mp ht]
    exact ⟨by decide, by decide⟩
  have htoken : Respells (Token.toJson ⟨.keyword, ['l', 'e', 't'], 0, 3⟩) token :=
    .sequence (List.forall₂_same.mpr fun j _ => .same j)
  have horder := List.reverse_perm [("tokens", Json.array [token]),
    ("end_state", Json.string "quoted-string"), ("note", Json.null)]
  have hline : Respells line.toJson respelt :=
    @Respells.object _ _ [("note", .null)] _
      (.cons (.array (.cons htoken .nil)) (.cons (.same _) .nil)) horder (by simp)
  have hshort : Malformed LexedLine.form.schema malformed :=
    .place (i := 0) rfl rfl (.item List.mem_cons_self (.length (by decide)))
  exact ⟨hrange, hline, jsonForms_faithful.2.1.read_respelt line hrange respelt hline, hshort,
    jsonForms_faithful.2.1.read_malformed malformed hshort⟩

end EditorAssist
