import EditorAssist.Proofs.Merging
import Mathlib.Data.List.Induction

/-! Layers of settings, and which of them decides a setting. Where every layer gives known keys
values of their types, loading succeeds with any collector that keeps to its laws. Files and
environments change the keys that they give and no other, the later ones last. Overrides come on
top. They are kept by path: an override puts aside what was given at its path before, be it a whole
part of the settings. Those of several paths are carried out in no known order. -/
namespace EditorAssist

namespace Settings

/-- What can be set. -/
inductive Key where
  | style
  | width
  | autoOutdent
  | format
  deriving DecidableEq, Repr

/-- A key with a value of its type. -/
inductive Setting where
  | style (style : Style)
  | width (n : Nat)
  | autoOutdent (b : Bool)
  | format (format : Format)
  deriving DecidableEq, Repr

namespace Key

/-- The part of the settings in which a key stands, and its name there. -/
def slot : Key → Slot
  | style => ("indentation", "style")
  | width => ("indentation", "width")
  | autoOutdent => ("indentation", "auto_outdent")
  | format => ("output", "format")

def all : List Key :=
  [style, width, autoOutdent, format]

def at? (slot : Slot) : Option Key :=
  all.find? (·.slot == slot)

def dotted (key : Key) : String :=
  key.slot.1 ++ "." ++ key.slot.2

def path (key : Key) : Path :=
  [.field key.slot.1, .field key.slot.2]

/-- The variable of an environment that is named for a key, in lower case. -/
def variableName (key : Key) : String :=
  "focus__" ++ key.slot.1 ++ "__" ++ key.slot.2

/-- The key for which a variable is named, in any case. -/
def ofVariable? (name : String) : Option Key :=
  all.find? (·.variableName == lowerString name)

/-- The setting that a value gives for a key, if the value is of its type: a name of a choice, a
number of 64 bits or a truth value. -/
def read? : Key → Scalar → Option Setting
  | style, .string s => ([Style.spaces, .tabs].find? (·.name == lowerString s)).map .style
  | width, .int n => if 0 ≤ n ∧ n < wordLimit then some (.width n.toNat) else none
  | autoOutdent, .bool b => some (.autoOutdent b)
  | format, .string s => ([Format.text, .json].find? (·.name == lowerString s)).map .format
  | _, _ => none

/-- The setting that the text of a variable gives for a key. -/
def ofText? (key : Key) (text : String) : Option Setting :=
  match key with
  | width => ((wholeInteger? text.toList).filter fitsSigned).bind (key.read? <| .int ·)
  | autoOutdent =>
    if lowerString text = "true" then some (.autoOutdent true)
    else if lowerString text = "false" then some (.autoOutdent false)
    else none
  | _ => key.read? (.string text)

end Key

def Setting.key : Setting → Key
  | style _ => .style
  | width _ => .width
  | autoOutdent _ => .autoOutdent
  | format _ => .format

def get (v : Settings) : Key → Setting
  | .style => .style v.indentation.style
  | .width => .width v.indentation.width
  | .autoOutdent => .autoOutdent v.indentation.autoOutdent
  | .format => .format v.format

def set (v : Settings) : Setting → Settings
  | .style style => { v with indentation := { v.indentation with style } }
  | .width width => { v with indentation := { v.indentation with width } }
  | .autoOutdent autoOutdent => { v with indentation := { v.indentation with autoOutdent } }
  | .format format => { v with format }

def setAll (v : Settings) (settings : List Setting) : Settings :=
  settings.foldl set v

/-- The setting for which a value at a slot stands, if it is of the type of the key there. -/
def settingOf? (leaf : Slot × Scalar) : Option Setting :=
  (Key.at? leaf.1).bind (·.read? leaf.2)

def settingsOf? (given : List (Slot × Scalar)) : Option (List Setting) :=
  given.mapM settingOf?

/-- Settings, if none is given twice. -/
def once? (settings : List Setting) : Option (List Setting) :=
  if (settings.map Setting.key).Nodup then some settings else none

def settingsAlong? (path : Path) (value : Tree) : Option (List Setting) := do
  once? (← settingsOf? (← leavesAlong? path value))

def entriesSettings? (entries : List (String × Tree)) : Option (List Setting) := do
  once? (← settingsOf? (← leaves? entries))

/-- The settings that a variable of an environment gives. A variable whose name begins otherwise is
not meant for settings. -/
def variableSettings? (var : String × String) : Option (List Setting) :=
  if "focus__".toList.isPrefixOf (Text.lower var.1.toList) then
    ((Key.ofVariable? var.1).bind (·.ofText? var.2)).map ([·])
  else some []

namespace Layer

/-- Whether a layer goes on top of all files and environments. -/
def isOverride : Layer → Bool
  | assignment _ _ => true
  | _ => false

/-- The path that an override sets, with its value. -/
def override? : Layer → Option (Path × Tree)
  | assignment key value => (Path.ofNames? key).map (·, value)
  | _ => none

def target? (layer : Layer) : Option Path :=
  layer.override?.map Prod.fst

/-- The settings that a layer gives, if it gives no setting twice, none a value of another type, and
nothing else. A file that is not required gives none if it is absent. -/
def settings? (c : Collector) (files : Files) : Layer → Option (List Setting)
  | file path required =>
    match c.entries files (.file path true) with
    | .ok entries => entriesSettings? entries
    | .error e => if required = false ∧ e = .missingFile path then some [] else none
  | environment vars => do once? (← vars.mapM variableSettings?).flatten
  | assignment key value => do settingsAlong? (← Path.ofNames? key) value

/-- The settings that a layer gives; none for a layer that gives anything else. -/
def gives (c : Collector) (files : Files) (layer : Layer) : List Setting :=
  (layer.settings? c files).getD []

/-- What a layer gives a key. -/
def given? (c : Collector) (files : Files) (key : Key) (layer : Layer) : Option Setting :=
  (layer.gives c files).find? (·.key == key)

end Layer

/-- What the last layer that gives a key gives it. -/
def lastGiven? (c : Collector) (files : Files) (layers : List Layer) (key : Key) :
    Option Setting :=
  layers.reverse.findSome? (·.given? c files key)

def overrides (layers : List Layer) : List Layer :=
  layers.filter Layer.isOverride

/-- Files and environments. -/
def underlays (layers : List Layer) : List Layer :=
  layers.filter (!·.isOverride)

/-- The overrides whose path is not set again later. -/
def standing : List Layer → List Layer
  | [] => []
  | layer :: rest =>
    if layer.isOverride ∧ ∀ other ∈ rest, other.target? ≠ layer.target? then
      layer :: standing rest
    else standing rest

/-- An override that gives one value by the name of its key. -/
def Layer.IsNamed (layer : Layer) : Prop :=
  ∃ (key : Key) (origin : Option String) (x : Scalar),
    layer = .assignment key.dotted (.leaf origin x)

/-- The overrides that give a key are those of one path. -/
def OnePath (c : Collector) (files : Files) (layers : List Layer) (key : Key) : Prop :=
  ∀ layer ∈ overrides layers, (layer.given? c files key).isSome →
    ∀ other ∈ overrides layers,
      (other.given? c files key).isSome ↔ other.target? = layer.target?

theorem Key.slot_of_at? {slot : Slot} {key : Key} (h : Key.at? slot = some key) :
    key.slot = slot := by
  have hslot := List.find?_some h
  exact eq_of_beq hslot

theorem Key.slot_injective : Function.Injective Key.slot := by
  intro a b h
  cases a <;> cases b <;> simp [slot] at h ⊢

theorem Key.key_of_read? {key : Key} {x : Scalar} {s : Setting} (h : key.read? x = some s) :
    s.key = key := by
  unfold Key.read? at h
  split at h
  · obtain ⟨_, -, rfl⟩ := Option.map_eq_some_iff.mp h
    rfl
  · split_ifs at h
    cases h
    rfl
  · cases h
    rfl
  · obtain ⟨_, -, rfl⟩ := Option.map_eq_some_iff.mp h
    rfl
  · cases h

theorem get_set (v : Settings) (s : Setting) (key : Key) :
    (v.set s).get key = if s.key = key then s else v.get key := by
  cases s <;> cases key <;> rfl

theorem setAll_cons (v : Settings) (s : Setting) (settings : List Setting) :
    v.setAll (s :: settings) = (v.set s).setAll settings :=
  rfl

theorem get_setAll (v : Settings) {settings : List Setting}
    (h : (settings.map Setting.key).Nodup) (key : Key) :
    (v.setAll settings).get key = (settings.find? (·.key == key)).getD (v.get key) := by
  induction settings generalizing v with
  | nil => rfl
  | cons s rest ih =>
    rw [List.map_cons, List.nodup_cons] at h
    rw [setAll_cons, ih _ h.2, get_set]
    by_cases hkey : s.key = key
    · have hrest : rest.find? (·.key == key) = none := by
        rw [List.find?_eq_none]
        intro t ht heq
        rw [hkey, ← eq_of_beq heq] at h
        exact h.1 (List.mem_map_of_mem ht)
      simp [hrest, hkey]
    · simp [hkey]

theorem once?_eq_some_iff {settings others : List Setting} :
    once? settings = some others ↔ (settings.map Setting.key).Nodup ∧ others = settings := by
  rw [once?]
  split_ifs with h
  · simp [h, eq_comm]
  · simp [h]

theorem exists_of_settingOf? {leaf : Slot × Scalar} {s : Setting} (h : settingOf? leaf = some s) :
    s.key.slot = leaf.1 ∧ s.key.read? leaf.2 = some s := by
  obtain ⟨key, hkey, hread⟩ := Option.bind_eq_some_iff.mp h
  rw [Key.key_of_read? hread]
  exact ⟨Key.slot_of_at? hkey, hread⟩

section Stands

variable {given : List (Slot × Scalar)} {settings : List Setting}

/-- Values at slots stand for settings, each for one. -/
structure Stands (given : List (Slot × Scalar)) (settings : List Setting) : Prop where
  listed : ∀ s ∈ settings, ∃ x, (s.key.slot, x) ∈ given ∧ s.key.read? x = some s
  only : ∀ slot ∈ given.map Prod.fst, ∃ s ∈ settings, s.key.slot = slot

theorem map_fst_of_settingsOf? (h : settingsOf? given = some settings) :
    settings.map (·.key.slot) = given.map Prod.fst :=
  map_eq_of_mapM h fun _ _ _ hs => (exists_of_settingOf? hs).1

theorem stands_of_settingsOf? (h : settingsOf? given = some settings) : Stands given settings := by
  refine ⟨fun s hs => ?_, fun slot hslot => ?_⟩
  · obtain ⟨⟨slot, x⟩, hmem, hread⟩ := (mem_iff_of_mapM h).mp hs
    obtain ⟨rfl, hread⟩ := exists_of_settingOf? hread
    exact ⟨x, hmem, hread⟩
  · rw [← map_fst_of_settingsOf? h] at hslot
    exact List.mem_map.mp hslot

theorem nodup_slots (h : settingsOf? given = some settings)
    (hnodup : (settings.map Setting.key).Nodup) : (given.map Prod.fst).Nodup := by
  have hslots := hnodup.map Key.slot_injective
  rw [List.map_map] at hslots
  exact map_fst_of_settingsOf? h ▸ hslots

theorem Stands.perm {others : List (Slot × Scalar)} (h : Stands given settings)
    (hperm : others.Perm given) : Stands others settings := by
  refine ⟨fun s hs => ?_, fun slot hslot => h.only slot ((hperm.map Prod.fst).mem_iff.mp hslot)⟩
  obtain ⟨x, hx, hread⟩ := h.listed s hs
  exact ⟨x, hperm.mem_iff.mpr hx, hread⟩

/-- A tree holds a value for each key, which stands for what the settings say. -/
def Tree.Reflects (t : Tree) (v : Settings) : Prop :=
  ∀ key : Key, ∃ x, t.scalarAt? key.slot = some x ∧ key.read? x = some (v.get key)

theorem Tree.Reflects.overwrites {t next : Tree} {v : Settings} (h : t.Reflects v)
    (hover : next.Overwrites t given) (hstands : Stands given settings)
    (hnodup : (settings.map Setting.key).Nodup) : next.Reflects (v.setAll settings) := by
  intro key
  rw [get_setAll v hnodup]
  cases hfind : settings.find? (·.key == key) with
  | some s =>
    have hkey := List.find?_some hfind
    rw [beq_iff_eq] at hkey
    obtain ⟨x, hx, hread⟩ := hstands.listed s (List.mem_of_find?_eq_some hfind)
    exact ⟨x, hover.holds key.slot x (hkey ▸ hx), hkey ▸ hread⟩
  | none =>
    have hslot : key.slot ∉ given.map Prod.fst := by
      intro hmem
      obtain ⟨s, hs, hsame⟩ := hstands.only key.slot hmem
      have hne := List.find?_eq_none.mp hfind s hs
      exact hne (beq_iff_eq.mpr (Key.slot_injective hsame))
    obtain ⟨x, hx, hread⟩ := h key
    exact ⟨x, (hover.kept key.slot hslot).trans hx, hread⟩

end Stands

namespace Collector.Lawful

variable {c : Collector} {t : Tree} {origin : Option String} {x : Scalar}

theorem choice_of_find? (hc : c.Lawful) {α : Type} {name : α → String} {what s : String}
    {options : List (String × α)} {values : List α} {a : α}
    (hoptions : ∀ other, options.lookup (name other) = some other)
    (h : values.find? (name · == lowerString s) = some a) :
    c.choice what options (.leaf origin (.string s)) = .ok a := by
  have hname := List.find?_some h
  refine hc.choice_string ?_
  rw [← eq_of_beq hname]
  exact hoptions a

theorem choice_style (hc : c.Lawful) {style : Style}
    (h : Key.style.read? x = some (.style style)) :
    c.choice "IndentStyle" [("spaces", Style.spaces), ("tabs", .tabs)] (.leaf origin x) =
      .ok style := by
  cases x with
  | string s =>
    obtain ⟨_, hfound, hstyle⟩ := Option.map_eq_some_iff.mp h
    cases hstyle
    exact hc.choice_of_find? (fun other => by cases other <;> rfl) hfound
  | _ => cases h

theorem natural_width (hc : c.Lawful) {key : String} {n : Nat}
    (h : Key.width.read? x = some (.width n)) : c.natural key (.leaf origin x) = .ok n := by
  cases x with
  | int m =>
    rw [Key.read?] at h
    split_ifs at h with hrange
    cases h
    exact hc.natural_int hrange.1 hrange.2
  | _ => cases h

theorem truth_autoOutdent (hc : c.Lawful) {key : String} {b : Bool}
    (h : Key.autoOutdent.read? x = some (.autoOutdent b)) :
    c.truth key (.leaf origin x) = .ok b := by
  cases x with
  | bool b => cases h; exact hc.truth_bool
  | _ => cases h

theorem choice_format (hc : c.Lawful) {format : Format}
    (h : Key.format.read? x = some (.format format)) :
    c.choice "OutputFormat" [("text", Format.text), ("json", .json)] (.leaf origin x) =
      .ok format := by
  cases x with
  | string s =>
    obtain ⟨_, hfound, hformat⟩ := Option.map_eq_some_iff.mp h
    cases hformat
    exact hc.choice_of_find? (fun other => by cases other <;> rfl) hfound
  | _ => cases h

theorem exists_of_scalarAt? {slot : Slot} (h : t.scalarAt? slot = some x) :
    ∃ part origin, t.fields.lookup slot.1 = some part ∧
      part.fields.lookup slot.2 = some (.leaf origin x) := by
  obtain ⟨part, hpart, hx⟩ := Option.bind_eq_some_iff.mp h
  rw [Tree.scalarIn?] at hx
  split at hx
  · next origin y hlookup =>
    cases hx
    exact ⟨part, origin, hpart, hlookup⟩
  · cases hx

theorem readIndentation_eq (hc : c.Lawful) {v : Settings} (h : t.Reflects v) {part : Tree}
    (hpart : t.fields.lookup "indentation" = some part) (key : String) :
    c.readIndentation key part = .ok v.indentation := by
  have hfield (k : Key) (hk : k.slot.1 = "indentation") : ∃ origin x fieldKey,
      c.field indentationRecord key part k.slot.2 = .ok (fieldKey, .leaf origin x) ∧
        k.read? x = some (v.get k) := by
    obtain ⟨x, hx, hread⟩ := h k
    obtain ⟨_, origin, hlookup, hleaf⟩ := exists_of_scalarAt? hx
    rw [hk, hpart] at hlookup
    cases hlookup
    obtain ⟨fieldKey, hfield⟩ := hc.field_lookup hleaf
    exact ⟨origin, x, fieldKey, hfield, hread⟩
  obtain ⟨_, _, styleKey, hstyle, hreadStyle⟩ := hfield .style rfl
  obtain ⟨_, _, widthKey, hwidth, hreadWidth⟩ := hfield .width rfl
  obtain ⟨_, _, outdentKey, houtdent, hreadOutdent⟩ := hfield .autoOutdent rfl
  simp only [Key.slot] at hstyle hwidth houtdent
  simp [readIndentation, hstyle, hwidth, houtdent, hc.choice_style hreadStyle,
    hc.natural_width hreadWidth, hc.truth_autoOutdent hreadOutdent, bind, Except.bind, pure,
    Except.pure]

theorem readOutput_eq (hc : c.Lawful) {v : Settings} (h : t.Reflects v) {part : Tree}
    (hpart : t.fields.lookup "output" = some part) (key : String) :
    c.readOutput key part = .ok v.format := by
  obtain ⟨x, hx, hread⟩ := h .format
  obtain ⟨_, origin, hlookup, hleaf⟩ := exists_of_scalarAt? hx
  cases hpart.symm.trans hlookup
  obtain ⟨formatKey, hfield⟩ : ∃ formatKey,
      c.field outputRecord key part "format" = .ok (formatKey, .leaf origin x) :=
    hc.field_lookup hleaf
  simp [readOutput, hfield, hc.choice_format hread, bind, Except.bind]

/-- What a tree reflects is read from it. -/
theorem readSettings_eq (hc : c.Lawful) {v : Settings} (h : t.Reflects v) :
    c.readSettings t = .ok v := by
  obtain ⟨_, hstyle, -⟩ := h .style
  obtain ⟨_, hformat, -⟩ := h .format
  obtain ⟨indentation, _, hindentation, -⟩ := exists_of_scalarAt? hstyle
  obtain ⟨output, _, houtput, -⟩ := exists_of_scalarAt? hformat
  obtain ⟨indentationKey, hfirst⟩ : ∃ indentationKey,
      c.field settingsRecord "" t "indentation" = .ok (indentationKey, indentation) :=
    hc.field_lookup hindentation
  obtain ⟨outputKey, hsecond⟩ : ∃ outputKey,
      c.field settingsRecord "" t "output" = .ok (outputKey, output) :=
    hc.field_lookup houtput
  simp [readSettings, hfirst, hsecond, hc.readIndentation_eq h hindentation,
    hc.readOutput_eq h houtput, bind, Except.bind, pure, Except.pure]

/-- The text of a variable stands for a value of the type of its key. -/
theorem read?_ofText (hc : c.Lawful) {key : Key} {text : String} {s : Setting}
    (h : key.ofText? text = some s) : key.read? (c.ofText text) = some s := by
  have hword {word : String} (hlow : lowerString text = word)
      (hletters : word.toList.all Char.isLower)
      (hnot : word ∉ ["true", "false", "inf", "infinity", "nan"]) :
      c.ofText text = .string text :=
    hc.ofText_word (by rwa [hlow]) (by rwa [hlow])
  cases key with
  | width =>
    obtain ⟨n, hn, hread⟩ := Option.bind_eq_some_iff.mp h
    obtain ⟨hn, hfits⟩ := Option.filter_eq_some_iff.mp hn
    rwa [hc.ofText_int hn hfits]
  | autoOutdent =>
    rw [Key.ofText?] at h
    split_ifs at h with htrue hfalse
    · rw [hc.ofText_true htrue]
      exact h
    · rw [hc.ofText_false hfalse]
      exact h
  | style =>
    obtain ⟨found, hfound, -⟩ := Option.map_eq_some_iff.mp h
    have hname := List.find?_some hfound
    rw [hword (eq_of_beq hname).symm (by cases found <;> decide) (by cases found <;> decide)]
    exact h
  | format =>
    obtain ⟨found, hfound, -⟩ := Option.map_eq_some_iff.mp h
    have hname := List.find?_some hfound
    rw [hword (eq_of_beq hname).symm (by cases found <;> decide) (by cases found <;> decide)]
    exact h

end Collector.Lawful

section Underlays

variable {c : Collector} {files : Files} {layers : List Layer}

/-- What a layer other than an override hands over. -/
def Layer.source? : Layer → Option Source
  | file path required => some (.file path required)
  | environment vars => some (.environment "FOCUS" "__" vars)
  | assignment _ _ => none

theorem variableKey?_of_ofVariable? {name : String} {key : Key}
    (h : Key.ofVariable? name = some key) :
    variableKey? "FOCUS" "__" name = some key.dotted := by
  have hname := List.find?_some h
  have hlow : Text.lower name.toList = key.variableName.toList := by
    rw [eq_of_beq hname, lowerString, String.toList_ofList]
  simp only [variableKey?, hlow]
  cases key <;> decide +kernel

theorem ofNames?_dotted (key : Key) : Path.ofNames? key.dotted = some key.path := by
  cases key <;> decide +kernel

theorem leavesAlong?_path (key : Key) (origin : Option String) (x : Scalar) :
    leavesAlong? key.path (.leaf origin x) = some [(key.slot, x)] := by
  have hplaced : leafIn? key.slot.1 (key.slot.2, .leaf origin x) = some (key.slot, x) := by
    cases key <;> rfl
  rw [Key.path, leavesAlong?, hplaced]
  rfl

theorem entryLeaves?_dotted (key : Key) (origin : Option String) (x : Scalar) :
    entryLeaves? (key.dotted, .leaf origin x) = some [(key.slot, x)] := by
  rw [entryLeaves?, ofNames?_dotted, Option.bind_some, leavesAlong?_path]

theorem settingOf?_slot {key : Key} {x : Scalar} {s : Setting} (h : key.read? x = some s) :
    settingOf? (key.slot, x) = some s := by
  have hat : Key.at? key.slot = some key := by cases key <;> decide
  rw [settingOf?, hat]
  exact h

/-- A variable that is named for a key is an entry of its path. -/
theorem Collector.Lawful.exists_leaves?_variables (hc : c.Lawful) (origin : Option String)
    {vars : List (String × String)} {given : List (List Setting)}
    (h : vars.mapM variableSettings? = some given) :
    (vars.filterMap fun var => variableKey? "FOCUS" "__" var.1) =
        given.flatten.map (·.key.dotted) ∧
      ∃ leaves, leaves? (vars.filterMap (c.variableEntry? "FOCUS" "__" origin)) = some leaves ∧
        settingsOf? leaves = some given.flatten := by
  induction vars generalizing given with
  | nil =>
    cases h
    exact ⟨rfl, [], rfl, rfl⟩
  | cons var rest ih =>
    obtain ⟨settings, behind, hsettings, hbehind, rfl⟩ := exists_of_mapM_cons h
    obtain ⟨hkeys, leaves, hleaves, hread⟩ := ih hbehind
    rw [variableSettings?] at hsettings
    split_ifs at hsettings with hmarked
    · obtain ⟨s, hs, rfl⟩ := Option.map_eq_some_iff.mp hsettings
      obtain ⟨key, hkey, htext⟩ := Option.bind_eq_some_iff.mp hs
      have hscalar := hc.read?_ofText htext
      have hname := variableKey?_of_ofVariable? hkey
      refine ⟨?_, (key.slot, c.ofText var.2) :: leaves, ?_, ?_⟩
      · simp only [List.filterMap_cons, hname, hkeys]
        rw [← Key.key_of_read? hscalar]
        rfl
      · have hentry : c.variableEntry? "FOCUS" "__" origin var =
            some (key.dotted, .leaf origin (c.ofText var.2)) := by
          rw [Collector.variableEntry?, hname]
          rfl
        rw [List.filterMap_cons_some hentry]
        exact leaves?_cons_eq_some (entryLeaves?_dotted key origin _) hleaves
      · exact mapM_cons_eq_some (settingOf?_slot hscalar) hread
    · cases hsettings
      have hkey : variableKey? "FOCUS" "__" var.1 = none := if_neg hmarked
      refine ⟨?_, leaves, ?_, hread⟩
      · simp only [List.filterMap_cons, hkey, hkeys]
        rfl
      · have hentry : c.variableEntry? "FOCUS" "__" origin var = none := by
          rw [Collector.variableEntry?, hkey]
          rfl
        rw [List.filterMap_cons_none hentry, hleaves]

theorem Key.dotted_injective : Function.Injective Key.dotted := by
  intro a b h
  cases a <;> cases b <;> first | rfl | exact absurd h (by decide +kernel)

/-- What the library reads from a source stands for settings. -/
def Collector.Yields (c : Collector) (files : Files) (source : Source) (settings : List Setting) :
    Prop :=
  (settings.map Setting.key).Nodup ∧
    ∃ given, c.Gives files source given ∧ Stands given settings

theorem yields_of_entries {source : Source} {entries : List (String × Tree)}
    {settings : List Setting} (hentries : c.entries files source = .ok entries)
    (h : entriesSettings? entries = some settings) : c.Yields files source settings := by
  obtain ⟨given, hgiven, h⟩ := Option.bind_eq_some_iff.mp h
  obtain ⟨found, hfound, honce⟩ := Option.bind_eq_some_iff.mp h
  obtain ⟨hnodup, rfl⟩ := once?_eq_some_iff.mp honce
  exact ⟨hnodup, given, ⟨entries, hentries, hgiven, nodup_slots hfound hnodup⟩,
    stands_of_settingsOf? hfound⟩

theorem Collector.Lawful.exists_yields (hc : c.Lawful) {layer : Layer} {settings : List Setting}
    (h : layer.settings? c files = some settings) (hkind : layer.isOverride = false) :
    ∃ source, layer.source? = some source ∧ c.Yields files source settings := by
  cases layer with
  | file path required =>
    refine ⟨_, rfl, ?_⟩
    rw [Layer.settings?] at h
    split at h
    · next entries hentries =>
      refine yields_of_entries ?_ h
      cases required with
      | true => exact hentries
      | false => exact hc.entries_present hentries
    · next e herror =>
      split_ifs at h with habsent
      obtain ⟨rfl, rfl⟩ := habsent
      cases h
      exact yields_of_entries (hc.entries_absent herror) rfl
  | environment vars =>
    refine ⟨_, rfl, ?_⟩
    obtain ⟨given, hgiven, honce⟩ := Option.bind_eq_some_iff.mp h
    obtain ⟨hnodup, rfl⟩ := once?_eq_some_iff.mp honce
    have hkeys := (hc.exists_leaves?_variables none hgiven).1
    have hkeysNodup := hnodup.map Key.dotted_injective
    rw [List.map_map] at hkeysNodup
    obtain ⟨origin, entries, hentries, hperm⟩ :=
      hc.entries_environment files "FOCUS" "__" vars (hkeys ▸ hkeysNodup)
    obtain ⟨-, leaves, hleaves, hread⟩ := hc.exists_leaves?_variables origin hgiven
    obtain ⟨listed, hlisted, hlistedPerm⟩ := exists_leaves?_of_perm hperm hleaves
    have hslots := (hlistedPerm.map Prod.fst).nodup_iff.mpr (nodup_slots hread hnodup)
    exact ⟨hnodup, listed, ⟨entries, hentries, hlisted, hslots⟩,
      (stands_of_settingsOf? hread).perm hlistedPerm⟩
  | assignment key value => cases hkind

end Underlays

section Layers

variable {c : Collector} {files : Files} {layers : List Layer} {key : Key}

/-- The settings after layers, one after another. -/
def setLayers (c : Collector) (files : Files) (v : Settings) (layers : List Layer) : Settings :=
  layers.foldl (fun v layer => v.setAll (layer.gives c files)) v

theorem Layer.gives_eq {layer : Layer} {settings : List Setting}
    (h : layer.settings? c files = some settings) : layer.gives c files = settings := by
  rw [gives, h, Option.getD_some]

theorem exists_of_settingsAlong? {path : Path} {value : Tree} {settings : List Setting}
    (h : settingsAlong? path value = some settings) :
    ∃ given, leavesAlong? path value = some given ∧ settingsOf? given = some settings ∧
      (settings.map Setting.key).Nodup := by
  obtain ⟨given, hgiven, h⟩ := Option.bind_eq_some_iff.mp h
  obtain ⟨found, hfound, honce⟩ := Option.bind_eq_some_iff.mp h
  obtain ⟨hnodup, rfl⟩ := once?_eq_some_iff.mp honce
  exact ⟨given, hgiven, hfound, hnodup⟩

theorem Collector.Lawful.nodup_gives (hc : c.Lawful) (layer : Layer) :
    ((layer.gives c files).map Setting.key).Nodup := by
  rcases hsettings : layer.settings? c files with _ | settings
  · simp [Layer.gives, hsettings]
  · rw [Layer.gives_eq hsettings]
    cases hkind : layer.isOverride with
    | false =>
      obtain ⟨_, -, hyields⟩ := hc.exists_yields hsettings hkind
      exact hyields.1
    | true =>
      cases layer with
      | assignment key value =>
        obtain ⟨path, -, halong⟩ := Option.bind_eq_some_iff.mp hsettings
        obtain ⟨_, -, -, hnodup⟩ := exists_of_settingsAlong? halong
        exact hnodup
      | _ => cases hkind

theorem lastGiven?_cons (layer : Layer) (rest : List Layer) (key : Key) :
    lastGiven? c files (layer :: rest) key =
      (lastGiven? c files rest key).or (layer.given? c files key) := by
  simp [lastGiven?, List.findSome?_append]

theorem get_setLayers (hc : c.Lawful) (v : Settings) (key : Key) :
    (setLayers c files v layers).get key = (lastGiven? c files layers key).getD (v.get key) := by
  induction layers generalizing v with
  | nil => rfl
  | cons layer rest ih =>
    rw [lastGiven?_cons]
    change (setLayers c files (v.setAll (layer.gives c files)) rest).get key = _
    rw [ih, get_setAll v (hc.nodup_gives layer), Layer.given?]
    cases lastGiven? c files rest key <;> rfl

theorem reflects_of_defaultLeaves {t : Tree} {given : List (Slot × Scalar)}
    (hperm : given.Perm defaultLeaves)
    (hholds : ∀ slot x, (slot, x) ∈ given → t.scalarAt? slot = some x) : t.Reflects {} := by
  have hdefault (key : Key) :
      ∃ x, (key.slot, x) ∈ defaultLeaves ∧ key.read? x = some (({} : Settings).get key) := by
    cases key
    · exact ⟨.string "spaces", by simp [defaultLeaves, Key.slot], by decide⟩
    · exact ⟨.int 4, by simp [defaultLeaves, Key.slot], by decide⟩
    · exact ⟨.bool true, by simp [defaultLeaves, Key.slot], by decide⟩
    · exact ⟨.string "text", by simp [defaultLeaves, Key.slot], by decide⟩
  intro key
  obtain ⟨x, hx, hread⟩ := hdefault key
  exact ⟨x, hholds key.slot x (hperm.mem_iff.mpr hx), hread⟩

/-- All sources that layers hand over give values, the built-in settings too. -/
theorem Collector.Lawful.exists_gives (hc : c.Lawful)
    (hlayers : ∀ layer ∈ layers, (layer.settings? c files).isSome) :
    ∀ source ∈ Source.text defaultText :: layers.filterMap Layer.source?,
      ∃ given, c.Gives files source given := by
  rw [List.forall_mem_cons]
  refine ⟨(hc.gives_defaultText files).imp fun _ h => h.1, fun source hsource => ?_⟩
  obtain ⟨layer, hlayer, hfrom⟩ := List.mem_filterMap.mp hsource
  obtain ⟨settings, hsettings⟩ := Option.isSome_iff_exists.mp (hlayers layer hlayer)
  have hkind : layer.isOverride = false := by
    cases layer with
    | assignment key value => cases hfrom
    | _ => rfl
  obtain ⟨_, hsame, -, given, hgiven, -⟩ := hc.exists_yields hsettings hkind
  cases hfrom.symm.trans hsame
  exact ⟨given, hgiven⟩

/-- Files and environments are laid over the built-in settings, one after another. -/
theorem Collector.Lawful.exists_collect (hc : c.Lawful)
    (hlayers : ∀ layer ∈ layers, (layer.settings? c files).isSome) :
    ∃ t, c.collect files (.text defaultText :: layers.filterMap Layer.source?) = .ok t ∧
      t.Reflects (setLayers c files {} (underlays layers)) := by
  induction layers using List.reverseRecOn with
  | nil =>
    obtain ⟨empty, hempty, -⟩ := hc.collect_nil files
    obtain ⟨given, hgiven, hperm⟩ := hc.gives_defaultText files
    have hnone : ∀ other ∈ ([] : List Source), ∃ others, c.Gives files other others :=
      fun _ h => (List.not_mem_nil h).elim
    obtain ⟨t, ht, hover⟩ := hc.collect_concat hnone hgiven hempty
    exact ⟨t, ht, reflects_of_defaultLeaves hperm hover.holds⟩
  | append_singleton rest layer ih =>
    rw [List.forall_mem_append, List.forall_mem_singleton] at hlayers
    obtain ⟨t, ht, hreflects⟩ := ih hlayers.1
    obtain ⟨settings, hsettings⟩ := Option.isSome_iff_exists.mp hlayers.2
    rw [List.filterMap_append, underlays, List.filter_append]
    cases hkind : layer.isOverride with
    | true =>
      have hsource : layer.source? = none := by
        cases layer with
        | assignment key value => rfl
        | _ => cases hkind
      exact ⟨t, by simpa [hsource] using ht, by simpa [underlays, hkind] using hreflects⟩
    | false =>
      obtain ⟨source, hsource, hnodup, given, hgiven, hstands⟩ :=
        hc.exists_yields hsettings hkind
      obtain ⟨next, hnext, hover⟩ := hc.collect_concat (hc.exists_gives hlayers.1) hgiven ht
      refine ⟨next, by simpa [hsource] using hnext, ?_⟩
      have hnextReflects := hreflects.overwrites hover hstands hnodup
      simpa [underlays, hkind, setLayers, Layer.gives_eq hsettings] using hnextReflects

theorem Collector.Lawful.foldlM_add (hc : c.Lawful)
    (hlayers : ∀ layer ∈ layers, (layer.settings? c files).isSome) (l : Loader) :
    layers.foldlM (Loader.add c) l = .ok ⟨l.sources ++ layers.filterMap Layer.source?,
      l.overrides ++ layers.filterMap Layer.override?⟩ := by
  induction layers generalizing l with
  | nil => simp [pure, Except.pure]
  | cons layer rest ih =>
    rw [List.forall_mem_cons] at hlayers
    rw [List.foldlM_cons]
    cases layer with
    | file path required =>
      change rest.foldlM (Loader.add c) _ = _
      rw [ih hlayers.2]
      simp [Loader.addSource, Layer.source?, Layer.override?, List.filterMap_cons]
    | environment vars =>
      change rest.foldlM (Loader.add c) _ = _
      rw [ih hlayers.2]
      simp [Loader.addSource, Layer.source?, Layer.override?, List.filterMap_cons]
    | assignment key value =>
      obtain ⟨settings, hsettings⟩ := Option.isSome_iff_exists.mp hlayers.1
      obtain ⟨path, hpath, -⟩ := Option.bind_eq_some_iff.mp hsettings
      rw [Loader.add, hc.path?_ofNames hpath]
      change rest.foldlM (Loader.add c) _ = _
      rw [ih hlayers.2]
      simp [Layer.source?, Layer.override?, List.filterMap_cons, hpath]

end Layers

section Overrides

variable {c : Collector} {files : Files} {layers : List Layer} {key : Key}

theorem Layer.isOverride_of_override? {layer : Layer} {pair : Path × Tree}
    (h : layer.override? = some pair) : layer.isOverride := by
  cases layer with
  | assignment key value => rfl
  | _ => cases h

theorem Layer.exists_override? {layer : Layer} (h : (layer.settings? c files).isSome)
    (hkind : layer.isOverride) :
    ∃ pair, layer.override? = some pair ∧ (settingsAlong? pair.1 pair.2).isSome := by
  obtain ⟨settings, hsettings⟩ := Option.isSome_iff_exists.mp h
  cases layer with
  | assignment key value =>
    obtain ⟨path, hpath, halong⟩ := Option.bind_eq_some_iff.mp hsettings
    exact ⟨(path, value), by rw [override?, hpath]; rfl, Option.isSome_of_eq_some halong⟩
  | _ => cases hkind

theorem standing_cons_of_last {layer : Layer} (hkind : layer.isOverride)
    (hlast : ∀ other ∈ layers, other.target? ≠ layer.target?) :
    standing (layer :: layers) = layer :: standing layers :=
  if_pos ⟨hkind, hlast⟩

theorem standing_cons_of_again {layer other : Layer} (hother : other ∈ layers)
    (htarget : other.target? = layer.target?) : standing (layer :: layers) = standing layers :=
  if_neg fun h => h.2 other hother htarget

theorem standing_cons_of_underlay {layer : Layer} (hkind : layer.isOverride = false) :
    standing (layer :: layers) = standing layers :=
  if_neg fun h => Bool.false_ne_true (hkind.symm.trans h.1)

theorem standing_sublist : (standing layers).Sublist (overrides layers) := by
  induction layers with
  | nil => exact .slnil
  | cons layer rest ih =>
    rw [standing]
    split_ifs with h
    · rw [overrides, List.filter_cons_of_pos h.1]
      exact ih.cons_cons layer
    · exact ih.trans ((List.sublist_cons_self layer rest).filter _)

theorem any_filterMap_override? {path : Path} :
    (layers.filterMap Layer.override?).any (·.1 == path) ↔
      ∃ other ∈ layers, other.target? = some path := by
  simp only [List.any_eq_true, List.mem_filterMap, beq_iff_eq, Layer.target?,
    Option.map_eq_some_iff]
  constructor
  · rintro ⟨pair, ⟨other, hother, hpair⟩, rfl⟩
    exact ⟨other, hother, pair, hpair, rfl⟩
  · rintro ⟨other, hother, pair, hpair, rfl⟩
    exact ⟨pair, ⟨other, hother, hpair⟩, rfl⟩

/-- Of the overrides that are handed over those are kept that stand. -/
theorem latest_filterMap_override? :
    latest (layers.filterMap Layer.override?) = (standing layers).filterMap Layer.override? := by
  induction layers with
  | nil => rfl
  | cons layer rest ih =>
    cases hpair : layer.override? with
    | none =>
      rw [List.filterMap_cons_none hpair, ih]
      rw [standing]
      split_ifs
      · rw [List.filterMap_cons_none hpair]
      · rfl
    | some pair =>
      have htarget : layer.target? = some pair.1 := by rw [Layer.target?, hpair]; rfl
      simp only [List.filterMap_cons_some hpair, latest, any_filterMap_override?, ih]
      split_ifs with hagain
      · obtain ⟨other, hother, hpath⟩ := hagain
        rw [standing_cons_of_again hother (hpath.trans htarget.symm)]
      · rw [standing_cons_of_last (Layer.isOverride_of_override? hpair) fun other hother hpath =>
          hagain ⟨other, hother, hpath.trans htarget⟩, List.filterMap_cons_some hpair]

/-- What an override at a path gives a key. -/
def givenAlong? (key : Key) (pair : Path × Tree) : Option Setting :=
  ((settingsAlong? pair.1 pair.2).getD []).find? (·.key == key)

theorem Collector.Lawful.exists_set (hc : c.Lawful) {path : Path} {value t : Tree} {v : Settings}
    {settings : List Setting} (hsettings : settingsAlong? path value = some settings)
    (h : t.Reflects v) :
    ∃ next, c.set path value t = .ok next ∧ next.Reflects (v.setAll settings) := by
  obtain ⟨given, hgiven, hfound, hnodup⟩ := exists_of_settingsAlong? hsettings
  obtain ⟨next, hnext, hover⟩ := hc.set_along t hgiven (nodup_slots hfound hnodup)
  exact ⟨next, hnext, h.overwrites hover (stands_of_settingsOf? hfound) hnodup⟩

/-- Each override that is carried out changes what it gives. Every key ends with what one of them
gives it, or keeps what it had if none does. -/
theorem Collector.Lawful.exists_foldlM_set (hc : c.Lawful) {order : List (Path × Tree)}
    (horder : ∀ pair ∈ order, (settingsAlong? pair.1 pair.2).isSome) {t : Tree} {v : Settings}
    (h : t.Reflects v) :
    ∃ next w, c.setAll order t = .ok next ∧
      next.Reflects w ∧ ∀ key, (∃ pair ∈ order, givenAlong? key pair = some (w.get key)) ∨
        (∀ pair ∈ order, givenAlong? key pair = none) ∧ w.get key = v.get key := by
  induction order generalizing t v with
  | nil => exact ⟨t, v, rfl, h, fun key => .inr ⟨fun _ h => (List.not_mem_nil h).elim, rfl⟩⟩
  | cons pair rest ih =>
    rw [List.forall_mem_cons] at horder
    obtain ⟨settings, hsettings⟩ := Option.isSome_iff_exists.mp horder.1
    obtain ⟨middle, hmiddle, hmiddleReflects⟩ := hc.exists_set hsettings h
    obtain ⟨next, w, hnext, hreflects, hget⟩ := ih horder.2 hmiddleReflects
    refine ⟨next, w, ?_, hreflects, fun key => ?_⟩
    · rw [Collector.setAll_cons hmiddle, hnext]
    · have hfirst : givenAlong? key pair = settings.find? (·.key == key) := by
        rw [givenAlong?, hsettings, Option.getD_some]
      rcases hget key with ⟨other, hother, hgiven⟩ | ⟨hnone, hget⟩
      · exact .inl ⟨other, List.mem_cons_of_mem _ hother, hgiven⟩
      · obtain ⟨_, -, -, hnodup⟩ := exists_of_settingsAlong? hsettings
        rw [get_setAll v hnodup, ← hfirst] at hget
        cases hgivenFirst : givenAlong? key pair with
        | some s =>
          rw [hgivenFirst] at hget
          exact .inl ⟨_, List.mem_cons_self, hgivenFirst.trans (congrArg some hget.symm)⟩
        | none =>
          rw [hgivenFirst] at hget
          exact .inr ⟨List.forall_mem_cons.mpr ⟨hgivenFirst, hnone⟩, hget⟩

theorem Layer.given?_eq_givenAlong? {layer : Layer} {pair : Path × Tree}
    (h : layer.override? = some pair) : layer.given? c files key = givenAlong? key pair := by
  cases layer with
  | assignment name value =>
    obtain ⟨path, hpath, rfl⟩ := Option.map_eq_some_iff.mp h
    rw [given?, gives, settings?, hpath]
    rfl
  | _ => cases h

theorem isSome_lastGiven?_iff :
    (lastGiven? c files layers key).isSome ↔
      ∃ layer ∈ layers, (layer.given? c files key).isSome := by
  simp [lastGiven?, List.findSome?_isSome_iff]

theorem Layer.isSome_settings?_of_given? {layer : Layer}
    (h : (layer.given? c files key).isSome) : (layer.settings? c files).isSome := by
  by_contra hnone
  rw [Option.not_isSome_iff_eq_none] at hnone
  simp [given?, gives, hnone] at h

theorem Layer.isOverride_of_target?_eq {layer other : Layer}
    (h : (layer.given? c files key).isSome) (hkind : layer.isOverride)
    (htarget : other.target? = layer.target?) : other.isOverride := by
  obtain ⟨pair, hpair, -⟩ := exists_override? (isSome_settings?_of_given? h) hkind
  have hpath : other.target? = some pair.1 := by
    rw [htarget, target?, hpair]
    rfl
  obtain ⟨_, hother, -⟩ := Option.map_eq_some_iff.mp hpath
  exact isOverride_of_override? hother

/-- If the overrides that give a key are those of one path, the last of them is the only one that
stands. -/
theorem OnePath.lastGiven?_eq (h : OnePath c files layers key) :
    (∀ layer ∈ standing layers, ∀ s, layer.given? c files key = some s →
      lastGiven? c files (overrides layers) key = some s) ∧
    ((lastGiven? c files (overrides layers) key).isSome →
      ∃ layer ∈ standing layers, (layer.given? c files key).isSome) := by
  induction layers with
  | nil => exact ⟨fun _ h => (List.not_mem_nil h).elim, fun h => by cases h⟩
  | cons layer rest ih =>
    cases hkind : layer.isOverride with
    | false =>
      rw [OnePath, overrides, List.filter_cons_of_neg (by simp [hkind])] at h
      rw [standing_cons_of_underlay hkind, overrides, List.filter_cons_of_neg (by simp [hkind])]
      exact ih h
    | true =>
      have hcons : overrides (layer :: rest) = layer :: overrides rest :=
        List.filter_cons_of_pos hkind
      rw [OnePath, hcons] at h
      obtain ⟨hgiven, hsome⟩ := ih fun first hfirst hs other hother =>
        h first (List.mem_cons_of_mem layer hfirst) hs other (List.mem_cons_of_mem layer hother)
      have hself := h layer List.mem_cons_self
      rw [hcons, lastGiven?_cons]
      by_cases hlast : ∀ other ∈ rest, other.target? ≠ layer.target?
      · rw [standing_cons_of_last hkind hlast, List.forall_mem_cons, List.exists_mem_cons_iff]
        refine ⟨⟨fun s hs => ?_, fun other hother s hs => by rw [hgiven other hother s hs]; rfl⟩,
          fun hor => ?_⟩
        · have hnone : lastGiven? c files (overrides rest) key = none := by
            by_contra hlater
            obtain ⟨later, hmem, hlaterGiven⟩ :=
              isSome_lastGiven?_iff.mp (Option.isSome_iff_ne_none.mpr hlater)
            have htarget := (hself (by simp [hs]) later (List.mem_cons_of_mem layer hmem)).mp
              hlaterGiven
            exact hlast later (List.mem_of_mem_filter hmem) htarget
          rw [hnone, Option.none_or, hs]
        · rw [Option.isSome_or, Bool.or_eq_true] at hor
          exact hor.symm.imp_right hsome
      · push Not at hlast
        obtain ⟨other, hother, htarget⟩ := hlast
        rw [standing_cons_of_again hother htarget]
        refine ⟨fun first hfirst s hs => by rw [hgiven first hfirst s hs]; rfl, fun hor => ?_⟩
        rw [Option.isSome_or, Bool.or_eq_true] at hor
        rcases hor with hor | hor
        · exact hsome hor
        · have hmem : other ∈ overrides rest :=
            List.mem_filter.mpr ⟨hother, Layer.isOverride_of_target?_eq hor hkind htarget⟩
          have hagain := (hself hor other (List.mem_cons_of_mem layer hmem)).mpr htarget
          exact hsome (isSome_lastGiven?_iff.mpr ⟨other, hmem, hagain⟩)

theorem Collector.Lawful.load_eq_of_build (hc : c.Lawful)
    (hlayers : ∀ layer ∈ layers, (layer.settings? c files).isSome) {t : Tree} {v : Settings}
    (hbuild : c.build files (.text defaultText :: layers.filterMap Layer.source?)
      (layers.filterMap Layer.override?) = .ok t) (h : t.Reflects v) :
    c.load files layers = .ok v := by
  rw [Collector.load, hc.foldlM_add hlayers Loader.start]
  change (c.build files (.text defaultText :: layers.filterMap Layer.source?)
    (layers.filterMap Layer.override?) >>= c.readSettings) = _
  rw [hbuild]
  exact hc.readSettings_eq h

theorem Collector.Lawful.exists_load_eq (hc : c.Lawful)
    (hlayers : ∀ layer ∈ layers, (layer.settings? c files).isSome) :
    ∃ v, c.load files layers = .ok v ∧ ∀ key,
      (∃ layer ∈ standing layers, layer.given? c files key = some (v.get key)) ∨
        (∀ layer ∈ standing layers, layer.given? c files key = none) ∧
          v.get key =
            (lastGiven? c files (underlays layers) key).getD (({} : Settings).get key) := by
  obtain ⟨t, ht, hreflects⟩ := hc.exists_collect hlayers
  obtain ⟨order, hperm, hbuild⟩ := hc.build_eq files
    (.text defaultText :: layers.filterMap Layer.source?) (layers.filterMap Layer.override?)
  rw [latest_filterMap_override?] at hperm
  have hmem (pair : Path × Tree) :
      pair ∈ order ↔ ∃ layer ∈ standing layers, layer.override? = some pair :=
    hperm.mem_iff.trans List.mem_filterMap
  have hstanding (layer : Layer) (hlayer : layer ∈ standing layers) :
      layer ∈ layers ∧ layer.isOverride :=
    List.mem_filter.mp (standing_sublist.subset hlayer)
  have horder (pair : Path × Tree) (hpair : pair ∈ order) :
      (settingsAlong? pair.1 pair.2).isSome := by
    obtain ⟨layer, hlayer, hfrom⟩ := (hmem pair).mp hpair
    obtain ⟨hin, hkind⟩ := hstanding layer hlayer
    obtain ⟨_, hsame, halong⟩ := Layer.exists_override? (hlayers layer hin) hkind
    cases hfrom.symm.trans hsame
    exact halong
  obtain ⟨next, w, hnext, hreflects, hget⟩ := hc.exists_foldlM_set horder hreflects
  refine ⟨w, hc.load_eq_of_build hlayers ?_ hreflects, fun key => ?_⟩
  · rw [hbuild, ht]
    exact hnext
  · rw [← get_setLayers hc]
    refine (hget key).imp ?_ ?_
    · rintro ⟨pair, hpair, hgiven⟩
      obtain ⟨layer, hlayer, hfrom⟩ := (hmem pair).mp hpair
      exact ⟨layer, hlayer, (Layer.given?_eq_givenAlong? hfrom).trans hgiven⟩
    · rintro ⟨hnone, hsame⟩
      refine ⟨fun layer hlayer => ?_, hsame⟩
      obtain ⟨hin, hkind⟩ := hstanding layer hlayer
      obtain ⟨pair, hfrom, -⟩ := Layer.exists_override? (hlayers layer hin) hkind
      rw [Layer.given?_eq_givenAlong? hfrom]
      exact hnone _ ((hmem _).mpr ⟨layer, hlayer, hfrom⟩)

theorem Layer.isSome_given?_iff {layer : Layer} {named : Key} {origin : Option String}
    {x : Scalar} (hlayer : layer = .assignment named.dotted (.leaf origin x))
    (h : (layer.settings? c files).isSome) :
    (layer.given? c files key).isSome ↔ named = key := by
  subst hlayer
  obtain ⟨settings, hsettings⟩ := Option.isSome_iff_exists.mp h
  have halong : settingsAlong? named.path (.leaf origin x) = some settings := by
    rw [settings?, ofNames?_dotted] at hsettings
    exact hsettings
  obtain ⟨given, hgiven, hfound, -⟩ := exists_of_settingsAlong? halong
  cases (leavesAlong?_path named origin x).symm.trans hgiven
  obtain ⟨s, _, hs, hnil, rfl⟩ := exists_of_mapM_cons hfound
  cases hnil
  have hkey := Key.slot_injective (exists_of_settingOf? hs).1
  rw [given?, gives_eq hsettings, ← hkey]
  by_cases hsame : s.key = key <;> simp [hsame]

/-- Overrides that give single values by the names of their keys spell each key in one way. -/
theorem onePath_of_isNamed (hlayers : ∀ layer ∈ layers, (layer.settings? c files).isSome)
    (hnamed : ∀ layer ∈ overrides layers, layer.IsNamed) (key : Key) :
    OnePath c files layers key := by
  intro layer hlayer hgiven other hother
  have hsome (first : Layer) (hfirst : first ∈ overrides layers) :=
    hlayers first (List.mem_of_mem_filter hfirst)
  obtain ⟨named, origin, x, hlayerEq⟩ := hnamed layer hlayer
  obtain ⟨otherNamed, otherOrigin, y, hotherEq⟩ := hnamed other hother
  rw [Layer.isSome_given?_iff hlayerEq (hsome layer hlayer)] at hgiven
  rw [Layer.isSome_given?_iff hotherEq (hsome other hother), ← hgiven, hlayerEq, hotherEq]
  simp only [Layer.target?, Layer.override?, ofNames?_dotted, Option.map_some, Option.some.injEq]
  refine ⟨fun heq => by rw [heq], fun heq => Key.slot_injective ?_⟩
  simp only [Key.path, List.cons.injEq, Step.field.injEq, and_true] at heq
  exact Prod.ext heq.1 heq.2

end Overrides

/-- Settings load. What no override that stands gives a key is what the last file or environment
gives it, or else what is built in. What overrides that stand give is what one of them gives; it is
what the last override gives if those that give the key are those of one path, as they are if each
override gives one value by the name of its key. -/
theorem load_eq_lastGiven (c : Collector) (hc : c.Lawful) (files : Files) (layers : List Layer)
    (hlayers : ∀ layer ∈ layers, (layer.settings? c files).isSome) :
    ∃ v, c.load files layers = .ok v ∧ ∀ key,
      ((∃ layer ∈ standing layers, layer.given? c files key = some (v.get key)) ∨
        (∀ layer ∈ standing layers, layer.given? c files key = none) ∧
          v.get key =
            (lastGiven? c files (underlays layers) key).getD (({} : Settings).get key)) ∧
      (OnePath c files layers key → v.get key =
        ((lastGiven? c files (overrides layers) key).or
          (lastGiven? c files (underlays layers) key)).getD (({} : Settings).get key)) ∧
      ((∀ layer ∈ overrides layers, layer.IsNamed) → OnePath c files layers key) := by
  obtain ⟨v, hload, hget⟩ := hc.exists_load_eq hlayers
  refine ⟨v, hload, fun key => ⟨hget key, fun hpath => ?_, fun hnamed =>
    onePath_of_isNamed hlayers hnamed key⟩⟩
  obtain ⟨hlast, hstands⟩ := hpath.lastGiven?_eq
  rcases hget key with ⟨layer, hlayer, hgiven⟩ | ⟨hnone, hsame⟩
  · rw [hlast layer hlayer _ hgiven]
    rfl
  · have hlastNone : lastGiven? c files (overrides layers) key = none := by
      by_contra hsome
      obtain ⟨layer, hlayer, hgiven⟩ := hstands (Option.isSome_iff_ne_none.mpr hsome)
      simp [hnone layer hlayer] at hgiven
    rw [hlastNone, hsame]
    rfl

theorem load_eq_lastGiven_mixed :
    let c : Collector := merging id
    let files : Files := fun _ => .ok "[indentation]\nwidth = 8\nauto_outdent = false\n".toUTF8
    let layers : List Layer :=
      [.assignment "indentation.width" (.leaf none (.int 2)), .file "focus.toml" false,
        .environment [("HOME", "/"), ("FOCUS__INDENTATION__STYLE", "tabs")],
        .assignment "output.format" (.leaf none (.string "JSON")),
        .assignment "indentation.width" (.leaf none (.int 3))]
    c.Lawful ∧ (∀ layer ∈ layers, (layer.settings? c files).isSome) ∧
      ∃ v, c.load files layers = .ok v ∧ v.get .style = .style .tabs ∧ v.get .width = .width 3 ∧
        v.get .autoOutdent = .autoOutdent false ∧ v.get .format = .format .json := by
  intro c files layers
  have hc : c.Lawful := merging_lawful fun overrides => .refl overrides
  have hlayers : ∀ layer ∈ layers, (layer.settings? c files).isSome := by decide +kernel
  have hnamed : ∀ layer ∈ overrides layers, layer.IsNamed :=
    List.forall_mem_cons.mpr ⟨⟨.width, none, .int 2, rfl⟩,
      List.forall_mem_cons.mpr ⟨⟨.format, none, .string "JSON", rfl⟩,
        List.forall_mem_singleton.mpr ⟨.width, none, .int 3, rfl⟩⟩⟩
  obtain ⟨v, hload, hget⟩ := load_eq_lastGiven c hc files layers hlayers
  refine ⟨hc, hlayers, v, hload, ?_, ?_, ?_, ?_⟩
  all_goals
    rw [(hget _).2.1 ((hget _).2.2 hnamed)]
    decide +kernel

/-- An override of a whole part is lost when the part is set again, even if the later one does not
give the same keys. Which of two overlapping paths is set last is left open. -/
theorem load_assignedParts :
    let c : Collector := merging id
    let files : Files := fun _ => .error .missing
    let again : List Layer :=
      [.assignment "indentation" (.table none [("style", .leaf none (.string "tabs"))]),
        .assignment "indentation" (.table none [("width", .leaf none (.int 2))])]
    (c.Lawful ∧ (∀ layer ∈ again, (layer.settings? c files).isSome) ∧
      lastGiven? c files (overrides again) .style = some (.style .tabs) ∧
      ∃ v, c.load files again = .ok v ∧ v.get .style ≠ .style .tabs) ∧
    let c : Collector := merging List.reverse
    let overlapping : List Layer :=
      [.assignment "indentation" (.table none [("width", .leaf none (.int 2))]),
        .assignment "indentation.width" (.leaf none (.int 8))]
    (c.Lawful ∧ (∀ layer ∈ overlapping, (layer.settings? c files).isSome) ∧
      lastGiven? c files (overrides overlapping) .width = some (.width 8) ∧
      ∃ v, c.load files overlapping = .ok v ∧ v.get .width ≠ .width 8) := by
  intro c files again
  refine ⟨?_, ?_⟩
  · have hc : c.Lawful := merging_lawful fun overrides => .refl overrides
    have hlayers : ∀ layer ∈ again, (layer.settings? c files).isSome := by decide +kernel
    obtain ⟨v, hload, hget⟩ := hc.exists_load_eq hlayers
    refine ⟨hc, hlayers, by decide +kernel, v, hload, ?_⟩
    have hnone : ∀ layer ∈ standing again, layer.given? c files .style = none := by
      decide +kernel
    rcases hget .style with ⟨layer, hlayer, hgiven⟩ | ⟨-, hsame⟩
    · simp [hnone layer hlayer] at hgiven
    · rw [hsame]
      decide +kernel
  · intro c overlapping
    have hc : c.Lawful := merging_lawful List.reverse_perm
    have hlayers : ∀ layer ∈ overlapping, (layer.settings? c files).isSome := by decide +kernel
    obtain ⟨t, ht, hreflects⟩ := hc.exists_collect hlayers
    obtain ⟨middle, hmiddle, hreflects⟩ := hc.exists_set
      (show settingsAlong? [.field "indentation", .field "width"] (.leaf none (.int 8)) =
        some [.width 8] by decide +kernel) hreflects
    obtain ⟨next, hnext, hreflects⟩ := hc.exists_set
      (show settingsAlong? [.field "indentation"] (.table none [("width", .leaf none (.int 2))]) =
        some [.width 2] by decide +kernel) hreflects
    refine ⟨hc, hlayers, by decide +kernel, _, hc.load_eq_of_build hlayers ?_ hreflects, by decide⟩
    have hpart : Path.ofNames? "indentation" = some [.field "indentation"] := by decide +kernel
    have hkey : Path.ofNames? "indentation.width" =
        some [.field "indentation", .field "width"] := by decide +kernel
    have horder : (latest (overlapping.filterMap Layer.override?)).reverse =
        [([.field "indentation", .field "width"], .leaf none (.int 8)),
          ([.field "indentation"], .table none [("width", .leaf none (.int 2))])] := by
      simp [overlapping, Layer.override?, hpart, hkey, latest]
    rw [build_merging ht, horder, Collector.setAll_cons hmiddle, Collector.setAll_cons hnext]
    rfl

end Settings

end EditorAssist
