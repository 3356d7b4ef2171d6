import EditorAssist.Proofs.Entries
import EditorAssist.Settings.Merging
import Mathlib.Data.List.Perm.Basic

/-! What settings rely on in the library that collects them, and a collector that keeps to it. The
laws speak of single steps: one value set at a path, one source behind others, one value converted.
They leave open in which order overrides are carried out. -/
namespace EditorAssist.Settings

/-- Names of settings are not empty and hold letters, digits and a few marks. -/
def isSettingName (t : Text) : Bool :=
  !t.isEmpty && t.all isNameChar

/-- The path of names that dots join to a key. -/
def Path.ofNames? (key : String) : Option Path :=
  let names := key.toList.splitOn '.'
  if names.all isSettingName then some (names.map fun name => .field (String.ofList name)) else none

/-- The name of a part of the settings with a name in it, both in lower case. -/
abbrev Slot := String × String

def Tree.scalarIn? (t : Tree) (name : String) : Option Scalar :=
  match t.fields.lookup name with
  | some (.leaf _ x) => some x
  | _ => none

def Tree.scalarAt? (t : Tree) (slot : Slot) : Option Scalar :=
  (t.fields.lookup slot.1).bind (·.scalarIn? slot.2)

/-- Where the value of a field goes in a part, if it has no parts itself. -/
def leafIn? (part : String) : String × Tree → Option (Slot × Scalar)
  | (name, .leaf _ x) =>
    if isSettingName name.toList then some ((lowerString part, lowerString name), x) else none
  | _ => none

/-- The values that a value stands for at a path: itself, or those of a table for a whole part. -/
def leavesAlong? : Path → Tree → Option (List (Slot × Scalar))
  | [.field part, .field name], value => (leafIn? part (name, value)).map ([·])
  | [.field part], .table _ fields => fields.mapM (leafIn? part)
  | _, _ => none

def entryLeaves? (entry : String × Tree) : Option (List (Slot × Scalar)) :=
  (Path.ofNames? entry.1).bind (leavesAlong? · entry.2)

def leaves? (entries : List (String × Tree)) : Option (List (Slot × Scalar)) :=
  (entries.mapM entryLeaves?).map List.flatten

/-- A tree holds what is given, and what an old tree holds at all other slots. -/
structure Tree.Overwrites (t old : Tree) (given : List (Slot × Scalar)) : Prop where
  holds : ∀ slot x, (slot, x) ∈ given → t.scalarAt? slot = some x
  kept : ∀ slot, slot ∉ given.map Prod.fst → t.scalarAt? slot = old.scalarAt? slot

/-- The values of the built-in settings file. -/
def defaultLeaves : List (Slot × Scalar) :=
  [(("indentation", "style"), .string "spaces"), (("indentation", "width"), .int 4),
    (("indentation", "auto_outdent"), .bool true), (("output", "format"), .string "text")]

namespace Collector

/-- A source gives values at slots, none of them twice, and nothing else. -/
def Gives (c : Collector) (files : Files) (source : Source) (given : List (Slot × Scalar)) :
    Prop :=
  ∃ entries, c.entries files source = .ok entries ∧ leaves? entries = some given ∧
    (given.map Prod.fst).Nodup

/-- Set values at their paths, one after another. -/
def setAll (c : Collector) (values : List (Path × Tree)) (t : Tree) : Except Error Tree :=
  values.foldlM (fun t pair => c.set pair.1 pair.2 t) t

theorem setAll_cons {c : Collector} {pair : Path × Tree} {rest : List (Path × Tree)}
    {t next : Tree} (h : c.set pair.1 pair.2 t = .ok next) :
    c.setAll (pair :: rest) t = c.setAll rest next := by
  rw [setAll, List.foldlM_cons, h]
  rfl

def variableEntry? (c : Collector) (mark separator : String) (origin : Option String)
    (var : String × String) : Option (String × Tree) :=
  (variableKey? mark separator var.1).map (·, .leaf origin (c.ofText var.2))

/-- What is relied on in a collector. -/
structure Lawful (c : Collector) : Prop where
  path?_ofNames : ∀ {key path}, Path.ofNames? key = some path → c.path? key = some path
  /-- A value is merged in key by key, and keys are lower-cased. -/
  set_along : ∀ {path value given} (t : Tree), leavesAlong? path value = some given →
    (given.map Prod.fst).Nodup → ∃ next, c.set path value t = .ok next ∧ next.Overwrites t given
  collect_nil : ∀ files, ∃ t, c.collect files [] = .ok t ∧ ∀ slot, t.scalarAt? slot = none
  /-- Sources are merged in the order in which they are handed over. -/
  collect_concat : ∀ {files sources source given t},
    (∀ other ∈ sources, ∃ others, c.Gives files other others) → c.Gives files source given →
    c.collect files sources = .ok t →
    ∃ next, c.collect files (sources ++ [source]) = .ok next ∧ next.Overwrites t given
  /-- Overrides are kept by path. They come after all sources, in an order that is not known. -/
  build_eq : ∀ files sources overrides, ∃ order : List (Path × Tree),
    order.Perm (latest overrides) ∧
      c.build files sources overrides = do c.setAll order (← c.collect files sources)
  gives_defaultText : ∀ files, ∃ given, c.Gives files (.text defaultText) given ∧
    given.Perm defaultLeaves
  /-- A file that is there is read whether or not it is required. -/
  entries_present : ∀ {files path entries},
    c.entries files (.file path true) = .ok entries →
    c.entries files (.file path false) = .ok entries
  entries_absent : ∀ {files path}, c.entries files (.file path true) = .error (.missingFile path) →
    c.entries files (.file path false) = .ok []
  /-- Each marked variable is an entry, with the value for which its text stands. -/
  entries_environment : ∀ files mark separator vars,
    (vars.filterMap fun var => variableKey? mark separator var.1).Nodup →
    ∃ origin entries, c.entries files (.environment mark separator vars) = .ok entries ∧
      entries.Perm (vars.filterMap (c.variableEntry? mark separator origin))
  ofText_true : ∀ {s}, lowerString s = "true" → c.ofText s = .bool true
  ofText_false : ∀ {s}, lowerString s = "false" → c.ofText s = .bool false
  ofText_int : ∀ {s n}, wholeInteger? s.toList = some n → fitsSigned n → c.ofText s = .int n
  /-- A word that is neither a truth value nor one of the names of floats is a string. -/
  ofText_word : ∀ {s}, (lowerString s).toList.all Char.isLower →
    lowerString s ∉ ["true", "false", "inf", "infinity", "nan"] → c.ofText s = .string s
  field_lookup : ∀ {record key t name value}, t.fields.lookup name = some value →
    ∃ valueKey, c.field record key t name = .ok (valueKey, value)
  natural_int : ∀ {key origin} {n : Int}, 0 ≤ n → n < wordLimit →
    c.natural key (.leaf origin (.int n)) = .ok n.toNat
  truth_bool : ∀ {key origin b}, c.truth key (.leaf origin (.bool b)) = .ok b
  /-- Choices are known by their names in any case. -/
  choice_string : ∀ {α : Type} {what : String} {options : List (String × α)} {origin s a},
    options.lookup (lowerString s) = some a →
    c.choice what options (.leaf origin (.string s)) = .ok a

end Collector

theorem exists_of_leaves?_cons {entry : String × Tree} {entries : List (String × Tree)}
    {given : List (Slot × Scalar)} (h : leaves? (entry :: entries) = some given) :
    ∃ first rest, entryLeaves? entry = some first ∧ leaves? entries = some rest ∧
      given = first ++ rest := by
  obtain ⟨listed, hlisted, rfl⟩ := Option.map_eq_some_iff.mp h
  obtain ⟨first, rest, hfirst, hrest, rfl⟩ := exists_of_mapM_cons hlisted
  exact ⟨first, rest.flatten, hfirst, Option.map_eq_some_iff.mpr ⟨rest, hrest, rfl⟩, rfl⟩

theorem leaves?_cons_eq_some {entry : String × Tree} {entries : List (String × Tree)}
    {first rest : List (Slot × Scalar)} (hfirst : entryLeaves? entry = some first)
    (hrest : leaves? entries = some rest) : leaves? (entry :: entries) = some (first ++ rest) := by
  obtain ⟨listed, hlisted, rfl⟩ := Option.map_eq_some_iff.mp hrest
  exact Option.map_eq_some_iff.mpr ⟨first :: listed, mapM_cons_eq_some hfirst hlisted, rfl⟩

/-- The order of the entries decides only the order of what they give. -/
theorem exists_leaves?_of_perm {entries others : List (String × Tree)} (h : entries.Perm others)
    {given : List (Slot × Scalar)} (hgiven : leaves? others = some given) :
    ∃ listed, leaves? entries = some listed ∧ listed.Perm given := by
  induction h generalizing given with
  | nil => exact ⟨given, hgiven, .refl given⟩
  | cons entry _ ih =>
    obtain ⟨first, rest, hfirst, hrest, rfl⟩ := exists_of_leaves?_cons hgiven
    obtain ⟨listed, hlisted, hperm⟩ := ih hrest
    exact ⟨first ++ listed, leaves?_cons_eq_some hfirst hlisted, hperm.append_left first⟩
  | swap entry other _ =>
    obtain ⟨first, _, hfirst, hbehind, rfl⟩ := exists_of_leaves?_cons hgiven
    obtain ⟨second, rest, hsecond, hrest, rfl⟩ := exists_of_leaves?_cons hbehind
    refine ⟨second ++ (first ++ rest),
      leaves?_cons_eq_some hsecond (leaves?_cons_eq_some hfirst hrest), ?_⟩
    rw [← List.append_assoc, ← List.append_assoc]
    exact List.perm_append_comm.append_right rest
  | trans _ _ ihfirst ihsecond =>
    obtain ⟨middle, hmiddle, hperm⟩ := ihsecond hgiven
    obtain ⟨listed, hlisted, hperm'⟩ := ihfirst hmiddle
    exact ⟨listed, hlisted, hperm'.trans hperm⟩

end EditorAssist.Settings
