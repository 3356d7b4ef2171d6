import EditorAssist.Proofs.Collecting
import EditorAssist.Proofs.Lines
import EditorAssist.Proofs.Precedence

/-! The collector that merges trees keeps to the laws of collectors. -/
namespace EditorAssist.Settings

section Names

theorem isAscii_of_isNameChar {c : Char} (h : isNameChar c) : isAscii c := by
  rw [isNameChar, Bool.or_eq_true, Bool.or_eq_true, Bool.or_eq_true, beq_iff_eq, beq_iff_eq,
    beq_iff_eq] at h
  rcases h with ((h | rfl) | rfl) | rfl
  · rcases Bool.or_eq_true_iff.mp h with halpha | hdigit
    · exact isAscii_of_isAlpha halpha
    · exact isAscii_of_isDigit hdigit
  · decide
  · decide
  · decide

theorem lowerAfter_of_isAscii {before t : Text} (h : t.all isAscii) :
    lowerAfter before t = t.map Char.toLower := by
  induction t generalizing before with
  | nil => rfl
  | cons c rest ih =>
    rw [List.all_cons, Bool.and_eq_true] at h
    have hsigma : c ≠ '\u03a3' := by
      rintro rfl
      exact absurd h.1 (by decide)
    rw [lowerAfter, if_neg hsigma, lowerChar, if_pos h.1, ih h.2]
    rfl

theorem of_isAscii {p : Char → Prop} (h : ∀ n < 0x80, p (Char.ofNat n)) {c : Char}
    (hc : isAscii c) : p c := by
  have hp := h c.toNat (of_decide_eq_true hc)
  rwa [Char.ofNat_toNat] at hp

theorem isNameChar_toLower {c : Char} (h : isNameChar c) : isNameChar c.toLower :=
  of_isAscii (p := fun c => isNameChar c → isNameChar c.toLower) (by decide +kernel)
    (isAscii_of_isNameChar h) h

theorem toLower_toLower_of_isNameChar {c : Char} (h : isNameChar c) :
    c.toLower.toLower = c.toLower :=
  of_isAscii (p := fun c => c.toLower.toLower = c.toLower) (by decide +kernel)
    (isAscii_of_isNameChar h)

theorem lower_of_isSettingName {t : Text} (h : isSettingName t) :
    Text.lower t = t.map Char.toLower := by
  refine lowerAfter_of_isAscii (List.all_eq_true.mpr fun c hc => isAscii_of_isNameChar ?_)
  exact List.all_eq_true.mp (Bool.and_eq_true_iff.mp h).2 c hc

theorem isSettingName_lower {t : Text} (h : isSettingName t) : isSettingName (Text.lower t) := by
  rw [lower_of_isSettingName h]
  simp only [isSettingName, Bool.and_eq_true, List.all_eq_true, List.isEmpty_map] at h ⊢
  refine ⟨h.1, fun c hc => ?_⟩
  obtain ⟨d, hd, rfl⟩ := List.mem_map.mp hc
  exact isNameChar_toLower (h.2 d hd)

theorem lower_lower_of_isSettingName {t : Text} (h : isSettingName t) :
    Text.lower (Text.lower t) = Text.lower t := by
  rw [lower_of_isSettingName (isSettingName_lower h), lower_of_isSettingName h, List.map_map]
  refine List.map_congr_left fun c hc => toLower_toLower_of_isNameChar ?_
  exact List.all_eq_true.mp (Bool.and_eq_true_iff.mp h).2 c hc

theorem lowerString_lowerString {s : String} (h : isSettingName s.toList) :
    lowerString (lowerString s) = lowerString s := by
  rw [lowerString, lowerString, String.toList_ofList, lower_lower_of_isSettingName h]

end Names

section Paths

theorem isEmpty_eq_false_of_isSettingName {t : Text} (h : isSettingName t) : t.isEmpty = false := by
  simpa using (Bool.and_eq_true_iff.mp h).1

/-- Names with a dot in front of each. -/
def dottedNames (names : List Text) : Text :=
  names.flatMap ('.' :: ·)

theorem takeWhile_append_dottedNames {name : Text} (h : isSettingName name) (names : List Text) :
    (name ++ dottedNames names).takeWhile isNameChar = name := by
  refine takeWhile_append_eq (List.all_eq_true.mp (Bool.and_eq_true_iff.mp h).2) ?_
  intro c hc
  cases names with
  | nil => cases hc
  | cons next rest => cases hc; rfl

theorem dropWhile_append_dottedNames {name : Text} (h : isSettingName name) (names : List Text) :
    (name ++ dottedNames names).dropWhile isNameChar = dottedNames names := by
  rw [← drop_length_takeWhile, takeWhile_append_dottedNames h, List.drop_left]

theorem steps?_dottedNames {names : List Text} (h : ∀ name ∈ names, isSettingName name) {fuel : Nat}
    (hfuel : names.length < fuel) :
    steps? fuel (dottedNames names) = some (names.map fun name => .field (String.ofList name)) := by
  induction names generalizing fuel with
  | nil =>
    cases fuel with
    | zero => omega
    | succ fuel => rfl
  | cons name rest ih =>
    rw [List.forall_mem_cons] at h
    cases fuel with
    | zero => omega
    | succ fuel =>
      have htake := takeWhile_append_dottedNames h.1 rest
      have hdrop := dropWhile_append_dottedNames h.1 rest
      have hempty := isEmpty_eq_false_of_isSettingName h.1
      have hrest := ih h.2 (by simpa using hfuel : rest.length < fuel)
      change steps? (fuel + 1) ('.' :: (name ++ dottedNames rest)) = _
      simp [steps?, htake, hdrop, hempty, hrest]

theorem length_le_length_dottedNames (names : List Text) :
    names.length ≤ (dottedNames names).length := by
  induction names with
  | nil => exact Nat.le_refl 0
  | cons name rest ih =>
    rw [dottedNames, List.flatMap_cons, List.length_append, List.length_cons, List.length_cons,
      ← dottedNames]
    omega

theorem parse?_of_ofNames? {key : String} {path : Path} (h : Path.ofNames? key = some path) :
    Path.parse? key = some path := by
  rw [Path.ofNames?] at h
  split_ifs at h with hnames
  cases h
  rw [List.all_eq_true] at hnames
  have hkey : ['.'].intercalate (key.toList.splitOn '.') = key.toList :=
    List.intercalate_splitOn '.'
  have hne : key.toList.splitOn '.' ≠ [] := List.splitOnP_ne_nil _ _
  generalize key.toList.splitOn '.' = names at hnames hkey hne
  cases names with
  | nil => exact absurd rfl hne
  | cons name rest =>
    rw [List.forall_mem_cons] at hnames
    replace hkey : name ++ dottedNames rest = key.toList :=
      (intercalate_cons ['.'] name rest).symm.trans hkey
    have htake := takeWhile_append_dottedNames hnames.1 rest
    have hdrop := dropWhile_append_dottedNames hnames.1 rest
    have hempty := isEmpty_eq_false_of_isSettingName hnames.1
    have hlength : rest.length < key.toList.length + 1 := by
      have hle := length_le_length_dottedNames rest
      rw [← hkey, List.length_append]
      omega
    rw [Path.parse?, ← hkey, htake, hdrop]
    simp [hempty, hkey, steps?_dottedNames hnames.2 hlength]

end Paths

section Trees

variable {t : Tree} {part key name : String} {value : Tree} {fields : List (String × Tree)}
  {given : List (Slot × Scalar)}

theorem lookup_setField : (Tree.setField key value fields).lookup name =
    if name = key then some value else fields.lookup name := by
  induction fields with
  | nil => exact lookup_cons_eq
  | cons field rest ih =>
    obtain ⟨k, old⟩ := field
    rw [Tree.setField]
    split_ifs with hk h h
    · rw [lookup_cons_eq, if_pos h]
    · rw [lookup_cons_eq, if_neg h, lookup_cons_eq, if_neg (hk ▸ h)]
    · rw [lookup_cons_eq, if_neg fun hname => hk (hname.symm.trans h), ih, if_pos h]
    · rw [lookup_cons_eq, lookup_cons_eq, ih, if_neg h]

theorem fields_withFields : (t.withFields fields).fields = fields := by
  cases t <;> rfl

theorem scalarIn?_put_leaf {origin : Option String} {x : Scalar} :
    (t.put key (.leaf origin x)).scalarIn? name =
      if name = lowerString key then some x else t.scalarIn? name := by
  rw [Tree.put, Tree.scalarIn?, fields_withFields, lookup_setField]
  split_ifs with h
  · rfl
  · rfl

theorem exists_of_leafIn? {field : String × Tree} {leaf : Slot × Scalar}
    (h : leafIn? part field = some leaf) :
    ∃ name origin x, field = (name, .leaf origin x) ∧ isSettingName name.toList ∧
      leaf = ((lowerString part, lowerString name), x) := by
  obtain ⟨name, value⟩ := field
  cases value with
  | leaf origin x =>
    rw [leafIn?] at h
    split_ifs at h with hname
    exact ⟨name, origin, x, rfl, hname, (Option.some.inj h).symm⟩
  | _ => cases h

/-- What fields leave in a part when they are put into it. -/
theorem scalarIn?_putAll (h : fields.mapM (leafIn? part) = some given)
    (hnodup : (given.map Prod.fst).Nodup) (t : Tree) (name : String) :
    (∀ x, ((lowerString part, name), x) ∈ given → (t.putAll fields).scalarIn? name = some x) ∧
      ((lowerString part, name) ∉ given.map Prod.fst →
        (t.putAll fields).scalarIn? name = t.scalarIn? name) := by
  induction fields generalizing t given with
  | nil =>
    cases h
    rw [Tree.putAll]
    exact ⟨fun x hx => (List.not_mem_nil hx).elim, fun _ => rfl⟩
  | cons field rest ih =>
    obtain ⟨leaf, others, hleaf, hothers, rfl⟩ := exists_of_mapM_cons h
    obtain ⟨key, origin, x, rfl, -, rfl⟩ := exists_of_leafIn? hleaf
    rw [List.map_cons, List.nodup_cons] at hnodup
    obtain ⟨hlisted, hkept⟩ := ih hothers hnodup.2 (t.put key (.leaf origin x))
    rw [Tree.putAll]
    refine ⟨fun y hy => ?_, fun hnot => ?_⟩
    · rcases List.mem_cons.mp hy with heq | hy
      · cases heq
        rw [hkept hnodup.1, scalarIn?_put_leaf, if_pos rfl]
      · exact hlisted y hy
    · rw [List.map_cons, List.mem_cons, not_or] at hnot
      rw [hkept hnot.2, scalarIn?_put_leaf, if_neg fun h => hnot.1 (by rw [h])]

theorem fst_of_leafIn? (h : fields.mapM (leafIn? part) = some given) {slot : Slot}
    (hslot : slot ∈ given.map Prod.fst) : slot.1 = lowerString part := by
  induction fields generalizing given with
  | nil => cases h; cases hslot
  | cons field rest ih =>
    obtain ⟨leaf, others, hleaf, hothers, rfl⟩ := exists_of_mapM_cons h
    obtain ⟨_, _, _, -, -, rfl⟩ := exists_of_leafIn? hleaf
    rcases List.mem_cons.mp hslot with rfl | hslot
    · rfl
    · exact ih hothers hslot

/-- Put fields into a part of the settings. -/
def Tree.mergePart (t : Tree) (part : String) (fields : List (String × Tree)) : Tree :=
  t.withFields (setField (lowerString part)
    (((t.fields.lookup (lowerString part)).getD (.table none [])).putAll fields) t.fields)

theorem mergePart_overwrites (h : fields.mapM (leafIn? part) = some given)
    (hnodup : (given.map Prod.fst).Nodup) (t : Tree) :
    (t.mergePart part fields).Overwrites t given := by
  have hat (slot : Slot) : (t.mergePart part fields).scalarAt? slot =
      if slot.1 = lowerString part then
        (((t.fields.lookup (lowerString part)).getD (.table none [])).putAll fields).scalarIn?
          slot.2
      else t.scalarAt? slot := by
    rw [Tree.scalarAt?, Tree.mergePart, fields_withFields, lookup_setField]
    split_ifs with hslot
    · rfl
    · rfl
  have hold (name : String) :
      ((t.fields.lookup (lowerString part)).getD (.table none [])).scalarIn? name =
        t.scalarAt? (lowerString part, name) := by
    rw [Tree.scalarAt?]
    cases t.fields.lookup (lowerString part) with
    | none => rfl
    | some inner => rfl
  refine ⟨fun slot x hx => ?_, fun slot hslot => ?_⟩
  · have hpart := fst_of_leafIn? h (List.mem_map_of_mem hx)
    rw [hat, if_pos hpart]
    exact (scalarIn?_putAll h hnodup _ slot.2).1 x (by rwa [← hpart])
  · rw [hat]
    split_ifs with hpart
    · rw [(scalarIn?_putAll h hnodup _ slot.2).2 (by rwa [← hpart]), hold, ← hpart]
    · rfl

/-- One value along a path is a table of one field: both are merged alike. -/
theorem exists_assignAt_eq {path : Path} (h : leavesAlong? path value = some given) :
    ∃ part fields, path.head? = some (.field part) ∧ fields.mapM (leafIn? part) = some given ∧
      ∀ t, assignAt path value t = .ok (t.mergePart part fields) := by
  unfold leavesAlong? at h
  split at h
  · next part name =>
    obtain ⟨leaf, hleaf, rfl⟩ := Option.map_eq_some_iff.mp h
    obtain ⟨_, origin, x, heq, -, -⟩ := exists_of_leafIn? hleaf
    cases heq
    refine ⟨part, [(name, .leaf origin x)], rfl, mapM_cons_eq_some hleaf rfl, fun t => ?_⟩
    rw [assignAt, Tree.assign, Tree.mergePart]
    cases t.fields.lookup (lowerString part) with
    | none => rfl
    | some inner => rfl
  · next part origin fields =>
    refine ⟨part, fields, rfl, h, fun t => ?_⟩
    rw [assignAt, Tree.assign, Tree.put]
    rfl
  · cases h

theorem assignAt_overwrites {path : Path} (t : Tree) (h : leavesAlong? path value = some given)
    (hnodup : (given.map Prod.fst).Nodup) :
    ∃ next, assignAt path value t = .ok next ∧ next.Overwrites t given := by
  obtain ⟨part, fields, -, hfields, hassign⟩ := exists_assignAt_eq h
  exact ⟨t.mergePart part fields, hassign t, mergePart_overwrites hfields hnodup t⟩

end Trees

section HasParts

variable {t : Tree} {part : String} {fields entries : List (String × Tree)}
  {given : List (Slot × Scalar)}

/-- A lower-case name of a setting. -/
def IsLowerName (name : String) : Prop :=
  isSettingName name.toList ∧ lowerString name = name

/-- A table of single values, each under a lower-case name of its own. -/
structure Tree.IsPart (t : Tree) : Prop where
  isTable : ∃ origin, t = .table origin t.fields
  nodup : (t.fields.map Prod.fst).Nodup
  leaf : ∀ field ∈ t.fields, IsLowerName field.1 ∧ ∃ origin x, field.2 = .leaf origin x

/-- Parts of settings, each under a lower-case name of its own. -/
structure Tree.HasParts (t : Tree) : Prop where
  nodup : (t.fields.map Prod.fst).Nodup
  part : ∀ field ∈ t.fields, IsLowerName field.1 ∧ field.2.IsPart

theorem isLowerName_lower {name : String} (h : isSettingName name.toList) :
    IsLowerName (lowerString name) := by
  refine ⟨?_, lowerString_lowerString h⟩
  rw [lowerString, String.toList_ofList]
  exact isSettingName_lower h

theorem map_fst_setField {key : String} {value : Tree} :
    (Tree.setField key value fields).map Prod.fst =
      if key ∈ fields.map Prod.fst then fields.map Prod.fst else fields.map Prod.fst ++ [key] := by
  induction fields with
  | nil => rfl
  | cons field rest ih =>
    obtain ⟨k, old⟩ := field
    rw [Tree.setField]
    by_cases hk : k = key
    · simp [hk]
    · rw [if_neg hk, List.map_cons, ih]
      by_cases hkey : key ∈ rest.map Prod.fst <;> simp [hkey, Ne.symm hk]

theorem nodup_setField {key : String} {value : Tree} (h : (fields.map Prod.fst).Nodup) :
    ((Tree.setField key value fields).map Prod.fst).Nodup := by
  rw [map_fst_setField]
  split_ifs with hkey
  · exact h
  · rw [← List.concat_eq_append]
    exact h.concat hkey

theorem mem_setField {key : String} {value : Tree} {field : String × Tree}
    (h : field ∈ Tree.setField key value fields) : field ∈ fields ∨ field = (key, value) := by
  induction fields with
  | nil => exact .inr (List.mem_singleton.mp h)
  | cons head rest ih =>
    obtain ⟨k, old⟩ := head
    rw [Tree.setField] at h
    split_ifs at h with hk
    · rcases List.mem_cons.mp h with h | h
      · exact .inr h
      · exact .inl (List.mem_cons_of_mem _ h)
    · rcases List.mem_cons.mp h with h | h
      · exact .inl (h ▸ List.mem_cons_self)
      · exact (ih h).imp_left (List.mem_cons_of_mem _)

theorem Tree.IsPart.put_leaf (h : t.IsPart) {name : String} (hname : isSettingName name.toList)
    (origin : Option String) (x : Scalar) : (t.put name (.leaf origin x)).IsPart := by
  rw [Tree.put]
  refine ⟨?_, ?_, ?_⟩
  · rw [fields_withFields]
    obtain ⟨slot, ht⟩ := h.isTable
    rw [ht]
    exact ⟨slot, rfl⟩
  · rw [fields_withFields]
    exact nodup_setField h.nodup
  · rw [fields_withFields]
    intro field hfield
    rcases mem_setField hfield with hfield | rfl
    · exact h.leaf field hfield
    · exact ⟨isLowerName_lower hname, origin, x, rfl⟩

theorem Tree.IsPart.putAll (h : t.IsPart) (hfields : fields.mapM (leafIn? part) = some given) :
    (t.putAll fields).IsPart := by
  induction fields generalizing t given with
  | nil => rwa [Tree.putAll]
  | cons field rest ih =>
    obtain ⟨leaf, others, hleaf, hothers, rfl⟩ := exists_of_mapM_cons hfields
    obtain ⟨name, origin, x, rfl, hname, -⟩ := exists_of_leafIn? hleaf
    rw [Tree.putAll]
    exact ih (h.put_leaf hname origin x) hothers

theorem isPart_empty : (Tree.table none []).IsPart :=
  ⟨⟨none, rfl⟩, List.nodup_nil, fun _ h => (List.not_mem_nil h).elim⟩

theorem hasParts_empty : (Tree.table none []).HasParts :=
  ⟨List.nodup_nil, fun _ h => (List.not_mem_nil h).elim⟩

theorem Tree.HasParts.mergePart (h : t.HasParts) (hpart : isSettingName part.toList)
    (hfields : fields.mapM (leafIn? part) = some given) : (t.mergePart part fields).HasParts := by
  have hinner : ((t.fields.lookup (lowerString part)).getD (.table none [])).IsPart := by
    cases hlookup : t.fields.lookup (lowerString part) with
    | none => exact isPart_empty
    | some inner =>
      obtain ⟨_, _, heq, -⟩ := List.lookup_eq_some_iff.mp hlookup
      exact (h.part (lowerString part, inner) (heq ▸ by simp)).2
  refine ⟨?_, ?_⟩
  · rw [Tree.mergePart, fields_withFields]
    exact nodup_setField h.nodup
  · rw [Tree.mergePart, fields_withFields]
    intro field hfield
    rcases mem_setField hfield with hfield | rfl
    · exact h.part field hfield
    · exact ⟨isLowerName_lower hpart, hinner.putAll hfields⟩

theorem ofNames?_of_isSettingName {name : String} (h : isSettingName name.toList) :
    Path.ofNames? name = some [.field name] := by
  have hdot : '.' ∉ name.toList := fun hmem =>
    absurd (List.all_eq_true.mp (Bool.and_eq_true_iff.mp h).2 _ hmem) (by decide)
  simp [Path.ofNames?, List.splitOn_eq_singleton hdot, h]

/-- The names of a key are names of settings. -/
theorem isSettingName_of_head? {key part : String} {path : Path} (h : Path.ofNames? key = some path)
    (hhead : path.head? = some (.field part)) : isSettingName part.toList := by
  rw [Path.ofNames?] at h
  split_ifs at h with hnames
  cases h
  rw [List.head?_map] at hhead
  obtain ⟨name, hname, heq⟩ := Option.map_eq_some_iff.mp hhead
  cases heq
  rw [String.toList_ofList]
  exact List.all_eq_true.mp hnames name (List.mem_of_head? hname)

theorem assignKey_overwrites {entry : String × Tree} (t : Tree)
    (h : entryLeaves? entry = some given) (hnodup : (given.map Prod.fst).Nodup) :
    ∃ next, assignKey t entry = .ok next ∧ next.Overwrites t given ∧
      (t.HasParts → next.HasParts) := by
  obtain ⟨path, hpath, halong⟩ := Option.bind_eq_some_iff.mp h
  obtain ⟨part, fields, hhead, hfields, hassign⟩ := exists_assignAt_eq halong
  refine ⟨t.mergePart part fields, ?_, mergePart_overwrites hfields hnodup t,
    fun ht => ht.mergePart (isSettingName_of_head? hpath hhead) hfields⟩
  rw [assignKey, parse?_of_ofNames? hpath, Option.getD_some, hassign]

theorem Tree.Overwrites.trans {old next : Tree} {given others : List (Slot × Scalar)}
    (hnext : next.Overwrites t others) (h : t.Overwrites old given)
    (hnodup : ((given ++ others).map Prod.fst).Nodup) : next.Overwrites old (given ++ others) := by
  rw [List.map_append] at hnodup
  have hdisjoint := List.disjoint_of_nodup_append hnodup
  refine ⟨fun slot x hx => ?_, fun slot hslot => ?_⟩
  · rcases List.mem_append.mp hx with hx | hx
    · rw [hnext.kept slot (hdisjoint (List.mem_map_of_mem hx)), h.holds slot x hx]
    · exact hnext.holds slot x hx
  · rw [List.map_append, List.mem_append, not_or] at hslot
    rw [hnext.kept slot hslot.2, h.kept slot hslot.1]

theorem foldlM_assignKey_overwrites (t : Tree) (h : leaves? entries = some given)
    (hnodup : (given.map Prod.fst).Nodup) :
    ∃ next, entries.foldlM assignKey t = .ok next ∧ next.Overwrites t given ∧
      (t.HasParts → next.HasParts) := by
  induction entries generalizing t given with
  | nil =>
    cases h
    exact ⟨t, rfl, ⟨fun _ _ hx => (List.not_mem_nil hx).elim, fun _ _ => rfl⟩, id⟩
  | cons entry rest ih =>
    obtain ⟨first, others, hfirst, hothers, rfl⟩ := exists_of_leaves?_cons h
    have hboth := hnodup
    rw [List.map_append] at hboth
    obtain ⟨middle, hmiddle, hover, hparts⟩ :=
      assignKey_overwrites t hfirst (List.Nodup.of_append_left hboth)
    obtain ⟨next, hnext, hover', hparts'⟩ :=
      ih middle hothers (List.Nodup.of_append_right hboth)
    refine ⟨next, ?_, hover'.trans hover hnodup, hparts' ∘ hparts⟩
    rw [List.foldlM_cons, hmiddle]
    exact hnext

theorem Tree.IsPart.leafIn?_eq (h : t.IsPart) (part : String) {field : String × Tree}
    (hfield : field ∈ t.fields) :
    ∃ origin x, field.2 = .leaf origin x ∧
      leafIn? part field = some ((lowerString part, field.1), x) := by
  obtain ⟨name, value⟩ := field
  obtain ⟨⟨hname, hlow⟩, origin, x, rfl⟩ := h.leaf _ hfield
  exact ⟨origin, x, rfl, by rw [leafIn?, if_pos hname, hlow]⟩

theorem Tree.IsPart.scalarIn?_eq_some_iff (h : t.IsPart) {name : String} {x : Scalar} :
    t.scalarIn? name = some x ↔ ∃ origin, (name, .leaf origin x) ∈ t.fields := by
  rw [Tree.scalarIn?]
  constructor
  · intro hx
    split at hx
    · next origin y hlookup =>
      cases hx
      exact ⟨origin, mem_of_lookup hlookup⟩
    · cases hx
  · rintro ⟨origin, hmem⟩
    rw [(lookup_eq_some_iff_mem h.nodup).mpr hmem]

/-- A part gives what it holds. -/
theorem Tree.IsPart.exists_leavesAlong? (h : t.IsPart) {part : String}
    (hpart : lowerString part = part) :
    ∃ given, leavesAlong? [.field part] t = some given ∧
      given.map Prod.fst = t.fields.map (fun field => (part, field.1)) ∧
      ∀ slot x, (slot, x) ∈ given ↔ slot.1 = part ∧ t.scalarIn? slot.2 = some x := by
  have hplaced (field : String × Tree) (hfield : field ∈ t.fields) :
      ∃ leaf, leafIn? part field = some leaf := by
    obtain ⟨_, x, -, hx⟩ := h.leafIn?_eq part hfield
    exact ⟨_, hx⟩
  obtain ⟨given, hgiven⟩ := exists_mapM_eq_some hplaced
  refine ⟨given, ?_, map_eq_of_mapM hgiven fun field hfield leaf hleaf => ?_,
    fun slot x => ?_⟩
  · obtain ⟨origin, ht⟩ := h.isTable
    rwa [ht, leavesAlong?]
  · obtain ⟨_, x, -, hx⟩ := h.leafIn?_eq part hfield
    cases hleaf.symm.trans hx
    rw [hpart]
  · rw [mem_iff_of_mapM hgiven, h.scalarIn?_eq_some_iff]
    constructor
    · rintro ⟨⟨name, value⟩, hfield, hleaf⟩
      obtain ⟨origin, y, rfl, hy⟩ := h.leafIn?_eq part hfield
      cases hleaf.symm.trans hy
      exact ⟨hpart, origin, hfield⟩
    · rintro ⟨hslot, origin, hmem⟩
      obtain ⟨_, y, heq, hy⟩ := h.leafIn?_eq part hmem
      cases heq
      exact ⟨_, hmem, by rw [hy, hpart, ← hslot]⟩

theorem Tree.HasParts.exists_entryLeaves? (h : t.HasParts) {field : String × Tree}
    (hfield : field ∈ t.fields) :
    ∃ given, entryLeaves? field = some given ∧
      given.map Prod.fst = field.2.fields.map (fun inner => (field.1, inner.1)) ∧
      ∀ slot x, (slot, x) ∈ given ↔
        slot.1 = field.1 ∧ field.2.scalarIn? slot.2 = some x := by
  obtain ⟨⟨hname, hlow⟩, hpart⟩ := h.part field hfield
  obtain ⟨given, hgiven, hfst, hmem⟩ := hpart.exists_leavesAlong? hlow
  refine ⟨given, ?_, hfst, hmem⟩
  rw [entryLeaves?, ofNames?_of_isSettingName hname]
  exact hgiven

/-- A tree of parts gives what it holds. -/
theorem Tree.HasParts.exists_leaves? (h : t.HasParts) :
    ∃ given, leaves? t.fields = some given ∧ (given.map Prod.fst).Nodup ∧
      ∀ slot x, (slot, x) ∈ given ↔ t.scalarAt? slot = some x := by
  obtain ⟨listed, hlisted⟩ := exists_mapM_eq_some fun field hfield =>
    (h.exists_entryLeaves? hfield).imp fun _ hgiven => hgiven.1
  refine ⟨listed.flatten, Option.map_eq_some_iff.mpr ⟨listed, hlisted, rfl⟩, ?_,
    fun slot x => ?_⟩
  · have hmap : listed.map (List.map Prod.fst) =
        t.fields.map fun field => field.2.fields.map fun inner => (field.1, inner.1) :=
      map_eq_of_mapM hlisted fun field hfield given hgiven => by
        obtain ⟨_, heq, hfst, -⟩ := h.exists_entryLeaves? hfield
        cases hgiven.symm.trans heq
        exact hfst
    rw [List.map_flatten, hmap, ← List.flatMap_def, List.nodup_flatMap]
    refine ⟨fun field hfield => ?_, ?_⟩
    · have hinner := (h.part field hfield).2.nodup.map (Prod.mk_right_injective field.1)
      rwa [List.map_map] at hinner
    · refine (List.pairwise_map.mp h.nodup).imp fun hne => ?_
      refine List.disjoint_left.mpr ?_
      rintro slot hslot hother
      obtain ⟨_, -, rfl⟩ := List.mem_map.mp hslot
      obtain ⟨_, -, heq⟩ := List.mem_map.mp hother
      exact hne (congrArg Prod.fst heq).symm
  · simp only [List.mem_flatten, mem_iff_of_mapM hlisted, Tree.scalarAt?,
      Option.bind_eq_some_iff, lookup_eq_some_iff_mem h.nodup]
    constructor
    · rintro ⟨given, ⟨field, hfield, hgiven⟩, hx⟩
      obtain ⟨_, heq, -, hmem⟩ := h.exists_entryLeaves? hfield
      cases hgiven.symm.trans heq
      obtain ⟨hslot, hx⟩ := (hmem slot x).mp hx
      exact ⟨field.2, by rwa [hslot], hx⟩
    · rintro ⟨inner, hfield, hx⟩
      obtain ⟨given, hgiven, -, hmem⟩ := h.exists_entryLeaves? hfield
      exact ⟨given, ⟨_, hfield, hgiven⟩, (hmem slot x).mpr ⟨rfl, hx⟩⟩

/-- Setting the keys of a tree of parts anew changes nothing in it. -/
theorem Tree.HasParts.exists_resettle (h : t.HasParts) :
    ∃ next, resettle t = .ok next ∧ ∀ slot, next.scalarAt? slot = t.scalarAt? slot := by
  obtain ⟨given, hgiven, hnodup, hmem⟩ := h.exists_leaves?
  obtain ⟨next, hnext, hover, -⟩ := foldlM_assignKey_overwrites (.table none []) hgiven hnodup
  refine ⟨next, hnext, fun slot => ?_⟩
  by_cases hslot : slot ∈ given.map Prod.fst
  · obtain ⟨⟨_, x⟩, hx, rfl⟩ := List.mem_map.mp hslot
    rw [hover.holds _ x hx, (hmem _ x).mp hx]
  · rw [hover.kept slot hslot]
    cases hx : t.scalarAt? slot with
    | none => rfl
    | some x => exact absurd (List.mem_map_of_mem ((hmem slot x).mpr hx)) hslot

end HasParts

section Laws

variable {files : Files} {source : Source} {sources : List Source} {given : List (Slot × Scalar)}
  {arrange : List (Path × Tree) → List (Path × Tree)}

theorem entries_merging : (merging arrange).entries = sourceEntries :=
  rfl

theorem build_merging {overrides : List (Path × Tree)} {t : Tree}
    (h : (merging arrange).collect files sources = .ok t) :
    (merging arrange).build files sources overrides =
      (merging arrange).setAll (arrange (latest overrides)) t := by
  have hmerge : mergeSources files sources = .ok t := h
  simp only [merging, hmerge]
  rfl

theorem exists_mergeSource (h : (merging arrange).Gives files source given) (t : Tree) :
    ∃ next, mergeSource files t source = .ok next ∧ next.Overwrites t given ∧
      (t.HasParts → next.HasParts) := by
  obtain ⟨entries, hentries, hgiven, hnodup⟩ := h
  obtain ⟨next, hnext, hover⟩ := foldlM_assignKey_overwrites t hgiven hnodup
  refine ⟨next, ?_, hover⟩
  have hread : sourceEntries files source = .ok entries := hentries
  rw [mergeSource, hread]
  exact hnext

theorem exists_foldlM_mergeSource
    (h : ∀ source ∈ sources, ∃ given, (merging arrange).Gives files source given) {t : Tree}
    (ht : t.HasParts) : ∃ next, sources.foldlM (mergeSource files) t = .ok next ∧ next.HasParts := by
  induction sources generalizing t with
  | nil => exact ⟨t, rfl, ht⟩
  | cons source rest ih =>
    rw [List.forall_mem_cons] at h
    obtain ⟨given, hgiven⟩ := h.1
    obtain ⟨middle, hmiddle, -, hparts⟩ := exists_mergeSource hgiven t
    obtain ⟨next, hnext, hparts⟩ := ih h.2 (hparts ht)
    refine ⟨next, ?_, hparts⟩
    rw [List.foldlM_cons, hmiddle]
    exact hnext

theorem mergeSources_concat
    (h : ∀ other ∈ sources, ∃ others, (merging arrange).Gives files other others)
    (hsource : (merging arrange).Gives files source given) {t : Tree}
    (ht : mergeSources files sources = .ok t) :
    ∃ next, mergeSources files (sources ++ [source]) = .ok next ∧ next.Overwrites t given := by
  obtain ⟨raw, hraw, hparts⟩ := exists_foldlM_mergeSource h hasParts_empty
  obtain ⟨rawNext, hrawNext, hover, hpartsNext⟩ := exists_mergeSource hsource raw
  obtain ⟨resettled, hresettle, hsame⟩ := hparts.exists_resettle
  obtain ⟨next, hnext, hsameNext⟩ := (hpartsNext hparts).exists_resettle
  have heq : resettled = t := by
    simpa [mergeSources, hraw, hresettle, bind, Except.bind] using ht
  subst heq
  refine ⟨next, ?_, ⟨fun slot x hx => ?_, fun slot hslot => ?_⟩⟩
  · simp [mergeSources, List.foldlM_append, hraw, hrawNext, hnext, bind, Except.bind, pure,
      Except.pure]
  · rw [hsameNext, hover.holds slot x hx]
  · rw [hsameNext, hover.kept slot hslot, hsame]

set_option maxRecDepth 10000 in
theorem leaves?_defaultText :
    (fileEntries none defaultText.toList).toOption.bind leaves? = some defaultLeaves := by
  -- The characters of the text are put in its place: they need not be decoded then.
  have hchars : defaultText.toList = _ := String.toList_ofList
  rw [hchars]
  decide +kernel

theorem gives_defaultText (files : Files) :
    ∃ given, (merging arrange).Gives files (.text defaultText) given ∧
      given.Perm defaultLeaves := by
  obtain ⟨entries, hentries, hleaves⟩ := Option.bind_eq_some_iff.mp leaves?_defaultText
  have hfile : fileEntries none defaultText.toList = .ok entries := by
    generalize fileEntries none defaultText.toList = read at hentries
    cases read with
    | ok found => exact congrArg Except.ok (Option.some.inj hentries)
    | error e => cases hentries
  refine ⟨defaultLeaves, ⟨entries, ?_, hleaves, by decide +kernel⟩, .refl _⟩
  rw [entries_merging, sourceEntries, hfile]

theorem sourceEntries_present {path : String} {entries : List (String × Tree)}
    (h : sourceEntries files (.file path true) = .ok entries) :
    sourceEntries files (.file path false) = .ok entries := by
  rw [sourceEntries] at h ⊢
  split at h
  · exact h
  · cases h

theorem sourceEntries_absent {path : String}
    (h : sourceEntries files (.file path true) = .error (.missingFile path)) :
    sourceEntries files (.file path false) = .ok [] := by
  rw [sourceEntries] at h ⊢
  split at h
  · next name text hread =>
    rw [fileEntries] at h
    split at h <;> cases h
  · rfl

end Laws

section Texts

theorem exists_mem_lowerAfter {before t : Text} {c : Char} (hc : c ∈ t) (hascii : isAscii c) :
    c.toLower ∈ lowerAfter before t := by
  induction t generalizing before with
  | nil => cases hc
  | cons d rest ih =>
    rw [lowerAfter, List.mem_append]
    rcases List.mem_cons.mp hc with rfl | hc
    · have hsigma : c ≠ '\u03a3' := by
        rintro rfl
        exact absurd hascii (by decide)
      rw [if_neg hsigma, lowerChar, if_pos hascii]
      exact .inl (List.mem_singleton_self _)
    · exact .inr (ih hc)

/-- What is a word in lower case is made of letters, as far as ASCII goes. -/
theorem isAlpha_of_lower {s : String} (h : (lowerString s).toList.all Char.isLower) {c : Char}
    (hc : c ∈ s.toList) (hascii : isAscii c) : c.isAlpha := by
  have hlow : c.toLower.isLower := by
    refine List.all_eq_true.mp h _ ?_
    rw [lowerString, String.toList_ofList]
    exact exists_mem_lowerAfter hc hascii
  exact of_isAscii (p := fun c => c.toLower.isLower → c.isAlpha) (by decide +kernel) hascii hlow

theorem exists_digit_of_wholeInteger? {t : Text} {n : Int} (h : wholeInteger? t = some n) :
    ∃ c ∈ t, c.isDigit := by
  have hdigits (digits : Text) (negative : Bool) (hsub : ∀ c ∈ digits, c ∈ t)
      (h : (if digits.isEmpty || !digits.all Char.isDigit then none
        else some (if negative then -(digitsValue digits : Int) else digitsValue digits)) =
          some n) : ∃ c ∈ t, c.isDigit := by
    cases digits with
    | nil => cases h
    | cons c rest =>
      refine ⟨c, hsub c List.mem_cons_self, ?_⟩
      by_contra hc
      simp [hc] at h
  unfold wholeInteger? at h
  split at h
  next negative digits hp =>
  refine hdigits digits negative ?_ h
  split at hp <;> cases hp
  · exact fun c => List.mem_cons_of_mem _
  · exact fun c => List.mem_cons_of_mem _
  · exact fun c hc => hc

theorem isDigit_eq_false_of_lower {s : String} (h : (lowerString s).toList.all Char.isLower)
    {c : Char} (hc : c ∈ s.toList) : c.isDigit = false := by
  by_contra hdigit
  have hascii := isAscii_of_isDigit (Bool.not_eq_false _ ▸ hdigit)
  have halpha := isAlpha_of_lower h hc hascii
  exact hdigit (of_isAscii (p := fun c => c.isAlpha → c.isDigit = false) (by decide +kernel)
    hascii halpha)

theorem variableValue_int {s : String} {n : Int} (h : wholeInteger? s.toList = some n)
    (hfits : fitsSigned n) : variableValue s = .int n := by
  obtain ⟨c, hc, hdigit⟩ := exists_digit_of_wholeInteger? h
  have hword (word : String) (hword : word.toList.all Char.isLower) : lowerString s ≠ word := by
    rintro rfl
    rw [isDigit_eq_false_of_lower hword hc] at hdigit
    cases hdigit
  simp [variableValue, hword "true" (by decide), hword "false" (by decide), h,
    Option.filter_some, hfits]

theorem isAscii_of_isAscii_toLower {c : Char} (h : isAscii c.toLower) : isAscii c := by
  by_cases hupper : 'A'.val ≤ c.val ∧ c.val ≤ 'Z'.val
  · exact isAscii_of_isAlpha (Bool.or_eq_true_iff.mpr (.inl (decide_eq_true hupper)))
  · have hsame : c.toLower = c := dif_neg hupper
    rwa [hsame] at h

theorem lowerString_of_isWord {s word : String} (hword : word.toList.all isAscii)
    (h : isWord word s.toList) : lowerString s = word := by
  have hmap : s.toList.map Char.toLower = word.toList := eq_of_beq h
  have hascii : s.toList.all isAscii := by
    rw [List.all_eq_true] at hword ⊢
    intro c hc
    refine isAscii_of_isAscii_toLower (hword _ ?_)
    rw [← hmap]
    exact List.mem_map_of_mem hc
  rw [lowerString, Text.lower, lowerAfter_of_isAscii hascii, hmap, String.ofList_toList]

theorem wholeDecimal?_eq_none {negative : Bool} {t : Text}
    (h : ∀ c ∈ t, c.isDigit = false ∧ c ≠ '.') : wholeDecimal? negative t = none := by
  cases t with
  | nil => rfl
  | cons c rest =>
    rw [List.forall_mem_cons] at h
    have htake : (c :: rest).takeWhile Char.isDigit = [] :=
      List.takeWhile_cons_of_neg (by simp [h.1.1])
    have hdrop : (c :: rest).dropWhile Char.isDigit = c :: rest :=
      List.dropWhile_cons_of_neg (by simp [h.1.1])
    rw [wholeDecimal?, htake, hdrop]
    split
    next fraction _ hp =>
    split at hp
    · next heq => exact absurd (List.cons.inj heq).1 h.1.2
    · cases hp
      simp

theorem wholeFloat?_eq_none {s : String} (h : (lowerString s).toList.all Char.isLower)
    (hword : lowerString s ∉ ["inf", "infinity", "nan"]) : wholeFloat? s.toList = none := by
  simp only [List.mem_cons, List.not_mem_nil, or_false, not_or] at hword
  obtain ⟨hinf, hinfinity, hnan⟩ := hword
  have hmark (c : Char) (hascii : isAscii c) (halpha : c.isAlpha = false) : c ∉ s.toList :=
    fun hc => by simp [isAlpha_of_lower h hc hascii] at halpha
  have hdecimal (negative : Bool) : wholeDecimal? negative s.toList = none :=
    wholeDecimal?_eq_none fun c hc =>
      ⟨isDigit_eq_false_of_lower h hc, fun heq => hmark '.' (by decide) (by decide) (heq ▸ hc)⟩
  have hnot (word : String) (hascii : word.toList.all isAscii) (hne : lowerString s ≠ word) :
      isWord word s.toList = false :=
    Bool.eq_false_iff.mpr fun hword => hne (lowerString_of_isWord hascii hword)
  have hplus := hmark '+' (by decide) (by decide)
  have hminus := hmark '-' (by decide) (by decide)
  unfold wholeFloat?
  split
  next negative body hp =>
  split at hp
  · next heq => exact absurd (heq ▸ List.mem_cons_self) hplus
  · next heq => exact absurd (heq ▸ List.mem_cons_self) hminus
  · cases hp
    simp [hnot "inf" (by decide) hinf, hnot "infinity" (by decide) hinfinity,
      hnot "nan" (by decide) hnan, hdecimal]

theorem variableValue_word {s : String} (h : (lowerString s).toList.all Char.isLower)
    (hword : lowerString s ∉ ["true", "false", "inf", "infinity", "nan"]) :
    variableValue s = .string s := by
  rw [List.mem_cons, List.mem_cons, not_or, not_or] at hword
  have hinteger : wholeInteger? s.toList = none := by
    rw [Option.eq_none_iff_forall_not_mem]
    intro n hn
    obtain ⟨c, hc, hdigit⟩ := exists_digit_of_wholeInteger? hn
    rw [isDigit_eq_false_of_lower h hc] at hdigit
    cases hdigit
  simp [variableValue, hword.1, hword.2.1, hinteger, wholeFloat?_eq_none h hword.2.2]

end Texts

section Values

theorem exists_fieldOf {record : Record} {key name : String} {t value : Tree}
    (h : t.fields.lookup name = some value) :
    ∃ valueKey, fieldOf record key t name = .ok (valueKey, value) := by
  cases t with
  | table origin fields =>
    have hlookup : fields.lookup name = some value := h
    rw [fieldOf, hlookup]
    exact ⟨_, rfl⟩
  | _ => cases h

theorem readWidth_int {key : String} {origin : Option String} {n : Int} (h : 0 ≤ n) :
    readWidth key (.leaf origin (.int n)) = .ok n.toNat :=
  if_pos h

theorem readChoice_string {α : Type} {what : String} {options : List (String × α)}
    (origin : Option String) {s : String} {a : α} (h : options.lookup (lowerString s) = some a) :
    readChoice what options (.leaf origin (.string s)) = .ok a := by
  simp [readChoice, h]

end Values

/-- The merging collector keeps to the laws, whatever order it carries out overrides in. -/
theorem merging_lawful {arrange : List (Path × Tree) → List (Path × Tree)}
    (harrange : ∀ overrides, (arrange overrides).Perm overrides) : (merging arrange).Lawful where
  path?_ofNames := parse?_of_ofNames?
  set_along := assignAt_overwrites
  collect_nil _ := ⟨.table none [], rfl, fun _ => rfl⟩
  collect_concat h hsource ht := mergeSources_concat h hsource ht
  build_eq _ _ overrides := ⟨arrange (latest overrides), harrange _, rfl⟩
  gives_defaultText := gives_defaultText
  entries_present := sourceEntries_present
  entries_absent := sourceEntries_absent
  entries_environment _ mark separator vars _ :=
    ⟨some "the environment", variableEntries mark separator vars, rfl, .refl _⟩
  ofText_true h := by simp [merging, variableValue, h]
  ofText_false h := by simp [merging, variableValue, h]
  ofText_int := variableValue_int
  ofText_word := variableValue_word
  field_lookup := exists_fieldOf
  natural_int h _ := readWidth_int h
  truth_bool := rfl
  choice_string {_ _ _ origin _ _} h := readChoice_string origin h

end EditorAssist.Settings
