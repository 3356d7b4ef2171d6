import Mathlib.Data.List.Forall2
import Mathlib.Data.List.Nodup

/-! Lists of named entries, and what they are turned into entry by entry. -/
namespace EditorAssist

section MapM

variable {α β : Type} {f : α → Option β} {x : α} {xs : List α} {y : β} {ys : List β}

theorem mapM_eq_some_iff :
    xs.mapM f = some ys ↔ List.Forall₂ (fun x y => f x = some y) xs ys := by
  induction xs generalizing ys with
  | nil => cases ys <;> simp
  | cons x xs ih =>
    rw [List.mapM_cons]
    constructor
    · intro h
      obtain ⟨y, hy, h⟩ := Option.bind_eq_some_iff.mp h
      obtain ⟨rest, hrest, h⟩ := Option.bind_eq_some_iff.mp h
      cases h
      exact .cons hy (ih.mp hrest)
    · intro h
      cases h with
      | cons hy hrest =>
        rw [hy, ih.mpr hrest]
        rfl

theorem exists_of_mapM_cons (h : (x :: xs).mapM f = some ys) :
    ∃ y rest, f x = some y ∧ xs.mapM f = some rest ∧ ys = y :: rest := by
  cases mapM_eq_some_iff.mp h with
  | cons hy hrest => exact ⟨_, _, hy, mapM_eq_some_iff.mpr hrest, rfl⟩

theorem mapM_cons_eq_some (hx : f x = some y) (hxs : xs.mapM f = some ys) :
    (x :: xs).mapM f = some (y :: ys) :=
  mapM_eq_some_iff.mpr (.cons hx (mapM_eq_some_iff.mp hxs))

theorem exists_mapM_eq_some (h : ∀ x ∈ xs, ∃ y, f x = some y) : ∃ ys, xs.mapM f = some ys := by
  induction xs with
  | nil => exact ⟨[], rfl⟩
  | cons x rest ih =>
    rw [List.forall_mem_cons] at h
    obtain ⟨y, hy⟩ := h.1
    obtain ⟨ys, hys⟩ := ih h.2
    exact ⟨y :: ys, mapM_cons_eq_some hy hys⟩

theorem mem_iff_of_mapM (h : xs.mapM f = some ys) : y ∈ ys ↔ ∃ x ∈ xs, f x = some y := by
  induction xs generalizing ys with
  | nil => cases h; simp
  | cons x rest ih =>
    obtain ⟨first, others, hfirst, hothers, rfl⟩ := exists_of_mapM_cons h
    simp [ih hothers, hfirst, eq_comm]

theorem map_eq_of_mapM {γ : Type} {g : β → γ} {k : α → γ} (h : xs.mapM f = some ys)
    (hg : ∀ x ∈ xs, ∀ y, f x = some y → g y = k x) : ys.map g = xs.map k := by
  induction xs generalizing ys with
  | nil => cases h; rfl
  | cons x rest ih =>
    obtain ⟨first, others, hfirst, hothers, rfl⟩ := exists_of_mapM_cons h
    rw [List.forall_mem_cons] at hg
    rw [List.map_cons, List.map_cons, hg.1 first hfirst, ih hothers hg.2]

end MapM

section Lookup

variable {α : Type} {fields : List (String × α)} {name key : String} {value : α}

theorem lookup_cons_eq : ((key, value) :: fields).lookup name =
    if name = key then some value else fields.lookup name := by
  split_ifs with h
  · rw [h, List.lookup_cons_self]
  · rw [List.lookup_cons, beq_false_of_ne h]

/-- A name that stands for one value only is looked up. -/
theorem lookup_eq_some (hmem : (name, value) ∈ fields)
    (honly : ∀ f ∈ fields, f.1 = name → f.2 = value) : fields.lookup name = some value := by
  induction fields with
  | nil => cases hmem
  | cons f rest ih =>
    rw [List.forall_mem_cons] at honly
    obtain ⟨key, other⟩ := f
    rw [lookup_cons_eq]
    split_ifs with hkey
    · exact congrArg some (honly.1 hkey.symm)
    · refine ih ((List.mem_cons.mp hmem).resolve_left ?_) honly.2
      rintro ⟨⟩
      exact hkey rfl

theorem mem_of_lookup (h : fields.lookup name = some value) : (name, value) ∈ fields := by
  obtain ⟨before, after, rfl, -⟩ := List.lookup_eq_some_iff.mp h
  simp

theorem lookup_eq_some_iff_mem (h : (fields.map Prod.fst).Nodup) :
    fields.lookup name = some value ↔ (name, value) ∈ fields :=
  ⟨mem_of_lookup, fun hmem => lookup_eq_some hmem fun _ hother hname =>
    congrArg Prod.snd (List.inj_on_of_nodup_map h hother hmem hname)⟩

end Lookup

end EditorAssist
