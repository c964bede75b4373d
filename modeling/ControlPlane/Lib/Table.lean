import Mathlib.Data.List.Nodup

/-!
Tables with a primary key and one further UNIQUE column. The constraints are
fields, so a table that violates them cannot be built: an insertion that would
do so is refused, and an update may not touch the constrained columns. NULLs of
the UNIQUE column are distinct, as in SQL.
-/

namespace ControlPlane.Lib

structure Table (α κ υ : Type) (key : α → κ) (uniq : α → Option υ) where
  rows : List α
  key_nodup : (rows.map key).Nodup
  uniq_nodup : (rows.filterMap uniq).Nodup

namespace Table

variable {α κ υ : Type} {key : α → κ} {uniq : α → Option υ}

def empty : Table α κ υ key uniq where
  rows := []
  key_nodup := by simp
  uniq_nodup := by simp

instance : Inhabited (Table α κ υ key uniq) := ⟨empty⟩

/-- A table with one row. -/
def single (row : α) : Table α κ υ key uniq where
  rows := [row]
  key_nodup := List.nodup_singleton _
  uniq_nodup := by cases h : uniq row <;> simp [h]

/-- An UPDATE of the row with key `k`. -/
def modify [DecidableEq κ] (T : Table α κ υ key uniq) (k : κ) (f : α → α)
    (hkey : ∀ r, key (f r) = key r := by intro r; rfl)
    (huniq : ∀ r, uniq (f r) = uniq r := by intro r; rfl) :
    Table α κ υ key uniq where
  rows := T.rows.map fun r => if key r = k then f r else r
  key_nodup := by
    have hmap : (T.rows.map fun r => if key r = k then f r else r).map key =
        T.rows.map key := by
      rw [List.map_map]
      apply List.map_congr_left
      intro r _
      simp only [Function.comp]
      split
      · exact hkey r
      · rfl
    rw [hmap]
    exact T.key_nodup
  uniq_nodup := by
    have hmap : (T.rows.map fun r => if key r = k then f r else r).filterMap uniq =
        T.rows.filterMap uniq := by
      rw [List.filterMap_map]
      apply List.filterMap_congr
      intro r _
      simp only [Function.comp]
      split
      · exact huniq r
      · rfl
    rw [hmap]
    exact T.uniq_nodup

/-- The constraints an INSERT checks. -/
def Accepts (T : Table α κ υ key uniq) (row : α) : Prop :=
  key row ∉ T.rows.map key ∧ ∀ u, uniq row = some u → u ∉ T.rows.filterMap uniq

instance [DecidableEq κ] [DecidableEq υ] (T : Table α κ υ key uniq) (row : α) :
    Decidable (T.Accepts row) :=
  match h : uniq row with
  | none => decidable_of_iff (key row ∉ T.rows.map key) (by simp [Accepts, h])
  | some u => decidable_of_iff
      (key row ∉ T.rows.map key ∧ u ∉ T.rows.filterMap uniq)
      (by simp [Accepts, h])

def append (T : Table α κ υ key uniq) (row : α) (h : T.Accepts row) :
    Table α κ υ key uniq where
  rows := T.rows ++ [row]
  key_nodup := by
    rw [List.map_append, List.map_singleton]
    exact T.key_nodup.append (List.nodup_singleton _)
      (by simpa [List.disjoint_singleton] using h.1)
  uniq_nodup := by
    rw [List.filterMap_append]
    refine T.uniq_nodup.append ?_ ?_
    · cases huniq : uniq row <;> simp [huniq]
    · cases huniq : uniq row with
      | none => simp [huniq]
      | some u =>
          simpa [huniq, List.disjoint_singleton] using h.2 u huniq

/-- An INSERT; `none` is the integrity error. -/
def insert [DecidableEq κ] [DecidableEq υ] (T : Table α κ υ key uniq)
    (row : α) : Option (Table α κ υ key uniq) :=
  if h : T.Accepts row then some (T.append row h) else none

def find? [DecidableEq κ] (T : Table α κ υ key uniq) (k : κ) : Option α :=
  T.rows.find? fun r => key r = k

/-- The row that carries `u` in the UNIQUE column. -/
def findUnique? [DecidableEq υ] (T : Table α κ υ key uniq) (u : υ) : Option α :=
  T.rows.find? fun r => uniq r = some u

section Lookup

variable [DecidableEq κ] (T : Table α κ υ key uniq)

theorem find?_eq_some {k : κ} {r : α} :
    T.find? k = some r ↔ r ∈ T.rows ∧ key r = k := by
  constructor
  · intro h
    exact ⟨List.mem_of_find?_eq_some h, by simpa using List.find?_some h⟩
  · rintro ⟨hmem, hk⟩
    obtain ⟨r', hr'⟩ : ∃ r', T.find? k = some r' := by
      rw [← Option.isSome_iff_exists, find?, List.find?_isSome]
      exact ⟨r, hmem, by simpa using hk⟩
    have hmem' := List.mem_of_find?_eq_some hr'
    have hk' : key r' = k := by simpa using List.find?_some hr'
    have heq := List.inj_on_of_nodup_map T.key_nodup hmem' hmem (hk'.trans hk.symm)
    rw [hr', heq]

theorem find?_eq_none {k : κ} :
    T.find? k = none ↔ ∀ r ∈ T.rows, key r ≠ k := by
  simp [find?, List.find?_eq_none]

theorem find?_key {r : α} (h : r ∈ T.rows) : T.find? (key r) = some r :=
  T.find?_eq_some.mpr ⟨h, rfl⟩

variable {T}

theorem mem_of_find? {k : κ} {r : α} (h : T.find? k = some r) : r ∈ T.rows :=
  (T.find?_eq_some.mp h).1

theorem key_of_find? {k : κ} {r : α} (h : T.find? k = some r) : key r = k :=
  (T.find?_eq_some.mp h).2

end Lookup

@[simp] theorem find?_single [DecidableEq κ] (row : α) :
    (single row : Table α κ υ key uniq).find? (key row) = some row :=
  find?_key _ (List.mem_singleton.mpr rfl)

@[simp] theorem find?_empty [DecidableEq κ] (k : κ) :
    (empty : Table α κ υ key uniq).find? k = none := rfl

section Unique

variable (T : Table α κ υ key uniq)

theorem eq_of_uniq {r r' : α} {u : υ} (hr : r ∈ T.rows) (hr' : r' ∈ T.rows)
    (hu : uniq r = some u) (hu' : uniq r' = some u) : r = r' := by
  have hnodup := T.uniq_nodup
  generalize T.rows = rows at hr hr' hnodup
  induction rows with
  | nil => cases hr
  | cons x rest ih =>
      rcases List.mem_cons.mp hr with hx | hrest
      · rcases List.mem_cons.mp hr' with hx' | hrest'
        · rw [hx, hx']
        · rw [← hx, List.filterMap_cons_some hu, List.nodup_cons] at hnodup
          exact absurd (List.mem_filterMap.mpr ⟨r', hrest', hu'⟩) hnodup.1
      · rcases List.mem_cons.mp hr' with hx' | hrest'
        · rw [← hx', List.filterMap_cons_some hu', List.nodup_cons] at hnodup
          exact absurd (List.mem_filterMap.mpr ⟨r, hrest, hu⟩) hnodup.1
        · apply ih hrest hrest'
          exact hnodup.sublist
            (List.Sublist.filterMap uniq (List.sublist_cons_self x rest))

variable [DecidableEq υ]

theorem findUnique?_eq_some {u : υ} {r : α} :
    T.findUnique? u = some r ↔ r ∈ T.rows ∧ uniq r = some u := by
  constructor
  · intro h
    exact ⟨List.mem_of_find?_eq_some h, by simpa using List.find?_some h⟩
  · rintro ⟨hmem, hu⟩
    obtain ⟨r', hr'⟩ : ∃ r', T.findUnique? u = some r' := by
      rw [← Option.isSome_iff_exists, findUnique?, List.find?_isSome]
      exact ⟨r, hmem, by simpa using hu⟩
    have hmem' := List.mem_of_find?_eq_some hr'
    have hu' : uniq r' = some u := by simpa using List.find?_some hr'
    rw [hr', T.eq_of_uniq hmem' hmem hu' hu]

theorem findUnique?_eq_none {u : υ} :
    T.findUnique? u = none ↔ ∀ r ∈ T.rows, uniq r ≠ some u := by
  simp [findUnique?, List.find?_eq_none]

end Unique

section Update

variable [DecidableEq κ] {T : Table α κ υ key uniq} {k : κ} {f : α → α}
  {hkey : ∀ r, key (f r) = key r} {huniq : ∀ r, uniq (f r) = uniq r}

theorem mem_modify {r : α} : r ∈ (T.modify k f hkey huniq).rows ↔
    ∃ r₀ ∈ T.rows, (if key r₀ = k then f r₀ else r₀) = r := by
  simp [modify]

theorem rows_modify {row : α} {before after : List α} (h : T.rows = before ++ row :: after) :
    (T.modify (key row) f hkey huniq).rows = before ++ f row :: after := by
  have hkeys := T.key_nodup
  rw [h, List.map_append, List.map_cons, List.nodup_middle, List.nodup_cons, List.mem_append,
    List.mem_map, List.mem_map] at hkeys
  have hother : ∀ r, r ∈ before ∨ r ∈ after → (if key r = key row then f r else r) = r := by
    rintro r hr
    refine if_neg fun hkey => hkeys.1 ?_
    exact hr.imp (fun hr => ⟨r, hr, hkey⟩) fun hr => ⟨r, hr, hkey⟩
  change T.rows.map _ = _
  rw [h, List.map_append, List.map_cons, if_pos rfl]
  congr 2
  · exact (List.map_congr_left fun r hr => hother r (.inl hr)).trans (List.map_id _)
  · exact (List.map_congr_left fun r hr => hother r (.inr hr)).trans (List.map_id _)

theorem find?_modify (k' : κ) : (T.modify k f hkey huniq).find? k' =
    (T.find? k').map fun r => if key r = k then f r else r := by
  have hpred : ((fun r => decide (key r = k')) ∘ fun r => if key r = k then f r else r) =
      fun r => decide (key r = k') := by
    funext r
    dsimp only [Function.comp]
    split
    · rw [hkey]
    · rfl
  unfold find? modify
  rw [List.find?_map, hpred]

theorem find?_modify_self {r : α} (h : T.find? k = some r) :
    (T.modify k f hkey huniq).find? k = some (f r) := by
  rw [find?_modify, h, Option.map_some, if_pos (key_of_find? h)]

theorem find?_modify_of_ne {k' : κ} (h : k' ≠ k) :
    (T.modify k f hkey huniq).find? k' = T.find? k' := by
  rw [find?_modify]
  cases hfind : T.find? k' with
  | none => rfl
  | some r => rw [Option.map_some, if_neg ((key_of_find? hfind).trans_ne h)]

end Update

section Insertion

variable [DecidableEq κ] [DecidableEq υ] {T T' : Table α κ υ key uniq} {row : α}

theorem rows_insert (h : T.insert row = some T') : T'.rows = T.rows ++ [row] := by
  unfold insert at h
  split at h
  · cases h
    rfl
  · cases h

/-- A new key and no value in the UNIQUE column: nothing stands in the way. -/
theorem exists_insert (hkey : T.find? (key row) = none) (huniq : uniq row = none) :
    ∃ T', T.insert row = some T' := by
  have haccepts : T.Accepts row := by
    constructor
    · intro hmem
      obtain ⟨r, hr, hk⟩ := List.mem_map.mp hmem
      exact T.find?_eq_none.mp hkey r hr hk
    · intro u hu
      rw [huniq] at hu
      cases hu
  exact ⟨T.append row haccepts, dif_pos haccepts⟩

theorem mem_insert (h : T.insert row = some T') {r : α} :
    r ∈ T'.rows ↔ r ∈ T.rows ∨ r = row := by
  simp [rows_insert h]

theorem key_fresh_of_insert (h : T.insert row = some T') :
    T.find? (key row) = none := by
  unfold insert at h
  split at h
  · next haccepts =>
      rw [find?_eq_none]
      intro r hr heq
      exact haccepts.1 (List.mem_map.mpr ⟨r, hr, heq⟩)
  · cases h

theorem uniq_fresh_of_insert (h : T.insert row = some T') {u : υ}
    (hu : uniq row = some u) : u ∉ T.rows.filterMap uniq := by
  unfold insert at h
  split at h
  · next haccepts => exact haccepts.2 u hu
  · cases h

theorem find?_insert_self (h : T.insert row = some T') :
    T'.find? (key row) = some row :=
  T'.find?_eq_some.mpr ⟨(mem_insert h).mpr (Or.inr rfl), rfl⟩

theorem find?_insert_of_ne (h : T.insert row = some T') {k : κ}
    (hk : k ≠ key row) : T'.find? k = T.find? k := by
  simp only [find?, rows_insert h, List.find?_append]
  cases List.find? (fun r => decide (key r = k)) T.rows with
  | some r => rfl
  | none => simp [hk.symm]

theorem find?_insert_of_some (h : T.insert row = some T') {k : κ} {r : α}
    (hfind : T.find? k = some r) : T'.find? k = some r := by
  simp only [find?, rows_insert h, List.find?_append] at hfind ⊢
  rw [hfind]
  rfl

end Insertion

section Puts

variable [DecidableEq κ] {T T' : Table α κ υ key uniq} {row : α}

/-- The table with this row under its key, as an INSERT or an UPDATE leaves it. -/
structure Puts (T T' : Table α κ υ key uniq) (row : α) : Prop where
  self : T'.find? (key row) = some row
  other : ∀ k, k ≠ key row → T'.find? k = T.find? k
  uniq_kept : ∀ old, T.find? (key row) = some old → uniq old = uniq row

theorem puts_insert [DecidableEq υ] (h : T.insert row = some T') : T.Puts T' row where
  self := find?_insert_self h
  other _ hk := find?_insert_of_ne h hk
  uniq_kept old hold := by
    rw [key_fresh_of_insert h] at hold
    cases hold

theorem puts_modify {k : κ} {f : α → α} {hkey : ∀ r, key (f r) = key r}
    {huniq : ∀ r, uniq (f r) = uniq r} {old : α} (hold : T.find? k = some old)
    (hf : f old = row) : T.Puts (T.modify k f hkey huniq) row := by
  have hrow : key row = k := by
    rw [← hf, hkey, key_of_find? hold]
  constructor
  · rw [hrow, find?_modify_self hold, hf]
  · intro k' hk'
    rw [find?_modify_of_ne (hrow ▸ hk')]
  · intro old' hold'
    rw [hrow, hold] at hold'
    cases hold'
    rw [← hf, huniq]

theorem Puts.mem (h : T.Puts T' row) {r : α} :
    r ∈ T'.rows ↔ r = row ∨ r ∈ T.rows ∧ key r ≠ key row := by
  constructor
  · intro hr
    have hfind := T'.find?_key hr
    by_cases hk : key r = key row
    · rw [hk, h.self] at hfind
      exact Or.inl (Option.some.inj hfind).symm
    · rw [h.other _ hk] at hfind
      exact Or.inr ⟨mem_of_find? hfind, hk⟩
  · rintro (rfl | ⟨hr, hk⟩)
    · exact mem_of_find? h.self
    · have hfind := T.find?_key hr
      rw [← h.other _ hk] at hfind
      exact mem_of_find? hfind

/-- A row written again under its key. -/
theorem Puts.overwrite {T'' : Table α κ υ key uniq} {row' : α} (h : T.Puts T' row)
    (h' : T'.Puts T'' row') (hkey : key row' = key row) : T.Puts T'' row' where
  self := h'.self
  other k hk := (h'.other k hk).trans (h.other k (hkey ▸ hk))
  uniq_kept old hold := by
    rw [hkey] at hold
    exact (h.uniq_kept old hold).trans (h'.uniq_kept row (hkey ▸ h.self))

theorem Puts.find?_isSome (h : T.Puts T' row) {k : κ} (hk : (T.find? k).isSome) :
    (T'.find? k).isSome := by
  by_cases hkey : k = key row
  · rw [hkey, h.self]
    rfl
  · rwa [h.other k hkey]

theorem Puts.findUnique?_self [DecidableEq υ] (h : T.Puts T' row) {u : υ}
    (hu : uniq row = some u) : T'.findUnique? u = some row :=
  (T'.findUnique?_eq_some).mpr ⟨mem_of_find? h.self, hu⟩

theorem Puts.findUnique?_of_ne [DecidableEq υ] (h : T.Puts T' row) {u : υ}
    (hu : uniq row ≠ some u) : T'.findUnique? u = T.findUnique? u := by
  cases hfind : T.findUnique? u with
  | none =>
      rw [findUnique?_eq_none] at hfind ⊢
      intro r hr
      rcases h.mem.mp hr with rfl | ⟨hr, _⟩
      · exact hu
      · exact hfind r hr
  | some r =>
      obtain ⟨hr, hru⟩ := T.findUnique?_eq_some.mp hfind
      refine T'.findUnique?_eq_some.mpr ⟨h.mem.mpr (Or.inr ⟨hr, ?_⟩), hru⟩
      intro hk
      have hold := T.find?_key hr
      rw [hk] at hold
      rw [h.uniq_kept r hold] at hru
      exact hu hru

end Puts

end Table

end ControlPlane.Lib
