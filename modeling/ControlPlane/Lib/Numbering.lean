import Mathlib.Data.List.Induction
import Mathlib.Data.List.Nodup
import Mathlib.Logic.Function.Basic

/-!
Numbers that are handed out by reading the ones in use and storing the next.

The first part is about one list: numbers increase in the order of the rows, and
the row with the highest one is the only live one. The second part is about
several clients that read and insert in any order. What they store is determined
by the order of these operations, and the numbers are distinct exactly when every
client inserts before anybody else has inserted since its reading.
-/

namespace ControlPlane.Lib

def nextNumber (numbers : List Int) : Int := numbers.max?.getD 0 + 1

theorem lt_nextNumber {numbers : List Int} {n : Int} (h : n ∈ numbers) :
    n < nextNumber numbers := by
  cases hmax : numbers.max? with
  | none =>
      rw [List.max?_eq_none_iff] at hmax
      subst hmax
      cases h
  | some m =>
      have hle := (List.max?_eq_some_iff.mp hmax).2 n h
      rw [nextNumber, hmax, Option.getD_some]
      omega

/-- The next number is handed out once. -/
theorem nextNumber_append (numbers : List Int) :
    nextNumber (numbers ++ [nextNumber numbers]) = nextNumber numbers + 1 := by
  have hmax : (numbers ++ [nextNumber numbers]).max? = some (nextNumber numbers) := by
    rw [List.max?_eq_some_iff]
    refine ⟨by simp, fun n hn => ?_⟩
    rcases List.mem_append.mp hn with hn | hn
    · exact Int.le_of_lt (lt_nextNumber hn)
    · exact Int.le_of_eq (List.mem_singleton.mp hn)
  rw [nextNumber, hmax, Option.getD_some]

section

variable {α : Type} {number : α → Int}

/-- A row that may come first when the rows are ordered by descending number: rows with
equal numbers come in any order. -/
def Highest (number : α → Int) (rows : List α) (row : α) : Prop :=
  row ∈ rows ∧ ∀ other ∈ rows, number other ≤ number row

theorem exists_highest {rows : List α} (h : rows ≠ []) : ∃ row, Highest number rows row := by
  induction rows with
  | nil => exact absurd rfl h
  | cons first rest ih =>
      by_cases hrest : rest = []
      · subst hrest
        exact ⟨first, by simp, by simp⟩
      · obtain ⟨row, hrow, hle⟩ := ih hrest
        rcases Int.le_total (number row) (number first) with hfirst | hfirst
        · refine ⟨first, by simp, fun other hother => ?_⟩
          rcases List.mem_cons.mp hother with rfl | hother
          · exact Int.le_refl _
          · exact Int.le_trans (hle other hother) hfirst
        · refine ⟨row, List.mem_cons_of_mem _ hrow, fun other hother => ?_⟩
          rcases List.mem_cons.mp hother with rfl | hother
          · exact hfirst
          · exact hle other hother

/-- The last row is the only one that may come first exactly if its number is the highest
and nobody else's. -/
theorem highest_last_iff {init : List α} {last : α} (hnodup : (init ++ [last]).Nodup) :
    (∀ row, Highest number (init ++ [last]) row → row = last) ↔
      ∀ other ∈ init, number other < number last := by
  constructor
  · intro h other hother
    by_contra hle
    obtain ⟨row, hrow, hmax⟩ : ∃ row, Highest number init row :=
      exists_highest (List.ne_nil_of_mem hother)
    have hlast : number last ≤ number row := Int.le_trans (Int.not_lt.mp hle) (hmax other hother)
    have heq : row = last := by
      refine h row ⟨List.mem_append_left _ hrow, fun x hx => ?_⟩
      rcases List.mem_append.mp hx with hx | hx
      · exact hmax x hx
      · rw [List.mem_singleton.mp hx]
        exact hlast
    subst heq
    exact (List.nodup_append.mp hnodup).2.2 row hrow row (by simp) rfl
  · rintro h row ⟨hrow, hmax⟩
    rcases List.mem_append.mp hrow with hrow | hrow
    · have hlt := h row hrow
      have hle := hmax last (by simp)
      omega
    · exact List.mem_singleton.mp hrow

end

/-- The numbers increase, and a row is live if and only if its number is the
highest. -/
structure Numbered {α : Type} (number : α → Int) (live : α → Prop)
    (rows : List α) : Prop where
  increasing : rows.Pairwise fun a b => number a < number b
  newest : ∀ row ∈ rows, live row ↔ ∀ other ∈ rows, number other ≤ number row

section

variable {α β : Type} {number : α → Int} {live : α → Prop} {rows : List α}

theorem numbered_nil : Numbered number live [] where
  increasing := List.Pairwise.nil
  newest := by simp

theorem numbered_map {f : β → α} {rows : List β} :
    Numbered number live (rows.map f) ↔
      Numbered (fun row => number (f row)) (fun row => live (f row)) rows := by
  constructor
  · intro h
    have hincreasing := List.pairwise_map.mp h.increasing
    refine ⟨hincreasing, fun row hrow => ?_⟩
    rw [h.newest (f row) (List.mem_map_of_mem hrow)]
    simp
  · intro h
    refine ⟨List.pairwise_map.mpr h.increasing, fun row hrow => ?_⟩
    obtain ⟨x, hx, rfl⟩ := List.mem_map.mp hrow
    rw [h.newest x hx]
    simp

/-- Rows with other numbers are other rows. -/
theorem Numbered.injective (h : Numbered number live rows) {a b : α} (ha : a ∈ rows)
    (hb : b ∈ rows) (heq : number a = number b) : a = b := by
  have hdistinct : (rows.map number).Nodup :=
    List.pairwise_map.mpr (h.increasing.imp fun hlt => Int.ne_of_lt hlt)
  exact List.inj_on_of_nodup_map hdistinct ha hb heq

/-- Retiring every row and adding a live one with a higher number. -/
theorem Numbered.renew (h : rows.Pairwise fun a b => number a < number b)
    {row : α} (hlive : live row) (hretired : ∀ old ∈ rows, ¬live old)
    (hnumber : ∀ old ∈ rows, number old < number row) :
    Numbered number live (rows ++ [row]) := by
  refine ⟨?_, fun x hx => ?_⟩
  · rw [List.pairwise_append]
    refine ⟨h, List.pairwise_singleton _ _, fun a ha b hb => ?_⟩
    rw [List.mem_singleton.mp hb]
    exact hnumber a ha
  · rcases List.mem_append.mp hx with hx | hx
    · refine iff_of_false (hretired x hx) fun hall => ?_
      have hle := hall row (by simp)
      have hlt := hnumber x hx
      omega
    · rw [List.mem_singleton.mp hx]
      refine iff_of_true hlive fun other hother => ?_
      rcases List.mem_append.mp hother with hother | hother
      · exact Int.le_of_lt (hnumber other hother)
      · obtain rfl := List.mem_singleton.mp hother
        exact Int.le_refl _

/-- The row with the highest number is the live one. -/
theorem Numbered.exists_live (h : Numbered number live rows) (hne : rows ≠ []) :
    ∃ row ∈ rows, live row := by
  obtain ⟨init, last, rfl⟩ := (List.eq_nil_or_concat' rows).resolve_left hne
  have hlast : last ∈ init ++ [last] := by simp
  refine ⟨last, hlast, (h.newest last hlast).mpr fun other hother => ?_⟩
  rcases List.mem_append.mp hother with hother | hother
  · have hlt := (List.pairwise_append.mp h.increasing).2.2 other hother last (by simp)
    exact Int.le_of_lt hlt
  · obtain rfl := List.mem_singleton.mp hother
    exact Int.le_refl _

theorem Numbered.live_unique (h : Numbered number live rows) {a b : α} (ha : a ∈ rows)
    (hb : b ∈ rows) (halive : live a) (hblive : live b) : a = b := by
  have hab := (h.newest b hb).mp hblive a ha
  have hba := (h.newest a ha).mp halive b hb
  exact h.injective ha hb (by omega)

end

/-- One step of a client: it reads the numbers in use and works out the next one,
or it stores the one it worked out last. -/
inductive Allot (τ : Type) where
  | read (t : τ)
  | insert (t : τ)
  deriving DecidableEq, Repr

structure Allocation (τ : Type) where
  inserted : List (τ × Int)
  held : τ → Int

/-- The client has read the numbers, and nobody has inserted one since. -/
def UpToDate {τ : Type} (ops : List (Allot τ)) (t : τ) : Prop :=
  ∃ before after, ops = before ++ .read t :: after ∧ ∀ u, .insert u ∉ after

/-- Nobody inserts between a client's reading and its own insertion. -/
def Isolated {τ : Type} (ops : List (Allot τ)) : Prop :=
  ∀ before t, before ++ [.insert t] <+: ops → UpToDate before t

/-- Clients read before they insert. -/
def Informed {τ : Type} (ops : List (Allot τ)) : Prop :=
  ∀ before t, before ++ [.insert t] <+: ops → .read t ∈ before

namespace Allocation

variable {τ : Type}

def numbers (A : Allocation τ) : List Int := A.inserted.map Prod.snd

section

variable [DecidableEq τ]

def step (base : List Int) (A : Allocation τ) : Allot τ → Allocation τ
  | .read t => { A with held := Function.update A.held t (nextNumber (base ++ A.numbers)) }
  | .insert t => { A with inserted := A.inserted ++ [(t, A.held t)] }

/-- What the operations come to, where the numbers of `base` are in use. -/
def after (base : List Int) (ops : List (Allot τ)) : Allocation τ :=
  ops.foldl (step base) ⟨[], fun _ => 0⟩

theorem after_append (base : List Int) (ops : List (Allot τ)) (op : Allot τ) :
    after base (ops ++ [op]) = (after base ops).step base op := by
  rw [after, List.foldl_append]
  rfl

variable {base : List Int} {ops : List (Allot τ)} {t u : τ}

@[simp] theorem numbers_read :
    (after base (ops ++ [.read t])).numbers = (after base ops).numbers := by
  rw [after_append]
  rfl

@[simp] theorem numbers_insert : (after base (ops ++ [.insert t])).numbers =
    (after base ops).numbers ++ [(after base ops).held t] := by
  rw [after_append]
  exact List.map_append

@[simp] theorem inserted_read :
    (after base (ops ++ [.read t])).inserted = (after base ops).inserted := by
  rw [after_append]
  rfl

@[simp] theorem inserted_insert : (after base (ops ++ [.insert t])).inserted =
    (after base ops).inserted ++ [(t, (after base ops).held t)] := by
  rw [after_append]
  rfl

@[simp] theorem held_insert :
    (after base (ops ++ [.insert u])).held t = (after base ops).held t := by
  rw [after_append]
  rfl

theorem held_read_self : (after base (ops ++ [.read t])).held t =
    nextNumber (base ++ (after base ops).numbers) := by
  rw [after_append]
  exact Function.update_self ..

theorem held_read_other (h : t ≠ u) :
    (after base (ops ++ [.read u])).held t = (after base ops).held t := by
  rw [after_append]
  exact Function.update_of_ne h ..

end

theorem upToDate_read {ops : List (Allot τ)} {t u : τ} :
    UpToDate (ops ++ [.read u]) t ↔ t = u ∨ UpToDate ops t := by
  constructor
  · rintro ⟨before, after, heq, hquiet⟩
    rcases List.eq_nil_or_concat' after with rfl | ⟨rest, last, rfl⟩
    · obtain ⟨_, hlast⟩ := List.append_inj' heq rfl
      cases hlast
      exact Or.inl rfl
    · rw [← List.cons_append, ← List.append_assoc] at heq
      obtain ⟨hops, _⟩ := List.append_inj' heq rfl
      exact Or.inr ⟨before, rest, hops, fun v hv => hquiet v (by simp [hv])⟩
  · rintro (rfl | ⟨before, after, rfl, hquiet⟩)
    · exact ⟨ops, [], rfl, by simp⟩
    · exact ⟨before, after ++ [.read u], by simp, by simpa using hquiet⟩

theorem not_upToDate_insert {ops : List (Allot τ)} {t u : τ} :
    ¬UpToDate (ops ++ [.insert u]) t := by
  rintro ⟨before, after, heq, hquiet⟩
  rcases List.eq_nil_or_concat' after with rfl | ⟨rest, last, rfl⟩
  · obtain ⟨_, hlast⟩ := List.append_inj' heq rfl
    cases hlast
  · rw [← List.cons_append, ← List.append_assoc] at heq
    obtain ⟨_, hlast⟩ := List.append_inj' heq rfl
    cases hlast
    exact hquiet u (by simp)

theorem read_of_upToDate {ops : List (Allot τ)} {t : τ} (h : UpToDate ops t) :
    .read t ∈ ops := by
  obtain ⟨before, after, rfl, _⟩ := h
  simp

theorem isolated_read {ops : List (Allot τ)} {t : τ} :
    Isolated (ops ++ [.read t]) ↔ Isolated ops := by
  simp [Isolated, List.prefix_concat_iff]

theorem isolated_insert {ops : List (Allot τ)} {t : τ} :
    Isolated (ops ++ [.insert t]) ↔ Isolated ops ∧ UpToDate ops t := by
  simp only [Isolated, List.prefix_concat_iff]
  constructor
  · intro h
    exact ⟨fun before u hbefore => h before u (Or.inr hbefore), h ops t (Or.inl rfl)⟩
  · rintro ⟨hops, ht⟩ before u (heq | hbefore)
    · obtain ⟨rfl, hlast⟩ := List.append_inj' heq rfl
      cases hlast
      exact ht
    · exact hops before u hbefore

theorem informed_read {ops : List (Allot τ)} {t : τ} :
    Informed (ops ++ [.read t]) ↔ Informed ops := by
  simp [Informed, List.prefix_concat_iff]

theorem informed_insert {ops : List (Allot τ)} {t : τ} :
    Informed (ops ++ [.insert t]) ↔ Informed ops ∧ .read t ∈ ops := by
  simp only [Informed, List.prefix_concat_iff]
  constructor
  · intro h
    exact ⟨fun before u hbefore => h before u (Or.inr hbefore), h ops t (Or.inl rfl)⟩
  · rintro ⟨hops, ht⟩ before u (heq | hbefore)
    · obtain ⟨rfl, hlast⟩ := List.append_inj' heq rfl
      cases hlast
      exact ht
    · exact hops before u hbefore

variable [DecidableEq τ]

/-- The numbers that were handed out follow one another; what a client holds is
the next number if and only if it is up to date. -/
structure Consecutive (base : List Int) (ops : List (Allot τ)) : Prop where
  numbers : (after base ops).numbers =
    (List.range (after base ops).numbers.length).map
      fun k : Nat => nextNumber base + (k : Int)
  next : nextNumber (base ++ (after base ops).numbers) =
    nextNumber base + (after base ops).numbers.length
  held : ∀ t, .read t ∈ ops → ∃ k : Nat, k ≤ (after base ops).numbers.length ∧
    (after base ops).held t = nextNumber base + k ∧
    (UpToDate ops t ↔ k = (after base ops).numbers.length)

theorem consecutive (base : List Int) {ops : List (Allot τ)} (h : Isolated ops) :
    Consecutive base ops := by
  induction ops using List.reverseRecOn with
  | nil =>
      refine ⟨rfl, ?_, by simp⟩
      change nextNumber (base ++ []) = nextNumber base + 0
      rw [List.append_nil, Int.add_zero]
  | append_singleton ops op ih =>
      cases op with
      | read u =>
          have hops := ih (isolated_read.mp h)
          refine ⟨?_, ?_, fun t ht => ?_⟩
          · rw [numbers_read]
            exact hops.numbers
          · rw [numbers_read]
            exact hops.next
          · rw [numbers_read]
            by_cases htu : t = u
            · subst htu
              refine ⟨_, Nat.le_refl _, ?_, ?_⟩
              · rw [held_read_self]
                exact hops.next
              · exact iff_of_true (upToDate_read.mpr (Or.inl rfl)) rfl
            · have hread : .read t ∈ ops := by simpa [htu] using ht
              obtain ⟨k, hk, hheld, hfresh⟩ := hops.held t hread
              refine ⟨k, hk, ?_, ?_⟩
              · rw [held_read_other htu]
                exact hheld
              · rw [← hfresh, upToDate_read]
                simp [htu]
      | insert u =>
          obtain ⟨hisolated, hu⟩ := isolated_insert.mp h
          have hops := ih hisolated
          obtain ⟨k, _, hheld, hfresh⟩ := hops.held u (read_of_upToDate hu)
          obtain rfl := hfresh.mp hu
          refine ⟨?_, ?_, fun t ht => ?_⟩
          · rw [numbers_insert, List.length_append, List.length_singleton,
              List.range_succ, List.map_append, ← hops.numbers, hheld]
            rfl
          · rw [numbers_insert, List.length_append, List.length_singleton, hheld,
              ← hops.next, ← List.append_assoc, nextNumber_append, hops.next]
            push_cast
            omega
          · have hread : .read t ∈ ops := by simpa using ht
            obtain ⟨k, hk, hheld', _⟩ := hops.held t hread
            rw [numbers_insert, List.length_append, List.length_singleton, held_insert]
            refine ⟨k, by omega, hheld', ?_⟩
            exact iff_of_false not_upToDate_insert (by omega)

/-- The numbers that were handed out are distinct if and only if every client was
up to date when it inserted. -/
theorem nodup_iff_isolated (base : List Int) {ops : List (Allot τ)} (h : Informed ops) :
    (after base ops).numbers.Nodup ↔ Isolated ops := by
  constructor
  · intro hnodup
    induction ops using List.reverseRecOn with
    | nil => simp [Isolated]
    | append_singleton ops op ih =>
        cases op with
        | read u =>
            rw [numbers_read] at hnodup
            exact isolated_read.mpr (ih (informed_read.mp h) hnodup)
        | insert u =>
            obtain ⟨hinformed, hread⟩ := informed_insert.mp h
            rw [numbers_insert] at hnodup
            have hisolated := ih hinformed hnodup.of_append_left
            refine isolated_insert.mpr ⟨hisolated, ?_⟩
            have hops := consecutive base hisolated
            obtain ⟨k, hk, hheld, hfresh⟩ := hops.held u hread
            rw [hfresh]
            by_contra hne
            -- a stale client holds a number that was handed out before
            have hmem : (after base ops).held u ∈ (after base ops).numbers := by
              rw [hops.numbers, hheld]
              exact List.mem_map.mpr ⟨k, List.mem_range.mpr (by omega), rfl⟩
            exact List.disjoint_of_nodup_append hnodup hmem (by simp)
  · intro hisolated
    rw [(consecutive base hisolated).numbers]
    refine List.nodup_range.map fun a b hab => ?_
    have heq : nextNumber base + (a : Int) = nextNumber base + (b : Int) := hab
    omega

end Allocation

end ControlPlane.Lib
