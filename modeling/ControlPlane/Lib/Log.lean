import Mathlib.Data.List.Basic

/-!
Logs of events in which a resource is acquired and released. A log is separated
when between any two acquisitions there is a release, and open when the last
acquisition has not been released yet. Both are determined by the log up to the
last event, which is what an induction over a run needs.
-/

namespace ControlPlane.Lib.Log

variable {ε : Type} (acquire release : ε → Prop)

def Separated (log : List ε) : Prop :=
  ∀ before x between y after, log = before ++ x :: (between ++ y :: after) →
    acquire x → acquire y → ∃ r ∈ between, release r

def Open (log : List ε) : Prop :=
  ∃ before x after, log = before ++ x :: after ∧ acquire x ∧
    ∀ r ∈ after, ¬ release r

variable {acquire release} {log : List ε} {x : ε}

theorem separated_nil : Separated acquire release [] := by
  intro before x between y after h
  simp at h

theorem not_open_nil : ¬ Open acquire release [] := by
  rintro ⟨before, x, after, h, _⟩
  simp at h

/-- Where the last event of a log lies in a decomposition of it. -/
theorem concat_eq_append_cons {before after : List ε} {y : ε}
    (h : log ++ [x] = before ++ y :: after) :
    (log = before ∧ x = y ∧ after = []) ∨
      ∃ rest, after = rest ++ [x] ∧ log = before ++ y :: rest := by
  rcases List.eq_nil_or_concat' after with rfl | ⟨rest, z, rfl⟩
  · obtain ⟨rfl, hxy⟩ := List.append_inj' h rfl
    exact Or.inl ⟨rfl, by simpa using hxy, rfl⟩
  · rw [← List.cons_append, ← List.append_assoc] at h
    obtain ⟨hlog, hx⟩ := List.append_inj' h rfl
    cases hx
    exact Or.inr ⟨rest, rfl, hlog⟩

theorem open_concat : Open acquire release (log ++ [x]) ↔
    acquire x ∨ (Open acquire release log ∧ ¬ release x) := by
  constructor
  · rintro ⟨before, y, after, h, hy, hafter⟩
    rcases concat_eq_append_cons h with ⟨_, rfl, _⟩ | ⟨rest, rfl, rfl⟩
    · exact Or.inl hy
    · refine Or.inr ⟨⟨before, y, rest, rfl, hy, ?_⟩, hafter x (by simp)⟩
      intro r hr
      exact hafter r (List.mem_append_left _ hr)
  · rintro (hx | ⟨⟨before, y, after, rfl, hy, hafter⟩, hx⟩)
    · exact ⟨log, x, [], rfl, hx, by simp⟩
    · refine ⟨before, y, after ++ [x], by simp, hy, ?_⟩
      intro r hr
      rcases List.mem_append.mp hr with hr | hr
      · exact hafter r hr
      · rw [List.mem_singleton.mp hr]
        exact hx

/-- A log stays separated when it is closed before the next acquisition. -/
theorem separated_concat (h : Separated acquire release log)
    (hx : acquire x → ¬ Open acquire release log) :
    Separated acquire release (log ++ [x]) := by
  intro before y between z after heq hy hz
  rw [← List.cons_append, ← List.append_assoc] at heq
  rcases concat_eq_append_cons heq with ⟨hlog, rfl, _⟩ | ⟨rest, rfl, hlog⟩
  · by_contra hnone
    refine hx hz ⟨before, y, between, hlog, hy, ?_⟩
    intro r hr hrelease
    exact hnone ⟨r, hr, hrelease⟩
  · exact h before y between z rest (by simpa using hlog) hy hz

end ControlPlane.Lib.Log
