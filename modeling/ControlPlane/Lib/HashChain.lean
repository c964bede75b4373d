import Mathlib.Data.List.Induction

/-!
Linked sequences. A link takes a head to the next head by one record, and a
chain is a sequence of records linked from a start to a final head. Nothing is
said about digests here: what makes a chain tamper evident is that links can be
followed backwards, that is, a head determines the record and the head before
it, and that no link leads back to the start.

The second condition is what excludes a chain that continues a shorter one
backwards, so chains with one final head have the same length.
-/

namespace ControlPlane.Lib

variable {ρ δ κ : Type}

/-- `Chain Link p rows q`: the records of `rows` lead from head `p` to `q`. -/
def Chain (Link : δ → ρ → δ → Prop) : δ → List ρ → δ → Prop
  | p, [], q => p = q
  | p, r :: rest, q => ∃ m, Link p r m ∧ Chain Link m rest q

namespace Chain

variable {Link : δ → ρ → δ → Prop}

@[simp] theorem nil_iff {p q : δ} : Chain Link p [] q ↔ p = q := Iff.rfl

@[simp] theorem cons_iff {p q : δ} {r : ρ} {rest : List ρ} :
    Chain Link p (r :: rest) q ↔ ∃ m, Link p r m ∧ Chain Link m rest q := Iff.rfl

theorem append_iff {p q : δ} {rows rows' : List ρ} :
    Chain Link p (rows ++ rows') q ↔
      ∃ m, Chain Link p rows m ∧ Chain Link m rows' q := by
  induction rows generalizing p with
  | nil => simp
  | cons r rest ih =>
      simp only [List.cons_append, cons_iff, ih]
      constructor
      · rintro ⟨m, hlink, k, hrest, hrows'⟩
        exact ⟨k, ⟨m, hlink, hrest⟩, hrows'⟩
      · rintro ⟨k, ⟨m, hlink, hrest⟩, hrows'⟩
        exact ⟨m, hlink, k, hrest, hrows'⟩

theorem concat_iff {p q : δ} {r : ρ} {rows : List ρ} :
    Chain Link p (rows ++ [r]) q ↔ ∃ m, Chain Link p rows m ∧ Link m r q := by
  simp [append_iff]

/-- Links that determine what they link and never lead back to `start`, for
the records of two given sequences. -/
structure Backward (Link : δ → ρ → δ → Prop) (start : δ) (content : ρ → κ)
    (rows rows' : List ρ) : Prop where
  fresh : ∀ p, ∀ r ∈ rows ++ rows', ¬ Link p r start
  determined : ∀ p p' q, ∀ r ∈ rows, ∀ r' ∈ rows', Link p r q → Link p' r' q →
    p = p' ∧ content r = content r'

/-- Two chains from the same start to the same head carry the same contents,
record by record. The induction takes the last record off both chains. -/
theorem content_eq_of_head_eq {start q : δ} {content : ρ → κ}
    {rows rows' : List ρ} (hback : Backward Link start content rows rows')
    (h : Chain Link start rows q) (h' : Chain Link start rows' q) :
    rows.map content = rows'.map content := by
  induction rows using List.reverseRecOn generalizing rows' q with
  | nil =>
      cases rows' using List.reverseRecOn with
      | nil => rfl
      | append_singleton rest' r' =>
          obtain ⟨m, _, hlink⟩ := concat_iff.mp h'
          rw [← nil_iff.mp h] at hlink
          exact absurd hlink (hback.fresh m r' (by simp))
  | append_singleton rest r ih =>
      obtain ⟨m, hrest, hlink⟩ := concat_iff.mp h
      cases rows' using List.reverseRecOn with
      | nil =>
          rw [← nil_iff.mp h'] at hlink
          exact absurd hlink (hback.fresh m r (by simp))
      | append_singleton rest' r' =>
          obtain ⟨m', hrest', hlink'⟩ := concat_iff.mp h'
          obtain ⟨rfl, hcontent⟩ := hback.determined m m' q r (by simp) r'
            (by simp) hlink hlink'
          have hback' : Backward Link start content rest rest' :=
            { fresh := fun p x hx => hback.fresh p x (by
                rcases List.mem_append.mp hx with hx | hx <;> simp [hx])
              determined := fun p p' k x hx x' hx' =>
                hback.determined p p' k x (by simp [hx]) x' (by simp [hx']) }
          simp [ih hback' hrest hrest', hcontent]

end Chain

end ControlPlane.Lib
