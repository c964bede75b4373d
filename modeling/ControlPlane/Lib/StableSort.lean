import Mathlib.Data.List.Sort

/-!
Sorting and selecting: the elements that pass a test stand in the sorted list as in the list of
the passing elements, sorted.
-/

namespace ControlPlane.Lib

variable {α : Type} {r : α → α → Prop} [DecidableRel r]

theorem filter_orderedInsert_of_neg {q : α → Bool} {a : α} (ha : q a = false) (l : List α) :
    (l.orderedInsert r a).filter q = l.filter q := by
  induction l with
  | nil =>
      rw [List.orderedInsert_nil, List.filter_cons_of_neg (by simp [ha])]
  | cons b l ih =>
      rw [List.orderedInsert_cons]
      split
      · exact List.filter_cons_of_neg (by simp [ha])
      · rw [List.filter_cons, List.filter_cons, ih]

/-- In a sorted list the new element goes before the same passing elements. -/
theorem filter_orderedInsert_of_pos [IsTrans α r] {q : α → Bool} {a : α} (ha : q a = true)
    {l : List α} (hl : l.Pairwise r) :
    (l.orderedInsert r a).filter q = (l.filter q).orderedInsert r a := by
  induction l with
  | nil => rw [List.orderedInsert_nil, List.filter_cons_of_pos ha]; rfl
  | cons b l ih =>
      have hbl := List.pairwise_cons.mp hl
      rw [List.orderedInsert_cons]
      split
      · next hab =>
          have hall : ∀ c ∈ (b :: l).filter q, r a c := by
            intro c hc
            cases List.mem_of_mem_filter hc with
            | head => exact hab
            | tail _ hmem => exact IsTrans.trans _ _ _ hab (hbl.1 c hmem)
          rw [List.filter_cons_of_pos ha]
          cases hrest : (b :: l).filter q with
          | nil => rfl
          | cons c cs =>
              rw [List.orderedInsert_cons, if_pos (hall c (by rw [hrest]; exact .head _))]
      · next hab =>
          rw [List.filter_cons, List.filter_cons, ih hbl.2]
          split
          · rw [List.orderedInsert_cons, if_neg hab]
          · rfl

theorem filter_insertionSort [IsTrans α r] [Std.Total r] (q : α → Bool) (l : List α) :
    (l.insertionSort r).filter q = (l.filter q).insertionSort r := by
  induction l with
  | nil => rfl
  | cons a l ih =>
      rw [List.insertionSort_cons]
      cases ha : q a with
      | true =>
          rw [filter_orderedInsert_of_pos ha (List.pairwise_insertionSort r l), ih,
            List.filter_cons_of_pos ha, List.insertionSort_cons]
      | false =>
          rw [filter_orderedInsert_of_neg ha, ih, List.filter_cons_of_neg (by simp [ha])]

end ControlPlane.Lib
