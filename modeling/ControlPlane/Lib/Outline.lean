import Mathlib.Algebra.BigOperators.Group.List.Basic
import Mathlib.Algebra.GroupWithZero.Nat
import Mathlib.Data.List.Basic

/-!
The outline of a line-based text: its heading lines, and how many bullet lines follow
each of them. A template writes literal text and data into lines; the data can add
headings or bullets only at the start of a line or after a line break of its own.
-/

namespace ControlPlane.Lib

/-- Which lines are headings and which are bullets. Both are decided by the first line of
what they are asked about. -/
structure Markup (α : Type) where
  newline : α
  heading : List α → Bool
  bullet : List α → Bool
  heading_first : ∀ line rest, heading (line ++ newline :: rest) = heading line
  bullet_first : ∀ line rest, bullet (line ++ newline :: rest) = bullet line

namespace Markup

variable {α : Type} (m : Markup α)

def marked (line : List α) : Bool := m.heading line || m.bullet line

/-- The bullets before the first heading, and each heading with the bullets after it. -/
def outline : List (List α) → Nat × List (List α × Nat)
  | [] => (0, [])
  | line :: rest =>
      let below := outline rest
      if m.heading line then (0, (line, below.1) :: below.2)
      else if m.bullet line then (below.1 + 1, below.2)
      else below

theorem outline_heading {line : List α} {rest : List (List α)} (h : m.heading line = true) :
    m.outline (line :: rest) = (0, (line, (m.outline rest).1) :: (m.outline rest).2) := by
  rw [outline, if_pos h]

theorem outline_bullet {line : List α} {rest : List (List α)} (h : m.heading line = false)
    (h' : m.bullet line = true) :
    m.outline (line :: rest) = ((m.outline rest).1 + 1, (m.outline rest).2) := by
  rw [outline, if_neg (by simp [h]), if_pos h']

theorem outline_plain {line : List α} {rest : List (List α)} (h : m.marked line = false) :
    m.outline (line :: rest) = m.outline rest := by
  unfold marked at h
  rw [Bool.or_eq_false_iff] at h
  rw [outline, if_neg (by simp [h.1]), if_neg (by simp [h.2])]

theorem outline_bullets {lines rest : List (List α)}
    (h : ∀ line ∈ lines, m.heading line = false ∧ m.bullet line = true) :
    m.outline (lines ++ rest) =
      ((m.outline rest).1 + lines.length, (m.outline rest).2) := by
  induction lines with
  | nil => rfl
  | cons line tail ih =>
      obtain ⟨hheading, hbullet⟩ := h line List.mem_cons_self
      have htail := ih fun l hl => h l (List.mem_cons_of_mem _ hl)
      rw [List.cons_append, m.outline_bullet hheading hbullet, htail, List.length_cons,
        Nat.add_assoc]

/-- How many lines an outline accounts for. -/
def size (o : Nat × List (List α × Nat)) : Nat := o.1 + (o.2.map fun s => s.2 + 1).sum

theorem size_outline (lines : List (List α)) :
    size (m.outline lines) = lines.countP m.marked := by
  induction lines with
  | nil => rfl
  | cons line rest ih =>
      rw [List.countP_cons, ← ih]
      cases hheading : m.heading line with
      | true =>
          rw [m.outline_heading hheading]
          simp only [size, marked, hheading, Bool.true_or, if_true, List.map_cons, List.sum_cons]
          omega
      | false =>
          cases hbullet : m.bullet line with
          | true =>
              rw [m.outline_bullet hheading hbullet]
              simp only [size, marked, hbullet, Bool.or_true, if_true]
              omega
          | false =>
              have hplain : m.marked line = false := by simp [marked, hheading, hbullet]
              rw [m.outline_plain hplain, hplain]
              rfl

/-- Lines that are left out change the outline exactly if one of them is marked. -/
theorem outline_filter_iff (lines : List (List α × Bool)) :
    m.outline (lines.map Prod.fst) = m.outline ((lines.filter Prod.snd).map Prod.fst) ↔
      ∀ p ∈ lines, p.2 = false → m.marked p.1 = false := by
  have hsplit : (lines.map Prod.fst).countP m.marked =
      ((lines.filter Prod.snd).map Prod.fst).countP m.marked +
        lines.countP fun p => !p.2 && m.marked p.1 := by
    induction lines with
    | nil => rfl
    | cons p rest ih =>
        obtain ⟨line, genuine⟩ := p
        cases genuine with
        | true =>
            simp only [List.map_cons, List.countP_cons, List.filter_cons_of_pos, ih]
            simp
            omega
        | false =>
            simp only [List.map_cons, List.countP_cons, ih]
            simp
            omega
  constructor
  · intro h p hp hleft
    have hsizes := congrArg size h
    rw [size_outline, size_outline, hsplit] at hsizes
    have hnone : lines.countP (fun p => !p.2 && m.marked p.1) = 0 := by omega
    simpa [hleft] using List.countP_eq_zero.mp hnone p hp
  · intro h
    clear hsplit
    induction lines with
    | nil => rfl
    | cons p rest ih =>
        have hrest := ih fun q hq => h q (List.mem_cons_of_mem _ hq)
        obtain ⟨line, genuine⟩ := p
        cases genuine with
        | true =>
            rw [List.map_cons, List.filter_cons_of_pos rfl, List.map_cons, outline, outline,
              hrest]
        | false =>
            have hplain := h (line, false) List.mem_cons_self rfl
            rw [List.map_cons, m.outline_plain hplain, hrest,
              List.filter_cons_of_neg (by simp)]

section

variable [DecidableEq α]

abbrev lines (text : List α) : List (List α) := text.splitOn m.newline

theorem lines_append (text rest : List α) :
    m.lines (text ++ m.newline :: rest) = m.lines text ++ m.lines rest :=
  List.splitOn_append_cons_self text rest

theorem lines_single {text : List α} (h : m.newline ∉ text) : m.lines text = [text] :=
  List.splitOn_eq_singleton h

theorem lines_join {blocks : List (List α)} (h : blocks ≠ []) :
    m.lines ([m.newline].intercalate blocks) = blocks.flatMap m.lines := by
  induction blocks with
  | nil => exact absurd rfl h
  | cons block rest ih =>
      cases rest with
      | nil => simp
      | cons next rest =>
          rw [List.intercalate_cons_cons, List.append_assoc, List.singleton_append,
            lines_append, ih (List.cons_ne_nil _ _), List.flatMap_cons (x := block)]

/-- Every text is one line, or a line and what follows its line break. -/
theorem exists_first (text : List α) : m.newline ∉ text ∨
    ∃ first rest, m.newline ∉ first ∧ text = first ++ m.newline :: rest := by
  by_cases h : m.newline ∈ text
  · obtain ⟨first, rest, rfl, hfirst⟩ := List.eq_append_cons_of_mem h
    exact Or.inr ⟨first, rest, hfirst, rfl⟩
  · exact Or.inl h

def firstLine (text : List α) : List α := (m.lines text).headD []

theorem firstLine_of_break {first : List α} (h : m.newline ∉ first) (rest : List α) :
    m.lines (first ++ m.newline :: rest) = first :: m.lines rest := by
  rw [lines_append, lines_single m h, List.singleton_append]

theorem lines_eq_cons (text : List α) :
    m.lines text = m.firstLine text :: (m.lines text).tail := by
  unfold firstLine
  cases h : m.lines text with
  | nil => exact absurd h (List.splitOn_ne_nil _ _)
  | cons line rest => rfl

/-- A text is marked as its first line is. -/
theorem heading_firstLine (text : List α) : m.heading (m.firstLine text) = m.heading text := by
  rcases m.exists_first text with h | ⟨first, rest, h, rfl⟩
  · rw [firstLine, lines_single m h, List.headD_cons]
  · rw [firstLine, firstLine_of_break m h, List.headD_cons, m.heading_first]

theorem bullet_firstLine (text : List α) : m.bullet (m.firstLine text) = m.bullet text := by
  rcases m.exists_first text with h | ⟨first, rest, h, rfl⟩
  · rw [firstLine, lines_single m h, List.headD_cons]
  · rw [firstLine, firstLine_of_break m h, List.headD_cons, m.bullet_first]

theorem marked_firstLine (text : List α) : m.marked (m.firstLine text) = m.marked text := by
  unfold marked
  rw [heading_firstLine, bullet_firstLine]

end

/-- A line break of the text is followed, in the text and what comes after it, by a marked
line. -/
def Breaks (text after : List α) : Prop :=
  ∃ before rest, text = before ++ m.newline :: rest ∧ m.marked (rest ++ after) = true

theorem breaks_append (text rest after : List α) :
    m.Breaks (text ++ rest) after ↔ m.Breaks text (rest ++ after) ∨ m.Breaks rest after := by
  constructor
  · rintro ⟨before, tail, heq, hmarked⟩
    rcases List.append_eq_append_iff.mp heq with ⟨mid, rfl, hrest⟩ | ⟨mid, rfl, hmid⟩
    · exact Or.inr ⟨mid, tail, hrest, hmarked⟩
    · cases mid with
      | nil => exact Or.inr ⟨[], tail, by simpa using hmid.symm, hmarked⟩
      | cons c mid =>
          rw [List.cons_append, List.cons.injEq] at hmid
          obtain ⟨rfl, rfl⟩ := hmid
          exact Or.inl ⟨before, mid, rfl, by rw [← List.append_assoc]; exact hmarked⟩
  · rintro (⟨before, tail, rfl, hmarked⟩ | ⟨before, tail, rfl, hmarked⟩)
    · exact ⟨before, tail ++ rest, by simp, by rw [List.append_assoc]; exact hmarked⟩
    · exact ⟨text ++ before, tail, by simp, hmarked⟩

theorem not_breaks {text : List α} (h : m.newline ∉ text) (after : List α) :
    ¬m.Breaks text after := by
  rintro ⟨before, rest, rfl, _⟩
  exact h (by simp)

theorem breaks_newline (rest after : List α) :
    m.Breaks (m.newline :: rest) after ↔
      m.marked (rest ++ after) = true ∨ m.Breaks rest after := by
  constructor
  · rintro ⟨before, tail, heq, hmarked⟩
    cases before with
    | nil =>
        rw [List.nil_append, List.cons.injEq] at heq
        obtain ⟨_, rfl⟩ := heq
        exact Or.inl hmarked
    | cons c before =>
        rw [List.cons_append, List.cons.injEq] at heq
        exact Or.inr ⟨before, tail, heq.2, hmarked⟩
  · rintro (hmarked | ⟨before, tail, rfl, hmarked⟩)
    · exact ⟨[], rest, rfl, hmarked⟩
    · exact ⟨m.newline :: before, tail, rfl, hmarked⟩

/-- The lines after the first one are unmarked exactly if no line break is followed by a
marked line. -/
theorem tail_unmarked_iff [DecidableEq α] (text : List α) :
    (∀ line ∈ (m.lines text).tail, m.marked line = false) ↔ ¬m.Breaks text [] := by
  induction hn : text.length using Nat.strongRecOn generalizing text with
  | ind n ih =>
      rcases m.exists_first text with h | ⟨first, rest, h, rfl⟩
      · rw [lines_single m h]
        exact iff_of_true (by simp) (m.not_breaks h [])
      · have hrest := ih rest.length (by simp at hn; omega) rest rfl
        rw [firstLine_of_break m h, List.tail_cons, lines_eq_cons, List.forall_mem_cons, hrest,
          marked_firstLine, breaks_append, breaks_newline, List.append_nil, List.append_nil,
          not_or, not_or, Bool.not_eq_true]
        have hfirst := m.not_breaks h (m.newline :: rest)
        tauto

/-- A piece of a line: text of the template, without line breaks, or data. -/
inductive Piece where
  | lit (text : List α) (h : m.newline ∉ text)
  | data (text : List α)

def Piece.text {m : Markup α} : Piece m → List α
  | .lit text _ => text
  | .data text => text

def lineText {m : Markup α} (line : List (Piece m)) : List α := line.flatMap Piece.text

/-- The line starts with text of the template. -/
def Genuine {m : Markup α} : List (Piece m) → Bool
  | .lit _ _ :: _ => true
  | _ => false

/-- Data of the line starts a marked line: at the start of the line, if the line starts
with it, or after a line break. -/
def Forged {m : Markup α} (fresh : Bool) : List (Piece m) → Prop
  | [] => False
  | .lit _ _ :: rest => Forged false rest
  | .data text :: rest =>
      (fresh = true ∧ m.marked (text ++ lineText rest) = true) ∨
        m.Breaks text (lineText rest) ∨ Forged false rest

variable {m}

theorem forged_later (line : List (Piece m)) :
    Forged false line ↔ m.Breaks (lineText line) [] := by
  induction line with
  | nil => exact iff_of_false id (m.not_breaks (by simp [lineText]) [])
  | cons piece rest ih =>
      have htext : lineText (piece :: rest) = piece.text ++ lineText rest := List.flatMap_cons
      rw [htext, breaks_append, ← ih, List.append_nil]
      cases piece with
      | lit text h =>
          have hlit := m.not_breaks h (lineText rest)
          simp only [Forged, Piece.text]
          tauto
      | data text =>
          simp only [Forged, Piece.text, Bool.false_eq_true, false_and, false_or]

theorem forged_iff (line : List (Piece m)) (hmarked : m.marked [] = false) :
    Forged true line ↔
      (Genuine line = false ∧ m.marked (lineText line) = true) ∨
        m.Breaks (lineText line) [] := by
  rw [← forged_later]
  cases line with
  | nil => simp [Forged, lineText, hmarked]
  | cons piece rest =>
      cases piece with
      | lit text h => simp [Forged, Genuine]
      | data text => simp [Forged, Genuine, lineText, Piece.text]

section

variable [DecidableEq α]

/-- The lines that a line of the template becomes, with the ones it is responsible for. -/
def produced (line : List (Piece m)) : List (List α × Bool) :=
  (m.firstLine (lineText line), Genuine line) ::
    (m.lines (lineText line)).tail.map fun l => (l, false)

theorem produced_lines (line : List (Piece m)) :
    (produced line).map Prod.fst = m.lines (lineText line) := by
  rw [lines_eq_cons m (lineText line), produced, List.map_cons, List.map_map]
  congr 1
  exact List.map_id _

theorem produced_unmarked_iff (line : List (Piece m)) (hmarked : m.marked [] = false) :
    (∀ p ∈ produced line, p.2 = false → m.marked p.1 = false) ↔ ¬Forged true line := by
  rw [forged_iff line hmarked, produced, List.forall_mem_cons, marked_firstLine,
    List.forall_mem_map]
  simp only [forall_const, tail_unmarked_iff]
  cases Genuine line with
  | true => simp
  | false => simp

/-- The first lines of the lines that start with text of the template. -/
def skeleton (report : List (List (Piece m))) : List (List α) :=
  (report.filter Genuine).map fun line => m.firstLine (lineText line)

theorem skeleton_eq (report : List (List (Piece m))) :
    ((report.flatMap produced).filter Prod.snd).map Prod.fst = skeleton report := by
  induction report with
  | nil => rfl
  | cons line rest ih =>
      rw [List.flatMap_cons, List.filter_append, List.map_append, ih, skeleton, skeleton]
      have hcontinued : ((m.lines (lineText line)).tail.map fun l => (l, false)).filter
          Prod.snd = [] := by
        rw [List.filter_eq_nil_iff, List.forall_mem_map]
        simp
      rw [produced, List.filter_cons, hcontinued]
      cases hgenuine : Genuine line with
      | true => simp [hgenuine]
      | false => simp [hgenuine]

/-- A report has the outline of its template exactly if no data forges a line. -/
theorem outline_report_iff {report : List (List (Piece m))} (hne : report ≠ [])
    (hmarked : m.marked [] = false) :
    m.outline (m.lines ([m.newline].intercalate (report.map lineText))) =
        m.outline (skeleton report) ↔
      ∀ line ∈ report, ¬Forged true line := by
  have hlines : m.lines ([m.newline].intercalate (report.map lineText)) =
      (report.flatMap produced).map Prod.fst := by
    rw [lines_join m (by simpa using hne), List.flatMap_map, List.map_flatMap]
    simp only [produced_lines]
  rw [hlines, ← skeleton_eq, outline_filter_iff]
  simp only [List.mem_flatMap, forall_exists_index, and_imp]
  constructor
  · intro h line hline
    exact (produced_unmarked_iff line hmarked).mp fun p hp => h p line hline hp
  · intro h p line hline hp
    exact (produced_unmarked_iff line hmarked).mpr (h line hline) p hp

end

end Markup

end ControlPlane.Lib
