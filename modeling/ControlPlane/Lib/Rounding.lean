import Mathlib.Algebra.Order.Field.Basic
import Mathlib.Tactic.Linarith
import Mathlib.Algebra.Ring.Int.Parity

/-!
Rounding to the nearest integer, halves to the even neighbour, as a relation
between a number of an ordered field and an integer.
-/

namespace ControlPlane.Lib

section

variable {α : Type} [Field α] [LinearOrder α] [IsStrictOrderedRing α]

/-- `q` is a nearest integer of `x`, and the even one of two. -/
structure RoundsTo (x : α) (q : Int) : Prop where
  lower : (q : α) ≤ x + 1 / 2
  upper : x ≤ q + 1 / 2
  evenBelow : x = q + 1 / 2 → Even q
  evenAbove : (q : α) = x + 1 / 2 → Even q

namespace RoundsTo

/-- A larger number is not rounded to a smaller integer: two integers that cross
are neighbours with `x = y` half way between them, and not both are even. -/
theorem mono {x y : α} {q r : Int} (hx : RoundsTo x q) (hy : RoundsTo y r)
    (hle : x ≤ y) : q ≤ r := by
  by_contra hlt
  have hstep : r + 1 ≤ q := by omega
  have hcast : (r : α) + 1 ≤ q := by exact_mod_cast hstep
  have hq := hx.lower
  have hr := hy.upper
  have hbelow : y = r + 1 / 2 := by linarith
  have habove : (q : α) = x + 1 / 2 := by linarith
  have hnext : (q : α) = r + 1 := by linarith
  have hq' : q = r + 1 := by exact_mod_cast hnext
  have hqe := hx.evenAbove habove
  have hre := hy.evenBelow hbelow
  rw [hq'] at hqe
  exact (Int.even_add_one.mp hqe) hre

theorem unique {x : α} {q r : Int} (hq : RoundsTo x q) (hr : RoundsTo x r) : q = r :=
  le_antisymm (hq.mono hr le_rfl) (hr.mono hq le_rfl)

theorem intCast (q : Int) : RoundsTo (q : α) q where
  lower := by linarith
  upper := by linarith
  evenBelow h := by linarith
  evenAbove h := by linarith

theorem le_intCast {x : α} {q n : Int} (h : RoundsTo x q) (hx : x ≤ n) : q ≤ n :=
  h.mono (intCast n) hx

end RoundsTo

/-- Rounding of a quotient of natural numbers, without division. -/
theorem roundsTo_div_iff {n d q : Nat} (hd : 0 < d) :
    RoundsTo ((n : α) / d) q ↔
      2 * (d * q) ≤ 2 * n + d ∧ 2 * n ≤ 2 * (d * q) + d ∧
        (2 * n = 2 * (d * q) + d → q % 2 = 0) ∧ (2 * (d * q) = 2 * n + d → q % 2 = 0) := by
  have hpos : (0 : α) < d := by exact_mod_cast hd
  have hlower : ((q : Int) : α) ≤ (n : α) / d + 1 / 2 ↔ 2 * (d * q) ≤ 2 * n + d := by
    rw [← sub_le_iff_le_add, le_div_iff₀ hpos, ← Nat.cast_le (α := α)]
    push_cast
    constructor <;> intro h <;> linarith
  have hupper : (n : α) / d ≤ ((q : Int) : α) + 1 / 2 ↔ 2 * n ≤ 2 * (d * q) + d := by
    rw [div_le_iff₀ hpos, ← Nat.cast_le (α := α)]
    push_cast
    constructor <;> intro h <;> linarith
  have hbelow : (n : α) / d = ((q : Int) : α) + 1 / 2 ↔ 2 * n = 2 * (d * q) + d := by
    rw [div_eq_iff hpos.ne', ← Nat.cast_inj (R := α)]
    push_cast
    constructor <;> intro h <;> linarith
  have habove : ((q : Int) : α) = (n : α) / d + 1 / 2 ↔ 2 * (d * q) = 2 * n + d := by
    rw [← sub_eq_iff_eq_add, eq_div_iff hpos.ne', ← Nat.cast_inj (R := α)]
    push_cast
    constructor <;> intro h <;> linarith
  have heven : Even (q : Int) ↔ q % 2 = 0 := by rw [Int.even_coe_nat, Nat.even_iff]
  constructor
  · intro h
    exact ⟨hlower.mp h.lower, hupper.mp h.upper, fun ht => heven.mp (h.evenBelow (hbelow.mpr ht)),
      fun ht => heven.mp (h.evenAbove (habove.mpr ht))⟩
  · rintro ⟨hl, hu, hb, ha⟩
    exact ⟨hlower.mpr hl, hupper.mpr hu, fun ht => heven.mpr (hb (hbelow.mp ht)),
      fun ht => heven.mpr (ha (habove.mp ht))⟩

end

end ControlPlane.Lib
