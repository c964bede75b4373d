import Mathlib.Tactic.IntervalCases

/-!
The part of Python's `datetime` that a canonical timestamp depends on: values
with and without an offset, the shift to UTC and its overflow, the day-to-date
computation of the standard library, and the ISO text. Two aware values have
the same UTC text exactly when they denote the same instant.

A value is stored as the ordinal of its day and the microsecond within it;
year, month and day are computed where the text is written.
-/

namespace ControlPlane.Lib

/-- `'%0wd' % n` for `n < 10 ^ w`. -/
def digits : Nat → Nat → List Char
  | 0, _ => []
  | w + 1, n => digits w (n / 10) ++ [Nat.digitChar (n % 10)]

def readDigits (cs : List Char) : Nat :=
  cs.foldl (fun n c => 10 * n + (c.toNat - 48)) 0

@[simp] theorem length_digits (w n : Nat) : (digits w n).length = w := by
  induction w generalizing n with
  | zero => rfl
  | succ w ih => simp [digits, ih]

theorem digitChar_toNat {n : Nat} (h : n < 10) :
    (Nat.digitChar n).toNat - 48 = n := by
  revert n
  decide

theorem readDigits_digits {w n : Nat} (h : n < 10 ^ w) :
    readDigits (digits w n) = n := by
  induction w generalizing n with
  | zero =>
      have hn : n = 0 := by simpa using h
      rw [hn]
      rfl
  | succ w ih =>
      have hlt : n / 10 < 10 ^ w := by
        rw [Nat.div_lt_iff_lt_mul (by decide), ← pow_succ]
        exact h
      have hrest := ih hlt
      unfold readDigits at hrest ⊢
      rw [digits, List.foldl_append, hrest]
      simp only [List.foldl_cons, List.foldl_nil,
        digitChar_toNat (Nat.mod_lt n (by decide))]
      omega

theorem digits_append_inj {w n m : Nat} {s t : List Char} (hn : n < 10 ^ w)
    (hm : m < 10 ^ w) (h : digits w n ++ s = digits w m ++ t) :
    n = m ∧ s = t := by
  obtain ⟨hdigits, hrest⟩ := List.append_inj h (by simp)
  refine ⟨?_, hrest⟩
  rw [← readDigits_digits hn, hdigits, readDigits_digits hm]

/-- `date.max.toordinal()`. -/
def maxOrdinal : Nat := 3652059

def daysBeforeMonth (month : Nat) : Nat :=
  [0, 0, 31, 59, 90, 120, 151, 181, 212, 243, 273, 304, 334].getD month 0

def daysInMonth (month : Nat) : Nat :=
  [0, 31, 28, 31, 30, 31, 30, 31, 31, 30, 31, 30, 31].getD month 0

/-- Month and day of the `n`-th day of a year, counted from zero: an estimate
that is exact or one too large, as in `_ord2ymd`. -/
def monthDay (leap : Bool) (n : Nat) : Nat × Nat :=
  let month := (n + 50) / 32
  let preceding := daysBeforeMonth month + (if 2 < month ∧ leap then 1 else 0)
  if n < preceding then
    let month := month - 1
    let preceding :=
      preceding - (daysInMonth month + (if month = 2 ∧ leap then 1 else 0))
    (month, n - preceding + 1)
  else (month, n - preceding + 1)

/-- Year, month and day of an ordinal (`_ord2ymd`). -/
def ord2ymd (n : Nat) : Nat × Nat × Nat :=
  let n := n - 1
  let n400 := n / 146097
  let n := n % 146097
  let n100 := n / 36524
  let n := n % 36524
  let n4 := n / 1461
  let n := n % 1461
  let n1 := n / 365
  let n := n % 365
  let year := n400 * 400 + 1 + n100 * 100 + n4 * 4 + n1
  if n1 = 4 ∨ n100 = 4 then (year - 1, 12, 31)
  else
    let leap := decide (n1 = 3 ∧ (n4 ≠ 24 ∨ n100 = 3))
    (year, monthDay leap n)

def isLeap (year : Nat) : Bool :=
  year % 4 = 0 ∧ (year % 100 ≠ 0 ∨ year % 400 = 0)

def daysBeforeYear (year : Nat) : Nat :=
  (year - 1) * 365 + (year - 1) / 4 - (year - 1) / 100 + (year - 1) / 400

/-- The ordinal of a date (`_ymd2ord`). -/
def ymd2ord (date : Nat × Nat × Nat) : Nat :=
  daysBeforeYear date.1 + (daysBeforeMonth date.2.1 +
    (if 2 < date.2.1 ∧ isLeap date.1 then 1 else 0)) + date.2.2

/-- Day 366 of a leap year is no case of its own here: `ord2ymd` writes the
last day of a leap year separately. -/
theorem monthDay_spec (leap : Bool) {n : Nat} (h : n < 365) :
    daysBeforeMonth (monthDay leap n).1 +
        (if 2 < (monthDay leap n).1 ∧ leap then 1 else 0) +
          (monthDay leap n).2 = n + 1 ∧
      (monthDay leap n).1 < 100 ∧ (monthDay leap n).2 < 100 := by
  have hall : ∀ leap : Bool, ∀ n < 365,
      daysBeforeMonth (monthDay leap n).1 +
          (if 2 < (monthDay leap n).1 ∧ leap then 1 else 0) +
            (monthDay leap n).2 = n + 1 ∧
        (monthDay leap n).1 < 100 ∧ (monthDay leap n).2 < 100 := by
    decide +kernel
  exact hall leap n h

/-- Days before a year, by its place in the cycles of 400, 100 and 4 years. -/
theorem daysBeforeYear_cycles {a b c d : Nat} (hb : b < 4) (hc : c < 25)
    (hd : d < 4) : daysBeforeYear (a * 400 + 1 + b * 100 + c * 4 + d) =
      a * 146097 + b * 36524 + c * 1461 + d * 365 := by
  unfold daysBeforeYear
  omega

theorem isLeap_cycles {a b c d : Nat} (hb : b < 4) (hc : c < 25) (hd : d < 4) :
    isLeap (a * 400 + 1 + b * 100 + c * 4 + d) =
      decide (d = 3 ∧ (c ≠ 24 ∨ b = 3)) := by
  unfold isLeap
  apply decide_eq_decide.mpr
  omega

/-- The last day of a leap year. -/
theorem ymd2ord_last {a b c : Nat} (hb : b < 4) (hc : c < 25)
    (hleap : c ≠ 24 ∨ b = 3) :
    ymd2ord (a * 400 + 1 + b * 100 + c * 4 + 3, 12, 31) =
      a * 146097 + b * 36524 + c * 1461 + 1461 := by
  have hdays := daysBeforeYear_cycles (a := a) hb hc (by decide : 3 < 4)
  have hyear : isLeap (a * 400 + 1 + b * 100 + c * 4 + 3) = true := by
    rw [isLeap_cycles hb hc (by decide)]
    simpa using hleap
  simp only [ymd2ord, hdays, hyear, daysBeforeMonth]
  simp

/-- The computed date has the ordinal it was computed from, and its fields fit
the text up to year 9999. -/
theorem ymd2ord_ord2ymd {n : Nat} (hpos : 0 < n) (hmax : n ≤ maxOrdinal) :
    ymd2ord (ord2ymd n) = n ∧ (ord2ymd n).1 < 10000 ∧
      (ord2ymd n).2.1 < 100 ∧ (ord2ymd n).2.2 < 100 := by
  unfold maxOrdinal at hmax
  obtain ⟨a, r, hr, hn⟩ : ∃ a r, r < 146097 ∧ n = a * 146097 + r + 1 :=
    ⟨(n - 1) / 146097, (n - 1) % 146097, by omega, by omega⟩
  obtain ⟨b, r', hr', hr'eq⟩ : ∃ b r', r' < 36524 ∧ r = b * 36524 + r' :=
    ⟨r / 36524, r % 36524, by omega, by omega⟩
  obtain ⟨c, r'', hr'', hr''eq⟩ : ∃ c r'', r'' < 1461 ∧ r' = c * 1461 + r'' :=
    ⟨r' / 1461, r' % 1461, by omega, by omega⟩
  obtain ⟨d, m, hm, hmeq⟩ : ∃ d m, m < 365 ∧ r'' = d * 365 + m :=
    ⟨r'' / 365, r'' % 365, by omega, by omega⟩
  have h400 : (n - 1) / 146097 = a := by omega
  have hrest : (n - 1) % 146097 = r := by omega
  have h100 : r / 36524 = b := by omega
  have hrest' : r % 36524 = r' := by omega
  have h4 : r' / 1461 = c := by omega
  have hrest'' : r' % 1461 = r'' := by omega
  have h1 : r'' / 365 = d := by omega
  have hday : r'' % 365 = m := by omega
  have hc : c < 25 := by omega
  simp only [ord2ymd, h400, hrest, h100, hrest', h4, hrest'', h1, hday]
  split_ifs with hlast
  · rcases hlast with hd | hb
    · -- day 366 of a leap year within its cycle of four
      have hb : b < 4 := by omega
      have hyear : a * 400 + 1 + b * 100 + c * 4 + d - 1 =
          a * 400 + 1 + b * 100 + c * 4 + 3 := by omega
      rw [hyear, ymd2ord_last hb hc (by omega)]
      exact ⟨by omega, by omega, by simp, by simp⟩
    · -- the last day of a cycle of 400 years
      have hyear : a * 400 + 1 + b * 100 + c * 4 + d - 1 =
          a * 400 + 1 + 3 * 100 + 24 * 4 + 3 := by omega
      rw [hyear, ymd2ord_last (b := 3) (c := 24) (by decide) (by decide)
        (Or.inr rfl)]
      exact ⟨by omega, by omega, by simp, by simp⟩
  · have hb : b < 4 := by omega
    have hd : d < 4 := by omega
    obtain ⟨hspec, hmonth, hdayLt⟩ :=
      monthDay_spec (decide (d = 3 ∧ (c ≠ 24 ∨ b = 3))) hm
    refine ⟨?_, by omega, hmonth, hdayLt⟩
    simp only [ymd2ord, daysBeforeYear_cycles hb hc hd, isLeap_cycles hb hc hd]
    omega

def microsPerDay : Nat := 86400000000

theorem microsPerDay_pos : 0 < microsPerDay := by decide

/-- A calendar day with a time of day: a naive `datetime`. -/
structure Moment where
  day : Nat
  micros : Nat
  day_pos : 0 < day
  day_le : day ≤ maxOrdinal
  micros_lt : micros < microsPerDay
  deriving DecidableEq, Repr

namespace Moment

/-- Microseconds since the day before 0001-01-01. -/
def wall (m : Moment) : Int := m.day * microsPerDay + m.micros

theorem wall_inj {m n : Moment} (h : m.wall = n.wall) : m = n := by
  have hm := m.micros_lt
  have hn := n.micros_lt
  cases m
  cases n
  simp only [wall, microsPerDay] at h hm hn
  rw [Moment.mk.injEq]
  omega

/-- The moment at a wall-clock reading; `none` is the `OverflowError` outside
the years 1 to 9999. -/
def ofWall (w : Int) : Option Moment :=
  if h : 0 < w / microsPerDay ∧ w / microsPerDay ≤ maxOrdinal then
    some {
      day := (w / microsPerDay).toNat
      micros := (w % microsPerDay).toNat
      day_pos := by omega
      day_le := by omega
      micros_lt := by
        have := Int.emod_lt_of_pos w (by decide : (0 : Int) < microsPerDay)
        have := Int.emod_nonneg w (by decide : (microsPerDay : Int) ≠ 0)
        omega }
  else none

theorem wall_ofWall {w : Int} {m : Moment} (h : ofWall w = some m) :
    m.wall = w := by
  unfold ofWall at h
  split at h
  · cases h
    simp only [wall]
    have hpos := Int.emod_nonneg w (by decide : (microsPerDay : Int) ≠ 0)
    have hsum := Int.mul_ediv_add_emod w microsPerDay
    rw [Int.toNat_of_nonneg (by omega), Int.toNat_of_nonneg hpos, Int.mul_comm]
    exact hsum
  · cases h

theorem ofWall_wall (m : Moment) : ofWall m.wall = some m := by
  have hdiv : m.wall / microsPerDay = m.day := by
    have := m.micros_lt
    simp only [wall, microsPerDay] at *
    omega
  cases hm : ofWall m.wall with
  | some n => rw [wall_inj (wall_ofWall hm)]
  | none =>
      unfold ofWall at hm
      rw [dif_pos] at hm
      · cases hm
      · have := m.day_pos
        have := m.day_le
        omega

/-- `isoformat()` without the offset: microseconds are written unless zero. -/
def isoText (m : Moment) : List Char :=
  let (year, month, day) := ord2ymd m.day
  let second := m.micros / 1000000
  digits 4 year ++ '-' :: (digits 2 month ++ '-' :: (digits 2 day ++ 'T' ::
    (digits 2 (second / 3600) ++ ':' :: (digits 2 (second / 60 % 60) ++ ':' ::
      (digits 2 (second % 60) ++
        (if m.micros % 1000000 = 0 then []
          else '.' :: digits 6 (m.micros % 1000000)))))))

/-- The text determines the moment. What follows it may not start with a digit
or a point; the offset `+00:00` does not. -/
theorem isoText_inj {m n : Moment} {s : List Char}
    (hs : ∀ t, s ≠ '.' :: t) (h : m.isoText ++ s = n.isoText ++ s) : m = n := by
  obtain ⟨hord, hyear, hmonth, hday⟩ := ymd2ord_ord2ymd m.day_pos m.day_le
  obtain ⟨hord', hyear', hmonth', hday'⟩ := ymd2ord_ord2ymd n.day_pos n.day_le
  have hmicros := m.micros_lt
  have hmicros' := n.micros_lt
  simp only [microsPerDay] at hmicros hmicros'
  simp only [isoText, List.append_assoc, List.cons_append] at h
  obtain ⟨hy, h⟩ := digits_append_inj hyear hyear' h
  obtain ⟨hmo, h⟩ := digits_append_inj hmonth hmonth' (List.cons.inj h).2
  obtain ⟨hd, h⟩ := digits_append_inj hday hday' (List.cons.inj h).2
  obtain ⟨hh, h⟩ := digits_append_inj (by omega) (by omega) (List.cons.inj h).2
  obtain ⟨hmi, h⟩ := digits_append_inj (by omega) (by omega) (List.cons.inj h).2
  obtain ⟨hse, h⟩ := digits_append_inj (by omega) (by omega) (List.cons.inj h).2
  have hsub : m.micros % 1000000 = n.micros % 1000000 := by
    split_ifs at h with hm hn hn
    · rw [hm, hn]
    · exact absurd h (hs _)
    · exact absurd h.symm (hs _)
    · simp only [List.cons_append] at h
      exact (digits_append_inj (by omega) (by omega) (List.cons.inj h).2).1
  have hdate : ord2ymd m.day = ord2ymd n.day := Prod.ext hy (Prod.ext hmo hd)
  apply wall_inj
  simp only [wall, microsPerDay]
  rw [hdate] at hord
  omega

end Moment

/-- A `datetime`: naive, or aware with the offset in microseconds. -/
structure Datetime where
  moment : Moment
  offset : Option Int
  deriving DecidableEq, Repr

namespace Datetime

/-- What `datetime.now(timezone.utc)` returns at a moment. -/
def utc (m : Moment) : Datetime where
  moment := m
  offset := some 0

/-- The instant denoted, with a naive value read as UTC. -/
def instant (d : Datetime) : Int := d.moment.wall - d.offset.getD 0

@[simp] theorem instant_utc (m : Moment) : (utc m).instant = m.wall := by
  simp [instant, utc]

/-- The value without its offset, as a column without time zone keeps it. -/
def naive (d : Datetime) : Datetime where
  moment := d.moment
  offset := none

theorem instant_naive_utc (m : Moment) : (utc m).naive.instant = m.wall := by
  simp [instant, utc, naive]

/-- `astimezone(timezone.utc)`, which may leave the range of years. -/
def astimezoneUtc (d : Datetime) : Option Moment := Moment.ofWall d.instant

theorem astimezoneUtc_utc (m : Moment) : (utc m).astimezoneUtc = some m := by
  rw [astimezoneUtc, instant_utc, Moment.ofWall_wall]

/-- `astimezone(timezone.utc).isoformat()`. Irreducible, so that no proof
about a program that hashes a timestamp computes with a symbolic date. -/
@[irreducible] def utcText (d : Datetime) : Option String :=
  d.astimezoneUtc.map fun m => String.ofList (m.isoText ++ "+00:00".toList)

theorem utcText_utc (m : Moment) : ∃ text, (utc m).utcText = some text := by
  rw [utcText, astimezoneUtc_utc]
  exact ⟨_, rfl⟩

theorem utcText_congr {d e : Datetime} (h : d.instant = e.instant) :
    d.utcText = e.utcText := by
  rw [utcText, utcText, astimezoneUtc, astimezoneUtc, h]

theorem instant_of_utcText {d e : Datetime} {s : String}
    (hd : d.utcText = some s) (he : e.utcText = some s) :
    d.instant = e.instant := by
  unfold utcText at hd he
  obtain ⟨m, hm, rfl⟩ := Option.map_eq_some_iff.mp hd
  obtain ⟨n, hn, htext⟩ := Option.map_eq_some_iff.mp he
  have hmn : n = m := by
    apply Moment.isoText_inj _ (String.ofList_injective htext)
    intro t ht
    cases ht
  rw [← Moment.wall_ofWall hm, ← Moment.wall_ofWall hn, hmn]

/-- The offset as `isoformat` writes it: seconds and microseconds only if there
are any. -/
def offsetText (offset : Int) : List Char :=
  let micros := offset.natAbs
  let second := micros / 1000000
  (if offset < 0 then '-' else '+') ::
    (digits 2 (second / 3600) ++ ':' :: (digits 2 (second / 60 % 60) ++
      (if micros % 60000000 = 0 then []
        else ':' :: (digits 2 (second % 60) ++
          (if micros % 1000000 = 0 then []
            else '.' :: digits 6 (micros % 1000000))))))

def isoformat (d : Datetime) : String :=
  String.ofList (d.moment.isoText ++ (d.offset.map offsetText).getD [])

end Datetime

/-- `start + timedelta(days=days)`, with what it was computed from. -/
structure Expiry where
  start : Moment
  days : Int
  moment : Moment
  wall_moment : moment.wall = start.wall + days * microsPerDay

/-- `none` is the `OverflowError`. -/
def Moment.plusDays (start : Moment) (days : Int) : Option Expiry :=
  match h : Moment.ofWall (start.wall + days * microsPerDay) with
  | none => none
  | some moment => some { start, days, moment, wall_moment := Moment.wall_ofWall h }

theorem Moment.plusDays_eq_some {start : Moment} {days : Int} {e : Expiry}
    (h : start.plusDays days = some e) : e.start = start ∧ e.days = days := by
  unfold Moment.plusDays at h
  split at h
  · cases h
  · cases h
    exact ⟨rfl, rfl⟩

end ControlPlane.Lib
