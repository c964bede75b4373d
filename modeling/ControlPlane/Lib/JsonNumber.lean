import ControlPlane.Lib.Json
import Mathlib.Algebra.Group.Nat.Defs

/-!
The numbers of `json.loads`: the longest text of the form
`-?(0|[1-9][0-9]*)(\.[0-9]+)?([eE][-+]?[0-9]+)?` at the head of a document. It
is an integer when neither a fraction nor an exponent was read, and otherwise
a float, whose text is handed to `float`.
-/

namespace ControlPlane.Lib.JsonNumber

/-- The digits at the head of a text, and what follows them. -/
def scanDigits (s : List Char) : List Char × List Char :=
  (s.takeWhile Char.isDigit, s.dropWhile Char.isDigit)

def scanWhole (s : List Char) : Option (List Char × List Char) :=
  match s with
  | '0' :: rest => some (['0'], rest)
  | _ => match scanDigits s with
    | ([], _) => none
    | (digits, rest) => some (digits, rest)

/-- A point without a digit after it is not read. -/
def scanFraction (s : List Char) : List Char × List Char :=
  match s with
  | '.' :: rest => match scanDigits rest with
    | ([], _) => ([], s)
    | (digits, rest') => ('.' :: digits, rest')
  | _ => ([], s)

def scanSign (s : List Char) : List Char × List Char :=
  match s with
  | '+' :: rest => (['+'], rest)
  | '-' :: rest => (['-'], rest)
  | _ => ([], s)

/-- An `e` without a digit after it and its sign is not read. -/
def scanExponent (s : List Char) : List Char × List Char :=
  match s with
  | [] => ([], s)
  | mark :: rest =>
      if mark = 'e' ∨ mark = 'E' then
        let (sign, rest') := scanSign rest
        match scanDigits rest' with
        | ([], _) => ([], s)
        | (digits, rest'') => (mark :: (sign ++ digits), rest'')
      else ([], s)

def scanMinus (s : List Char) : Bool × List Char :=
  match s with
  | '-' :: rest => (true, rest)
  | _ => (false, s)

/-- What was read of a number: the sign, the integer part, and the fraction and
exponent, empty for an integer. -/
structure Parts where
  negative : Bool
  whole : List Char
  tail : List Char
  deriving DecidableEq, Repr

def Parts.text (p : Parts) : List Char :=
  (if p.negative then ['-'] else []) ++ (p.whole ++ p.tail)

def scan (s : List Char) : Option (Parts × List Char) :=
  let (negative, s₀) := scanMinus s
  (scanWhole s₀).map fun (whole, s₁) =>
    let (fraction, s₂) := scanFraction s₁
    let (exponent, s₃) := scanExponent s₂
    ({ negative, whole, tail := fraction ++ exponent }, s₃)

/-- The value of an integer literal. -/
def Parts.value (p : Parts) : Int :=
  if p.negative then -(Nat.ofDigitChars 10 p.whole 0 : Int)
  else Nat.ofDigitChars 10 p.whole 0

def IsDigits (ds : List Char) : Prop := ds ≠ [] ∧ ∀ c ∈ ds, c.isDigit

def IsWhole (ds : List Char) : Prop :=
  ds = ['0'] ∨ (IsDigits ds ∧ ds.head? ≠ some '0')

def IsFraction (t : List Char) : Prop :=
  t = [] ∨ ∃ ds, IsDigits ds ∧ t = '.' :: ds

def IsExponent (t : List Char) : Prop :=
  t = [] ∨ ∃ mark sign ds, (mark = 'e' ∨ mark = 'E') ∧
    (sign = [] ∨ sign = ['+'] ∨ sign = ['-']) ∧ IsDigits ds ∧
    t = mark :: (sign ++ ds)

/-- A number as the grammar derives it. -/
structure Literal where
  negative : Bool
  whole : List Char
  fraction : List Char
  exponent : List Char
  isWhole : IsWhole whole
  isFraction : IsFraction fraction
  isExponent : IsExponent exponent

def Literal.parts (l : Literal) : Parts where
  negative := l.negative
  whole := l.whole
  tail := l.fraction ++ l.exponent

/-- The number has a fraction or an exponent. -/
def Literal.IsFloat (l : Literal) : Prop := l.fraction ++ l.exponent ≠ []

/-- A text in front of which a number ends. -/
def Ends (s : List Char) : Prop :=
  ∀ c rest, s = c :: rest →
    c.isDigit = false ∧ c ≠ '.' ∧ c ≠ 'e' ∧ c ≠ 'E'

theorem ends_nil : Ends [] := by
  intro c rest h
  cases h

theorem ends_cons {c : Char} (h : c.isDigit = false ∧ c ≠ '.' ∧ c ≠ 'e' ∧ c ≠ 'E')
    (s : List Char) : Ends (c :: s) := by
  intro c' rest heq
  cases heq
  exact h

/-- A text that does not go on with a digit. -/
def NoDigit (s : List Char) : Prop := ∀ c rest, s = c :: rest → c.isDigit = false

theorem Ends.noDigit {s : List Char} (h : Ends s) : NoDigit s :=
  fun c rest heq => (h c rest heq).1

theorem scanDigits_append {ds s : List Char} (hds : ∀ c ∈ ds, c.isDigit)
    (hs : NoDigit s) : scanDigits (ds ++ s) = (ds, s) := by
  have htake : s.takeWhile Char.isDigit = [] := by
    cases s with
    | nil => rfl
    | cons c rest => simp [hs c rest rfl]
  have hdrop : s.dropWhile Char.isDigit = s := by
    cases s with
    | nil => rfl
    | cons c rest => simp [hs c rest rfl]
  rw [scanDigits, List.takeWhile_append_of_pos hds, htake, List.append_nil,
    List.dropWhile_append_of_pos hds, hdrop]

theorem scanDigits_digits {ds s : List Char} (hds : IsDigits ds) (hs : NoDigit s) :
    ∃ d rest, ds = d :: rest ∧ scanDigits (ds ++ s) = (d :: rest, s) := by
  cases ds with
  | nil => exact absurd rfl hds.1
  | cons d rest => exact ⟨d, rest, rfl, scanDigits_append hds.2 hs⟩

theorem scanWhole_append {ds s : List Char} (hds : IsWhole ds) (hs : NoDigit s) :
    scanWhole (ds ++ s) = some (ds, s) := by
  rcases hds with rfl | ⟨hds, hzero⟩
  · rfl
  · obtain ⟨d, rest, rfl, hscan⟩ := scanDigits_digits hds hs
    have hd : d ≠ '0' := by
      rintro rfl
      exact hzero rfl
    unfold scanWhole
    split
    · next heq =>
        exact absurd (List.cons.inj heq).1 hd
    · rw [hscan]

theorem noDigit_fraction {t s : List Char} (ht : IsFraction t) (hs : NoDigit s) :
    NoDigit (t ++ s) := by
  rcases ht with rfl | ⟨ds, _, rfl⟩
  · exact hs
  · intro c rest h
    cases h
    rfl

theorem noDigit_exponent {t s : List Char} (ht : IsExponent t) (hs : NoDigit s) :
    NoDigit (t ++ s) := by
  rcases ht with rfl | ⟨mark, sign, ds, hmark, _, _, rfl⟩
  · exact hs
  · intro c rest h
    obtain ⟨rfl, _⟩ := List.cons.inj h
    rcases hmark with rfl | rfl <;> rfl

theorem noPoint_exponent {t s : List Char} (ht : IsExponent t) (hs : Ends s) :
    ∀ rest, t ++ s ≠ '.' :: rest := by
  rcases ht with rfl | ⟨mark, sign, ds, hmark, _, _, rfl⟩
  · intro rest h
    exact (hs '.' rest h).2.1 rfl
  · intro rest h
    obtain ⟨rfl, _⟩ := List.cons.inj h
    rcases hmark with h | h <;> cases h

theorem scanFraction_append {t s : List Char} (ht : IsFraction t) (hs : NoDigit s)
    (hpoint : ∀ rest, s ≠ '.' :: rest) : scanFraction (t ++ s) = (t, s) := by
  rcases ht with rfl | ⟨ds, hds, rfl⟩
  · unfold scanFraction
    split
    · next rest heq => exact absurd heq (hpoint rest)
    · rfl
  · obtain ⟨d, rest, rfl, hscan⟩ := scanDigits_digits hds hs
    rw [List.cons_append, scanFraction, hscan]

theorem scanSign_append {sign ds : List Char} {s : List Char}
    (hsign : sign = [] ∨ sign = ['+'] ∨ sign = ['-']) (hds : IsDigits ds) :
    scanSign (sign ++ (ds ++ s)) = (sign, ds ++ s) := by
  rcases hsign with rfl | rfl | rfl
  · cases ds with
    | nil => exact absurd rfl hds.1
    | cons d rest =>
        have hd := hds.2 d List.mem_cons_self
        unfold scanSign
        split
        · next heq =>
            rw [(List.cons.inj heq).1] at hd
            cases hd
        · next heq =>
            rw [(List.cons.inj heq).1] at hd
            cases hd
        · rfl
  · rfl
  · rfl

theorem scanExponent_append {t s : List Char} (ht : IsExponent t) (hs : Ends s) :
    scanExponent (t ++ s) = (t, s) := by
  rcases ht with rfl | ⟨mark, sign, ds, hmark, hsign, hds, rfl⟩
  · cases s with
    | nil => rfl
    | cons c rest =>
        obtain ⟨_, _, he, hE⟩ := hs c rest rfl
        have hmark : ¬ (c = 'e' ∨ c = 'E') := by simp [he, hE]
        rw [List.nil_append, scanExponent, if_neg hmark]
  · obtain ⟨d, rest, rfl, hscan⟩ := scanDigits_digits hds hs.noDigit
    rw [List.cons_append, List.append_assoc, scanExponent, if_pos hmark]
    simp only [scanSign_append hsign hds]
    rw [hscan]

theorem whole_head {ds : List Char} (h : IsWhole ds) :
    ∃ d rest, ds = d :: rest ∧ d.isDigit := by
  rcases h with rfl | ⟨⟨hne, hds⟩, _⟩
  · exact ⟨'0', [], rfl, rfl⟩
  · cases ds with
    | nil => exact absurd rfl hne
    | cons d rest => exact ⟨d, rest, rfl, hds d List.mem_cons_self⟩

theorem scanMinus_append {negative : Bool} {ds s : List Char} (h : IsWhole ds) :
    scanMinus ((if negative then ['-'] else []) ++ (ds ++ s)) =
      (negative, ds ++ s) := by
  cases negative with
  | true => rfl
  | false =>
      obtain ⟨d, rest, rfl, hd⟩ := whole_head h
      simp only [Bool.false_eq_true, if_false, List.nil_append]
      unfold scanMinus
      split
      · next heq =>
          rw [(List.cons.inj heq).1] at hd
          cases hd
      · rfl

/-- The scanner reads a literal to its end. -/
theorem scan_text (l : Literal) {s : List Char} (hs : Ends s) :
    scan (l.parts.text ++ s) = some (l.parts, s) := by
  have hexp : NoDigit (l.exponent ++ s) := noDigit_exponent l.isExponent hs.noDigit
  have hfrac : NoDigit (l.fraction ++ (l.exponent ++ s)) :=
    noDigit_fraction l.isFraction hexp
  have hminus : scanMinus (l.parts.text ++ s) =
      (l.negative, l.whole ++ (l.fraction ++ (l.exponent ++ s))) := by
    rw [Parts.text, List.append_assoc, List.append_assoc, Literal.parts,
      List.append_assoc]
    exact scanMinus_append l.isWhole
  simp only [scan, hminus, scanWhole_append l.isWhole hfrac, Option.map_some,
    scanFraction_append l.isFraction hexp (noPoint_exponent l.isExponent hs),
    scanExponent_append l.isExponent hs]
  rfl

/-- A literal starts with a digit or a minus sign before one. -/
theorem text_head (l : Literal) : ∃ c rest, l.parts.text = c :: rest ∧
    (c.isDigit ∨ c = '-' ∧ ∃ d rest', rest = d :: rest' ∧ d.isDigit) := by
  obtain ⟨d, rest, hwhole, hd⟩ := whole_head l.isWhole
  cases hneg : l.negative with
  | true =>
      exact ⟨'-', l.whole ++ (l.fraction ++ l.exponent),
        by simp [Parts.text, Literal.parts, hneg],
        Or.inr ⟨rfl, d, rest ++ (l.fraction ++ l.exponent), by simp [hwhole], hd⟩⟩
  | false =>
      exact ⟨d, rest ++ (l.fraction ++ l.exponent),
        by simp [Parts.text, Literal.parts, hneg, hwhole], Or.inl hd⟩

/-- Python reads and writes integers of at most this many digits. -/
def maxStrDigits : Nat := 4300

def Printable (n : Int) : Prop := (Nat.toDigits 10 n.natAbs).length ≤ maxStrDigits

instance (n : Int) : Decidable (Printable n) := Nat.decLe _ _

theorem toDigits_isDigits (n : Nat) : IsDigits (Nat.toDigits 10 n) := by
  constructor
  · exact Nat.toDigits_ne_nil
  · intro c hc
    exact Nat.isDigit_of_mem_toDigits (by decide) (by decide) hc

theorem digitChar_ne_zero {n : Nat} (hpos : 0 < n) (hlt : n < 10) :
    n.digitChar ≠ '0' := by
  intro h
  have hval := Nat.toNat_digitChar_sub_48_of_lt_ten hlt
  rw [h] at hval
  simp at hval
  omega

theorem toDigits_head_ne_zero {n : Nat} (hpos : 0 < n) :
    (Nat.toDigits 10 n).head? ≠ some '0' := by
  induction n using Nat.strong_induction_on with
  | _ n ih =>
      by_cases hlt : n < 10
      · rw [Nat.toDigits_of_lt_base hlt, List.head?_cons]
        intro h
        exact digitChar_ne_zero hpos hlt (Option.some.inj h)
      · rw [Nat.toDigits_of_base_le (by decide) (by omega),
          List.head?_append_of_ne_nil _ Nat.toDigits_ne_nil]
        apply ih (n / 10)
        · omega
        · omega

theorem toDigits_isWhole (n : Nat) : IsWhole (Nat.toDigits 10 n) := by
  rcases Nat.eq_zero_or_pos n with rfl | hpos
  · exact Or.inl (Nat.toDigits_zero 10)
  · exact Or.inr ⟨toDigits_isDigits n, toDigits_head_ne_zero hpos⟩

/-- The literal that `int.__repr__` writes. -/
def ofInt (n : Int) : Literal where
  negative := decide (n < 0)
  whole := Nat.toDigits 10 n.natAbs
  fraction := []
  exponent := []
  isWhole := toDigits_isWhole n.natAbs
  isFraction := Or.inl rfl
  isExponent := Or.inl rfl

theorem ofInt_text (n : Int) : (ofInt n).parts.text = Json.writeInt n := by
  unfold Json.writeInt
  by_cases h : n < 0
  · simp [ofInt, Literal.parts, Parts.text, h]
  · simp [ofInt, Literal.parts, Parts.text, h]

theorem ofInt_value (n : Int) : (ofInt n).parts.value = n := by
  simp only [Parts.value, ofInt, Literal.parts, Nat.ofDigitChars_ten_toDigits,
    decide_eq_true_eq]
  split <;> omega

theorem scan_writeInt (n : Int) {s : List Char} (hs : Ends s) :
    scan (Json.writeInt n ++ s) = some ((ofInt n).parts, s) := by
  rw [← ofInt_text]
  exact scan_text (ofInt n) hs

/-- The value of the digits read, which leading zeros do not change. -/
theorem ofDigitChars_lt (ds : List Char) (hds : ∀ c ∈ ds, c.isDigit) (init : Nat) :
    Nat.ofDigitChars 10 ds init < (init + 1) * 10 ^ ds.length := by
  induction ds generalizing init with
  | nil => simp
  | cons d ds ih =>
      have hd : d.toNat - '0'.toNat < 10 := by
        have hdigit := hds d List.mem_cons_self
        simp only [Char.isDigit, Bool.and_eq_true, decide_eq_true_eq] at hdigit
        have hle : d.toNat ≤ 57 := hdigit.2
        change d.toNat - 48 < 10
        omega
      rw [Nat.ofDigitChars_cons]
      have hrest := ih (fun c hc => hds c (List.mem_cons_of_mem _ hc))
        (10 * init + (d.toNat - '0'.toNat))
      have hstep : (10 * init + (d.toNat - '0'.toNat) + 1) * 10 ^ ds.length ≤
          (10 * (init + 1)) * 10 ^ ds.length := by
        apply Nat.mul_le_mul_right
        omega
      have hpow : (10 * (init + 1)) * 10 ^ ds.length =
          (init + 1) * 10 ^ (d :: ds).length := by
        rw [List.length_cons, Nat.pow_succ]
        ac_rfl
      omega

theorem printable_value {p : Parts} (hds : ∀ c ∈ p.whole, c.isDigit)
    (hlen : p.whole.length ≤ maxStrDigits) : Printable p.value := by
  have hlt := ofDigitChars_lt p.whole hds 0
  have habs : p.value.natAbs = Nat.ofDigitChars 10 p.whole 0 := by
    unfold Parts.value
    split <;> omega
  unfold Printable
  rw [habs, Nat.length_toDigits_le_iff (by decide) (by decide)]
  have hmono : 10 ^ p.whole.length ≤ 10 ^ maxStrDigits :=
    Nat.pow_le_pow_right (by decide) hlen
  omega

theorem digits_of_scanDigits {s ds rest : List Char} (h : scanDigits s = (ds, rest)) :
    ∀ c ∈ ds, c.isDigit := by
  intro c hc
  have hds : s.takeWhile Char.isDigit = ds := congrArg Prod.fst h
  rw [← hds] at hc
  exact (List.all_eq_true.mp List.all_takeWhile) c hc

theorem digits_of_scan {s rest : List Char} {p : Parts} (h : scan s = some (p, rest)) :
    ∀ c ∈ p.whole, c.isDigit := by
  simp only [scan, Option.map_eq_some_iff] at h
  obtain ⟨⟨whole, s₁⟩, hwhole, heq⟩ := h
  obtain ⟨rfl, _⟩ := Prod.mk.inj heq
  unfold scanWhole at hwhole
  split at hwhole
  · cases hwhole
    intro c hc
    rw [List.mem_singleton.mp hc]
    rfl
  · split at hwhole
    · cases hwhole
    · next hdigits =>
        cases hwhole
        exact digits_of_scanDigits hdigits

theorem scanDigits_length (s : List Char) :
    (scanDigits s).1.length + (scanDigits s).2.length = s.length := by
  have hsplit := congrArg List.length (List.takeWhile_append_dropWhile (p := Char.isDigit) (l := s))
  rwa [List.length_append] at hsplit

theorem scanWhole_length {s ds rest : List Char} (h : scanWhole s = some (ds, rest)) :
    rest.length < s.length := by
  have hlen := scanDigits_length s
  unfold scanWhole at h
  split at h
  · cases h
    simp
  · split at h
    · cases h
    · next hne hdigits =>
        cases h
        rw [hdigits] at hlen
        dsimp only at hlen
        have hpos : 0 < ds.length := by
          cases ds with
          | nil => exact absurd rfl hne
          | cons d ds => simp
        omega

theorem scanFraction_length (s : List Char) :
    (scanFraction s).2.length ≤ s.length := by
  unfold scanFraction
  split
  · next rest =>
      have hlen := scanDigits_length rest
      split
      · exact Nat.le_refl _
      · next hdigits =>
          rw [hdigits] at hlen
          dsimp only at hlen
          simp only [List.length_cons]
          omega
  · exact Nat.le_refl _

theorem scanSign_length (s : List Char) : (scanSign s).2.length ≤ s.length := by
  unfold scanSign
  split <;> simp

theorem scanExponent_length (s : List Char) :
    (scanExponent s).2.length ≤ s.length := by
  unfold scanExponent
  split
  · exact Nat.le_refl _
  · next mark rest =>
      have hsign := scanSign_length rest
      have hlen := scanDigits_length (scanSign rest).2
      split_ifs
      · dsimp only
        split
        · exact Nat.le_refl _
        · next hdigits =>
            rw [hdigits] at hlen
            dsimp only at hlen
            simp only [List.length_cons]
            omega
      · exact Nat.le_refl _

theorem scanMinus_length (s : List Char) : (scanMinus s).2.length ≤ s.length := by
  unfold scanMinus
  split <;> simp

theorem scan_length {s rest : List Char} {p : Parts} (h : scan s = some (p, rest)) :
    rest.length < s.length := by
  simp only [scan, Option.map_eq_some_iff] at h
  obtain ⟨⟨whole, s₁⟩, hwhole, heq⟩ := h
  obtain ⟨_, rfl⟩ := Prod.mk.inj heq
  have hminus := scanMinus_length s
  have hrest := scanWhole_length hwhole
  have hfraction := scanFraction_length s₁
  have hexponent := scanExponent_length (scanFraction s₁).2
  dsimp only
  omega

end ControlPlane.Lib.JsonNumber
