import ControlPlane.Lib.Json
import Mathlib.Data.List.Chain

/-!
The strings of `json.loads` and `json.dumps`. A Python `str` is a list of code
points, and escapes can put lone surrogates into it; what it cannot hold after
decoding is a high surrogate in front of a low one, since the scanner joins
such a pair into one code point.
-/

namespace ControlPlane.Lib

/-- The code points of a `str`. -/
abbrev Text := List Nat

namespace Text

def ofString (s : String) : Text := s.toList.map Char.toNat

/-- A text without surrogates as a string. -/
def toString (t : Text) : String := String.ofList (t.map Char.ofNat)

theorem ofString_injective : Function.Injective ofString := by
  intro s t h
  have hinj : Function.Injective Char.toNat := fun c d hcd => by
    rw [← Char.ofNat_toNat c, hcd, Char.ofNat_toNat]
  exact String.toList_inj.mp (List.map_injective_iff.mpr hinj h)

def high (n : Nat) : Prop := 55296 ≤ n ∧ n < 56320
def low (n : Nat) : Prop := 56320 ≤ n ∧ n < 57344

instance (n : Nat) : Decidable (high n) := instDecidableAnd
instance (n : Nat) : Decidable (low n) := instDecidableAnd

/-- The code point of a surrogate pair. -/
def joined (hi lo : Nat) : Nat := 65536 + (hi - 55296) * 1024 + (lo - 56320)

/-- A text the decoder can return. -/
structure Decodable (t : Text) : Prop where
  valid : ∀ n ∈ t, n < 1114112
  separate : t.IsChain fun a b => ¬ (high a ∧ low b)

/-- No code point is a surrogate. -/
def Scalar (t : Text) : Prop := ∀ n ∈ t, n < 1114112 ∧ ¬ high n ∧ ¬ low n

theorem Scalar.decodable {t : Text} (h : Scalar t) : Decodable t := by
  constructor
  · intro n hn
    exact (h n hn).1
  · induction t with
    | nil => exact .nil
    | cons n rest ih =>
        have hrest := ih fun m hm => h m (List.mem_cons_of_mem _ hm)
        rw [List.isChain_cons]
        refine ⟨?_, hrest⟩
        intro m _ hpair
        exact (h n List.mem_cons_self).2.1 hpair.1

theorem scalar_ofString (s : String) : Scalar (ofString s) := by
  intro n hn
  obtain ⟨c, _, rfl⟩ := List.mem_map.mp hn
  have hlt := Json.toNat_lt c
  have hsur := Json.toNat_not_surrogate c
  unfold high low
  omega

def escapeUnit (n : Nat) : List Char := '\\' :: 'u' :: Json.hex4 n

/-- One code point as the encoder writes it. Outside ASCII it is escaped only
with `ensure_ascii`, and above the BMP as a surrogate pair. -/
def escapePoint (ascii : Bool) (n : Nat) : List Char :=
  match Json.shortEscape (Char.ofNat n) with
  | some x => ['\\', x]
  | none =>
      if n < 32 then escapeUnit n
      else if n ≤ 126 ∨ ascii = false then [Char.ofNat n]
      else if n < 65536 then escapeUnit n
      else
        escapeUnit (55296 + (n - 65536) / 1024) ++
          escapeUnit (56320 + (n - 65536) % 1024)

def write (ascii : Bool) (t : Text) : List Char :=
  '"' :: (t.flatMap (escapePoint ascii) ++ ['"'])

def hexValue (c : Char) : Option Nat :=
  if 48 ≤ c.toNat ∧ c.toNat ≤ 57 then some (c.toNat - 48)
  else if 97 ≤ c.toNat ∧ c.toNat ≤ 102 then some (c.toNat - 87)
  else if 65 ≤ c.toNat ∧ c.toNat ≤ 70 then some (c.toNat - 55)
  else none

def hexUnit (a b c d : Char) : Option Nat := do
  let a ← hexValue a
  let b ← hexValue b
  let c ← hexValue c
  let d ← hexValue d
  return ((a * 16 + b) * 16 + c) * 16 + d

/-- What a backslash and one other character stand for. -/
def unescape (c : Char) : Option Nat :=
  if c = '"' then some 34
  else if c = '\\' then some 92
  else if c = '/' then some 47
  else if c = 'b' then some 8
  else if c = 'f' then some 12
  else if c = 'n' then some 10
  else if c = 'r' then some 13
  else if c = 't' then some 9
  else none

def push (n : Nat) (r : Text × List Char) : Text × List Char := (n :: r.1, r.2)

/-- The characters and units up to the closing quote. -/
def scanUnits : List Char → Option (Text × List Char)
  | [] => none
  | c :: rest =>
      if c = '"' then some ([], rest)
      else if c = '\\' then
        match rest with
        | [] => none
        | x :: rest' =>
            if x = 'u' then
              match rest' with
              | a :: b :: d :: e :: rest'' =>
                  match hexUnit a b d e with
                  | some n => (scanUnits rest'').map (push n)
                  | none => none
              | _ => none
            else
              match unescape x with
              | some n => (scanUnits rest').map (push n)
              | none => none
      else if c.toNat < 32 then none
      else (scanUnits rest).map (push c.toNat)

/-- A high surrogate and the low one after it become one code point. -/
def joinPairs : Text → Text
  | [] => []
  | [n] => [n]
  | hi :: lo :: rest =>
      if high hi ∧ low lo then joined hi lo :: joinPairs rest
      else hi :: joinPairs (lo :: rest)

/-- The string after an opening quote. -/
def scan (s : List Char) : Option (Text × List Char) :=
  (scanUnits s).map fun r => (joinPairs r.1, r.2)

theorem joinPairs_head (n : Nat) (rest : Text) :
    ∃ m rest', joinPairs (n :: rest) = m :: rest' ∧ (m = n ∨ 65536 ≤ m) := by
  cases rest with
  | nil => exact ⟨n, [], rfl, Or.inl rfl⟩
  | cons lo rest =>
      unfold joinPairs
      split
      · exact ⟨_, _, rfl, Or.inr (by unfold joined; omega)⟩
      · exact ⟨n, _, rfl, Or.inl rfl⟩

theorem joined_not_high {hi lo : Nat} : ¬ high (joined hi lo) := by
  unfold high joined
  omega

theorem joinPairs_separate (t : Text) :
    (joinPairs t).IsChain fun a b => ¬ (high a ∧ low b) := by
  induction t using joinPairs.induct with
  | case1 => exact .nil
  | case2 n => exact .singleton n
  | case3 hi lo rest hpair ih =>
      rw [joinPairs, if_pos hpair, List.isChain_cons]
      refine ⟨?_, ih⟩
      intro m _ h
      exact joined_not_high h.1
  | case4 hi lo rest hpair ih =>
      rw [joinPairs, if_neg hpair, List.isChain_cons]
      refine ⟨?_, ih⟩
      intro m hm h
      obtain ⟨m', rest', heq, hm'⟩ := joinPairs_head lo rest
      rw [heq, List.head?_cons, Option.mem_def, Option.some.injEq] at hm
      subst hm
      rcases hm' with rfl | hle
      · exact hpair h
      · have hlow := h.2
        unfold low at hlow
        omega

theorem joined_lt {hi lo : Nat} (hhi : high hi) (hlo : low lo) :
    joined hi lo < 1114112 := by
  unfold high at hhi
  unfold low at hlo
  unfold joined
  omega

theorem joinPairs_valid {t : Text} (h : ∀ n ∈ t, n < 1114112) :
    ∀ n ∈ joinPairs t, n < 1114112 := by
  induction t using joinPairs.induct with
  | case1 => exact h
  | case2 n =>
      intro m hm
      exact h m hm
  | case3 hi lo rest hpair ih =>
      intro n hn
      rw [joinPairs, if_pos hpair, List.mem_cons] at hn
      rcases hn with heq | hn
      · rw [heq]
        exact joined_lt hpair.1 hpair.2
      · exact ih (fun m hm => h m (by simp [hm])) n hn
  | case4 hi lo rest hpair ih =>
      intro n hn
      rw [joinPairs, if_neg hpair, List.mem_cons] at hn
      rcases hn with rfl | hn
      · exact h n List.mem_cons_self
      · exact ih (fun m hm => h m (List.mem_cons_of_mem _ hm)) n hn

theorem hexValue_lt {c : Char} {n : Nat} (h : hexValue c = some n) : n < 16 := by
  unfold hexValue at h
  split_ifs at h <;> cases h <;> omega

theorem hexUnit_lt {a b c d : Char} {n : Nat} (h : hexUnit a b c d = some n) :
    n < 65536 := by
  simp only [hexUnit, Option.bind_eq_bind, Option.bind_eq_some_iff,
    Option.pure_def, Option.some.injEq] at h
  obtain ⟨a', ha, b', hb, c', hc, d', hd, rfl⟩ := h
  have ha := hexValue_lt ha
  have hb := hexValue_lt hb
  have hc := hexValue_lt hc
  have hd := hexValue_lt hd
  omega

theorem unescape_lt {c : Char} {n : Nat} (h : unescape c = some n) : n < 128 := by
  unfold unescape at h
  split_ifs at h <;> cases h <;> decide

theorem scanUnits_valid {s : List Char} {t : Text} {rest : List Char}
    (h : scanUnits s = some (t, rest)) : ∀ n ∈ t, n < 1114112 := by
  have hpush : ∀ {m : Nat} {r : Option (Text × List Char)} {t : Text},
      m < 1114112 → r.map (push m) = some (t, rest) →
      (∀ t', r = some (t', rest) → ∀ n ∈ t', n < 1114112) →
      ∀ n ∈ t, n < 1114112 := by
    intro m r t hm hr hrest n hn
    obtain ⟨⟨t', rest'⟩, hr', heq⟩ := Option.map_eq_some_iff.mp hr
    obtain ⟨rfl, rfl⟩ := Prod.mk.inj heq
    rcases List.mem_cons.mp hn with rfl | hn
    · exact hm
    · exact hrest t' hr' n hn
  fun_induction scanUnits s generalizing t with
  | case2 rest' =>
      cases h
      intro n hn
      cases hn
  | case4 a b d e rest'' n hn _ ih =>
      exact hpush (Nat.lt_trans (hexUnit_lt hn) (by decide)) h fun t' ht' => ih ht'
  | case7 x rest' hu n hn _ ih =>
      exact hpush (Nat.lt_trans (unescape_lt hn) (by decide)) h fun t' ht' => ih ht'
  | case10 c rest' hquote hslash hcontrol ih =>
      exact hpush (Json.toNat_lt c) h fun t' ht' => ih ht'
  | _ => cases h

theorem scanUnits_length {s : List Char} {t : Text} {rest : List Char}
    (h : scanUnits s = some (t, rest)) : rest.length < s.length := by
  fun_induction scanUnits s generalizing t with
  | case2 rest' =>
      cases h
      exact Nat.lt_succ_self _
  | case4 a b d e rest'' n hn _ ih =>
      obtain ⟨r, hr, heq⟩ := Option.map_eq_some_iff.mp h
      cases heq
      have hlt := ih hr
      simp only [List.length_cons]
      omega
  | case7 x rest' hu n hn _ ih =>
      obtain ⟨r, hr, heq⟩ := Option.map_eq_some_iff.mp h
      cases heq
      have hlt := ih hr
      simp only [List.length_cons]
      omega
  | case10 c rest' hquote hslash hcontrol ih =>
      obtain ⟨r, hr, heq⟩ := Option.map_eq_some_iff.mp h
      cases heq
      have hlt := ih hr
      simp only [List.length_cons]
      omega
  | _ => cases h

theorem scan_length {s : List Char} {t : Text} {rest : List Char}
    (h : scan s = some (t, rest)) : rest.length < s.length := by
  obtain ⟨⟨units, rest'⟩, hunits, heq⟩ := Option.map_eq_some_iff.mp h
  obtain ⟨_, rfl⟩ := Prod.mk.inj heq
  exact scanUnits_length hunits

theorem scan_decodable {s : List Char} {t : Text} {rest : List Char}
    (h : scan s = some (t, rest)) : Decodable t := by
  obtain ⟨⟨units, rest'⟩, hunits, heq⟩ := Option.map_eq_some_iff.mp h
  obtain ⟨rfl, rfl⟩ := Prod.mk.inj heq
  exact ⟨joinPairs_valid (scanUnits_valid hunits), joinPairs_separate units⟩

theorem hexValue_hexDigit {n : Nat} (h : n < 16) :
    hexValue (Json.hexDigit n) = some n := by
  revert n
  decide

theorem scanUnits_escapeUnit {n : Nat} (h : n < 65536) (s : List Char) :
    scanUnits (escapeUnit n ++ s) = (scanUnits s).map (push n) := by
  have hunit : hexUnit (Json.hexDigit (n / 4096 % 16)) (Json.hexDigit (n / 256 % 16))
      (Json.hexDigit (n / 16 % 16)) (Json.hexDigit (n % 16)) = some n := by
    have hval : ((n / 4096 % 16 * 16 + n / 256 % 16) * 16 + n / 16 % 16) * 16 +
        n % 16 = n := by omega
    simp only [hexUnit, hexValue_hexDigit (Nat.mod_lt _ (by decide : 0 < 16)),
      Option.bind_eq_bind, Option.bind_some, Option.pure_def, hval]
  simp only [escapeUnit, Json.hex4, List.cons_append, List.nil_append, scanUnits]
  rw [if_neg (by decide)]
  simp only [if_true, hunit]

theorem unescape_short {c x : Char} (h : Json.shortEscape c = some x) :
    x ≠ 'u' ∧ unescape x = some c.toNat := by
  unfold Json.shortEscape at h
  split_ifs at h <;> cases h <;> subst_vars <;> decide

theorem scanUnits_short {c x : Char} (h : Json.shortEscape c = some x)
    (s : List Char) :
    scanUnits ('\\' :: x :: s) = (scanUnits s).map (push c.toNat) := by
  obtain ⟨hu, hx⟩ := unescape_short h
  conv_lhs => unfold scanUnits
  rw [if_neg (by decide), if_pos rfl]
  simp only [if_neg hu, hx]

theorem scanUnits_plain {c : Char} (h : Json.shortEscape c = none)
    (hc : 32 ≤ c.toNat) (s : List Char) :
    scanUnits (c :: s) = (scanUnits s).map (push c.toNat) := by
  have hquote : c ≠ '"' := by
    rintro rfl
    cases h
  have hslash : c ≠ '\\' := by
    rintro rfl
    cases h
  conv_lhs => unfold scanUnits
  rw [if_neg hquote, if_neg hslash, if_neg (by omega)]

/-- What the scanner reads for a code point before pairs are joined. -/
def units (ascii : Bool) (n : Nat) : Text :=
  if ascii = true ∧ 65536 ≤ n then
    [55296 + (n - 65536) / 1024, 56320 + (n - 65536) % 1024]
  else [n]

/-- The texts a writer can put into a document: without `ensure_ascii` a
surrogate cannot be encoded. -/
def Writable (ascii : Bool) (t : Text) : Prop :=
  Decodable t ∧ (ascii = false → Scalar t)

theorem toNat_ofNat {n : Nat} (h : n < 1114112) (hhigh : ¬ high n) (hlow : ¬ low n) :
    (Char.ofNat n).toNat = n := by
  have hvalid : n.isValidChar := by
    unfold high at hhigh
    unfold low at hlow
    unfold Nat.isValidChar
    omega
  rw [Char.ofNat, dif_pos hvalid]
  rfl

theorem shortEscape_of_ge {c : Char} (h : 93 ≤ c.toNat) : Json.shortEscape c = none := by
  cases hshort : Json.shortEscape c with
  | none => rfl
  | some x =>
      exfalso
      unfold Json.shortEscape at hshort
      split_ifs at hshort <;> subst_vars <;> revert h <;> decide

/-- Short escapes stand for ASCII characters only. -/
theorem shortEscape_ofNat {n : Nat} {x : Char}
    (h : Json.shortEscape (Char.ofNat n) = some x) : (Char.ofNat n).toNat = n := by
  by_cases hvalid : n.isValidChar
  · rw [Char.ofNat, dif_pos hvalid]
    rfl
  · rw [Char.ofNat, dif_neg hvalid] at h
    cases h

/-- One code point is scanned as its units. -/
theorem scanUnits_escapePoint {ascii : Bool} {n : Nat} (hn : n < 1114112)
    (hraw : ascii = false → ¬ high n ∧ ¬ low n) (s : List Char) :
    scanUnits (escapePoint ascii n ++ s) =
      (scanUnits s).map fun r => (units ascii n ++ r.1, r.2) := by
  have hone : (n < 65536 ∨ ascii = false) →
      (fun r : Text × List Char => (units ascii n ++ r.1, r.2)) = push n := by
    intro h
    funext r
    have hpair : ¬ (ascii = true ∧ 65536 ≤ n) := by
      rintro ⟨rfl, hle⟩
      rcases h with h | h
      · omega
      · cases h
    rw [units, if_neg hpair]
    rfl
  unfold escapePoint
  cases hshort : Json.shortEscape (Char.ofNat n) with
  | some x =>
      have hchar := shortEscape_ofNat hshort
      have hsmall : n < 93 := by
        by_contra hge
        rw [shortEscape_of_ge (by omega)] at hshort
        cases hshort
      have hscan := scanUnits_short hshort s
      rw [hchar] at hscan
      rw [hone (Or.inl (by omega))]
      exact hscan
  | none =>
      dsimp only
      split_ifs with hcontrol hplain hbmp
      · rw [hone (Or.inl (by omega))]
        exact scanUnits_escapeUnit (by omega) s
      · have hscalar : ¬ high n ∧ ¬ low n := by
          rcases hplain with hle | hascii
          · unfold high low
            omega
          · exact hraw hascii
        have hchar := toNat_ofNat hn hscalar.1 hscalar.2
        have hscan := scanUnits_plain hshort (by omega) s
        rw [hchar] at hscan
        rw [hone (hplain.imp_left fun hle => by omega)]
        exact hscan
      · rw [hone (Or.inl hbmp)]
        exact scanUnits_escapeUnit hbmp s
      · have hpair : ascii = true ∧ 65536 ≤ n := by
          refine ⟨?_, by omega⟩
          cases ascii
          · exact absurd (Or.inr rfl) hplain
          · rfl
        rw [List.append_assoc, scanUnits_escapeUnit (by omega),
          scanUnits_escapeUnit (by omega), Option.map_map, units, if_pos hpair]
        rfl

theorem scanUnits_write {ascii : Bool} {t : Text} (ht : ∀ n ∈ t, n < 1114112)
    (hraw : ascii = false → Scalar t) (s : List Char) :
    scanUnits (t.flatMap (escapePoint ascii) ++ '"' :: s) =
      some (t.flatMap (units ascii), s) := by
  induction t with
  | nil =>
      rw [List.flatMap_nil, List.nil_append, scanUnits.eq_def]
      exact if_pos rfl
  | cons n t ih =>
      have htail := ih (fun m hm => ht m (List.mem_cons_of_mem _ hm))
        fun h m hm => hraw h m (List.mem_cons_of_mem _ hm)
      rw [List.flatMap_cons, List.append_assoc, scanUnits_escapePoint
        (ht n List.mem_cons_self) fun h => (hraw h n List.mem_cons_self).2,
        htail]
      rfl

theorem joined_split {n : Nat} (h : 65536 ≤ n) :
    joined (55296 + (n - 65536) / 1024) (56320 + (n - 65536) % 1024) = n := by
  unfold joined
  omega

/-- Joining undoes the splitting into units, since no pair was adjacent
before. -/
theorem joinPairs_units {ascii : Bool} {t : Text} (ht : Decodable t) :
    joinPairs (t.flatMap (units ascii)) = t := by
  obtain ⟨hvalid, hsep⟩ := ht
  induction t with
  | nil => rfl
  | cons n t ih =>
      rw [List.isChain_cons] at hsep
      have htail := ih (fun m hm => hvalid m (List.mem_cons_of_mem _ hm)) hsep.2
      have hn := hvalid n List.mem_cons_self
      rw [List.flatMap_cons, units]
      split_ifs with hpair
      · have hpairs : high (55296 + (n - 65536) / 1024) ∧
            low (56320 + (n - 65536) % 1024) := by
          unfold high low
          omega
        rw [List.cons_append, List.cons_append, List.nil_append, joinPairs,
          if_pos hpairs, joined_split hpair.2, htail]
      · cases t with
        | nil => rfl
        | cons m t =>
            have hnm : ¬ (high n ∧ low m) := hsep.1 m rfl
            rw [List.flatMap_cons, units] at htail ⊢
            split_ifs at htail ⊢ with hm
            · have hhigh : ¬ (high n ∧ low (55296 + (m - 65536) / 1024)) := by
                have := hvalid m (by simp)
                unfold low
                omega
              rw [List.cons_append, List.nil_append, List.cons_append, joinPairs,
                if_neg hhigh]
              exact congrArg (n :: ·) htail
            · rw [List.cons_append, List.nil_append, List.cons_append, joinPairs,
                if_neg hnm]
              exact congrArg (n :: ·) htail

/-- A written string is scanned back. -/
theorem scan_write {ascii : Bool} {t : Text} (ht : Writable ascii t)
    (s : List Char) :
    scan (t.flatMap (escapePoint ascii) ++ '"' :: s) = some (t, s) := by
  rw [scan, scanUnits_write ht.1.valid ht.2, Option.map_some,
    joinPairs_units ht.1]

end Text

end ControlPlane.Lib
