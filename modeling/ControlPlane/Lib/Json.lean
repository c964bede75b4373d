import Mathlib.Data.List.Sort

/-!
JSON values and the text `json.dumps` writes for them, with `ensure_ascii` as
by default. Objects are lists of fields in insertion order. `sort_keys` is a
normalisation before the text is written, so injectivity is stated once, for
the writer: two values with the same text are the same value. Numbers are
integers; floats do not occur in what this development writes.

Text is a list of Unicode scalar values, so a lone surrogate cannot be written.
-/

namespace ControlPlane.Lib

inductive Json where
  | null : Json
  | bool (b : Bool) : Json
  | num (n : Int) : Json
  | str (s : String) : Json
  | arr (items : List Json) : Json
  | obj (fields : List (String × Json)) : Json
  deriving Repr

namespace Json

def hexDigit (n : Nat) : Char :=
  if n < 10 then Char.ofNat (48 + n) else Char.ofNat (87 + n)

def unhex (c : Char) : Nat :=
  if c.toNat < 58 then c.toNat - 48 else c.toNat - 87

theorem unhex_hexDigit {n : Nat} (h : n < 16) : unhex (hexDigit n) = n := by
  revert n
  decide

/-- Four lower-case hexadecimal digits, as `{0:04x}` writes a UTF-16 unit. -/
def hex4 (n : Nat) : List Char :=
  [hexDigit (n / 4096 % 16), hexDigit (n / 256 % 16), hexDigit (n / 16 % 16),
    hexDigit (n % 16)]

/-- The two-character escapes of the encoder. -/
def shortEscape (c : Char) : Option Char :=
  if c = '"' then some '"'
  else if c = '\\' then some '\\'
  else if c = '\n' then some 'n'
  else if c = '\r' then some 'r'
  else if c = '\t' then some 't'
  else if c = Char.ofNat 12 then some 'f'
  else if c = Char.ofNat 8 then some 'b'
  else none

/-- Printable ASCII is written as it is, everything else as `\uXXXX`; scalar
values above the BMP become a surrogate pair. -/
def escapeChar (c : Char) : List Char :=
  match shortEscape c with
  | some x => ['\\', x]
  | none =>
      if 32 ≤ c.toNat ∧ c.toNat ≤ 126 then [c]
      else if c.toNat < 65536 then '\\' :: 'u' :: hex4 c.toNat
      else
        let v := c.toNat - 65536
        ('\\' :: 'u' :: hex4 (55296 + v / 1024)) ++
          ('\\' :: 'u' :: hex4 (56320 + v % 1024))

def unshort (c : Char) : Char :=
  if c = 'n' then '\n'
  else if c = 'r' then '\r'
  else if c = 't' then '\t'
  else if c = 'f' then Char.ofNat 12
  else if c = 'b' then Char.ofNat 8
  else c

def unhex4 (a b c d : Char) : Nat :=
  ((unhex a * 16 + unhex b) * 16 + unhex c) * 16 + unhex d

/-- What follows `\u`: one unit, or a surrogate pair. -/
def readUnit : List Char → Option (Char × List Char)
  | a :: b :: c :: d :: rest =>
      let unit := unhex4 a b c d
      if 55296 ≤ unit ∧ unit < 56320 then
        match rest with
        | _ :: _ :: e :: f :: g :: h :: rest' =>
            some (Char.ofNat (65536 + (unit - 55296) * 1024 +
              (unhex4 e f g h - 56320)), rest')
        | _ => none
      else some (Char.ofNat unit, rest)
  | _ => none

/-- Reads one escaped character back, as the string scanner of `json.loads`
does on the text the encoder writes. -/
def readChar : List Char → Option (Char × List Char)
  | [] => none
  | c :: rest =>
      if c = '\\' then
        match rest with
        | [] => none
        | x :: rest' => if x = 'u' then readUnit rest' else some (unshort x, rest')
      else some (c, rest)

theorem unhex4_hex4 {n : Nat} (h : n < 65536) :
    unhex4 (hexDigit (n / 4096 % 16)) (hexDigit (n / 256 % 16))
      (hexDigit (n / 16 % 16)) (hexDigit (n % 16)) = n := by
  unfold unhex4
  rw [unhex_hexDigit (by omega), unhex_hexDigit (by omega),
    unhex_hexDigit (by omega), unhex_hexDigit (by omega)]
  omega

theorem shortEscape_some {c x : Char} (h : shortEscape c = some x) :
    x ≠ 'u' ∧ unshort x = c := by
  unfold shortEscape at h
  split_ifs at h with h1 h2 h3 h4 h5 h6 h7 <;> cases h <;> subst_vars <;> decide

theorem toNat_not_surrogate (c : Char) :
    ¬ (55296 ≤ c.toNat ∧ c.toNat < 57344) := by
  have hvalid := c.valid
  simp only [UInt32.isValidChar, Nat.isValidChar] at hvalid
  change c.toNat < 55296 ∨ 57343 < c.toNat ∧ c.toNat < 1114112 at hvalid
  omega

theorem toNat_lt (c : Char) : c.toNat < 1114112 := by
  have hvalid := c.valid
  simp only [UInt32.isValidChar, Nat.isValidChar] at hvalid
  change c.toNat < 55296 ∨ 57343 < c.toNat ∧ c.toNat < 1114112 at hvalid
  omega

theorem readUnit_hex4 {n : Nat} (h : n < 65536)
    (hsur : ¬ (55296 ≤ n ∧ n < 56320)) (rest : List Char) :
    readUnit (hex4 n ++ rest) = some (Char.ofNat n, rest) := by
  simp only [hex4, List.cons_append, List.nil_append, readUnit, unhex4_hex4 h]
  rw [if_neg hsur]

theorem readUnit_pair {hi lo : Nat} (hhi : 55296 ≤ hi ∧ hi < 56320)
    (hlo : lo < 65536) (rest : List Char) :
    readUnit (hex4 hi ++ '\\' :: 'u' :: (hex4 lo ++ rest)) =
      some (Char.ofNat (65536 + (hi - 55296) * 1024 + (lo - 56320)), rest) := by
  simp only [hex4, List.cons_append, List.nil_append, readUnit,
    unhex4_hex4 (by omega : hi < 65536), unhex4_hex4 hlo]
  rw [if_pos hhi]

theorem readChar_escapeChar (c : Char) (rest : List Char) :
    readChar (escapeChar c ++ rest) = some (c, rest) := by
  unfold escapeChar
  cases hshort : shortEscape c with
  | some x =>
      obtain ⟨hx, hc⟩ := shortEscape_some hshort
      simp [readChar, hx, hc]
  | none =>
      have hslash : c ≠ '\\' := by
        rintro rfl
        simp [shortEscape] at hshort
      have hsur := toNat_not_surrogate c
      have hlt := toNat_lt c
      dsimp only
      split_ifs with hprint hbmp
      · simp [readChar, hslash]
      · simp only [List.cons_append, readChar, if_true]
        rw [readUnit_hex4 hbmp (by omega), Char.ofNat_toNat]
      · simp only [List.cons_append, List.append_assoc, readChar, if_true]
        rw [readUnit_pair (by omega) (by omega)]
        have hval : 65536 + (55296 + (c.toNat - 65536) / 1024 - 55296) * 1024 +
            (56320 + (c.toNat - 65536) % 1024 - 56320) = c.toNat := by omega
        rw [hval, Char.ofNat_toNat]

/-- The `separators` argument: the default puts a blank after `,` and `:`. -/
inductive Separators where
  | standard
  | compact
  deriving DecidableEq, Repr

def Separators.item : Separators → List Char
  | .standard => [',', ' ']
  | .compact => [',']

def Separators.key : Separators → List Char
  | .standard => [':', ' ']
  | .compact => [':']

def writeString (s : String) : List Char :=
  '"' :: (s.toList.flatMap escapeChar ++ ['"'])

def writeInt (n : Int) : List Char :=
  if n < 0 then '-' :: Nat.toDigits 10 n.natAbs else Nat.toDigits 10 n.natAbs

mutual

def write (sep : Separators) : Json → List Char
  | .null => ['n', 'u', 'l', 'l']
  | .bool true => ['t', 'r', 'u', 'e']
  | .bool false => ['f', 'a', 'l', 's', 'e']
  | .num n => writeInt n
  | .str s => writeString s
  | .arr items => '[' :: (writeItems sep true items ++ [']'])
  | .obj fields => '{' :: (writeFields sep true fields ++ ['}'])

def writeItems (sep : Separators) : Bool → List Json → List Char
  | _, [] => []
  | first, v :: rest =>
      (if first then [] else sep.item) ++ (write sep v ++ writeItems sep false rest)

def writeFields (sep : Separators) : Bool → List (String × Json) → List Char
  | _, [] => []
  | first, (k, v) :: rest =>
      (if first then [] else sep.item) ++
        (writeString k ++ (sep.key ++ (write sep v ++ writeFields sep false rest)))

end

/-- A text that does not go on with a digit, so that a number in front of it
ends there. -/
def Stop (s : List Char) : Prop := ∀ c rest, s = c :: rest → c.isDigit = false

theorem stop_cons {c : Char} (h : c.isDigit = false) (s : List Char) :
    Stop (c :: s) := by
  intro c' rest heq
  cases heq
  exact h

theorem stop_nil : Stop [] := by
  intro c rest h
  cases h

theorem digits_inj (ds es s t : List Char) (hds : ∀ c ∈ ds, c.isDigit)
    (hes : ∀ c ∈ es, c.isDigit) (hs : Stop s) (ht : Stop t)
    (h : ds ++ s = es ++ t) : ds = es ∧ s = t := by
  induction ds generalizing es with
  | nil =>
      cases es with
      | nil => exact ⟨rfl, h⟩
      | cons e es =>
          have hstop := hs e (es ++ t) h
          have hdigit := hes e List.mem_cons_self
          rw [hstop] at hdigit
          cases hdigit
  | cons d ds ih =>
      cases es with
      | nil =>
          have hstop := ht d (ds ++ s) h.symm
          have hdigit := hds d List.mem_cons_self
          rw [hstop] at hdigit
          cases hdigit
      | cons e es =>
          obtain ⟨rfl, hrest⟩ := List.cons.inj h
          obtain ⟨rfl, hst⟩ := ih es
            (fun c hc => hds c (List.mem_cons_of_mem _ hc))
            (fun c hc => hes c (List.mem_cons_of_mem _ hc)) hrest
          exact ⟨rfl, hst⟩

theorem toDigits_inj {n m : Nat} {s t : List Char} (hs : Stop s) (ht : Stop t)
    (h : Nat.toDigits 10 n ++ s = Nat.toDigits 10 m ++ t) : n = m ∧ s = t := by
  obtain ⟨hdigits, hrest⟩ := digits_inj _ _ _ _
    (fun c => Nat.isDigit_of_mem_toDigits (by decide) (by decide))
    (fun c => Nat.isDigit_of_mem_toDigits (by decide) (by decide)) hs ht h
  refine ⟨?_, hrest⟩
  rw [← Nat.ofDigitChars_ten_toDigits (n := n), hdigits,
    Nat.ofDigitChars_ten_toDigits]

theorem toDigits_head (n : Nat) :
    ∃ c rest, Nat.toDigits 10 n = c :: rest ∧ c.isDigit := by
  cases h : Nat.toDigits 10 n with
  | nil => exact absurd h Nat.toDigits_ne_nil
  | cons c rest =>
      have hmem : c ∈ Nat.toDigits 10 n := by simp [h]
      exact ⟨c, rest, rfl,
        Nat.isDigit_of_mem_toDigits (by decide) (by decide) hmem⟩

theorem writeInt_head (n : Int) :
    ∃ c rest, writeInt n = c :: rest ∧ (c = '-' ∨ c.isDigit) := by
  unfold writeInt
  split_ifs
  · exact ⟨'-', _, rfl, Or.inl rfl⟩
  · obtain ⟨c, rest, hc, hdigit⟩ := toDigits_head n.natAbs
    exact ⟨c, rest, hc, Or.inr hdigit⟩

theorem writeInt_inj {n m : Int} {s t : List Char} (hs : Stop s) (ht : Stop t)
    (h : writeInt n ++ s = writeInt m ++ t) : n = m ∧ s = t := by
  unfold writeInt at h
  have hminus : ∀ (k : Nat) (u v : List Char),
      '-' :: u ≠ Nat.toDigits 10 k ++ v := by
    intro k u v heq
    obtain ⟨c, rest, hc, hdigit⟩ := toDigits_head k
    rw [hc, List.cons_append] at heq
    obtain ⟨rfl, _⟩ := List.cons.inj heq
    cases hdigit
  split_ifs at h with hn hm hm
  · obtain ⟨habs, hrest⟩ := toDigits_inj hs ht (List.cons.inj h).2
    exact ⟨by omega, hrest⟩
  · exact absurd h (hminus _ _ _)
  · exact absurd h.symm (hminus _ _ _)
  · obtain ⟨habs, hrest⟩ := toDigits_inj hs ht h
    exact ⟨by omega, hrest⟩

theorem escapeChar_ne_quote (c : Char) (s t : List Char) :
    '"' :: s ≠ escapeChar c ++ t := by
  unfold escapeChar
  cases hshort : shortEscape c with
  | some x => simp
  | none =>
      have hquote : c ≠ '"' := by
        rintro rfl
        simp [shortEscape] at hshort
      dsimp only
      split_ifs
      · simpa using fun h => absurd h.symm hquote
      · simp
      · simp

theorem escaped_inj (xs ys s t : List Char)
    (h : xs.flatMap escapeChar ++ '"' :: s = ys.flatMap escapeChar ++ '"' :: t) :
    xs = ys ∧ s = t := by
  induction xs generalizing ys with
  | nil =>
      cases ys with
      | nil => exact ⟨rfl, (List.cons.inj h).2⟩
      | cons y ys =>
          rw [List.flatMap_cons, List.append_assoc] at h
          exact absurd h (escapeChar_ne_quote _ _ _)
  | cons x xs ih =>
      cases ys with
      | nil =>
          rw [List.flatMap_cons, List.append_assoc] at h
          exact absurd h.symm (escapeChar_ne_quote _ _ _)
      | cons y ys =>
          rw [List.flatMap_cons, List.flatMap_cons, List.append_assoc,
            List.append_assoc] at h
          have hread := congrArg readChar h
          rw [readChar_escapeChar, readChar_escapeChar] at hread
          obtain ⟨rfl, hrest⟩ := Prod.mk.inj (Option.some.inj hread)
          obtain ⟨rfl, hst⟩ := ih ys hrest
          exact ⟨rfl, hst⟩

theorem writeString_inj {a b : String} {s t : List Char}
    (h : writeString a ++ s = writeString b ++ t) : a = b ∧ s = t := by
  simp only [writeString, List.cons_append, List.append_assoc, List.nil_append,
    List.cons.injEq, true_and] at h
  obtain ⟨hlist, hst⟩ := escaped_inj _ _ _ _ h
  exact ⟨String.toList_inj.mp hlist, hst⟩

/-- The first character of a written value closes no bracket. -/
theorem write_head (sep : Separators) (v : Json) :
    ∃ c rest, write sep v = c :: rest ∧ c ≠ ']' ∧ c ≠ '}' := by
  cases v with
  | null => exact ⟨_, _, rfl, by decide, by decide⟩
  | bool b => cases b <;> exact ⟨_, _, rfl, by decide, by decide⟩
  | str s => exact ⟨_, _, rfl, by decide, by decide⟩
  | arr items => exact ⟨_, _, rfl, by decide, by decide⟩
  | obj fields => exact ⟨_, _, rfl, by decide, by decide⟩
  | num n =>
      obtain ⟨c, rest, hc, hkind⟩ := writeInt_head n
      refine ⟨c, rest, hc, ?_, ?_⟩
      · rintro rfl
        rcases hkind with h | h <;> cases h
      · rintro rfl
        rcases hkind with h | h <;> cases h

theorem item_head (sep : Separators) : ∃ rest, sep.item = ',' :: rest := by
  cases sep
  · exact ⟨[' '], rfl⟩
  · exact ⟨[], rfl⟩

theorem stop_items (sep : Separators) (items : List Json) (s : List Char) :
    Stop (writeItems sep false items ++ ']' :: s) := by
  cases items with
  | nil => exact stop_cons rfl s
  | cons v rest =>
      obtain ⟨tail, hsep⟩ := item_head sep
      simp only [writeItems, Bool.false_eq_true, if_false, hsep, List.cons_append]
      exact stop_cons rfl _

theorem stop_fields (sep : Separators) (fields : List (String × Json))
    (s : List Char) : Stop (writeFields sep false fields ++ '}' :: s) := by
  cases fields with
  | nil => exact stop_cons rfl s
  | cons f rest =>
      obtain ⟨tail, hsep⟩ := item_head sep
      simp only [writeFields, Bool.false_eq_true, if_false, hsep, List.cons_append]
      exact stop_cons rfl _

/-- A written number never starts like another kind of value. -/
theorem writeInt_ne {n : Int} {c : Char} {s t : List Char}
    (hdigit : c.isDigit = false) (hminus : c ≠ '-') :
    writeInt n ++ s ≠ c :: t := by
  intro h
  obtain ⟨d, rest, hd, hkind⟩ := writeInt_head n
  rw [hd, List.cons_append] at h
  obtain ⟨rfl, _⟩ := List.cons.inj h
  rcases hkind with h | h
  · exact hminus h
  · rw [hdigit] at h
    cases h

mutual

/-- The writer is injective and needs no end marker beyond a non-digit: the
induction is on the value, with its items and fields. -/
theorem write_append_inj (sep : Separators) : ∀ (a b : Json) {s t : List Char},
    Stop s → Stop t → write sep a ++ s = write sep b ++ t → a = b ∧ s = t
  | .num n, b, s, t, hs, ht, h => by
      cases b with
      | num m =>
          obtain ⟨rfl, hst⟩ := writeInt_inj hs ht h
          exact ⟨rfl, hst⟩
      | null => exact absurd h (writeInt_ne rfl (by decide))
      | bool b => cases b <;> exact absurd h (writeInt_ne rfl (by decide))
      | str x => exact absurd h (writeInt_ne rfl (by decide))
      | arr items => exact absurd h (writeInt_ne rfl (by decide))
      | obj fields => exact absurd h (writeInt_ne rfl (by decide))
  | .null, b, s, t, _, _, h => by
      cases b with
      | num m => exact absurd h.symm (writeInt_ne rfl (by decide))
      | null => exact ⟨rfl, by simpa [write] using h⟩
      | bool b => cases b <;> simp [write] at h
      | str x => simp [write, writeString] at h
      | arr items => simp [write] at h
      | obj fields => simp [write] at h
  | .bool x, b, s, t, _, _, h => by
      cases b with
      | num m => cases x <;> exact absurd h.symm (writeInt_ne rfl (by decide))
      | null => cases x <;> simp [write] at h
      | bool b =>
          cases x <;> cases b <;> simp [write] at h
          · exact ⟨rfl, h⟩
          · exact ⟨rfl, h⟩
      | str y => cases x <;> simp [write, writeString] at h
      | arr items => cases x <;> simp [write] at h
      | obj fields => cases x <;> simp [write] at h
  | .str x, b, s, t, _, _, h => by
      cases b with
      | num m => exact absurd h.symm (writeInt_ne rfl (by decide))
      | null => simp [write, writeString] at h
      | bool b => cases b <;> simp [write, writeString] at h
      | str y =>
          obtain ⟨rfl, hst⟩ := writeString_inj h
          exact ⟨rfl, hst⟩
      | arr items => simp [write, writeString] at h
      | obj fields => simp [write, writeString] at h
  | .arr items, b, s, t, _, _, h => by
      cases b with
      | num m => exact absurd h.symm (writeInt_ne rfl (by decide))
      | null => simp [write] at h
      | bool b => cases b <;> simp [write] at h
      | str y => simp [write, writeString] at h
      | arr items' =>
          simp only [write, List.cons_append, List.append_assoc,
            List.nil_append, List.cons.injEq, true_and] at h
          obtain ⟨rfl, hst⟩ := writeItems_append_inj sep true items items' h
          exact ⟨rfl, hst⟩
      | obj fields => simp [write] at h
  | .obj fields, b, s, t, _, _, h => by
      cases b with
      | num m => exact absurd h.symm (writeInt_ne rfl (by decide))
      | null => simp [write] at h
      | bool b => cases b <;> simp [write] at h
      | str y => simp [write, writeString] at h
      | arr items => simp [write] at h
      | obj fields' =>
          simp only [write, List.cons_append, List.append_assoc,
            List.nil_append, List.cons.injEq, true_and] at h
          obtain ⟨rfl, hst⟩ := writeFields_append_inj sep true fields fields' h
          exact ⟨rfl, hst⟩

theorem writeItems_append_inj (sep : Separators) (first : Bool) :
    ∀ (xs ys : List Json) {s t : List Char},
      writeItems sep first xs ++ ']' :: s = writeItems sep first ys ++ ']' :: t →
        xs = ys ∧ s = t
  | [], [], s, t, h => ⟨rfl, (List.cons.inj h).2⟩
  | [], y :: ys, s, t, h => by
      exfalso
      obtain ⟨c, rest, hc, hne, _⟩ := write_head sep y
      obtain ⟨tail, hsep⟩ := item_head sep
      cases first
      · simp [writeItems, hsep] at h
      · simp [writeItems, hc, Ne.symm hne] at h
  | x :: xs, [], s, t, h => by
      exfalso
      obtain ⟨c, rest, hc, hne, _⟩ := write_head sep x
      obtain ⟨tail, hsep⟩ := item_head sep
      cases first
      · simp [writeItems, hsep] at h
      · simp [writeItems, hc, hne] at h
  | x :: xs, y :: ys, s, t, h => by
      simp only [writeItems, List.append_assoc, List.append_cancel_left_eq] at h
      obtain ⟨rfl, hrest⟩ := write_append_inj sep x y
        (stop_items sep xs s) (stop_items sep ys t) h
      obtain ⟨rfl, hst⟩ := writeItems_append_inj sep false xs ys hrest
      exact ⟨rfl, hst⟩

theorem writeFields_append_inj (sep : Separators) (first : Bool) :
    ∀ (xs ys : List (String × Json)) {s t : List Char},
      writeFields sep first xs ++ '}' :: s = writeFields sep first ys ++ '}' :: t →
        xs = ys ∧ s = t
  | [], [], s, t, h => ⟨rfl, (List.cons.inj h).2⟩
  | [], (k, v) :: ys, s, t, h => by
      exfalso
      obtain ⟨tail, hsep⟩ := item_head sep
      cases first
      · simp [writeFields, hsep] at h
      · simp [writeFields, writeString] at h
  | (k, v) :: xs, [], s, t, h => by
      exfalso
      obtain ⟨tail, hsep⟩ := item_head sep
      cases first
      · simp [writeFields, hsep] at h
      · simp [writeFields, writeString] at h
  | (k, v) :: xs, (k', v') :: ys, s, t, h => by
      simp only [writeFields, List.append_assoc, List.append_cancel_left_eq] at h
      obtain ⟨rfl, hvalue⟩ := writeString_inj h
      rw [List.append_cancel_left_eq] at hvalue
      obtain ⟨rfl, hrest⟩ := write_append_inj sep v v'
        (stop_fields sep xs s) (stop_fields sep ys t) hvalue
      obtain ⟨rfl, hst⟩ := writeFields_append_inj sep false xs ys hrest
      exact ⟨rfl, hst⟩

end

theorem write_inj (sep : Separators) {a b : Json}
    (h : write sep a = write sep b) : a = b := by
  have happend : write sep a ++ [] = write sep b ++ [] := by rw [h]
  exact (write_append_inj sep a b stop_nil stop_nil happend).1

instance : DecidableEq Json := fun a b =>
  decidable_of_iff (write .standard a = write .standard b)
    ⟨write_inj .standard, congrArg (write .standard)⟩

mutual

/-- Objects with their fields in the order of their keys, at every depth. -/
def sortKeys : Json → Json
  | .obj fields =>
      .obj ((sortFields fields).insertionSort fun a b => a.1 ≤ b.1)
  | .arr items => .arr (sortItems items)
  | v => v

def sortItems : List Json → List Json
  | [] => []
  | v :: rest => sortKeys v :: sortItems rest

def sortFields : List (String × Json) → List (String × Json)
  | [] => []
  | (k, v) :: rest => (k, sortKeys v) :: sortFields rest

end

/-- `json.dumps(v, separators=sep, sort_keys=sort)`. -/
def dumps (v : Json) (sort : Bool) (sep : Separators) : String :=
  String.ofList (write sep (if sort then sortKeys v else v))

theorem dumps_inj {v w : Json} {sort : Bool} {sep : Separators}
    (h : dumps v sort sep = dumps w sort sep) :
    (if sort then sortKeys v else v) = (if sort then sortKeys w else w) :=
  write_inj sep (String.ofList_injective h)

theorem eq_of_perm_of_keys {fields fields' : List (String × Json)}
    (hkeys : fields.map Prod.fst = fields'.map Prod.fst)
    (hnodup : (fields.map Prod.fst).Nodup) (hperm : fields.Perm fields') :
    fields = fields' := by
  induction fields generalizing fields' with
  | nil => exact hperm.nil_eq
  | cons f rest ih =>
      cases fields' with
      | nil => cases hkeys
      | cons f' rest' =>
          simp only [List.map_cons, List.cons.injEq] at hkeys
          simp only [List.map_cons, List.nodup_cons] at hnodup
          have hmem : f ∈ f' :: rest' := hperm.subset List.mem_cons_self
          have heq : f = f' := by
            rcases List.mem_cons.mp hmem with h | h
            · exact h
            · exact absurd (hkeys.2 ▸ List.mem_map_of_mem h) hnodup.1
          subst heq
          rw [ih hkeys.2 hnodup.2 hperm.cons_inv]

theorem sortFields_keys (fields : List (String × Json)) :
    (sortFields fields).map Prod.fst = fields.map Prod.fst := by
  induction fields with
  | nil => rfl
  | cons f rest ih => simp [sortFields, ih]

/-- Two objects with the same distinct keys in the same order are told apart by
their sorted text, up to the order of keys further down. -/
theorem dumps_obj_inj {fields fields' : List (String × Json)} {sep : Separators}
    (hkeys : fields.map Prod.fst = fields'.map Prod.fst)
    (hnodup : (fields.map Prod.fst).Nodup)
    (h : dumps (.obj fields) true sep = dumps (.obj fields') true sep) :
    sortFields fields = sortFields fields' := by
  have hsorted := dumps_inj h
  simp only [if_true, sortKeys, obj.injEq] at hsorted
  apply eq_of_perm_of_keys
  · rw [sortFields_keys, sortFields_keys, hkeys]
  · rw [sortFields_keys]
    exact hnodup
  · have hperm := List.perm_insertionSort (fun a b => a.1 ≤ b.1)
      (sortFields fields)
    have hperm' := List.perm_insertionSort (fun a b => a.1 ≤ b.1)
      (sortFields fields')
    rw [hsorted] at hperm
    exact hperm.symm.trans hperm'

/-- Python's truth value; a missing key reads as `None`, which is false. -/
def truthy : Option Json → Bool
  | none => false
  | some .null => false
  | some (.bool b) => b
  | some (.num n) => n != 0
  | some (.str s) => s != ""
  | some (.arr items) => !items.isEmpty
  | some (.obj fields) => !fields.isEmpty

/-- `str(v)`. Ids are strings; lists and dictionaries, which Python prints in
its own syntax, do not occur as ids and keep their JSON text here. -/
def pyStr : Json → String
  | .null => "None"
  | .bool true => "True"
  | .bool false => "False"
  | .num n => toString n
  | .str s => s
  | v => v.dumps false .standard

/-- `None` as JSON `null`. -/
def ofOption : Option String → Json
  | none => .null
  | some s => .str s

@[simp] theorem sortKeys_str (s : String) : sortKeys (.str s) = .str s := by
  simp [sortKeys]

@[simp] theorem sortKeys_num (n : Int) : sortKeys (.num n) = .num n := by
  simp [sortKeys]

@[simp] theorem sortKeys_null : sortKeys .null = .null := by
  simp [sortKeys]

@[simp] theorem sortKeys_ofOption (a : Option String) :
    sortKeys (ofOption a) = ofOption a := by
  cases a <;> simp [ofOption]

theorem ofOption_inj {a b : Option String} (h : ofOption a = ofOption b) :
    a = b := by
  cases a <;> cases b <;> cases h <;> rfl

end Json

/-- A `dict` with string keys, in insertion order. -/
abbrev Dict := List (String × Json)

namespace Dict

def get? (d : Dict) (k : String) : Option Json :=
  (d.find? fun f => f.1 = k).map Prod.snd

/-- `d[k] = v`: an existing key keeps its place. -/
def set (d : Dict) (k : String) (v : Json) : Dict :=
  if d.any fun f => f.1 = k then d.map fun f => if f.1 = k then (k, v) else f
  else d ++ [(k, v)]

/-- `d.update(fields)`. -/
def update (d fields : Dict) : Dict :=
  fields.foldl (fun acc f => acc.set f.1 f.2) d

@[simp] theorem get?_set_self (d : Dict) (k : String) (v : Json) :
    (d.set k v).get? k = some v := by
  unfold set get?
  split
  · next hany =>
      rw [List.find?_map]
      obtain ⟨f, hf, hk⟩ := List.any_eq_true.mp hany
      have hk' : f.1 = k := by simpa using hk
      cases hfind : d.find? ((fun f : String × Json => decide (f.1 = k)) ∘
          fun f => if f.1 = k then (k, v) else f) with
      | none =>
          have := List.find?_eq_none.mp hfind f hf
          simp [hk'] at this
      | some g =>
          have hg := List.find?_some hfind
          by_cases hgk : g.1 = k
          · simp [hgk]
          · simp [hgk] at hg
  · next hany =>
      have hnone : d.find? (fun f => decide (f.1 = k)) = none := by
        rw [List.find?_eq_none]
        intro f hf hk
        exact hany (List.any_eq_true.mpr ⟨f, hf, hk⟩)
      rw [List.find?_append, hnone]
      simp

theorem get?_set_of_ne (d : Dict) {k k' : String} (v : Json) (h : k' ≠ k) :
    (d.set k v).get? k' = d.get? k' := by
  unfold set get?
  split
  · rw [List.find?_map]
    have hpred : ((fun f : String × Json => decide (f.1 = k')) ∘
        fun f => if f.1 = k then (k, v) else f) = fun f => decide (f.1 = k') := by
      funext f
      by_cases hf : f.1 = k
      · simp [hf, Ne.symm h]
      · simp [hf]
    rw [hpred]
    cases hfind : d.find? fun f => decide (f.1 = k') with
    | none => rfl
    | some g =>
        have hg : g.1 = k' := by simpa using List.find?_some hfind
        simp [hg, h]
  · rw [List.find?_append]
    cases d.find? fun f => decide (f.1 = k') with
    | none => simp [Ne.symm h]
    | some g => rfl

@[simp] theorem update_nil (d : Dict) : d.update [] = d := rfl

@[simp] theorem update_cons (d rest : Dict) (f : String × Json) :
    d.update (f :: rest) = (d.set f.1 f.2).update rest := rfl

theorem get?_update_of_not_mem (d fields : Dict) {k : String}
    (h : ∀ f ∈ fields, f.1 ≠ k) : (d.update fields).get? k = d.get? k := by
  induction fields generalizing d with
  | nil => rfl
  | cons f rest ih =>
      rw [update_cons, ih (d.set f.1 f.2)
        fun g hg => h g (List.mem_cons_of_mem _ hg)]
      exact get?_set_of_ne d f.2 (h f List.mem_cons_self).symm

/-- Writing a dictionary loses no key. -/
theorem isSome_get?_set (d : Dict) (k : String) (v : Json) {k' : String}
    (h : (d.get? k').isSome) : ((d.set k v).get? k').isSome := by
  by_cases hk : k' = k
  · rw [hk, get?_set_self, Option.isSome_some]
  · rwa [get?_set_of_ne d v hk]

theorem isSome_get?_update (d fields : Dict) {k : String}
    (h : (d.get? k).isSome) : ((d.update fields).get? k).isSome := by
  induction fields generalizing d with
  | nil => exact h
  | cons f rest ih => exact ih (d.set f.1 f.2) (isSome_get?_set d f.1 f.2 h)

end Dict

end ControlPlane.Lib
