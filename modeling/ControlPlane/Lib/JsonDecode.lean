import ControlPlane.Lib.JsonValue

/-!
`json.loads`. The scanner is recursive with a bound on the depth of its calls;
two calls per character suffice, so the bound is not observable. Every failure
is a `ValueError`, which is all that is kept of it; the recursion limit of the
interpreter is not modelled.
-/

namespace ControlPlane.Lib.Value

open JsonNumber (Ends)

variable {F : Type}

def skip (s : List Char) : List Char := s.dropWhile isBlank

/-- What follows a word at the head of a text. -/
def after? : List Char → List Char → Option (List Char)
  | [], s => some s
  | _ :: _, [] => none
  | w :: word, c :: s => if w = c then after? word s else none

def keyword (s : List Char) (name : List Char × Value F) :
    Option (Value F × List Char) :=
  (after? name.1 s).map fun rest => (name.2, rest)

theorem keyword_eq {s rest : List Char} {name : List Char × Value F} {v : Value F}
    (h : keyword s name = some (v, rest)) : v = name.2 := by
  obtain ⟨r, _, heq⟩ := Option.map_eq_some_iff.mp h
  exact (Prod.mk.inj heq).1.symm

/-- `d[key] = value`: an existing key keeps its place. -/
def put (d : List (Text × Value F)) (f : Text × Value F) : List (Text × Value F) :=
  if f.1 ∈ d.map Prod.fst then d.map fun g => if g.1 = f.1 then f else g
  else d ++ [f]

/-- The dictionary of the fields read: of a repeated key the last one counts. -/
def assign (fields : List (Text × Value F)) : List (Text × Value F) :=
  fields.foldl put []

theorem put_keys (d : List (Text × Value F)) (f : Text × Value F) :
    (put d f).map Prod.fst =
      if f.1 ∈ d.map Prod.fst then d.map Prod.fst else d.map Prod.fst ++ [f.1] := by
  unfold put
  split_ifs with h
  · rw [List.map_map]
    apply List.map_congr_left
    intro g _
    by_cases hg : g.1 = f.1
    · simp [hg]
    · simp [hg]
  · simp

theorem put_nodup {d : List (Text × Value F)} (f : Text × Value F)
    (h : (d.map Prod.fst).Nodup) : ((put d f).map Prod.fst).Nodup := by
  rw [put_keys]
  split_ifs with hmem
  · exact h
  · apply List.nodup_append.mpr
    refine ⟨h, List.nodup_singleton _, ?_⟩
    intro a ha b hb heq
    rw [List.mem_singleton.mp hb] at heq
    exact hmem (heq ▸ ha)

theorem mem_put {d : List (Text × Value F)} {f g : Text × Value F}
    (h : g ∈ put d f) : g = f ∨ g ∈ d := by
  unfold put at h
  split_ifs at h
  · obtain ⟨g', hg', heq⟩ := List.mem_map.mp h
    split_ifs at heq
    · exact Or.inl heq.symm
    · exact Or.inr (heq ▸ hg')
  · rcases List.mem_append.mp h with h | h
    · exact Or.inr h
    · exact Or.inl (List.mem_singleton.mp h)

theorem foldl_put_fits (fs d : List (Text × Value F)) (hd : (d.map Prod.fst).Nodup)
    (hfits : ∀ f ∈ d, Text.Writable true f.1 ∧ f.2.Fits true)
    (hfs : ∀ f ∈ fs, Text.Writable true f.1 ∧ f.2.Fits true) :
    ((fs.foldl put d).map Prod.fst).Nodup ∧
      ∀ f ∈ fs.foldl put d, Text.Writable true f.1 ∧ f.2.Fits true := by
  induction fs generalizing d with
  | nil => exact ⟨hd, hfits⟩
  | cons f rest ih =>
      apply ih
      · exact put_nodup f hd
      · intro g hg
        rcases mem_put hg with rfl | hg
        · exact hfs g List.mem_cons_self
        · exact hfits g hg
      · intro g hg
        exact hfs g (List.mem_cons_of_mem _ hg)

theorem assign_fits {fs : List (Text × Value F)} (h : FitsFields true fs) :
    (Value.dict (assign fs)).Fits true := by
  simp only [Fits]
  obtain ⟨hnodup, hfits⟩ := foldl_put_fits fs [] List.nodup_nil (by simp)
    (fitsFields_iff.mp h)
  exact ⟨hnodup, fitsFields_iff.mpr hfits⟩

theorem foldl_put_nodup (fs d : List (Text × Value F))
    (h : ((d ++ fs).map Prod.fst).Nodup) : fs.foldl put d = d ++ fs := by
  induction fs generalizing d with
  | nil => simp
  | cons f rest ih =>
      have hnew : f.1 ∉ d.map Prod.fst := by
        rw [List.map_append, List.nodup_append] at h
        intro hmem
        exact h.2.2 f.1 hmem f.1 (by simp) rfl
      rw [List.foldl_cons, put, if_neg hnew, ih _ (by simpa using h)]
      simp

/-- Fields with distinct keys are kept as they are. -/
theorem assign_nodup {fs : List (Text × Value F)} (h : (fs.map Prod.fst).Nodup) :
    assign fs = fs :=
  foldl_put_nodup fs [] (by simpa using h)

theorem writable_of_scan {s : List Char} {t : Text} {rest : List Char}
    (h : Text.scan s = some (t, rest)) : Text.Writable true t :=
  ⟨Text.scan_decodable h, by simp⟩

variable [FloatFormat F]

/-- A number; an integer with too many digits is refused. -/
def number (s : List Char) : Option (Value F × List Char) :=
  (JsonNumber.scan s).bind fun r =>
    if r.1.tail = [] then
      if r.1.whole.length ≤ JsonNumber.maxStrDigits then
        some (.int r.1.value, r.2)
      else none
    else some (.float (FloatFormat.parse r.1.text), r.2)

def names : List (List Char × Value F) :=
  [(['n', 'u', 'l', 'l'], .null),
    (['t', 'r', 'u', 'e'], .bool true),
    (['f', 'a', 'l', 's', 'e'], .bool false),
    (['N', 'a', 'N'], .float FloatFormat.nan),
    (['I', 'n', 'f', 'i', 'n', 'i', 't', 'y'], .float FloatFormat.infinity),
    (['-', 'I', 'n', 'f', 'i', 'n', 'i', 't', 'y'], .float FloatFormat.negInfinity)]

/-- A value that is neither a string nor a container. -/
def literal (s : List Char) : Option (Value F × List Char) :=
  (names.findSome? (keyword s)).or (number s)

mutual

def value : Nat → List Char → Option (Value F × List Char)
  | 0, _ => none
  | _ + 1, [] => none
  | fuel + 1, c :: rest =>
      if c = '"' then (Text.scan rest).map fun r => (.str r.1, r.2)
      else if c = '{' then
        match after? ['}'] (skip rest) with
        | some rest' => some (.dict [], rest')
        | none => (fields fuel (skip rest)).map fun r => (.dict (assign r.1), r.2)
      else if c = '[' then
        match after? [']'] (skip rest) with
        | some rest' => some (.list [], rest')
        | none => (items fuel (skip rest)).map fun r => (.list r.1, r.2)
      else literal (c :: rest)

/-- The items of a list, up to its closing bracket. -/
def items : Nat → List Char → Option (List (Value F) × List Char)
  | 0, _ => none
  | fuel + 1, s =>
      (value fuel s).bind fun r =>
        match skip r.2 with
        | [] => none
        | c :: rest =>
            if c = ']' then some ([r.1], rest)
            else if c = ',' then
              (items fuel (skip rest)).map fun q => (r.1 :: q.1, q.2)
            else none

def fields : Nat → List Char → Option (List (Text × Value F) × List Char)
  | 0, _ => none
  | fuel + 1, s =>
      (after? ['"'] s).bind fun s₁ =>
        (Text.scan s₁).bind fun k =>
          (after? [':'] (skip k.2)).bind fun s₂ =>
            (value fuel (skip s₂)).bind fun r =>
              match skip r.2 with
              | [] => none
              | c :: rest =>
                  if c = '}' then some ([(k.1, r.1)], rest)
                  else if c = ',' then
                    (fields fuel (skip rest)).map fun q => ((k.1, r.1) :: q.1, q.2)
                  else none

end

/-- `json.loads` with a bound on the depth of its calls; `none` is a
`ValueError`. A byte order mark and a text after the value are refused. -/
def loadsWith (fuel : Nat) (text : List Char) : Option (Value F) :=
  if text.head? = some (Char.ofNat 65279) then none
  else (value fuel (skip text)).bind fun r =>
    if skip r.2 = [] then some r.1 else none

def loads (text : String) : Option (Value F) :=
  loadsWith (2 * text.toList.length + 1) text.toList

theorem printable_of_number {s rest : List Char} {v : Value F}
    (h : number s = some (v, rest)) : v.Fits true := by
  obtain ⟨⟨p, rest'⟩, hscan, hif⟩ := Option.bind_eq_some_iff.mp h
  dsimp only at hif
  split_ifs at hif with htail hlen
  · cases hif
    exact JsonNumber.printable_value (JsonNumber.digits_of_scan hscan) hlen
  · cases hif
    trivial

theorem names_fits {name : List Char × Value F} (h : name ∈ names) :
    name.2.Fits true := by
  simp only [names, List.mem_cons, List.not_mem_nil, or_false] at h
  rcases h with rfl | rfl | rfl | rfl | rfl | rfl <;> simp [Fits]

theorem literal_fits {s rest : List Char} {v : Value F}
    (h : literal s = some (v, rest)) : v.Fits true := by
  rcases Option.or_eq_some_iff.mp h with h | ⟨_, h⟩
  · obtain ⟨name, hname, hkey⟩ := List.exists_of_findSome?_eq_some h
    rw [keyword_eq hkey]
    exact names_fits hname
  · exact printable_of_number h

/-- The three scanners return values a document can hold; the induction is on
the bound they share. -/
theorem decoded_fits (fuel : Nat) :
    (∀ (s : List Char) (v : Value F) rest,
      value fuel s = some (v, rest) → v.Fits true) ∧
    (∀ (s : List Char) (vs : List (Value F)) rest,
      items fuel s = some (vs, rest) → FitsItems true vs) ∧
    (∀ (s : List Char) (fs : List (Text × Value F)) rest,
      fields fuel s = some (fs, rest) → FitsFields true fs) := by
  induction fuel with
  | zero => simp [value, items, fields]
  | succ fuel ih =>
      obtain ⟨ihvalue, ihitems, ihfields⟩ := ih
      refine ⟨?_, ?_, ?_⟩
      · intro s v rest h
        cases s with
        | nil => simp [value] at h
        | cons c s =>
            unfold value at h
            split_ifs at h
            · obtain ⟨⟨t, rest'⟩, hscan, heq⟩ := Option.map_eq_some_iff.mp h
              cases heq
              simp only [Fits]
              exact writable_of_scan hscan
            · split at h
              · cases h
                simp [Fits, FitsFields]
              · obtain ⟨⟨fs, rest'⟩, hfs, heq⟩ := Option.map_eq_some_iff.mp h
                cases heq
                exact assign_fits (ihfields _ _ _ hfs)
            · split at h
              · cases h
                simp [Fits, FitsItems]
              · obtain ⟨⟨vs, rest'⟩, hvs, heq⟩ := Option.map_eq_some_iff.mp h
                cases heq
                simp only [Fits]
                exact ihitems _ _ _ hvs
            · exact literal_fits h
      · intro s vs rest h
        simp only [items] at h
        obtain ⟨⟨v, rest'⟩, hvalue, h⟩ := Option.bind_eq_some_iff.mp h
        split at h
        · cases h
        · split_ifs at h
          · cases h
            exact ⟨ihvalue _ _ _ hvalue, trivial⟩
          · obtain ⟨⟨vs', rest''⟩, hvs, heq⟩ := Option.map_eq_some_iff.mp h
            cases heq
            exact ⟨ihvalue _ _ _ hvalue, ihitems _ _ _ hvs⟩
      · intro s fs rest h
        simp only [fields] at h
        obtain ⟨s₁, _, h⟩ := Option.bind_eq_some_iff.mp h
        obtain ⟨⟨k, s'⟩, hkey, h⟩ := Option.bind_eq_some_iff.mp h
        obtain ⟨s₂, _, h⟩ := Option.bind_eq_some_iff.mp h
        obtain ⟨⟨v, rest'⟩, hvalue, h⟩ := Option.bind_eq_some_iff.mp h
        split at h
        · cases h
        · split_ifs at h
          · cases h
            exact ⟨writable_of_scan hkey, ihvalue _ _ _ hvalue, trivial⟩
          · obtain ⟨⟨fs', rest''⟩, hfs, heq⟩ := Option.map_eq_some_iff.mp h
            cases heq
            exact ⟨writable_of_scan hkey, ihvalue _ _ _ hvalue, ihfields _ _ _ hfs⟩

theorem loads_fits {text : String} {v : Value F} (h : loads text = some v) :
    v.Fits true := by
  unfold loads loadsWith at h
  split_ifs at h
  obtain ⟨⟨w, rest⟩, hvalue, h⟩ := Option.bind_eq_some_iff.mp h
  split_ifs at h
  cases h
  exact (decoded_fits _).1 _ _ _ hvalue

section Blanks

omit [FloatFormat F]

/-- A text that starts with something to read. -/
def Starts (s : List Char) : Prop := ∃ c rest, s = c :: rest ∧ isBlank c = false

theorem starts_cons {c : Char} (h : isBlank c = false) (s : List Char) :
    Starts (c :: s) := ⟨c, s, rfl, h⟩

theorem skip_gap {gap s : List Char} (hgap : ∀ c ∈ gap, isBlank c) (hs : Starts s) :
    skip (gap ++ s) = s := by
  obtain ⟨c, rest, rfl, hc⟩ := hs
  rw [skip, List.dropWhile_append_of_pos hgap, List.dropWhile_cons_of_neg]
  simp [hc]

theorem skip_starts {s : List Char} (hs : Starts s) : skip s = s := by
  have hnil : ∀ c ∈ ([] : List Char), isBlank c := by simp
  exact skip_gap hnil hs

theorem ends_of_blank {c : Char} (h : isBlank c = true) (s : List Char) :
    Ends (c :: s) := by
  apply JsonNumber.ends_cons
  simp only [isBlank, decide_eq_true_eq] at h
  rcases h with rfl | rfl | rfl | rfl <;> decide

theorem ends_gap {gap s : List Char} (hgap : ∀ c ∈ gap, isBlank c) (hs : Ends s) :
    Ends (gap ++ s) := by
  cases gap with
  | nil => exact hs
  | cons c rest => exact ends_of_blank (hgap c List.mem_cons_self) _

end Blanks

/-- The first characters of a written value. -/
def Opens (c : Char) : Prop :=
  isBlank c = false ∧ c ≠ ']' ∧ c ≠ '}' ∧ c ≠ Char.ofNat 65279

instance (c : Char) : Decidable (Opens c) := instDecidableAnd

theorem opens_literal (l : JsonNumber.Literal) :
    ∃ c rest, l.parts.text = c :: rest ∧ Opens c := by
  obtain ⟨c, rest, htext, hc⟩ := JsonNumber.text_head l
  refine ⟨c, rest, htext, ?_⟩
  rcases hc with hdigit | ⟨rfl, _⟩
  · have hne : ∀ w : Char, w.isDigit = false → c ≠ w := by
      rintro w hw rfl
      rw [hdigit] at hw
      cases hw
    refine ⟨?_, hne _ (by decide), hne _ (by decide), hne _ (by decide)⟩
    by_contra hblank
    rw [Bool.not_eq_false] at hblank
    have hends := ends_of_blank hblank [] c [] rfl
    rw [hdigit] at hends
    cases hends.1
  · decide

theorem write_head (L : Layout) (d : Nat) (v : Value F) :
    ∃ c rest, write L d v = c :: rest ∧ Opens c := by
  cases v with
  | null => exact ⟨_, _, rfl, by decide⟩
  | bool b => cases b <;> exact ⟨_, _, rfl, by decide⟩
  | int n =>
      rw [write, ← JsonNumber.ofInt_text]
      exact opens_literal _
  | float x =>
      rw [write]
      rcases FloatFormat.text_spec x with ⟨_, h⟩ | ⟨_, h⟩ | ⟨_, h⟩ | ⟨l, _, h, _⟩
      · exact ⟨_, _, h, by decide⟩
      · exact ⟨_, _, h, by decide⟩
      · exact ⟨_, _, h, by decide⟩
      · rw [h]
        exact opens_literal l
  | str s => exact ⟨_, _, rfl, by decide⟩
  | list items => cases items <;> exact ⟨_, _, rfl, by decide⟩
  | dict fields =>
      cases fields with
      | nil => exact ⟨_, _, rfl, by decide⟩
      | cons f rest => exact ⟨_, _, rfl, by decide⟩

theorem starts_write (L : Layout) (d : Nat) (v : Value F) (s : List Char) :
    Starts (write L d v ++ s) := by
  obtain ⟨c, rest, h, hopens⟩ := write_head L d v
  rw [h]
  exact ⟨c, rest ++ s, rfl, hopens.1⟩

theorem ends_items (L : Layout) (d : Nat) (rest : List (Value F)) (s : List Char) :
    Ends (writeItems L d rest ++ s) := by
  cases rest with
  | nil =>
      rw [writeItems, List.append_assoc]
      exact ends_gap (L.blank_gap d) (JsonNumber.ends_cons (by decide) _)
  | cons v rest => exact JsonNumber.ends_cons (by decide) _

theorem ends_fields (L : Layout) (d : Nat) (rest : List (Text × Value F))
    (s : List Char) : Ends (writeFields L d rest ++ s) := by
  cases rest with
  | nil =>
      rw [writeFields, List.append_assoc]
      exact ends_gap (L.blank_gap d) (JsonNumber.ends_cons (by decide) _)
  | cons f rest => exact JsonNumber.ends_cons (by decide) _

theorem literal_named {word : List Char} {v : Value F} (h : (word, v) ∈ names)
    (s : List Char) : literal (word ++ s) = some (v, s) := by
  simp only [names, List.mem_cons, List.not_mem_nil, or_false] at h
  rcases h with h | h | h | h | h | h <;> cases h <;> rfl

/-- A number is taken for none of the names. -/
theorem literal_number (l : JsonNumber.Literal) (s : List Char) :
    (literal (l.parts.text ++ s) : Option (Value F × List Char)) =
      number (l.parts.text ++ s) := by
  obtain ⟨c, rest, htext, hc⟩ := JsonNumber.text_head l
  have hnone : names.findSome? (keyword (F := F) (l.parts.text ++ s)) = none := by
    rw [htext, List.findSome?_eq_none_iff]
    intro name hname
    simp only [names, List.mem_cons, List.not_mem_nil, or_false] at hname
    rcases hc with hdigit | ⟨rfl, e, rest', rfl, hdigit⟩
    · have hfirst : ∀ w : Char, w.isDigit = false → w ≠ c := by
        rintro w hw rfl
        rw [hdigit] at hw
        cases hw
      rcases hname with rfl | rfl | rfl | rfl | rfl | rfl <;>
        simp [keyword, after?, hfirst 'n' rfl, hfirst 't' rfl, hfirst 'f' rfl,
          hfirst 'N' rfl, hfirst 'I' rfl, hfirst '-' rfl]
    · have hsecond : 'I' ≠ e := by
        rintro rfl
        cases hdigit
      rcases hname with rfl | rfl | rfl | rfl | rfl | rfl <;>
        simp [keyword, after?, hsecond]
  rw [literal, hnone, Option.none_or]

theorem number_int {n : Int} (h : JsonNumber.Printable n) {s : List Char}
    (hs : Ends s) : (number (Json.writeInt n ++ s) : Option (Value F × List Char)) =
      some (.int n, s) := by
  have htail : (JsonNumber.ofInt n).parts.tail = [] := rfl
  have hlen : (JsonNumber.ofInt n).parts.whole.length ≤ JsonNumber.maxStrDigits := h
  rw [number, JsonNumber.scan_writeInt n hs, Option.bind_some]
  dsimp only
  rw [if_pos htail, if_pos hlen, JsonNumber.ofInt_value]

theorem number_float {l : JsonNumber.Literal} (h : l.IsFloat) {s : List Char}
    (hs : Ends s) : (number (l.parts.text ++ s) : Option (Value F × List Char)) =
      some (.float (FloatFormat.parse l.parts.text), s) := by
  rw [number, JsonNumber.scan_text l hs, Option.bind_some]
  exact if_neg h

/-- Anything but a quote or an opening bracket goes to the literals. -/
theorem value_literal {fuel : Nat} {c : Char} {rest : List Char} (hquote : c ≠ '"')
    (hbrace : c ≠ '{') (hbracket : c ≠ '[') :
    (value (fuel + 1) (c :: rest) : Option (Value F × List Char)) =
      literal (c :: rest) := by
  rw [value, if_neg hquote, if_neg hbrace, if_neg hbracket]

theorem value_number {fuel : Nat} (l : JsonNumber.Literal) (s : List Char) :
    (value (fuel + 1) (l.parts.text ++ s) : Option (Value F × List Char)) =
      number (l.parts.text ++ s) := by
  rw [← literal_number]
  obtain ⟨c, rest, htext, hc⟩ := JsonNumber.text_head l
  rw [htext, List.cons_append]
  have hne : ∀ w : Char, w.isDigit = false → w ≠ '-' → c ≠ w := by
    rintro w hdigit hminus rfl
    rcases hc with h | ⟨h, _⟩
    · rw [hdigit] at h
      cases h
    · exact hminus h
  exact value_literal (hne _ (by decide) (by decide)) (hne _ (by decide) (by decide))
    (hne _ (by decide) (by decide))

theorem value_float {fuel : Nat} (x : F) {s : List Char} (hs : Ends s) :
    value (fuel + 1) (FloatFormat.text x ++ s) = some (.float x, s) := by
  have hname : ∀ name : List Char × Value F, name ∈ names → ∀ c rest,
      name.1 = c :: rest → c ≠ '"' → c ≠ '{' → c ≠ '[' →
      value (fuel + 1) (name.1 ++ s) = some (name.2, s) := by
    intro name hmem c rest hc hquote hbrace hbracket
    rw [hc, List.cons_append, value_literal hquote hbrace hbracket,
      ← List.cons_append, ← hc]
    exact literal_named hmem s
  rcases FloatFormat.text_spec x with ⟨hx, h⟩ | ⟨hx, h⟩ | ⟨hx, h⟩ | ⟨l, hl, h, hx⟩
  · rw [h, hx]
    exact hname (['N', 'a', 'N'], .float FloatFormat.nan) (by simp [names]) _ _ rfl
      (by decide) (by decide) (by decide)
  · rw [h, hx]
    exact hname (['I', 'n', 'f', 'i', 'n', 'i', 't', 'y'], .float FloatFormat.infinity)
      (by simp [names]) _ _ rfl (by decide) (by decide) (by decide)
  · rw [h, hx]
    exact hname (['-', 'I', 'n', 'f', 'i', 'n', 'i', 't', 'y'],
      .float FloatFormat.negInfinity) (by simp [names]) _ _ rfl
      (by decide) (by decide) (by decide)
  · rw [h, value_number, number_float hl hs, hx]

theorem after_close {c : Char} {s : List Char} (h : ∀ rest, s ≠ c :: rest) :
    after? [c] s = none := by
  cases s with
  | nil => rfl
  | cons d rest =>
      have hd : c ≠ d := by
        rintro rfl
        exact h rest rfl
      simp [after?, hd]

theorem write_no_close (L : Layout) (d : Nat) (v : Value F) (s : List Char) :
    after? [']'] (write L d v ++ s) = none := by
  obtain ⟨c, rest, h, _, hbracket, _⟩ := write_head L d v
  apply after_close
  intro rest' heq
  rw [h, List.cons_append] at heq
  exact hbracket (List.cons.inj heq).1

/-- The key of a field and its colon are read. -/
theorem fields_head (L : Layout) {k : Text} {fuel : Nat} {s : List Char}
    (hk : Text.Writable L.ascii k) (hs : Starts s) :
    (fields (fuel + 1) (Text.write L.ascii k ++ (':' :: (L.colon ++ s))) :
      Option (List (Text × Value F) × List Char)) =
      (value fuel s).bind fun r =>
        match skip r.2 with
        | [] => none
        | c :: rest =>
            if c = '}' then some ([(k, r.1)], rest)
            else if c = ',' then
              (fields fuel (skip rest)).map fun q => ((k, r.1) :: q.1, q.2)
            else none := by
  have hscan := Text.scan_write hk (':' :: (L.colon ++ s))
  have hquote : after? ['"'] (Text.write L.ascii k ++ (':' :: (L.colon ++ s))) =
      some (k.flatMap (Text.escapePoint L.ascii) ++ '"' :: (':' :: (L.colon ++ s))) := by
    simp [Text.write, after?]
  have hcolon : after? [':'] (skip (':' :: (L.colon ++ s))) = some (L.colon ++ s) := by
    rw [skip_starts (starts_cons (by decide) _)]
    rfl
  rw [fields, hquote, Option.bind_some, hscan, Option.bind_some, hcolon,
    Option.bind_some, skip_gap L.blank_colon hs]

mutual

/-- The decoder reads a written value and leaves what follows it. -/
theorem value_write (L : Layout) : ∀ (v : Value F) (d fuel : Nat) (s : List Char),
    v.Fits L.ascii → Ends s → (write L d v).length < fuel →
      value fuel (write L d v ++ s) = some (v, s)
  | _, _, 0, _, _, _, h => absurd h (Nat.not_lt_zero _)
  | .null, _, _ + 1, s, _, _, _ => by
      rw [write, List.cons_append, value_literal (by decide) (by decide) (by decide)]
      have hmem : (['n', 'u', 'l', 'l'], (.null : Value F)) ∈ names := by
        simp [names]
      exact literal_named hmem s
  | .bool true, _, _ + 1, s, _, _, _ => by
      rw [write, List.cons_append, value_literal (by decide) (by decide) (by decide)]
      have hmem : (['t', 'r', 'u', 'e'], (.bool true : Value F)) ∈ names := by
        simp [names]
      exact literal_named hmem s
  | .bool false, _, _ + 1, s, _, _, _ => by
      rw [write, List.cons_append, value_literal (by decide) (by decide) (by decide)]
      have hmem : (['f', 'a', 'l', 's', 'e'], (.bool false : Value F)) ∈ names := by
        simp [names]
      exact literal_named hmem s
  | .int n, _, _ + 1, s, hfits, hs, _ => by
      rw [write, ← JsonNumber.ofInt_text, value_number, JsonNumber.ofInt_text]
      exact number_int hfits hs
  | .float x, _, _ + 1, s, _, hs, _ => by
      rw [write]
      exact value_float x hs
  | .str t, _, _ + 1, s, hfits, _, _ => by
      simp only [Fits] at hfits
      rw [write, Text.write, List.cons_append, List.append_assoc, value, if_pos rfl]
      have hscan := Text.scan_write hfits s
      rw [List.cons_append, List.nil_append, hscan]
      rfl
  | .list [], _, _ + 1, s, _, _, _ => by
      rw [write]
      rfl
  | .list (v :: rest), d, fuel + 1, s, hfits, _, hfuel => by
      simp only [Fits] at hfits
      simp only [write, List.length_cons, List.length_append] at hfuel
      have hitems := items_write L v rest d fuel s hfits (by omega)
      simp only [write, List.cons_append, List.append_assoc]
      rw [value, if_neg (by decide), if_neg (by decide), if_pos rfl,
        skip_gap (L.blank_gap _) (starts_write L _ v _), write_no_close, hitems]
      rfl
  | .dict [], _, _ + 1, s, _, _, _ => by
      rw [write]
      rfl
  | .dict ((k, v) :: rest), d, fuel + 1, s, hfits, _, hfuel => by
      simp only [Fits] at hfits
      simp only [write, List.length_cons, List.length_append] at hfuel
      have hfields := fields_write L k v rest d fuel s hfits.2 (by omega)
      simp only [write, List.cons_append, List.append_assoc]
      have hstart : ∀ t, Starts (Text.write L.ascii k ++ t) := fun t =>
        starts_cons (by decide) _
      have hclose : ∀ t, after? ['}'] (Text.write L.ascii k ++ t) = none := fun t =>
        after_close (by simp [Text.write])
      rw [value, if_neg (by decide), if_pos rfl,
        skip_gap (L.blank_gap _) (hstart _), hclose, hfields]
      simp only [Option.map_some, assign_nodup hfits.1]
  termination_by v => sizeOf v

theorem items_write (L : Layout) : ∀ (v : Value F) (rest : List (Value F))
    (d fuel : Nat) (s : List Char), FitsItems L.ascii (v :: rest) →
    (write L (d + 1) v).length + (writeItems L d rest).length < fuel →
      items fuel (write L (d + 1) v ++ (writeItems L d rest ++ s)) =
        some (v :: rest, s)
  | _, _, _, 0, _, _, h => absurd h (Nat.not_lt_zero _)
  | v, [], d, fuel + 1, s, hfits, hfuel => by
      simp only [writeItems, List.length_append, List.length_cons] at hfuel
      have hvalue := value_write L v (d + 1) fuel (writeItems L d [] ++ s) hfits.1
        (ends_items L d ([] : List (Value F)) s) (by omega)
      have hskip : skip (writeItems L d ([] : List (Value F)) ++ s) = ']' :: s := by
        rw [writeItems, List.append_assoc]
        exact skip_gap (L.blank_gap d) (starts_cons (by decide) s)
      rw [items, hvalue, Option.bind_some]
      simp only [hskip, if_true]
  | v, w :: rest, d, fuel + 1, s, hfits, hfuel => by
      simp only [writeItems, List.length_append, List.length_cons] at hfuel
      have hvalue := value_write L v (d + 1) fuel (writeItems L d (w :: rest) ++ s)
        hfits.1 (ends_items L d (w :: rest) s) (by omega)
      have hrest := items_write L w rest d fuel s hfits.2 (by omega)
      have hskip : skip (writeItems L d (w :: rest) ++ s) =
          ',' :: (L.gap (d + 1) ++ (write L (d + 1) w ++ (writeItems L d rest ++ s))) := by
        rw [writeItems, List.cons_append, List.append_assoc, List.append_assoc]
        exact skip_starts (starts_cons (by decide) _)
      rw [items, hvalue, Option.bind_some]
      simp only [hskip]
      rw [if_neg (by decide), if_true,
        skip_gap (L.blank_gap _) (starts_write L _ w _), hrest]
      rfl
  termination_by v rest => sizeOf v + sizeOf rest + 1

theorem fields_write (L : Layout) : ∀ (k : Text) (v : Value F)
    (rest : List (Text × Value F)) (d fuel : Nat) (s : List Char),
    FitsFields L.ascii ((k, v) :: rest) →
    (Text.write L.ascii k).length + (1 + L.colon.length) +
      (write L (d + 1) v).length + (writeFields L d rest).length < fuel →
      fields fuel (Text.write L.ascii k ++ (':' :: (L.colon ++
        (write L (d + 1) v ++ (writeFields L d rest ++ s))))) =
          some ((k, v) :: rest, s)
  | _, _, _, _, 0, _, _, h => absurd h (Nat.not_lt_zero _)
  | k, v, [], d, fuel + 1, s, hfits, hfuel => by
      simp only [writeFields, List.length_append, List.length_cons] at hfuel
      have hvalue := value_write L v (d + 1) fuel (writeFields L d [] ++ s) hfits.2.1
        (ends_fields L d ([] : List (Text × Value F)) s) (by omega)
      have hskip : skip (writeFields L d ([] : List (Text × Value F)) ++ s) = '}' :: s := by
        rw [writeFields, List.append_assoc]
        exact skip_gap (L.blank_gap d) (starts_cons (by decide) s)
      rw [fields_head L hfits.1 (starts_write L _ v _), hvalue, Option.bind_some]
      simp only [hskip, if_true]
  | k, v, (k', w) :: rest, d, fuel + 1, s, hfits, hfuel => by
      simp only [writeFields, List.length_append, List.length_cons] at hfuel
      have hvalue := value_write L v (d + 1) fuel (writeFields L d ((k', w) :: rest) ++ s)
        hfits.2.1 (ends_fields L d ((k', w) :: rest) s) (by omega)
      have hrest := fields_write L k' w rest d fuel s hfits.2.2 (by omega)
      have hskip : skip (writeFields L d ((k', w) :: rest) ++ s) =
          ',' :: (L.gap (d + 1) ++ (Text.write L.ascii k' ++ (':' :: (L.colon ++
            (write L (d + 1) w ++ (writeFields L d rest ++ s)))))) := by
        simp only [writeFields, List.cons_append, List.append_assoc]
        exact skip_starts (starts_cons (by decide) _)
      have hstart : ∀ t, Starts (Text.write L.ascii k' ++ t) := fun t =>
        starts_cons (by decide) _
      rw [fields_head L hfits.1 (starts_write L _ v _), hvalue, Option.bind_some]
      simp only [hskip]
      rw [if_neg (by decide), if_true, skip_gap (L.blank_gap _) (hstart _), hrest]
      rfl
  termination_by _ v rest => sizeOf v + sizeOf rest + 1

end

/-- `json.loads(json.dumps(v))` gives `v` back. -/
theorem loads_write (L : Layout) {v : Value F} (h : v.Fits L.ascii) :
    loads (String.ofList (write L 0 v)) = some v := by
  obtain ⟨c, rest, hhead, _, _, _, hmark⟩ := write_head L 0 v
  have hstart : skip (write L 0 v) = write L 0 v := by
    have hs := starts_write L 0 v []
    rw [List.append_nil] at hs
    exact skip_starts hs
  have hvalue := value_write L v 0 (2 * (write L 0 v).length + 1) [] h
    JsonNumber.ends_nil (by omega)
  rw [List.append_nil] at hvalue
  have hnomark : (write L 0 v).head? ≠ some (Char.ofNat 65279) := by
    rw [hhead]
    intro heq
    exact hmark (Option.some.inj heq)
  rw [loads, String.toList_ofList, loadsWith, if_neg hnomark, hstart, hvalue,
    Option.bind_some]
  rfl

/-- `json.dumps(v, sort_keys=True, separators=(",", ":"))`. -/
def canonical (v : Value F) : String := String.ofList (write .compact 0 v.sortKeys)

theorem loads_canonical {v : Value F} (h : v.Fits true) :
    loads (canonical v) = some v.sortKeys :=
  loads_write .compact (sortKeys_fits v h)

/-- Values with the same canonical text are equal. -/
theorem same_of_canonical {v w : Value F} (hv : v.Fits true) (hw : w.Fits true)
    (h : canonical v = canonical w) : Same v w := by
  have hloads := loads_canonical hv
  rw [h, loads_canonical hw] at hloads
  exact same_of_sortKeys v w hv hw (Option.some.inj hloads).symm

section Progress

omit [FloatFormat F]

theorem skip_length (s : List Char) : (skip s).length ≤ s.length :=
  (List.dropWhile_sublist isBlank).length_le

theorem after_length {word s rest : List Char} (h : after? word s = some rest) :
    rest.length + word.length = s.length := by
  induction word generalizing s with
  | nil =>
      cases h
      rfl
  | cons w word ih =>
      cases s with
      | nil => cases h
      | cons c s =>
          rw [after?] at h
          split_ifs at h
          have hlen := ih h
          simp only [List.length_cons]
          omega

end Progress

theorem names_length {name : List Char × Value F} (h : name ∈ names) :
    0 < name.1.length := by
  simp only [names, List.mem_cons, List.not_mem_nil, or_false] at h
  rcases h with rfl | rfl | rfl | rfl | rfl | rfl <;> simp

theorem literal_length {s rest : List Char} {v : Value F}
    (h : literal s = some (v, rest)) : rest.length < s.length := by
  rcases Option.or_eq_some_iff.mp h with h | ⟨_, h⟩
  · obtain ⟨name, hname, hkey⟩ := List.exists_of_findSome?_eq_some h
    obtain ⟨rest', hafter, heq⟩ := Option.map_eq_some_iff.mp hkey
    cases heq
    have hlen := after_length hafter
    have hpos := names_length hname
    omega
  · obtain ⟨⟨p, rest'⟩, hscan, hif⟩ := Option.bind_eq_some_iff.mp h
    have hlen := JsonNumber.scan_length hscan
    dsimp only at hif
    split_ifs at hif <;> cases hif <;> exact hlen

/-- A scanner leaves less than it was given. -/
theorem decoded_length (fuel : Nat) :
    (∀ (s : List Char) (v : Value F) rest,
      value fuel s = some (v, rest) → rest.length < s.length) ∧
    (∀ (s : List Char) (vs : List (Value F)) rest,
      items fuel s = some (vs, rest) → rest.length < s.length) ∧
    (∀ (s : List Char) (fs : List (Text × Value F)) rest,
      fields fuel s = some (fs, rest) → rest.length < s.length) := by
  induction fuel with
  | zero => simp [value, items, fields]
  | succ fuel ih =>
      obtain ⟨ihvalue, ihitems, ihfields⟩ := ih
      refine ⟨?_, ?_, ?_⟩
      · intro s v rest h
        cases s with
        | nil => simp [value] at h
        | cons c s =>
            have hskip := skip_length s
            unfold value at h
            simp only [List.length_cons]
            split_ifs at h
            · obtain ⟨⟨t, rest'⟩, hscan, heq⟩ := Option.map_eq_some_iff.mp h
              cases heq
              have hlen := Text.scan_length hscan
              dsimp only
              omega
            · split at h
              · next hafter =>
                  cases h
                  have hlen := after_length hafter
                  omega
              · obtain ⟨⟨fs, rest'⟩, hfs, heq⟩ := Option.map_eq_some_iff.mp h
                cases heq
                have hlen := ihfields _ _ _ hfs
                dsimp only
                omega
            · split at h
              · next hafter =>
                  cases h
                  have hlen := after_length hafter
                  omega
              · obtain ⟨⟨vs, rest'⟩, hvs, heq⟩ := Option.map_eq_some_iff.mp h
                cases heq
                have hlen := ihitems _ _ _ hvs
                dsimp only
                omega
            · exact literal_length h
      · intro s vs rest h
        simp only [items] at h
        obtain ⟨⟨v, rest'⟩, hvalue, h⟩ := Option.bind_eq_some_iff.mp h
        have hlen := ihvalue _ _ _ hvalue
        have hskip := skip_length rest'
        split at h
        · cases h
        · next c rest₁ hrest =>
            rw [hrest, List.length_cons] at hskip
            split_ifs at h
            · cases h
              omega
            · obtain ⟨⟨vs', rest''⟩, hvs, heq⟩ := Option.map_eq_some_iff.mp h
              cases heq
              have hlen' := ihitems _ _ _ hvs
              have hskip' := skip_length rest₁
              dsimp only at hlen ⊢
              omega
      · intro s fs rest h
        simp only [fields] at h
        obtain ⟨s₁, hquote, h⟩ := Option.bind_eq_some_iff.mp h
        obtain ⟨⟨k, s'⟩, hkey, h⟩ := Option.bind_eq_some_iff.mp h
        obtain ⟨s₂, hcolon, h⟩ := Option.bind_eq_some_iff.mp h
        obtain ⟨⟨v, rest'⟩, hvalue, h⟩ := Option.bind_eq_some_iff.mp h
        have hlen := ihvalue _ _ _ hvalue
        have hskip := skip_length rest'
        have hfront : (skip s₂).length < s.length := by
          have h₁ := after_length hquote
          have h₂ := Text.scan_length hkey
          have h₃ := after_length hcolon
          have h₄ := skip_length s'
          have h₅ := skip_length s₂
          dsimp only at h₂ h₃
          omega
        split at h
        · cases h
        · next c rest₁ hrest =>
            rw [hrest, List.length_cons] at hskip
            split_ifs at h
            · cases h
              omega
            · obtain ⟨⟨fs', rest''⟩, hfs, heq⟩ := Option.map_eq_some_iff.mp h
              cases heq
              have hlen' := ihfields _ _ _ hfs
              have hskip' := skip_length rest₁
              dsimp only at hlen ⊢
              omega

/-- Two bounds that both suffice for a text give the same result. The list
and field scanners pass their text on once before a character is read. -/
theorem decoded_stable (fuel : Nat) :
    (∀ (s : List Char) bound, 2 * s.length < fuel → 2 * s.length < bound →
      (value fuel s : Option (Value F × List Char)) = value bound s) ∧
    (∀ (s : List Char) bound, 2 * s.length + 1 < fuel → 2 * s.length + 1 < bound →
      (items fuel s : Option (List (Value F) × List Char)) = items bound s) ∧
    (∀ (s : List Char) bound, 2 * s.length + 1 < fuel → 2 * s.length + 1 < bound →
      (fields fuel s : Option (List (Text × Value F) × List Char)) =
        fields bound s) := by
  induction fuel with
  | zero => exact ⟨fun _ _ h => absurd h (Nat.not_lt_zero _),
      fun _ _ h => absurd h (Nat.not_lt_zero _), fun _ _ h => absurd h (Nat.not_lt_zero _)⟩
  | succ fuel ih =>
      obtain ⟨ihvalue, ihitems, ihfields⟩ := ih
      refine ⟨?_, ?_, ?_⟩
      · intro s bound hfuel hbound
        obtain ⟨bound, rfl⟩ : ∃ n, bound = n + 1 := ⟨bound - 1, by omega⟩
        cases s with
        | nil => rfl
        | cons c s =>
            simp only [List.length_cons] at hfuel hbound
            have hskip := skip_length s
            have hitems := ihitems (skip s) bound (by omega) (by omega)
            have hfields := ihfields (skip s) bound (by omega) (by omega)
            rw [value, value, hitems, hfields]
      · intro s bound hfuel hbound
        obtain ⟨bound, rfl⟩ : ∃ n, bound = n + 1 := ⟨bound - 1, by omega⟩
        rw [items, items, ihvalue s bound (by omega) (by omega)]
        cases hvalue : (value bound s : Option (Value F × List Char)) with
        | none => rfl
        | some r =>
            obtain ⟨v, rest⟩ := r
            have hlen := (decoded_length bound).1 _ _ _ hvalue
            have hskip := skip_length rest
            simp only [Option.bind_some]
            cases hrest : skip rest with
            | nil => rfl
            | cons c rest₁ =>
                rw [hrest, List.length_cons] at hskip
                have hskip' := skip_length rest₁
                dsimp only
                rw [ihitems (skip rest₁) bound (by omega) (by omega)]
      · intro s bound hfuel hbound
        obtain ⟨bound, rfl⟩ : ∃ n, bound = n + 1 := ⟨bound - 1, by omega⟩
        rw [fields, fields]
        cases hquote : after? ['"'] s with
        | none => rfl
        | some s₁ =>
            have h₁ := after_length hquote
            simp only [Option.bind_some]
            cases hkey : Text.scan s₁ with
            | none => rfl
            | some k =>
                have h₂ := @Text.scan_length s₁ k.1 k.2 hkey
                have h₃ := skip_length k.2
                simp only [Option.bind_some]
                cases hcolon : after? [':'] (skip k.2) with
                | none => rfl
                | some s₂ =>
                    have h₄ := after_length hcolon
                    have h₅ := skip_length s₂
                    simp only [Option.bind_some]
                    rw [ihvalue (skip s₂) bound (by omega) (by omega)]
                    cases hvalue :
                        (value bound (skip s₂) : Option (Value F × List Char)) with
                    | none => rfl
                    | some r =>
                        have hlen := (decoded_length bound).1 _ r.1 r.2 hvalue
                        have hskip := skip_length r.2
                        simp only [Option.bind_some]
                        cases hrest : skip r.2 with
                        | nil => rfl
                        | cons c rest₁ =>
                            rw [hrest, List.length_cons] at hskip
                            have hskip' := skip_length rest₁
                            dsimp only
                            rw [ihfields (skip rest₁) bound (by omega) (by omega)]

end ControlPlane.Lib.Value
