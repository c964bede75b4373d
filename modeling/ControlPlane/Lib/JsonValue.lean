import ControlPlane.Lib.JsonNumber
import ControlPlane.Lib.JsonText
import Mathlib.Data.List.Nodup

/-!
The values `json.loads` returns, floats and lone surrogates included, and the
text `json.dumps` writes for them in a given layout. Floats are a parameter:
what is used of them is that `repr` writes a literal of the JSON grammar, or
one of the three names, from which `float` restores the value.
-/

namespace ControlPlane.Lib

open JsonNumber (Literal)

inductive Value (F : Type) where
  | null : Value F
  | bool (b : Bool) : Value F
  | int (n : Int) : Value F
  | float (x : F) : Value F
  | str (s : Text) : Value F
  | list (items : List (Value F)) : Value F
  | dict (fields : List (Text × Value F)) : Value F

/-- The floats of the interpreter. -/
class FloatFormat (F : Type) where
  /-- `float(text)` of a literal. -/
  parse : List Char → F
  nan : F
  infinity : F
  negInfinity : F
  /-- What the encoder writes for a float. -/
  text : F → List Char
  text_spec : ∀ x,
    (x = nan ∧ text x = ['N', 'a', 'N']) ∨
    (x = infinity ∧ text x = ['I', 'n', 'f', 'i', 'n', 'i', 't', 'y']) ∨
    (x = negInfinity ∧ text x = ['-', 'I', 'n', 'f', 'i', 'n', 'i', 't', 'y']) ∨
    ∃ l : Literal, l.IsFloat ∧ text x = l.parts.text ∧ parse l.parts.text = x

namespace Value

variable {F : Type}

/-- The blanks a decoder skips. -/
def isBlank (c : Char) : Bool := c = ' ' ∨ c = '\t' ∨ c = '\n' ∨ c = '\r'

/-- The arguments of `json.dumps` that fix the text of a value: `ensure_ascii`,
and the blanks around items and after colons. `gap d` stands before an item at
depth `d`, and before the bracket that closes a container at depth `d`. -/
structure Layout where
  ascii : Bool
  gap : Nat → List Char
  colon : List Char
  blank_gap : ∀ d, ∀ c ∈ gap d, isBlank c
  blank_colon : ∀ c ∈ colon, isBlank c

/-- `separators=(",", ":")`. -/
def Layout.compact : Layout where
  ascii := true
  gap := fun _ => []
  colon := []
  blank_gap := by simp
  blank_colon := by simp

/-- `indent=2, ensure_ascii=False`. -/
def Layout.indented : Layout where
  ascii := false
  gap := fun d => '\n' :: List.replicate (2 * d) ' '
  colon := [' ']
  blank_gap := by
    intro d c hc
    rcases List.mem_cons.mp hc with rfl | hc
    · rfl
    · rw [(List.mem_replicate.mp hc).2]
      rfl
  blank_colon := by
    intro c hc
    rw [List.mem_singleton.mp hc]
    rfl

section Write

variable [FloatFormat F]

mutual

def write (L : Layout) (d : Nat) : Value F → List Char
  | .null => ['n', 'u', 'l', 'l']
  | .bool true => ['t', 'r', 'u', 'e']
  | .bool false => ['f', 'a', 'l', 's', 'e']
  | .int n => Json.writeInt n
  | .float x => FloatFormat.text x
  | .str s => Text.write L.ascii s
  | .list [] => ['[', ']']
  | .list (v :: rest) =>
      '[' :: (L.gap (d + 1) ++ (write L (d + 1) v ++ writeItems L d rest))
  | .dict [] => ['{', '}']
  | .dict ((k, v) :: rest) =>
      '{' :: (L.gap (d + 1) ++ (Text.write L.ascii k ++
        (':' :: (L.colon ++ (write L (d + 1) v ++ writeFields L d rest)))))

/-- The items after the first one, and the closing bracket. -/
def writeItems (L : Layout) (d : Nat) : List (Value F) → List Char
  | [] => L.gap d ++ [']']
  | v :: rest =>
      ',' :: (L.gap (d + 1) ++ (write L (d + 1) v ++ writeItems L d rest))

def writeFields (L : Layout) (d : Nat) : List (Text × Value F) → List Char
  | [] => L.gap d ++ ['}']
  | (k, v) :: rest =>
      ',' :: (L.gap (d + 1) ++ (Text.write L.ascii k ++
        (':' :: (L.colon ++ (write L (d + 1) v ++ writeFields L d rest)))))

end

end Write

mutual

/-- Integers within Python's limit of digits, texts the layout can write, and
objects without a repeated key. -/
def Fits (ascii : Bool) : Value F → Prop
  | .null => True
  | .bool _ => True
  | .int n => JsonNumber.Printable n
  | .float _ => True
  | .str s => Text.Writable ascii s
  | .list items => FitsItems ascii items
  | .dict fields => (fields.map Prod.fst).Nodup ∧ FitsFields ascii fields

def FitsItems (ascii : Bool) : List (Value F) → Prop
  | [] => True
  | v :: rest => v.Fits ascii ∧ FitsItems ascii rest

def FitsFields (ascii : Bool) : List (Text × Value F) → Prop
  | [] => True
  | (k, v) :: rest => Text.Writable ascii k ∧ v.Fits ascii ∧ FitsFields ascii rest

end

theorem fitsFields_iff {ascii : Bool} {fields : List (Text × Value F)} :
    FitsFields ascii fields ↔
      ∀ f ∈ fields, Text.Writable ascii f.1 ∧ f.2.Fits ascii := by
  induction fields with
  | nil => simp [FitsFields]
  | cons f rest ih =>
      obtain ⟨k, v⟩ := f
      simp [FitsFields, ih, and_assoc]

mutual

/-- Objects with their fields in the order of their keys, at every depth. -/
def sortKeys : Value F → Value F
  | .dict fields =>
      .dict ((sortFields fields).insertionSort fun a b => a.1 ≤ b.1)
  | .list items => .list (sortItems items)
  | v => v

def sortItems : List (Value F) → List (Value F)
  | [] => []
  | v :: rest => sortKeys v :: sortItems rest

def sortFields : List (Text × Value F) → List (Text × Value F)
  | [] => []
  | (k, v) :: rest => (k, sortKeys v) :: sortFields rest

end

theorem mem_sortFields {fields : List (Text × Value F)} {f : Text × Value F} :
    f ∈ sortFields fields ↔ ∃ v, (f.1, v) ∈ fields ∧ f.2 = v.sortKeys := by
  induction fields with
  | nil => simp [sortFields]
  | cons g rest ih =>
      obtain ⟨k, v⟩ := g
      obtain ⟨k', w⟩ := f
      simp only [sortFields, List.mem_cons, ih, Prod.mk.injEq]
      constructor
      · rintro (⟨rfl, rfl⟩ | ⟨v', hmem, rfl⟩)
        · exact ⟨v, Or.inl ⟨rfl, rfl⟩, rfl⟩
        · exact ⟨v', Or.inr hmem, rfl⟩
      · rintro ⟨v', ⟨rfl, rfl⟩ | hmem, rfl⟩
        · exact Or.inl ⟨rfl, rfl⟩
        · exact Or.inr ⟨v', hmem, rfl⟩

theorem sortFields_keys (fields : List (Text × Value F)) :
    (sortFields fields).map Prod.fst = fields.map Prod.fst := by
  induction fields with
  | nil => rfl
  | cons f rest ih => simp [sortFields, ih]

mutual

theorem sortKeys_fits {ascii : Bool} :
    ∀ v : Value F, v.Fits ascii → v.sortKeys.Fits ascii
  | .null, h => h
  | .bool _, h => h
  | .int _, h => h
  | .float _, h => h
  | .str _, h => h
  | .list items, h => by
      simp only [Fits] at h
      simp only [sortKeys, Fits]
      exact sortItems_fits items h
  | .dict fields, h => by
      simp only [Fits] at h
      simp only [sortKeys, Fits]
      have hperm := List.perm_insertionSort (fun a b => a.1 ≤ b.1) (sortFields fields)
      constructor
      · rw [(hperm.map Prod.fst).nodup_iff, sortFields_keys]
        exact h.1
      · rw [fitsFields_iff]
        intro f hf
        exact fitsFields_iff.mp (sortFields_fits fields h.2) f (hperm.subset hf)

theorem sortItems_fits {ascii : Bool} :
    ∀ items : List (Value F), FitsItems ascii items → FitsItems ascii (sortItems items)
  | [], h => h
  | v :: rest, h => ⟨sortKeys_fits v h.1, sortItems_fits rest h.2⟩

theorem sortFields_fits {ascii : Bool} :
    ∀ fields : List (Text × Value F),
      FitsFields ascii fields → FitsFields ascii (sortFields fields)
  | [], h => h
  | (_, v) :: rest, h => ⟨h.1, sortKeys_fits v h.2.1, sortFields_fits rest h.2.2⟩

end

/-- `d.get(key)`. -/
def lookup (fields : List (Text × Value F)) (key : Text) : Option (Value F) :=
  (fields.find? fun f => f.1 = key).map Prod.snd

theorem lookup_of_mem {fields : List (Text × Value F)} {k : Text} {v : Value F}
    (hnodup : (fields.map Prod.fst).Nodup) (h : (k, v) ∈ fields) :
    lookup fields k = some v := by
  unfold lookup
  induction fields with
  | nil => cases h
  | cons f rest ih =>
      simp only [List.map_cons, List.nodup_cons] at hnodup
      rcases List.mem_cons.mp h with rfl | h
      · simp
      · have hne : f.1 ≠ k := by
          rintro rfl
          exact hnodup.1 (List.mem_map.mpr ⟨(f.1, v), h, rfl⟩)
        simp [hne, ih hnodup.2 h]

mutual

/-- `==` of decoded values: the order of keys does not count. -/
def Same : Value F → Value F → Prop
  | .null, .null => True
  | .bool a, .bool b => a = b
  | .int m, .int n => m = n
  | .float x, .float y => x = y
  | .str s, .str t => s = t
  | .list xs, .list ys => SameItems xs ys
  | .dict fs, .dict gs => fs.length = gs.length ∧ SameFields fs gs
  | _, _ => False

def SameItems : List (Value F) → List (Value F) → Prop
  | [], [] => True
  | x :: xs, y :: ys => Same x y ∧ SameItems xs ys
  | _, _ => False

/-- Every field of the first is one of the second. -/
def SameFields : List (Text × Value F) → List (Text × Value F) → Prop
  | [], _ => True
  | (k, v) :: rest, gs => (∃ w, lookup gs k = some w ∧ Same v w) ∧ SameFields rest gs

end

/-- Two objects with the same sorted fields have the same keys with the same
sorted values. -/
theorem sorted_lookup {fs gs : List (Text × Value F)}
    (hgs : (gs.map Prod.fst).Nodup)
    (h : (sortFields fs).insertionSort (fun a b => a.1 ≤ b.1) =
      (sortFields gs).insertionSort fun a b => a.1 ≤ b.1)
    {k : Text} {v : Value F} (hmem : (k, v) ∈ fs) :
    ∃ w, (k, w) ∈ gs ∧ lookup gs k = some w ∧ v.sortKeys = w.sortKeys := by
  have hperm := List.perm_insertionSort (fun a b => a.1 ≤ b.1) (sortFields fs)
  have hperm' := List.perm_insertionSort (fun a b => a.1 ≤ b.1) (sortFields gs)
  have hsorted : (k, v.sortKeys) ∈ sortFields fs := mem_sortFields.mpr ⟨v, hmem, rfl⟩
  have hin : (k, v.sortKeys) ∈ sortFields gs := by
    apply hperm'.subset
    rw [← h]
    exact hperm.symm.subset hsorted
  obtain ⟨w, hw, heq⟩ := mem_sortFields.mp hin
  exact ⟨w, hw, lookup_of_mem hgs hw, heq⟩

theorem length_sortFields (fields : List (Text × Value F)) :
    (sortFields fields).length = fields.length := by
  rw [← List.length_map (f := Prod.fst), sortFields_keys, List.length_map]

mutual

/-- Values that sort to the same value are equal in Python. -/
theorem same_of_sortKeys : ∀ (v w : Value F) {a b : Bool}, v.Fits a → w.Fits b →
    v.sortKeys = w.sortKeys → Same v w
  | .null, w, _, _, _, _, h => by cases w <;> simp_all [sortKeys, Same]
  | .bool _, w, _, _, _, _, h => by cases w <;> simp_all [sortKeys, Same]
  | .int _, w, _, _, _, _, h => by cases w <;> simp_all [sortKeys, Same]
  | .float _, w, _, _, _, _, h => by cases w <;> simp_all [sortKeys, Same]
  | .str _, w, _, _, _, _, h => by cases w <;> simp_all [sortKeys, Same]
  | .list xs, w, _, _, hv, hw, h => by
      cases w with
      | list ys =>
          simp only [sortKeys, list.injEq] at h
          simp only [Fits] at hv hw
          simp only [Same]
          exact same_of_sortItems xs ys hv hw h
      | _ => simp [sortKeys] at h
  | .dict fs, w, _, _, hv, hw, h => by
      cases w with
      | dict gs =>
          simp only [sortKeys, dict.injEq] at h
          simp only [Fits] at hv hw
          simp only [Same]
          constructor
          · have hlen := congrArg List.length h
            rwa [List.length_insertionSort, List.length_insertionSort,
              length_sortFields, length_sortFields] at hlen
          · exact same_of_sortFields fs gs hv.2 hw.2 fun k v hmem =>
              sorted_lookup hw.1 h hmem
      | _ => simp [sortKeys] at h

theorem same_of_sortItems : ∀ (xs ys : List (Value F)) {a b : Bool},
    FitsItems a xs → FitsItems b ys → sortItems xs = sortItems ys → SameItems xs ys
  | [], ys, _, _, _, _, h => by cases ys <;> simp_all [sortItems, SameItems]
  | x :: xs, [], _, _, _, _, h => by simp [sortItems] at h
  | x :: xs, y :: ys, _, _, hx, hy, h => by
      simp only [sortItems, List.cons.injEq] at h
      exact ⟨same_of_sortKeys x y hx.1 hy.1 h.1,
        same_of_sortItems xs ys hx.2 hy.2 h.2⟩

theorem same_of_sortFields : ∀ (fs gs : List (Text × Value F)) {a b : Bool},
    FitsFields a fs → FitsFields b gs →
    (∀ k v, (k, v) ∈ fs → ∃ w, (k, w) ∈ gs ∧ lookup gs k = some w ∧
      v.sortKeys = w.sortKeys) → SameFields fs gs
  | [], _, _, _, _, _, _ => trivial
  | (k, v) :: rest, gs, _, _, hfs, hgs, h => by
      obtain ⟨w, hmem, hlookup, hsort⟩ := h k v List.mem_cons_self
      have hw := (fitsFields_iff.mp hgs (k, w) hmem).2
      exact ⟨⟨w, hlookup, same_of_sortKeys v w hfs.2.1 hw hsort⟩,
        same_of_sortFields rest gs hfs.2.2 hgs fun k' v' hmem' =>
          h k' v' (List.mem_cons_of_mem _ hmem')⟩

end

mutual

/-- A value without floats, its texts as code points. -/
def ofJson : Json → Value F
  | .null => .null
  | .bool b => .bool b
  | .num n => .int n
  | .str s => .str (Text.ofString s)
  | .arr items => .list (ofItems items)
  | .obj fields => .dict (ofFields fields)

def ofItems : List Json → List (Value F)
  | [] => []
  | v :: rest => ofJson v :: ofItems rest

def ofFields : List (String × Json) → List (Text × Value F)
  | [] => []
  | (k, v) :: rest => (Text.ofString k, ofJson v) :: ofFields rest

end

mutual

/-- A Python dictionary has each key once, at every depth. -/
def Distinct : Json → Prop
  | .arr items => DistinctItems items
  | .obj fields => (fields.map Prod.fst).Nodup ∧ DistinctFields fields
  | _ => True

def DistinctItems : List Json → Prop
  | [] => True
  | v :: rest => Distinct v ∧ DistinctItems rest

def DistinctFields : List (String × Json) → Prop
  | [] => True
  | (_, v) :: rest => Distinct v ∧ DistinctFields rest

end

@[simp] theorem distinct_null : Distinct .null := trivial

@[simp] theorem distinct_bool (b : Bool) : Distinct (.bool b) := trivial

@[simp] theorem distinct_num (n : Int) : Distinct (.num n) := trivial

@[simp] theorem distinct_str (s : String) : Distinct (.str s) := trivial

@[simp] theorem distinct_arr (items : List Json) :
    Distinct (.arr items) ↔ DistinctItems items := Iff.rfl

@[simp] theorem distinct_obj (fields : List (String × Json)) :
    Distinct (.obj fields) ↔ (fields.map Prod.fst).Nodup ∧ DistinctFields fields := Iff.rfl

@[simp] theorem distinctItems_nil : DistinctItems [] := trivial

@[simp] theorem distinctItems_cons (v : Json) (rest : List Json) :
    DistinctItems (v :: rest) ↔ Distinct v ∧ DistinctItems rest := Iff.rfl

@[simp] theorem distinctFields_nil : DistinctFields [] := trivial

@[simp] theorem distinctFields_cons (field : String × Json) (rest : List (String × Json)) :
    DistinctFields (field :: rest) ↔ Distinct field.2 ∧ DistinctFields rest := Iff.rfl

mutual

/-- Every integer is within the limit of digits. -/
def printable : Json → Bool
  | .num n => JsonNumber.Printable n
  | .arr items => printableItems items
  | .obj fields => printableFields fields
  | _ => true

def printableItems : List Json → Bool
  | [] => true
  | v :: rest => printable v && printableItems rest

def printableFields : List (String × Json) → Bool
  | [] => true
  | (_, v) :: rest => printable v && printableFields rest

end

theorem writable_ofString (ascii : Bool) (s : String) :
    Text.Writable ascii (Text.ofString s) :=
  ⟨(Text.scalar_ofString s).decodable, fun _ => Text.scalar_ofString s⟩

theorem ofFields_keys (fields : List (String × Json)) :
    (ofFields fields : List (Text × Value F)).map Prod.fst =
      (fields.map Prod.fst).map Text.ofString := by
  induction fields with
  | nil => rfl
  | cons f rest ih => simp [ofFields, ih]

mutual

/-- What the service writes fits every layout. -/
theorem ofJson_fits (ascii : Bool) : ∀ v : Json, Distinct v → printable v = true →
    (ofJson v : Value F).Fits ascii
  | .null, _, _ => trivial
  | .bool _, _, _ => trivial
  | .num n, _, h => by
      simp only [printable, decide_eq_true_eq] at h
      simp only [ofJson, Fits]
      exact h
  | .str s, _, _ => by
      simp only [ofJson, Fits]
      exact writable_ofString ascii s
  | .arr items, hd, h => by
      simp only [Distinct] at hd
      simp only [printable] at h
      simp only [ofJson, Fits]
      exact ofItems_fits ascii items hd h
  | .obj fields, hd, h => by
      simp only [Distinct] at hd
      simp only [printable] at h
      simp only [ofJson, Fits]
      constructor
      · rw [ofFields_keys]
        exact hd.1.map Text.ofString_injective
      · exact ofFields_fits ascii fields hd.2 h

theorem ofItems_fits (ascii : Bool) : ∀ items : List Json, DistinctItems items →
    printableItems items = true → FitsItems ascii (ofItems items : List (Value F))
  | [], _, _ => trivial
  | v :: rest, hd, h => by
      simp only [printableItems, Bool.and_eq_true] at h
      exact ⟨ofJson_fits ascii v hd.1 h.1, ofItems_fits ascii rest hd.2 h.2⟩

theorem ofFields_fits (ascii : Bool) : ∀ fields : List (String × Json),
    DistinctFields fields → printableFields fields = true →
    FitsFields ascii (ofFields fields : List (Text × Value F))
  | [], _, _ => trivial
  | (k, v) :: rest, hd, h => by
      simp only [printableFields, Bool.and_eq_true] at h
      exact ⟨writable_ofString ascii k, ofJson_fits ascii v hd.1 h.1,
        ofFields_fits ascii rest hd.2 h.2⟩

end

end Value

end ControlPlane.Lib
