import ControlPlane.Lib.JsonText

/-!
`bytes.hex` and `bytes.fromhex`. The decoder takes digits of either case and
skips blanks between bytes, so it accepts more texts than the encoder writes.
-/

namespace ControlPlane.Lib.Hex

def isSpace (c : Char) : Bool := c.toNat = 32 ∨ (9 ≤ c.toNat ∧ c.toNat ≤ 13)

def encodeByte (b : UInt8) : List Char :=
  [Json.hexDigit (b.toNat / 16), Json.hexDigit (b.toNat % 16)]

def encode (bytes : List UInt8) : String := String.ofList (bytes.flatMap encodeByte)

def decodeChars : List Char → Option (List UInt8)
  | [] => some []
  | [c] => if isSpace c then some [] else none
  | a :: b :: rest =>
      if isSpace a then decodeChars (b :: rest)
      else
        match Text.hexValue a, Text.hexValue b with
        | some hi, some lo =>
            (decodeChars rest).map fun bytes => UInt8.ofNat (hi * 16 + lo) :: bytes
        | _, _ => none

/-- `none` is a `ValueError`. -/
def decode (text : String) : Option (List UInt8) := decodeChars text.toList

theorem hexDigit_not_space {n : Nat} (h : n < 16) :
    isSpace (Json.hexDigit n) = false := by
  revert n
  decide

theorem decode_encode (bytes : List UInt8) : decode (encode bytes) = some bytes := by
  rw [decode, encode, String.toList_ofList]
  induction bytes with
  | nil => rfl
  | cons b rest ih =>
      have hb := b.toNat_lt
      have hhi : b.toNat / 16 < 16 := by omega
      have hlo : b.toNat % 16 < 16 := by omega
      have hval : b.toNat / 16 * 16 + b.toNat % 16 = b.toNat := by omega
      simp only [List.flatMap_cons, encodeByte, List.cons_append, List.nil_append,
        decodeChars, hexDigit_not_space hhi, Text.hexValue_hexDigit hhi,
        Text.hexValue_hexDigit hlo, Bool.false_eq_true, if_false, ih, hval,
        Option.map_some, UInt8.ofNat_toNat]

theorem encode_ne_empty {bytes : List UInt8} (h : bytes ≠ []) : encode bytes ≠ "" := by
  intro heq
  have hdecode := decode_encode bytes
  rw [heq] at hdecode
  exact h (Option.some.inj hdecode).symm

end ControlPlane.Lib.Hex
