import Mathlib.Data.List.Basic

/-!
SHA-256 on words as natural numbers below `2 ^ 32`. The results of the
development hold for any digest; this one makes concrete chains computable.
-/

namespace ControlPlane.Lib.Sha256

def wordSize : Nat := 4294967296

def rotr (n x : Nat) : Nat := (x >>> n) ||| ((x <<< (32 - n)) % wordSize)

def constants : List Nat :=
  [0x428a2f98, 0x71374491, 0xb5c0fbcf, 0xe9b5dba5, 0x3956c25b, 0x59f111f1,
   0x923f82a4, 0xab1c5ed5, 0xd807aa98, 0x12835b01, 0x243185be, 0x550c7dc3,
   0x72be5d74, 0x80deb1fe, 0x9bdc06a7, 0xc19bf174, 0xe49b69c1, 0xefbe4786,
   0x0fc19dc6, 0x240ca1cc, 0x2de92c6f, 0x4a7484aa, 0x5cb0a9dc, 0x76f988da,
   0x983e5152, 0xa831c66d, 0xb00327c8, 0xbf597fc7, 0xc6e00bf3, 0xd5a79147,
   0x06ca6351, 0x14292967, 0x27b70a85, 0x2e1b2138, 0x4d2c6dfc, 0x53380d13,
   0x650a7354, 0x766a0abb, 0x81c2c92e, 0x92722c85, 0xa2bfe8a1, 0xa81a664b,
   0xc24b8b70, 0xc76c51a3, 0xd192e819, 0xd6990624, 0xf40e3585, 0x106aa070,
   0x19a4c116, 0x1e376c08, 0x2748774c, 0x34b0bcb5, 0x391c0cb3, 0x4ed8aa4a,
   0x5b9cca4f, 0x682e6ff3, 0x748f82ee, 0x78a5636f, 0x84c87814, 0x8cc70208,
   0x90befffa, 0xa4506ceb, 0xbef9a3f7, 0xc67178f2]

structure State where
  a : Nat
  b : Nat
  c : Nat
  d : Nat
  e : Nat
  f : Nat
  g : Nat
  h : Nat

def initial : State :=
  ⟨0x6a09e667, 0xbb67ae85, 0x3c6ef372, 0xa54ff53a, 0x510e527f, 0x9b05688c,
    0x1f83d9ab, 0x5be0cd19⟩

/-- `k n`, with `n` computed first. -/
def strict {α : Type} (n : Nat) (k : Nat → α) : α :=
  match n with
  | 0 => k 0
  | m + 1 => k (m + 1)

/-- The next word of the schedule from the sixteen before it. -/
def nextWord (w0 w1 w9 w14 : Nat) : Nat :=
  let s0 := rotr 7 w1 ^^^ rotr 18 w1 ^^^ (w1 >>> 3)
  let s1 := rotr 17 w14 ^^^ rotr 19 w14 ^^^ (w14 >>> 10)
  (w0 + s0 + w9 + s1) % wordSize

def round (s : State) (k w : Nat) : State :=
  match s with
  | ⟨a, b, c, d, e, f, g, h⟩ =>
      let s1 := rotr 6 e ^^^ rotr 11 e ^^^ rotr 25 e
      let ch := (e &&& f) ^^^ ((wordSize - 1 - e) &&& g)
      let s0 := rotr 2 a ^^^ rotr 13 a ^^^ rotr 22 a
      let maj := (a &&& b) ^^^ (a &&& c) ^^^ (b &&& c)
      strict ((h + s1 + ch + k + w) % wordSize) fun t1 =>
        strict ((t1 + s0 + maj) % wordSize) fun a' =>
          strict ((d + t1) % wordSize) fun e' => ⟨a', a, b, c, e', e, f, g⟩

/-- The rounds with the given constants; the window holds the sixteen words of
the schedule that come next. -/
def rounds : List Nat → List Nat → State → State
  | [], _, s => s
  | k :: ks, window, s =>
      match window with
      | w0 :: w1 :: rest =>
          strict (nextWord w0 w1 (rest.getD 7 0) (rest.getD 12 0)) fun w =>
            match round s k w0 with
            | ⟨a, b, c, d, e, f, g, h⟩ =>
                rounds ks (w1 :: rest ++ [w]) ⟨a, b, c, d, e, f, g, h⟩
      | _ => s

def compress (s : State) (block : List Nat) : State :=
  let t := rounds constants block s
  ⟨(s.a + t.a) % wordSize, (s.b + t.b) % wordSize, (s.c + t.c) % wordSize,
    (s.d + t.d) % wordSize, (s.e + t.e) % wordSize, (s.f + t.f) % wordSize,
    (s.g + t.g) % wordSize, (s.h + t.h) % wordSize⟩

def words : List Nat → List Nat
  | a :: b :: c :: d :: rest =>
      (a * 16777216 + b * 65536 + c * 256 + d) :: words rest
  | _ => []

/-- The message with its padding, a whole number of blocks. -/
def pad (bytes : List Nat) : List Nat :=
  let bits := bytes.length * 8
  bytes ++ 128 :: List.replicate ((119 - bytes.length % 64) % 64) 0 ++
    (List.range 8).map fun i => (bits >>> (8 * (7 - i))) % 256

def blocks (fuel : Nat) (ws : List Nat) (s : State) : State :=
  match fuel with
  | 0 => s
  | fuel + 1 => blocks fuel (ws.drop 16) (compress s (ws.take 16))

def hexDigit (n : Nat) : Char := "0123456789abcdef".toList.getD n '0'

def hexWord (n : Nat) : List Char :=
  (List.range 8).map fun i => hexDigit ((n >>> (4 * (7 - i))) % 16)

def hexdigest (text : String) : String :=
  let ws := words (pad (text.toByteArray.data.toList.map UInt8.toNat))
  let s := blocks (ws.length / 16) ws initial
  String.ofList ([s.a, s.b, s.c, s.d, s.e, s.f, s.g, s.h].flatMap hexWord)

/-- A digest is written in hexadecimal digits, without a separator. -/
theorem colon_not_mem_hexdigest (text : String) : ':' ∉ (hexdigest text).toList := by
  have hdigit : ∀ n < 16, hexDigit n ≠ ':' := by decide
  intro h
  simp only [hexdigest, String.toList_ofList, List.mem_flatMap, hexWord,
    List.mem_map] at h
  obtain ⟨word, _, i, _, hcolon⟩ := h
  exact hdigit _ (Nat.mod_lt _ (by omega)) hcolon

theorem length_hexdigest (text : String) : (hexdigest text).length = 64 := by
  simp [hexdigest, hexWord]

end ControlPlane.Lib.Sha256
