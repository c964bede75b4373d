import ControlPlane.Lib.JsonDecode

/-!
Decoded values inside f-strings: `str`, `repr` and the truth of a value. What
Python decides from its Unicode tables, and the text of a float, are parameters
of the interpreter.
-/

namespace ControlPlane.Lib

/-- The interpreter the services run in. -/
class Python where
  Float : Type
  format : FloatFormat Float
  /-- `float.__repr__`. -/
  floatRepr : Float → Text
  floatZero : Float → Bool
  /-- `str.isprintable` of a code point outside ASCII. -/
  isPrintable : Nat → Bool

instance [Python] : FloatFormat Python.Float := Python.format

/-- A decoded value of the interpreter. -/
abbrev PyValue [Python] := Value Python.Float

namespace Python

variable [Python]

def ofInt (n : Int) : Text := (Json.writeInt n).map Char.toNat

/-- The last `width` hexadecimal digits. -/
def hexDigits : Nat → Nat → Text
  | 0, _ => []
  | width + 1, n => hexDigits width (n / 16) ++ [(Json.hexDigit (n % 16)).toNat]

/-- One code point of `repr` between quotes. -/
def reprPoint (quote n : Nat) : Text :=
  if n = quote ∨ n = 92 then [92, n]
  else if n = 9 then Text.ofString "\\t"
  else if n = 10 then Text.ofString "\\n"
  else if n = 13 then Text.ofString "\\r"
  else if n < 32 ∨ n = 127 then Text.ofString "\\x" ++ hexDigits 2 n
  else if n < 127 then [n]
  else if Python.isPrintable n then [n]
  else if n < 256 then Text.ofString "\\x" ++ hexDigits 2 n
  else if n < 65536 then Text.ofString "\\u" ++ hexDigits 4 n
  else Text.ofString "\\U" ++ hexDigits 8 n

/-- Single quotes, unless the text has some and no double ones. -/
def reprText (s : Text) : Text :=
  let quote := if 39 ∈ s ∧ 34 ∉ s then 34 else 39
  quote :: (s.flatMap (reprPoint quote) ++ [quote])

mutual

def repr : PyValue → Text
  | .null => Text.ofString "None"
  | .bool true => Text.ofString "True"
  | .bool false => Text.ofString "False"
  | .int n => ofInt n
  | .float x => Python.floatRepr x
  | .str s => reprText s
  | .list items => 91 :: (reprItems true items ++ [93])
  | .dict fields => 123 :: (reprFields true fields ++ [125])

def reprItems (first : Bool) : List PyValue → Text
  | [] => []
  | v :: rest =>
      (if first then [] else Text.ofString ", ") ++ (repr v ++ reprItems false rest)

def reprFields (first : Bool) : List (Text × PyValue) → Text
  | [] => []
  | (k, v) :: rest =>
      (if first then [] else Text.ofString ", ") ++
        (reprText k ++ (Text.ofString ": " ++ (repr v ++ reprFields false rest)))

end

/-- What an f-string puts for a value. -/
def str : PyValue → Text
  | .str s => s
  | v => repr v

def truthy : PyValue → Bool
  | .null => false
  | .bool b => b
  | .int n => n != 0
  | .float x => !Python.floatZero x
  | .str s => !s.isEmpty
  | .list items => !items.isEmpty
  | .dict fields => !fields.isEmpty

def typeName : PyValue → String
  | .null => "NoneType"
  | .bool _ => "bool"
  | .int _ => "int"
  | .float _ => "float"
  | .str _ => "str"
  | .list _ => "list"
  | .dict _ => "dict"

end Python

end ControlPlane.Lib
