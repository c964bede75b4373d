import ControlPlane.Db.Models

/-!
The string operations of the classifiers, on lists of characters: `lower`,
`strip`, substring tests, and the two regular expressions. The patterns are
ASCII, so lowering is exact where it matters: besides the ASCII capitals only
U+0130 and U+212A have ASCII letters in their lower case, and every other
character is kept.
-/

namespace ControlPlane.Text

/-- `str.isspace` of one character. -/
def isSpace (c : Char) : Bool :=
  let n := c.toNat
  (9 ≤ n && n ≤ 13) || (28 ≤ n && n ≤ 32) || n == 133 || n == 160 || n == 5760 ||
    (8192 ≤ n && n ≤ 8202) || n == 8232 || n == 8233 || n == 8239 || n == 8287 ||
    n == 12288

def lowerChar (c : Char) : List Char :=
  if c = Char.ofNat 0x130 then ['i', Char.ofNat 0x307]
  else if c = Char.ofNat 0x212A then ['k']
  else [c.toLower]

def lower (text : String) : List Char := text.toList.flatMap lowerChar

def strip (text : String) : String :=
  String.ofList
    ((text.toList.dropWhile isSpace).reverse.dropWhile isSpace).reverse

/-- `pattern in text`. -/
def occurs (pattern : List Char) : List Char → Bool
  | [] => pattern.isEmpty
  | c :: rest => pattern.isPrefixOf (c :: rest) || occurs pattern rest

def anyOccurs (markers : List String) (text : List Char) : Bool :=
  markers.any fun m => occurs m.toList text

section

variable [Deployment]

/-- `\w`: letters outside ASCII are the deployment's. -/
def isWord (c : Char) : Bool :=
  c.isAlphanum || c == '_' || (128 ≤ c.toNat && Deployment.isAlnum c)

/-- `\b(w₁|w₂|…)\b` matches somewhere; `inWord` says whether the character
before the text is a word character. -/
def searchWords (words : List String) (inWord : Bool) : List Char → Bool
  | [] => false
  | c :: rest =>
      (isWord c != inWord && words.any fun w =>
        w.toList.isPrefixOf (c :: rest) &&
          match (c :: rest).drop w.length with
          | [] => true
          | next :: _ => !isWord next) ||
        searchWords words (isWord c) rest

end

/-- `[:=\s]`. -/
def isHintSeparator (c : Char) : Bool := c == ':' || c == '=' || isSpace c

/-- `[A-Za-z0-9_-]` without regard to case, which also admits four letters
outside ASCII. -/
def isHintChar (c : Char) : Bool :=
  c.isAlphanum || c == '_' || c == '-' || c == Char.ofNat 0x130 ||
    c == Char.ofNat 0x131 || c == Char.ofNat 0x17F || c == Char.ofNat 0x212A

/-- `thread[:=\s]+([A-Za-z0-9_-]+)` at this place. -/
def matchHint (text : List Char) : Option String :=
  if (text.take 6).map Char.toLower = "thread".toList then
    let rest := text.drop 6
    let hint := (rest.dropWhile isHintSeparator).takeWhile isHintChar
    if (rest.takeWhile isHintSeparator).isEmpty || hint.isEmpty then none
    else some (String.ofList hint)
  else none

/-- `_EMAIL_HINT.search(message)`: the group of the leftmost match. -/
def searchHint : List Char → Option String
  | [] => none
  | c :: rest => (matchHint (c :: rest)).orElse fun _ => searchHint rest

end ControlPlane.Text
