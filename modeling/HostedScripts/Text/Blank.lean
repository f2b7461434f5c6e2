/-!
# Blanks and letter case

Trimming removes every character with the Unicode property `White_Space`. Letter case of names is
compared for the ASCII letters only.
-/

namespace HostedScripts.Text

/-- The Unicode property `White_Space`. -/
def isBlank (c : Char) : Bool :=
  let n := c.toNat
  (9 ≤ n && n ≤ 13) || n == 0x20 || n == 0x85 || n == 0xA0 || n == 0x1680 ||
    (0x2000 ≤ n && n ≤ 0x200A) || n == 0x2028 || n == 0x2029 || n == 0x202F || n == 0x205F ||
    n == 0x3000

/-- A text without the blanks at its two ends. -/
def trim (s : String) : String :=
  String.ofList ((s.toList.dropWhile isBlank).reverse.dropWhile isBlank).reverse

/-- A text with its ASCII capitals made small. -/
def lowerAscii (s : String) : String := String.ofList (s.toList.map Char.toLower)

/-- A text with its small ASCII letters made capital. -/
def upperAscii (s : String) : String := String.ofList (s.toList.map Char.toUpper)

/-- The parts of a list between the occurrences of a separator; always one more than those. -/
def splitList (sep : Char) : List Char → List (List Char)
  | [] => [[]]
  | c :: rest =>
    match splitList sep rest with
    | [] => [[]]
    | part :: parts => if c == sep then [] :: part :: parts else (c :: part) :: parts

/-- The parts of a text between the occurrences of a character. -/
def splitAt (sep : Char) (s : String) : List String := (splitList sep s.toList).map String.ofList

/-- Whether `part` occurs in `text`, at its start or later. -/
def containsList (part : List Char) : List Char → Bool
  | [] => part.isEmpty
  | c :: rest => part.isPrefixOf (c :: rest) || containsList part rest

/-- Whether `part` occurs in `text`. -/
def contains (text part : String) : Bool := containsList part.toList text.toList

example : trim "\t a b\x0b" = "a b" ∧ splitAt '/' "a//b" = ["a", "", "b"] := by decide +kernel

end HostedScripts.Text
