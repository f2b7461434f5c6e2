/-!
# Bytes and numerals

UTF-8 bytes of a text and back, and numerals in base ten and sixteen.
-/

namespace HostedScripts.Text

/-- The UTF-8 bytes of a text. -/
def toBytes (s : String) : List UInt8 := s.toUTF8.toList

/-- The text with the given UTF-8 bytes, if they are well formed. -/
def ofBytes? (bytes : List UInt8) : Option String := String.fromUTF8? (ByteArray.mk bytes.toArray)

/-- How many bytes a text takes in UTF-8. -/
def byteLength (cs : List Char) : Nat := cs.foldl (fun n c => n + c.utf8Size) 0

/-- The small hexadecimal digit of a number below sixteen. -/
def hexDigit (n : Nat) : Char := if n < 10 then Char.ofNat (48 + n) else Char.ofNat (87 + n)

/-- The value of a hexadecimal digit. -/
def hexValue? (c : Char) : Option Nat :=
  if '0' ≤ c && c ≤ '9' then some (c.toNat - 48)
  else if 'a' ≤ c && c ≤ 'f' then some (c.toNat - 87)
  else if 'A' ≤ c && c ≤ 'F' then some (c.toNat - 55)
  else none

/-- The number that a list of hexadecimal digits denotes. -/
def hexNumber? (cs : List Char) : Option Nat :=
  cs.foldlM (fun n c => (hexValue? c).map (16 * n + ·)) 0

/-- The `width` lowest hexadecimal digits of `n`, highest first. -/
def hexDigits (width n : Nat) : List Char :=
  (List.range width).reverse.map fun i => hexDigit (n / Nat.pow 16 i % 16)

/-- The hexadecimal numeral of a number, without leading zeros. -/
def hexNumeral (n : Nat) : List Char := (Nat.toDigits 16 n)

/-- Whether a character is a decimal digit. -/
def isDigit (c : Char) : Bool := '0' ≤ c && c ≤ '9'

/-- The number that a list of decimal digits denotes. -/
def decimalNumber (cs : List Char) : Nat := cs.foldl (fun n c => 10 * n + (c.toNat - 48)) 0

example : hexDigits 4 255 = ['0', '0', 'f', 'f'] ∧ hexNumber? ['F', 'f'] = some 255 := by
  decide +kernel

end HostedScripts.Text
