import HostedScripts.Path
import HostedScripts.Text.Codec

/-!
# Paths of the system

To the system a path is any bytes; it need not be a text. `SystemPath.ofPath` gives the paths that are.
Of the others only so much can be shown as is text: `Text.shown` takes the characters off one by one, and
where none begins it puts a mark for the bytes that get in the way.
-/

namespace HostedScripts

namespace Text

/-- The character that some bytes begin with. -/
def leading? (bytes : List UInt8) : Option Char := (ByteArray.mk bytes.toArray).utf8DecodeChar? 0

/-- Whether a byte goes on with a character. -/
def isContinuation (b : UInt8) : Bool := 0x80 ≤ b && b ≤ 0xBF

/-- Whether a character of three bytes or four can begin with two bytes. -/
def opens (first second : UInt8) : Bool :=
  0xE0 ≤ first && first ≤ 0xF4 && isContinuation second && (first ≠ 0xE0 || 0xA0 ≤ second) &&
    (first ≠ 0xED || second ≤ 0x9F) && (first ≠ 0xF0 || 0x90 ≤ second) && (first ≠ 0xF4 || second ≤ 0x8F)

/-- How many bytes one mark stands for, where no character begins: as many as a character could
begin with, but one at least. -/
def markedLength : List UInt8 → Nat
  | first :: second :: third :: _ =>
    if opens first second then (if 0xF0 ≤ first && isContinuation third then 3 else 2) else 1
  | [first, second] => if opens first second then 2 else 1
  | _ => 1

/-- Puts in place of what is no text. -/
def mark : Char := '\uFFFD'

/-- The characters that are shown for some bytes, of which there are `n` at most. -/
def shownFrom : Nat → List UInt8 → List Char
  | 0, _ => []
  | _ + 1, [] => []
  | n + 1, b :: bytes =>
    match leading? (b :: bytes) with
    | some c => c :: shownFrom n ((b :: bytes).drop c.utf8Size)
    | none => mark :: shownFrom n ((b :: bytes).drop (markedLength (b :: bytes)))

/-- The text that is shown for some bytes. -/
def shown (bytes : List UInt8) : String := String.ofList (shownFrom bytes.length bytes)

example : shown [0x61, 0xE2, 0x82, 0x62, 0xF0, 0x9F, 0x92, 0xED, 0xA0, 0xC3, 0xA9] =
    "a\uFFFDb\uFFFD\uFFFD\uFFFDé" := by
  decide +kernel

end Text

/-- A path of the system. -/
structure SystemPath where
  bytes : List UInt8
  deriving DecidableEq

namespace SystemPath

/-- The path with the bytes of a text. -/
def ofPath (p : Path) : SystemPath := ⟨Text.toBytes p.text⟩

/-- Whether a path starts at the root. -/
def isAbsolute (p : SystemPath) : Bool := p.bytes.head? = some 0x2F

/-- The text that is shown for a path. -/
def shown (p : SystemPath) : String := Text.shown p.bytes

end SystemPath

end HostedScripts
