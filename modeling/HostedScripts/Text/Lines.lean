/-!
# Lines of a text

A line ends with a line feed or with a carriage return followed by one; the terminator is not part
of the line, and a text that ends with a terminator has no further empty line. A carriage return
that no line feed follows is an ordinary character.
-/

namespace HostedScripts.Text

/-- A line, given backwards, without the carriage return that closes it. -/
def closeLine : List Char → String
  | '\r' :: before => String.ofList before.reverse
  | line => String.ofList line.reverse

/-- The lines of `rest`, where `current` holds what was read of the first one, backwards. -/
def linesFrom (current : List Char) : List Char → List String
  | [] => if current.isEmpty then [] else [String.ofList current.reverse]
  | '\n' :: rest => closeLine current :: linesFrom [] rest
  | c :: rest => linesFrom (c :: current) rest

/-- The lines of a text. -/
def lines (text : String) : List String := linesFrom [] text.toList

example : lines "a\r\nb\n" = ["a", "b"] ∧ lines "\n\n" = ["", ""] ∧ lines "\r" = ["\r"] := by
  decide +kernel

end HostedScripts.Text
