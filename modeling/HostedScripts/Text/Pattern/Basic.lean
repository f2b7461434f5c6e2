import HostedScripts.Text.CharSet

/-!
# Patterns of texts

A `Pattern` stands for a set of texts; it occurs in a text if some part of the text belongs to the
set. `Pattern.ends` gives the places where occurrences can end that start at some places, so that it
does not matter in which order alternatives are tried. A `Place` is a condition on the characters next
to a place in a text.
-/

namespace HostedScripts.Text

/-- How the characters before and after a place have to differ: exactly one of them belongs to a
word (`either`), both or none do (`neither`), only the one after does (`start`) or the one before
(`finish`), the one before does not (`startHalf`) or the one after (`finishHalf`). -/
inductive Edge where
  | either
  | neither
  | start
  | finish
  | startHalf
  | finishHalf
  deriving DecidableEq, Inhabited

/-- Whether an edge lies between characters that belong to words or not. -/
def Edge.holds (e : Edge) (before after : Bool) : Bool :=
  match e with
  | either => before != after
  | neither => before == after
  | start => !before && after
  | finish => before && !after
  | startHalf => !before
  | finishHalf => !after

/-- A condition on a place in a text: an end of the text, an end of a line, where a carriage return
may count as well, or an edge of a word made of the characters of a set. -/
inductive Place where
  | textStart
  | textEnd
  | lineStart (atReturns : Bool)
  | lineEnd (atReturns : Bool)
  | edge (kind : Edge) (words : CharSet)
  deriving DecidableEq, Inhabited

/-- Whether a place in a text meets a condition. -/
def Place.holds (p : Place) (text : Array Char) (i : Nat) : Bool :=
  let before := if i = 0 then none else text[i - 1]?
  let after := text[i]?
  match p with
  | textStart => before = none
  | textEnd => after = none
  | lineStart false => before = none || before = some '\n'
  | lineStart true =>
    before = none || before = some '\n' || (before = some '\r' && after ≠ some '\n')
  | lineEnd false => after = none || after = some '\n'
  | lineEnd true =>
    after = none || after = some '\r' || (after = some '\n' && before ≠ some '\r')
  | edge kind words =>
    let isIn (c : Option Char) := (c.map words.has).getD false
    kind.holds (isIn before) (isIn after)

/-- A set of texts. A place is the empty text there; a group is a pattern in parentheses, whose
occurrences may be kept. -/
inductive Pattern where
  | nothing
  | oneOf (set : CharSet)
  | place (p : Place)
  | group (isKept : Bool) (p : Pattern)
  | andThen (p q : Pattern)
  | orElse (p q : Pattern)
  | times (p : Pattern) (least : Nat) (most : Option Nat)
  deriving Inhabited

namespace Pattern

/-- The places of two lists, each once. -/
def union (xs ys : List Nat) : List Nat := xs ++ ys.filter fun y => !xs.contains y

/-- A step some number of times, or until no place is left. -/
def repeated (step : List Nat → List Nat) : Nat → List Nat → List Nat
  | 0, places => places
  | n + 1, places => if places.isEmpty then [] else repeated step n (step places)

/-- A step at most some number of times; from `last` on only, as the places before are known. -/
def upTo (step : List Nat → List Nat) : Nat → List Nat → List Nat → List Nat
  | 0, places, _ => places
  | n + 1, places, last =>
    let fresh := (step last).filter fun y => !places.contains y
    if fresh.isEmpty then places else upTo step n (places ++ fresh.eraseDups) fresh.eraseDups

/-- The places where occurrences can end that start at some places. -/
def ends (text : Array Char) : Pattern → List Nat → List Nat
  | nothing, places => places
  | oneOf set, places =>
    (places.filter fun n => (text[n]?.map set.has).getD false).map (· + 1)
  | place p, places => places.filter (p.holds text)
  | group _ p, places => ends text p places
  | andThen p q, places => ends text q (ends text p places)
  | orElse p q, places => union (ends text p places) (ends text q places)
  | times p least most, places =>
    let more := match most with
      | some m => m - least
      | none => text.size + 1
    let reached := repeated (ends text p) least places
    upTo (ends text p) more reached reached

/-- One pattern after another. -/
def inTurn : List Pattern → Pattern
  | [] => nothing
  | [p] => p
  | p :: ps => andThen p (inTurn ps)

/-- Whether a pattern occurs in a text. -/
def occursIn (p : Pattern) (text : String) : Bool :=
  let cs := text.toList.toArray
  !(p.ends cs (List.range (cs.size + 1))).isEmpty

end Pattern

end HostedScripts.Text
