import HostedScripts.Text.Codec
import HostedScripts.Text.Pattern.Weight

/-!
# The notation of patterns

`Pattern.parse?` reads the usual notation:

* a character for itself, or after a backslash if it is punctuation; `\n`, `\t`, `\r`, `\f`, `\v`, `\a`
  and numbers such as `\x41`, `\u0041` and `\x{41}`;
* `.` for every character but a line feed, `\d`, `\w` and `\s` with their opposites, and `\p` with the
  name of a property;
* sets such as `[a-z]` and `[^,]`, which may hold other sets and names such as `[:alpha:]`, joined by
  `&&`, `--` and `~~`;
* `^` and `$` for the ends of the text, `\A` and `\z` likewise, and `\b` and its kin for the edges of
  words;
* `|` for alternatives, parentheses for groups, which may have names, and `*`, `+`, `?` and `{n,m}` for
  repetition;
* letters such as `(?i)` that change how the rest of a group, or a group of its own, is read.

`found?` gives nothing for a notation that stands for no pattern, or for one that is unbearable.
-/

namespace HostedScripts.Text

namespace Pattern

/-- How the rest of a group is read: whether capital and small letters are the same, whether the
ends of lines are ends, whether a point stands for line feeds too, whether blanks and comments stand
for nothing, whether classes hold characters beyond 0x7f, and whether carriage returns end lines. -/
structure Mode where
  ignoresCase : Bool
  byLine : Bool
  dotAll : Bool
  skipsBlanks : Bool
  isWide : Bool
  atReturns : Bool

/-- What is left of a notation, and the names of the groups so far. -/
structure Cursor where
  rest : List Char
  names : List (List Char)

/-- Reading: takes characters, or fails. -/
abbrev Scan := StateT Cursor Option

namespace Scan

/-- Fails. -/
def stop {α : Type} : Scan α := fun _ => none

/-- What is left. -/
def rest : Scan (List Char) := return (← get).rest

/-- Goes on with other characters. -/
def goTo (cs : List Char) : Scan Unit := modify fun s => { s with rest := cs }

/-- Takes a character that is there. -/
def take : Scan Char := do
  match ← rest with
  | c :: cs => goTo cs; return c
  | [] => stop

/-- Takes some characters if they are next. -/
def takeIf (cs : List Char) : Scan Bool := do
  let left ← rest
  if cs.isPrefixOf left then
    goTo (left.drop cs.length)
    return true
  else return false

/-- Takes some characters that have to be next. -/
def expect (cs : List Char) : Scan Unit := do
  if !(← takeIf cs) then stop

/-- The characters after blanks and comments. -/
def afterBlanks (inComment : Bool) : List Char → List Char
  | [] => []
  | c :: cs =>
    if inComment then afterBlanks (c ≠ '\n') cs
    else if isBlank c then afterBlanks false cs
    else if c = '#' then afterBlanks true cs
    else c :: cs

/-- Passes over blanks and comments, where they stand for nothing. -/
def skip (m : Mode) : Scan Unit := do
  if m.skipsBlanks then goTo (afterBlanks false (← rest))

/-- Goes on with what a part may give. -/
def ofOption {α : Type} : Option α → Scan α
  | some a => pure a
  | none => stop

end Scan

open Scan

/-! ### Characters and classes -/

/-- What a backslash with what follows stands for: a character, which may be written as a byte, a
set of characters or a place. -/
inductive Escape where
  | char (c : Char) (isByte : Bool)
  | set (s : CharSet)
  | place (p : Place)

/-- The character with a number. -/
def charOf? (n : Nat) : Option Char :=
  if n < 0xd800 || (0xdfff < n && n ≤ CharSet.greatest) then some (Char.ofNat n) else none

/-- A character by its number, of so many digits or between braces. -/
def numbered (m : Mode) (digits : Nat) : Scan Char := do
  skip m
  if ← takeIf ['\x7b'] then
    let left ← rest
    let inside := left.takeWhile (· ≠ '\x7d')
    let ds := if m.skipsBlanks then inside.filter (!isBlank ·) else inside
    goTo (left.drop inside.length)
    expect ['\x7d']
    if ds.isEmpty then stop
    ofOption ((hexNumber? ds).bind charOf?)
  else
    let ds ← (List.replicate digits ()).mapM fun _ => do skip m; take
    ofOption ((hexNumber? ds).bind charOf?)

/-- A set if it fits what the mode allows. -/
def allowed (m : Mode) (s : CharSet) : Scan CharSet :=
  if m.isWide || s.all (·.2 ≤ 0x7f) then pure s else stop

/-- The set with all that a mode does not tell apart. -/
def inMode (m : Mode) (s : CharSet) : CharSet :=
  if !m.ignoresCase then s else if m.isWide then s.folded else s.foldedAscii

/-- The class that a letter stands for. -/
def class? (m : Mode) (c : Char) : Option CharSet :=
  let pick (wide narrow : CharSet) := some (if m.isWide then wide else narrow)
  let opposite (wide narrow : CharSet) :=
    some (CharSet.complement (if m.isWide then wide else narrow))
  match c with
  | 'd' => pick CharSet.digits CharSet.asciiDigits
  | 'D' => opposite CharSet.digits CharSet.asciiDigits
  | 'w' => pick CharSet.words CharSet.asciiWords
  | 'W' => opposite CharSet.words CharSet.asciiWords
  | 's' => pick CharSet.blanks CharSet.asciiBlanks
  | 'S' => opposite CharSet.blanks CharSet.asciiBlanks
  | _ => none

/-- The set of the property whose name follows. -/
def property (m : Mode) (isOpposite : Bool) : Scan CharSet := do
  if !m.isWide then stop
  skip m
  let (kind, value, isOther) ←
    if ← takeIf ['\x7b'] then
      let left ← rest
      let name := left.takeWhile (· ≠ '\x7d')
      goTo (left.drop name.length)
      expect ['\x7d']
      let front := name.takeWhile fun c => c ≠ ':' && c ≠ '='
      match name.drop front.length with
      | [] => pure (none, name, false)
      | _ :: value =>
        if front.getLast? = some '!' && name.drop front.length ≠ ':' :: value then
          pure (some front.dropLast, value, true)
        else pure (some front, value, false)
    else
      let c ← take
      if c = '\\' then stop
      pure (none, [c], false)
  let s := inMode m (← ofOption (CharSet.named? kind value))
  return if isOpposite != isOther then s.complement else s

/-- The set of the characters of words. -/
def wordsOf (m : Mode) : CharSet := if m.isWide then CharSet.words else CharSet.asciiWords

/-- The edge that a name between braces stands for. -/
def edge? : List Char → Option Edge
  | ['s', 't', 'a', 'r', 't'] => some .start
  | ['e', 'n', 'd'] => some .finish
  | ['s', 't', 'a', 'r', 't', '-', 'h', 'a', 'l', 'f'] => some .startHalf
  | ['e', 'n', 'd', '-', 'h', 'a', 'l', 'f'] => some .finishHalf
  | _ => none

/-- The edge after its letter, with a name between braces or without. -/
def edge (m : Mode) : Scan Edge := do
  let isOfName (c : Char) := c.isAlpha || c = '-'
  match ← rest with
  | '\x7b' :: left =>
    let left := if m.skipsBlanks then afterBlanks false left else left
    match left with
    | [] => stop
    | c :: _ =>
      if isOfName c then
        let name := left.takeWhile isOfName
        goTo (left.drop name.length)
        skip m
        expect ['\x7d']
        ofOption (edge? name)
      else return .either
  | _ => return .either

/-- What follows a backslash. -/
def escape (m : Mode) : Scan Escape := do
  let c ← take
  let plain (d : Char) : Scan Escape := return .char d false
  let atEdge (kind : Edge) : Scan Escape := return .place (.edge kind (wordsOf m))
  match c with
  | 'n' => plain '\n'
  | 't' => plain '\t'
  | 'r' => plain '\r'
  | 'f' => plain '\x0c'
  | 'v' => plain '\x0b'
  | 'a' => plain '\x07'
  | 'x' =>
    let isByte := (← rest).head? ≠ some '\x7b'
    return .char (← numbered m 2) isByte
  | 'u' => plain (← numbered m 4)
  | 'U' => plain (← numbered m 8)
  | 'p' => return .set (← property m false)
  | 'P' => return .set (← property m true)
  | 'A' => return .place .textStart
  | 'z' => return .place .textEnd
  | 'b' => atEdge (← edge m)
  | 'B' => atEdge .neither
  | '<' => atEdge .start
  | '>' => atEdge .finish
  | _ =>
    match class? m c with
    | some s => return .set (← allowed m s)
    | none => if c.isAlphanum || 0x7f < c.toNat then stop else plain c

/-- The pattern of one character. -/
def exactly (m : Mode) (c : Char) (isByte : Bool) : Scan Pattern :=
  if !m.isWide && 0x7f < c.toNat && (isByte || m.ignoresCase) then stop
  else pure (oneOf (inMode m (CharSet.single c)))

/-! ### Sets -/

/-- An element of a set, which may start or end a range: a character or a set. -/
def setElement (m : Mode) : Scan (Char ⊕ CharSet) := do
  let c ← take
  if c = '\\' then
    match ← escape m with
    | .char d isByte => if !m.isWide && isByte && 0x7f < d.toNat then stop else return .inl d
    | .set s => return .inr s
    | .place _ => stop
  else return .inl c

/-- The set of a character. -/
def setOf (m : Mode) (c : Char) : Scan CharSet := allowed m (CharSet.single c)

/-- A part of a set: a character, a range of characters or a class. -/
def setPart (m : Mode) : Scan CharSet := do
  let first ← setElement m
  skip m
  let alone : Scan CharSet := match first with
    | .inl c => setOf m c
    | .inr s => pure s
  match ← rest with
  | [] => stop
  | '-' :: left =>
    match if m.skipsBlanks then afterBlanks false left else left with
    | [] => stop
    | ']' :: _ | '-' :: _ => alone
    | more =>
      goTo more
      match first, ← setElement m with
      | .inl a, .inl b => if a ≤ b then allowed m [(a.toNat, b.toNat)] else stop
      | _, _ => stop
  | _ => alone

/-- The named set up to 0x7f that starts with a bracket, if there is one. -/
def asciiSet? (cs : List Char) : Option (CharSet × List Char) :=
  match cs with
  | '[' :: ':' :: rest =>
    let (isOpposite, rest) := match rest with
      | '^' :: more => (true, more)
      | _ => (false, rest)
    let name := rest.takeWhile (· ≠ ':')
    match rest.drop name.length with
    | ':' :: ']' :: more =>
      (CharSet.ascii? (String.ofList name)).map fun s =>
        (if isOpposite then s.complement else s, more)
    | _ => none
  | _ => none

/-- How two sets are joined: to what belongs to both, to the first alone, or to one of them alone.
-/
inductive SetOp where
  | both
  | without
  | oneOnly

/-- Takes the sign that joins two sets, if there is one. -/
def setOp? : Scan (Option SetOp) := do
  if ← takeIf ['&', '&'] then return some .both
  else if ← takeIf ['-', '-'] then return some .without
  else if ← takeIf ['~', '~'] then return some .oneOnly
  else return none

/-- Two sets, joined. -/
def SetOp.join (m : Mode) (op : SetOp) (s t : CharSet) : CharSet :=
  let s := inMode m s
  let t := inMode m t
  match op with
  | both => s.intersection t
  | without => s.difference t
  | oneOnly => s.symmetricDifference t

/-- Signs that join sets are read from left to right: what stands before the last of them. -/
def joinedSet (m : Mode) (before : Option (CharSet × SetOp)) (s : CharSet) : CharSet :=
  match before with
  | none => s
  | some (t, op) => op.join m t s

mutual

/-- The set after its opening bracket. -/
def set (m : Mode) (fuel : Nat) : Scan CharSet := do
  match fuel with
  | 0 => stop
  | fuel + 1 =>
    skip m
    let isOpposite ← takeIf ['^']
    skip m
    let left ← rest
    let afterBlank (cs : List Char) := if m.skipsBlanks then afterBlanks false cs else cs
    let dashes := (left.filter fun c => !m.skipsBlanks || !isBlank c).takeWhile (· = '-')
    goTo (dashes.foldl (fun cs _ => afterBlank (cs.drop 1)) left)
    let start := if dashes.isEmpty then [] else CharSet.single '-'
    let start ← match start, ← rest with
      | [], ']' :: more => do goTo more; pure (CharSet.single ']')
      | s, _ => pure s
    let s := inMode m (← setParts m fuel none start)
    if isOpposite then allowed m s.complement else allowed m s

/-- The parts of a set up to its closing bracket. -/
def setParts (m : Mode) (fuel : Nat) (before : Option (CharSet × SetOp)) (s : CharSet) :
    Scan CharSet := do
  match fuel with
  | 0 => stop
  | fuel + 1 =>
    skip m
    match asciiSet? (← rest) with
    | some (t, more) =>
      goTo more
      setParts m fuel before (s.union t)
    | none =>
      if ← takeIf ['['] then
        let inner ← set m fuel
        setParts m fuel before (s.union inner)
      else if ← takeIf [']'] then return joinedSet m before s
      else
        match ← setOp? with
        | some op => setParts m fuel (some (joinedSet m before s, op)) []
        | none =>
          let part ← setPart m
          setParts m fuel before (s.union part)

end

/-! ### Repetition -/

/-- The greatest number that may be written. -/
def greatestCount : Nat := 4294967295

/-- A number with blanks around it. -/
def count? (cs : List Char) : Option (Nat × List Char) :=
  let cs := cs.dropWhile isBlank
  match cs.takeWhile isDigit with
  | [] => none
  | ds =>
    let n := decimalNumber ds
    if n ≤ greatestCount then some (n, (cs.dropWhile isDigit).dropWhile isBlank) else none

/-- How often the pattern before is to occur: the least and the greatest number of times. -/
def bounds : Scan (Nat × Option Nat) := do
  let (n, more) ← ofOption (count? (← rest))
  match more with
  | '\x7d' :: more => goTo more; return (n, some n)
  | ',' :: '\x7d' :: more => goTo more; return (n, none)
  | ',' :: more =>
    let (k, more) ← ofOption (count? more)
    goTo more
    expect ['\x7d']
    if n ≤ k then return (n, some k) else stop
  | _ => stop

/-- Takes the sign that prefers few occurrences, which changes no set of texts. -/
def lazily : Scan Unit := do
  let _ ← takeIf ['?']

/-! ### Groups -/

/-- The mode with a letter switched on or off. -/
def Mode.switch? (m : Mode) (on : Bool) : Char → Option Mode
  | 'i' => some { m with ignoresCase := on }
  | 'm' => some { m with byLine := on }
  | 's' => some { m with dotAll := on }
  | 'x' => some { m with skipsBlanks := on }
  | 'u' => some { m with isWide := on }
  | 'R' => some { m with atReturns := on }
  | 'U' => some m
  | _ => none

/-- The mode after some letters, each of which may stand once, where a minus sign switches off what
follows. -/
def modeAfter (m : Mode) (on : Bool) (seen : List Char) : List Char → Option Mode
  | [] => if seen.head? = some '-' then none else some m
  | c :: cs =>
    if seen.contains c then none
    else if c = '-' then modeAfter m false ('-' :: seen) cs
    else
      match m.switch? on c with
      | some m => modeAfter m on (c :: seen) cs
      | none => none

/-- Whether a character may stand in the name of a group. -/
def isOfGroupName (isFirst : Bool) (c : Char) : Bool :=
  let isLetter := c.isAlpha || (0x7f < c.toNat && CharSet.letters.has c)
  let isNumber := c.isDigit || (0x7f < c.toNat && (category c).group = 'N')
  c = '_' || isLetter || (!isFirst && (isNumber || c = '.' || c = '[' || c = ']'))

/-- The name of a group, up to its closing mark; every name may stand once. -/
def groupName : Scan Unit := do
  let left ← rest
  let name := left.takeWhile (· ≠ '>')
  goTo (left.drop name.length)
  expect ['>']
  match name with
  | [] => stop
  | c :: cs =>
    if !(isOfGroupName true c && cs.all (isOfGroupName false)) then stop
    if (← get).names.contains name then stop
    modify fun s => { s with names := name :: s.names }

mutual

/-- Alternatives up to the end of their group. -/
def alternatives (m : Mode) (fuel : Nat) : Scan Pattern := do
  match fuel with
  | 0 => stop
  | fuel + 1 =>
    let (p, m) ← branch m fuel [] none
    if ← takeIf ['|'] then return orElse p (← alternatives m fuel) else return p

/-- What follows some patterns, given latest first, up to the next alternative or the end of the
group; the last of them may be repeated if it is given apart. -/
def branch (m : Mode) (fuel : Nat) (before : List Pattern) (last : Option Pattern) :
    Scan (Pattern × Mode) := do
  match fuel with
  | 0 => stop
  | fuel + 1 =>
    skip m
    let done := last.toList ++ before
    let goOn (p : Pattern) : Scan (Pattern × Mode) := branch m fuel done (some p)
    let again (least : Nat) (most : Option Nat) : Scan (Pattern × Mode) := do
      lazily
      branch m fuel before (some (times (← ofOption last) least most))
    let left ← rest
    match left with
    | [] | '|' :: _ | ')' :: _ => return (inTurn done.reverse, m)
    | c :: more =>
      goTo more
      match c with
      | '*' => again 0 none
      | '+' => again 1 none
      | '?' => again 0 (some 1)
      | '\x7b' =>
        skip m
        let (least, most) ← bounds
        skip m
        again least most
      | '(' =>
        skip m
        if (← takeIf ['?', 'P', '<']) || (← takeIf ['?', '<']) then
          groupName
          goOn (← grouping m fuel true)
        else if ← takeIf ['?'] then
          let left ← rest
          let letters := left.takeWhile fun c => c ≠ ':' && c ≠ ')'
          goTo (left.drop letters.length)
          let inner ← ofOption (modeAfter m true [] letters)
          if ← takeIf [')'] then
            if letters.isEmpty then stop
            branch inner fuel done none
          else
            expect [':']
            goOn (← grouping inner fuel false)
        else goOn (← grouping m fuel true)
      | '[' => goOn (oneOf (← set m fuel))
      | '.' =>
        let ends := if m.dotAll then [] else if m.atReturns then [(10, 10), (13, 13)] else [(10, 10)]
        goOn (oneOf (← allowed m (CharSet.complement ends)))
      | '^' => goOn (place (if m.byLine then .lineStart m.atReturns else .textStart))
      | '$' => goOn (place (if m.byLine then .lineEnd m.atReturns else .textEnd))
      | '\\' =>
        match ← escape m with
        | .char d isByte => goOn (← exactly m d isByte)
        | .set s => goOn (oneOf s)
        | .place p => goOn (place p)
      | _ => goOn (← exactly m c false)

/-- The rest of a group with its closing parenthesis. -/
def grouping (m : Mode) (fuel : Nat) (isKept : Bool) : Scan Pattern := do
  match fuel with
  | 0 => stop
  | fuel + 1 =>
    let p ← alternatives m fuel
    expect [')']
    return .group isKept p

end

/-- The pattern that a notation stands for. -/
def parse? (written : String) : Option Pattern :=
  let cs := written.toList
  match alternatives ⟨false, false, false, false, true, false⟩ (3 * cs.length + 3) ⟨cs, []⟩ with
  | some (p, ⟨[], _⟩) => some p
  | _ => none

/-- Whether the pattern of a notation occurs in a text; none if the notation stands for no pattern
that is bearable. -/
def found? (written text : String) : Option Bool :=
  ((parse? written).filter (·.isBearable)).map (·.occursIn text)

end Pattern

end HostedScripts.Text
