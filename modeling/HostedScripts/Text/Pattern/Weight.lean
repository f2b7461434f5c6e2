import HostedScripts.Text.Pattern.Basic

/-!
# The weight of a pattern

A pattern is matched byte by byte, by a machine that is derived from it in both directions, and it is
refused if one of them takes more than `Weight.limit` bytes. A state of the machine takes
`stateSize` bytes. A set of characters is cut into sequences of byte ranges; forwards, sequences share
their beginnings and equal endings are one state with several ways out, backwards every byte range has
a state and only beginnings are shared.
-/

namespace HostedScripts.Text

/-- A range of bytes. -/
abbrev ByteRange := Nat × Nat

namespace CharSet

/-- The bytes of a code point. -/
def bytesOf (n : Nat) : List Nat :=
  if n < 0x80 then [n]
  else if n < 0x800 then [0xc0 + n / 64, 0x80 + n % 64]
  else if n < 0x10000 then [0xe0 + n / 4096, 0x80 + n / 64 % 64, 0x80 + n % 64]
  else [0xf0 + n / 262144, 0x80 + n / 4096 % 64, 0x80 + n / 64 % 64, 0x80 + n % 64]

/-- Where a range of code points has to be cut so that both parts are closer to one sequence of byte
ranges: the last code point of the first part. -/
def cut? (a b : Nat) : Option Nat :=
  let atLength := [0x7f, 0x7ff, 0xffff].find? fun m => a ≤ m && m < b
  let atByte := if b ≤ 0x7f then none else
    [64, 4096, 262144].findSome? fun m =>
      if a / m = b / m then none
      else if a % m ≠ 0 then some (a / m * m + m - 1)
      else if b % m ≠ m - 1 then some (b / m * m - 1)
      else none
  atLength <|> atByte

/-- The sequences of byte ranges of the code points from one to another, in order. -/
def sequencesOf : Nat → Nat → Nat → List (List ByteRange)
  | 0, _, _ => []
  | fuel + 1, a, b =>
    if b < a then []
    else if a < 0xe000 && 0xd7ff < b then sequencesOf fuel a 0xd7ff ++ sequencesOf fuel 0xe000 b
    else
      match cut? a b with
      | some m => sequencesOf fuel a m ++ sequencesOf fuel (m + 1) b
      | none => [(bytesOf a).zip (bytesOf b)]

/-- The sequences of byte ranges of a set, in order. -/
def sequences (s : CharSet) : List (List ByteRange) := s.flatMap fun (a, b) => sequencesOf 32 a b

end CharSet

/-- How many bytes the machines of a pattern take, the one that reads forwards and the one that
reads backwards. -/
structure Weight where
  forward : Nat
  backward : Nat
  deriving DecidableEq, Inhabited

namespace Weight

/-- The size of a state. -/
def stateSize : Nat := 32

/-- The size of a way out of a state that has several. -/
def wayOutSize : Nat := 8

/-- The size of an alternative of a state that only chooses. -/
def alternativeSize : Nat := 4

/-- The most that a machine may take. -/
def limit : Nat := 10485760

/-- The weight of two parts. -/
def add (v w : Weight) : Weight := ⟨v.forward + w.forward, v.backward + w.backward⟩

/-- The weight of so many parts. -/
def times (n : Nat) (w : Weight) : Weight := ⟨n * w.forward, n * w.backward⟩

/-- The weight of so many states. -/
def states (n : Nat) : Weight := ⟨n * stateSize, n * stateSize⟩

/-- States with several ways out: the byte ranges of each, with the number of the state that
follows; zero is the end. -/
abbrev States := List (List (ByteRange × Nat))

/-- Puts the sequences together that start with the same byte range and follow each other. -/
def grouped : List (List ByteRange) → List (ByteRange × List (List ByteRange))
  | [] => []
  | [] :: seqs => grouped seqs
  | (r :: rest) :: seqs =>
    match grouped seqs with
    | (q, tails) :: groups =>
      if q = r then (r, rest :: tails) :: groups else (r, [rest]) :: (q, tails) :: groups
    | [] => [(r, [rest])]

mutual

/-- The number of the state for some sequences, with all states so far, the latest first. -/
def stateOf (fuel : Nat) (seqs : List (List ByteRange)) (known : States) : Nat × States :=
  match fuel with
  | 0 => (0, known)
  | fuel + 1 =>
    match grouped seqs with
    | [] => (0, known)
    | groups =>
      let (ways, known) := waysOf fuel groups known
      match known.findIdx? (· = ways) with
      | some i => (known.length - i, known)
      | none => (known.length + 1, ways :: known)

/-- The ways out for some groups of sequences, with all states so far. -/
def waysOf (fuel : Nat) (groups : List (ByteRange × List (List ByteRange))) (known : States) :
    List (ByteRange × Nat) × States :=
  match fuel, groups with
  | 0, _ | _, [] => ([], known)
  | fuel + 1, (r, tails) :: more =>
    let (n, known) := stateOf fuel tails known
    let (ways, known) := waysOf fuel more known
    ((r, n) :: ways, known)

end

/-- How many different beginnings some sequences have; they come in order. -/
def beginnings : List ByteRange → List (List ByteRange) → Nat
  | _, [] => 0
  | before, seq :: seqs =>
    let shared := ((before.zip seq).takeWhile fun (r, q) => r = q).length
    seq.length - shared + beginnings seq seqs

/-- The weight of a set of characters. -/
def ofSet (s : CharSet) : Weight :=
  if s.all (·.2 ≤ 0x7f) then
    let n := 2 * stateSize + s.length * wayOutSize
    ⟨n, n⟩
  else
    let seqs := s.sequences
    let (_, known) := stateOf (seqs.length + 16) seqs []
    ⟨stateSize * (known.length + 1) + wayOutSize * (known.map (·.length)).foldl (· + ·) 0,
      stateSize * (2 + beginnings [] seqs) + alternativeSize * seqs.length⟩

/-- The weight of a set that may stand for one character, which takes a state for each byte. -/
def ofOneOf (s : CharSet) : Weight :=
  match s with
  | [(a, b)] => if a = b then states (CharSet.bytesOf a).length else ofSet s
  | _ => ofSet s

end Weight

namespace Pattern

/-- The weight of a pattern. -/
def weight : Pattern → Weight
  | nothing | place _ => .states 1
  | oneOf s => .ofOneOf s
  | group isKept p => if isKept then p.weight.add ⟨2 * Weight.stateSize, 0⟩ else p.weight
  | andThen p q => p.weight.add q.weight
  | orElse p q => (p.weight.add q.weight).add (.states 1)
  | times p least none => (p.weight.times (max least 1)).add (.states 1)
  | times p least (some most) =>
    let choice := (Weight.states 1).add ⟨2 * Weight.alternativeSize, 2 * Weight.alternativeSize⟩
    (p.weight.times most).add (choice.times (most - least))

/-- How deeply the parts of a pattern are nested. A row of patterns is one level, as is a row of
alternatives. -/
def nesting : Pattern → Nat
  | nothing | oneOf _ | place _ => 0
  | group _ p | times p _ _ => p.nesting + 1
  | andThen p (andThen q r) => max (p.nesting + 1) (andThen q r).nesting
  | andThen p q => max p.nesting q.nesting + 1
  | orElse p (orElse q r) => max (p.nesting + 1) (orElse q r).nesting
  | orElse p q => max p.nesting q.nesting + 1

/-- How deeply the parts of a pattern may be nested. -/
def nestingLimit : Nat := 250

/-- Whether a pattern is neither too heavy nor nested too deeply. -/
def isBearable (p : Pattern) : Bool :=
  let w := p.weight.add (.states 6)
  w.forward ≤ Weight.limit && w.backward ≤ Weight.limit && p.nesting ≤ nestingLimit

end Pattern

end HostedScripts.Text
