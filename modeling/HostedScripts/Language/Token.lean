import HostedScripts.Language.CompileError
import HostedScripts.Decimal.Layout
import HostedScripts.Decimal.Reading
import HostedScripts.Text.Blank
import HostedScripts.Text.Codec

/-!
# Tokens

`tokens` cuts a script into tokens with their places, an end token last. A minus sign directly before
a digit belongs to the number where an operand is awaited. A text between backquotes is cut into
`fragment`s, each followed by the tokens of an embedded block, and a final `string`. A character that
forms no token becomes a `fault` token, so the fault only counts if the token is reached.

Only the blanks up to 0x7f separate tokens. A carriage return before a line feed never belongs to a
text.
-/

namespace HostedScripts.Language

/-- A token of a script. A text with embedded blocks comes in fragments, up to its last part; a
reserved word or mark is kept free; a fault are characters that form no token. -/
inductive Token where
  | int (n : Int64)
  | float (x : Float)
  | char (c : Char)
  | string (s : String)
  | fragment (s : String)
  | name (s : String)
  | keyword (s : String)
  | symbol (s : String)
  | reserved (s : String)
  | fault (cause : LexicalCause)
  | finish
  deriving Inhabited

/-- A token and where it starts. -/
structure Placed where
  token : Token
  position : Position
  deriving Inhabited

namespace Token

/-! ### The words and marks of the language -/

/-- The words with a meaning of their own. -/
def keywords : List String :=
  ["true", "false", "let", "const", "if", "else", "switch", "do", "while", "until", "loop", "for",
    "in", "continue", "break", "return", "throw", "try", "catch", "fn", "private", "import",
    "export", "as"]

/-- The words that are kept free, but may be called as functions. -/
def functionWords : List String :=
  ["print", "debug", "type_of", "eval", "Fn", "call", "curry", "is_shared", "is_def_fn",
    "is_def_var"]

/-- The words that are kept free. -/
def reservedWords : List String :=
  functionWords ++
    ["this", "var", "static", "begin", "end", "shared", "each", "then", "goto", "unless", "match",
      "case", "public", "protected", "new", "use", "with", "module", "package", "super", "is",
      "thread", "spawn", "go", "await", "async", "sync", "yield", "default", "void", "null", "nil"]

/-- The marks with a meaning, longer ones before their beginnings. -/
def symbols : List String :=
  ["<<=", ">>=", "**=", "..=", "::", "=>", "==", "!=", "<=", ">=", "&&", "||", "<<", ">>", "**",
    "+=", "-=", "*=", "/=", "%=", "&=", "|=", "^=", "..", "??", "?.", "?[", "#\x7b", "()", "\x7b",
    "\x7d", "(", ")", "[", "]", "+", "-", "*", "/", "%", "<", ">", "=", "!", "&", "|", "^", ".", ",",
    ":", ";"]

/-- The marks that are kept free, longer ones before their beginnings. -/
def reservedSymbols : List String :=
  ["===", "!==", "...", "::<", "# \x7b", "->", "<-", "<|", "|>", ":=", ":;", "(*", "*)", "++", "--",
    "!.", "#!", "?", "#", "~", "@", "$"]

/-- What is said about a mark that is kept free but likely meant as another one. -/
def hint? : String → Option String
  | "===" => some "'===' is not a valid operator. This is not JavaScript! Should it be '=='?"
  | "!==" => some "'!==' is not a valid operator. This is not JavaScript! Should it be '!='?"
  | "->" => some "'->' is not a valid symbol. This is not C or C++!"
  | "<-" => some "'<-' is not a valid symbol. This is not Go! Should it be '<='?"
  | ":=" =>
    some "':=' is not a valid assignment operator. This is not Go or Pascal! Should it be simply '='?"
  | ":;" => some "':;' is not a valid symbol. Should it be '::'?"
  | "::<" => some "'::<>' is not a valid symbol. This is not Rust! Should it be '::'?"
  | "(*" | "*)" =>
    some "'(* .. *)' is not a valid comment format. This is not Pascal! Should it be '/* .. */'?"
  | "# \x7b" => some "'#' is not a valid symbol. Should it be '#\x7b'?"
  | _ => none

/-- The words that an operand with a sign may follow. -/
def wordsBeforeSigns : List String := ["if", "while", "until", "in", "return", "throw"]

/-- The marks that an operand with a sign may not follow. -/
def marksBeforeOperators : List String := [")", "]", "\x7d", "()", "=>", ".", "?.", "::", "_", "#\x7b"]

/-- Whether an operand with a sign may follow a token, so that a sign is no operator between two
operands. -/
def awaitsOperand : Token → Bool
  | keyword s => wordsBeforeSigns.contains s
  | symbol s => !marksBeforeOperators.contains s
  | fault _ => true
  | int _ | float _ | char _ | string _ | fragment _ | name _ | reserved _ | finish => false

/-- The text of a token in a message. -/
def text : Token → String
  | int n => toString n.toInt
  | float x => Decimal.scriptText x
  | char c => String.singleton c
  | string _ => "string"
  | fragment _ => "string"
  | name s | keyword s | symbol s | reserved s => s
  | fault cause => cause.message
  | finish => "\x7bEOF\x7d"

end Token

/-! ### Characters to tokens -/

/-- What is left of a script, and the place of the last character taken. -/
structure Source where
  rest : List Char
  line : Nat
  column : Nat

namespace Source

/-- The place of the last character taken. -/
def position (s : Source) : Position := ⟨s.line, s.column⟩

/-- The place of the next character. -/
def ahead (s : Source) : Position := ⟨s.line, s.column + 1⟩

/-- Takes one character that ends no line. -/
def next (s : Source) : Source := { s with rest := s.rest.drop 1, column := s.column + 1 }

/-- Takes a number of characters that end no line. -/
def skip (s : Source) (n : Nat) : Source :=
  { s with rest := s.rest.drop n, column := s.column + n }

/-- Takes a line end. -/
def newLine (s : Source) : Source := ⟨s.rest.drop 1, s.line + 1, 0⟩

/-- Passes over the rest of a line with its end. -/
def skipLine (s : Source) : Source :=
  let s := s.skip (s.rest.takeWhile fun c => c ≠ '\n' && c ≠ '\r').length
  match s.rest with
  | '\r' :: '\n' :: _ => s.next.newLine
  | _ :: _ => s.newLine
  | [] => s

/-- Passes over a block comment, which may contain others. -/
def skipComment : Nat → Nat → Source → Source
  | 0, _, s => s
  | _, 0, s => s
  | fuel + 1, depth + 1, s =>
    match s.rest with
    | [] => s
    | '*' :: '/' :: _ => skipComment fuel depth (s.skip 2)
    | '/' :: '*' :: _ => skipComment fuel (depth + 2) (s.skip 2)
    | '\n' :: _ => skipComment fuel (depth + 1) s.newLine
    | _ :: _ => skipComment fuel (depth + 1) s.next

/-- Whether a character separates tokens. -/
def isSeparator (c : Char) : Bool :=
  c = ' ' || c = '\t' || c = '\n' || c = '\r' || c = '\x0c'

/-- Passes over blanks and comments. -/
def skipBlanks : Nat → Source → Source
  | 0, s => s
  | fuel + 1, s =>
    match s.rest with
    | '\n' :: _ => skipBlanks fuel s.newLine
    | '/' :: '/' :: _ => skipBlanks fuel s.skipLine
    | '/' :: '*' :: _ => skipBlanks fuel (skipComment s.rest.length 1 (s.skip 2))
    | c :: _ => if isSeparator c then skipBlanks fuel s.next else s
    | [] => s

/-! ### Numbers -/

/-- The digits at the start of some characters, passing over underscores, and how many characters
they take. -/
def digitRun (cs : List Char) : List Char × Nat :=
  let run := cs.takeWhile fun c => Text.isDigit c || c = '_'
  (run.filter (· ≠ '_'), run.length)

/-- Whether a character can start a name. -/
def startsName (c : Char) : Bool := c.isAlpha || c = '_'

/-- Whether a character can continue a name. -/
def continuesName (c : Char) : Bool := c.isAlphanum || c = '_'

/-- The part of a number after its point, if it has one: its digits and how many characters it
takes. A point belongs to a number before a digit, and before a mark that is no point. -/
def fractionRun : List Char → List Char × Nat
  | '.' :: c :: cs =>
    if Text.isDigit c then
      let (digits, n) := digitRun (c :: cs)
      (digits, n + 1)
    else if c = '.' || startsName c then ([], 0)
    else ([], 1)
  | _ => ([], 0)

/-- The exponent of a number, if it has one: a small letter and its sign, its digits and how many
characters it takes. -/
def exponentRun : List Char → List Char × List Char × Nat
  | e :: c :: cs =>
    if e ≠ 'e' && e ≠ 'E' then ([], [], 0)
    else if c = '-' || c = '+' then let (digits, n) := digitRun cs; (['e', c], digits, n + 2)
    else if Text.isDigit c then let (digits, n) := digitRun (c :: cs); (['e'], digits, n + 1)
    else ([], [], 0)
  | _ => ([], [], 0)

/-- A decimal number at the start of some characters: the token and how many characters it takes. -/
def decimal (negative : Bool) (cs : List Char) : Token × Nat :=
  let (whole, n) := digitRun cs
  let (part, m) := fractionRun (cs.drop n)
  let (mark, exponent, k) := exponentRun (cs.drop (n + m))
  let length := n + m + k
  let number (digits : List Char) : Nat := Text.decimalNumber digits
  let value : Int := if negative then -number whole else number whole
  if m = 0 && k = 0 && Int64.minValue.toInt ≤ value && value ≤ Int64.maxValue.toInt then
    (.int (Int64.ofInt value), length)
  else if k > 0 && exponent = [] then
    let sign := if negative then ['-'] else []
    let point := if m = 0 then [] else ['.']
    (.fault (.malformedNumber (String.ofList (sign ++ whole ++ point ++ part ++ mark))), length)
  else
    let e : Int := if mark.getLast? = some '-' then -number exponent else number exponent
    let x := Decimal.nearest (number (whole ++ part)) (e - part.length)
    (.float (if negative then -x else x), length)

/-- The value of a digit in the bases up to sixteen. -/
def digitValue? (c : Char) : Option Nat := Text.hexNumber? [c]

/-- The base that a letter after a zero stands for. -/
def base? (c : Char) : Option Nat :=
  if c = 'x' || c = 'X' then some 16
  else if c = 'o' || c = 'O' then some 8
  else if c = 'b' || c = 'B' then some 2
  else none

/-- A number in another base after its zero: the token and how many characters it takes. Such a
number has no sign, and ends before the first digit that its base does not have. -/
def based? (negative : Bool) (cs : List Char) : Option (Token × Nat) :=
  let gap := (cs.takeWhile (· = '_')).length
  match cs.drop gap with
  | [] => none
  | c :: cs =>
    (base? c).map fun base =>
      let belongs (c : Char) : Bool := (digitValue? c).any (· < base)
      let run := cs.takeWhile fun c => belongs c || c = '_'
      let digits := run.filter (· ≠ '_')
      let values := digits.map fun c => (digitValue? c).getD 0
      let value := values.foldl (fun n d => base * n + d) 0
      let length := gap + run.length + 1
      if negative then (.fault (.malformedNumber (String.ofList (c :: digits))), length)
      else if digits = [] || value ≥ Nat.pow 2 64 then
        (.fault (.malformedNumber (String.ofList digits)), length)
      else (.int (Int64.ofNat value), length)

/-- A number at the start of some characters. -/
def number (negative : Bool) (cs : List Char) : Token × Nat :=
  let inBase : Option (Token × Nat) := match cs with
    | '0' :: more => (based? negative more).map fun (t, n) => (t, n + 1)
    | _ => none
  inBase.getD (decimal negative cs)

/-! ### Quoted texts -/

/-- The end of a quoted text: what it holds or what is wrong with it and where, whether an embedded
block follows, and what is left. -/
structure Quotation where
  text : Except (LexicalCause × Position) (List Char)
  isOpen : Bool
  rest : Source

/-- Reads some hexadecimal digits after an escape. -/
def hexEscape (s : Source) (seen : List Char) (value : Nat) :
    Nat → Except (LexicalCause × Position) (Char × Source)
  | 0 =>
    if value < 0xD800 || (0xDFFF < value && value < 0x110000) then .ok (Char.ofNat value, s)
    else .error (.malformedEscape (String.ofList seen), s.position)
  | n + 1 =>
    match s.rest with
    | [] => .error (.malformedEscape (String.ofList seen), s.position)
    | c :: _ =>
      let seen := seen ++ [c]
      match digitValue? c with
      | some d => hexEscape s.next seen (16 * value + d) n
      | none => .error (.malformedEscape (String.ofList seen), s.next.position)

/-- Reads the escape after a backslash, from its first character on. -/
def escape (mark c : Char) (s : Source) : Except (LexicalCause × Position) (Char × Source) :=
  let plain (a : Char) : Except (LexicalCause × Position) (Char × Source) := .ok (a, s.next)
  if c = '\\' then plain '\\'
  else if c = 't' then plain '\t'
  else if c = 'n' then plain '\n'
  else if c = 'r' then plain '\r'
  else if c = 'x' then hexEscape s.next ['\\', 'x'] 0 2
  else if c = 'u' then hexEscape s.next ['\\', 'u'] 0 4
  else if c = 'U' then hexEscape s.next ['\\', 'U'] 0 8
  else if c = mark then plain mark
  else .error (.malformedEscape (String.ofList ['\\', c]), s.next.position)

/-- Where a reader of a quoted text stands: the characters so far, latest first, whether a backslash
precedes, and the column up to which blanks are passed over at the start of a line. -/
structure QuoteReader where
  taken : List Char
  isEscaped : Bool
  indent : Nat

/-- Reads a text up to its closing mark. Between double quotes a backslash at the end of a line
takes the line end with it, and the blanks of the next line up to the column where the text starts.
-/
def quotation (mark : Char) (start : Position) : Nat → QuoteReader → Source → Quotation
  | 0, _, s => ⟨.error (.openString, start), false, s⟩
  | fuel + 1, r, s =>
    let goOn (r : QuoteReader) (s : Source) : Quotation := quotation mark start fuel r s
    match s.rest with
    | [] => ⟨.error (.openString, start), false, s⟩
    | '\r' :: '\n' :: _ => goOn r s.next
    | '\n' :: _ =>
      if r.isEscaped && mark = '"' then
        goOn { r with isEscaped := false, indent := start.column } s.newLine
      else ⟨.error (.openString, start), false, s⟩
    | c :: more =>
      if r.isEscaped then
        match escape mark c s with
        | .ok (c, s) => goOn { r with taken := c :: r.taken, isEscaped := false } s
        | .error e => ⟨.error e, false, s⟩
      else if c = '\\' then goOn { r with isEscaped := true } s.next
      else if c = mark && more.head? ≠ some mark then ⟨.ok r.taken.reverse, false, s.next⟩
      else if Text.isBlank c && s.column < r.indent then goOn r s.next
      else
        let s := if c = mark then s.skip 2 else s.next
        goOn { r with taken := c :: r.taken, indent := 0 } s

/-- Reads a text between backquotes up to its closing mark or up to an embedded block. -/
def passage (start : Position) (taken : List Char) : Nat → Source → Quotation
  | 0, s => ⟨.error (.openString, start), false, s⟩
  | fuel + 1, s =>
    match s.rest with
    | [] => ⟨.error (.openString, start), false, s⟩
    | '\x60' :: '\x60' :: _ => passage start ('\x60' :: taken) fuel (s.skip 2)
    | '\x60' :: _ => ⟨.ok taken.reverse, false, s.next⟩
    | '$' :: '\x7b' :: _ => ⟨.ok taken.reverse, true, s.next⟩
    | '\r' :: '\n' :: _ => passage start taken fuel s.next
    | '\n' :: _ => passage start ('\n' :: taken) fuel s.newLine
    | c :: _ => passage start (c :: taken) fuel s.next

/-- Reads a text up to a double quotation mark with so many number signs after it; nothing in the
text has a meaning of its own. -/
def rawPassage (start : Position) (signs : Nat) (taken : List Char) : Nat → Source → Quotation
  | 0, s => ⟨.error (.openString, start), false, s⟩
  | fuel + 1, s =>
    match s.rest with
    | [] => ⟨.error (.openString, start), false, s⟩
    | '"' :: more =>
      if (more.takeWhile (· = '#')).length ≥ signs then ⟨.ok taken.reverse, false, s.skip (signs + 1)⟩
      else rawPassage start signs ('"' :: taken) fuel s.next
    | '\n' :: _ => rawPassage start signs ('\n' :: taken) fuel s.newLine
    | c :: _ => rawPassage start signs (c :: taken) fuel s.next

/-- The token of a finished passage. -/
def Quotation.token (q : Quotation) (start : Position) : Placed :=
  match q.text with
  | .ok cs => ⟨if q.isOpen then .fragment (String.ofList cs) else .string (String.ofList cs), start⟩
  | .error (cause, p) => ⟨.fault cause, p⟩

/-! ### Words and marks -/

/-- The token of a word. -/
def wordToken (word : String) : Token :=
  if Token.keywords.contains word then .keyword word
  else if Token.reservedWords.contains word then .reserved word
  else if word = "_" then .symbol "_"
  else
    match word.toList.dropWhile (· = '_') with
    | c :: _ => if c.isAlpha then .name word else .fault (.malformedName word)
    | [] => .fault (.malformedName word)

/-- The first of some marks at the start of some characters. -/
def markAt? (marks : List String) (cs : List Char) : Option String :=
  marks.find? fun mark => mark.toList.isPrefixOf cs

/-- The token of the mark at the start of some characters, and its length. -/
def mark (cs : List Char) : Token × Nat :=
  let free := markAt? Token.reservedSymbols cs
  let meant := markAt? Token.symbols cs
  match free, meant with
  | some f, some m => if m.length < f.length then freeMark f else (.symbol m, m.length)
  | some f, none => freeMark f
  | none, some m => (.symbol m, m.length)
  | none, none => (.fault (.unexpected (String.ofList (cs.take 1))), 1)
where
  -- a mark that is kept free
  freeMark (f : String) : Token × Nat :=
    match Token.hint? f with
    | some hint => (.fault (.improperSymbol f hint), f.length)
    | none => (.reserved f, f.length)

/-! ### The tokens of a script -/

/-- Where the tokens stand: how many braces are open in each embedded block, and whether an operand
is awaited. -/
structure Nesting where
  blocks : List Nat
  awaitsOperand : Bool

/-- The nesting after an opening brace. -/
def Nesting.enter (n : Nesting) : Nesting :=
  match n.blocks with
  | [] => ⟨[], true⟩
  | d :: ds => ⟨(d + 1) :: ds, true⟩

/-- A quoted text after its opening mark. -/
def quoted (mark : Char) (start : Position) (s : Source) : Quotation :=
  quotation mark start s.rest.length ⟨[], false, 0⟩ s

/-- A raw text, and the rest. -/
def rawText (start : Position) (s : Source) : Placed × Source :=
  let signs := (s.rest.takeWhile (· = '#')).length
  let s := s.skip signs
  match s.rest with
  | '"' :: _ =>
    let q := rawPassage start signs [] s.rest.length s.next
    (q.token start, q.rest)
  | c :: _ => (⟨.fault (.unexpected (String.singleton c)), start⟩, s)
  | [] => (⟨.fault .openString, start⟩, s)

/-- The next token and the rest. -/
def token (n : Nesting) (s : Source) : Placed × Source :=
  let start := s.ahead
  let taken (t : Token × Nat) : Placed × Source := (⟨t.1, start⟩, s.skip t.2)
  match s.rest with
  | [] => (⟨.finish, start⟩, s)
  | '"' :: _ =>
    let q := quoted '"' start s.next
    (q.token start, q.rest)
  | '\'' :: '\'' :: _ => (⟨.fault (.malformedChar ""), start⟩, s)
  | '\'' :: _ =>
    let q := quoted '\'' start s.next
    (match q.text with
      | .ok [c] => ⟨.char c, start⟩
      | .ok cs => ⟨.fault (.malformedChar (String.ofList cs)), start⟩
      | .error (cause, p) => ⟨.fault cause, p⟩, q.rest)
  | '#' :: '#' :: _ | '#' :: '"' :: _ => rawText start s
  | '!' :: 'i' :: 'n' :: cs =>
    if (cs.head?.map continuesName).getD false then taken (mark s.rest)
    else taken (.symbol "!in", 3)
  | '-' :: c :: cs =>
    if Text.isDigit c && n.awaitsOperand then
      let (t, length) := number true (c :: cs)
      taken (t, length + 1)
    else taken (mark s.rest)
  | c :: _ =>
    if Text.isDigit c then taken (number false s.rest)
    else if startsName c then
      let word := s.rest.takeWhile continuesName
      taken (wordToken (String.ofList word), word.length)
    else taken (mark s.rest)

/-- The source after the line end that directly follows an opening backquote. -/
def skipFirstLineEnd (s : Source) : Source :=
  match s.rest with
  | '\r' :: '\n' :: _ => s.next.newLine
  | '\n' :: _ | '\r' :: _ => s.newLine
  | _ => s

/-- The tokens of a script from a place on. -/
def tokensFrom : Nat → Nesting → Source → List Placed
  | 0, _, s => [⟨.finish, s.ahead⟩]
  | fuel + 1, n, s =>
    let s := skipBlanks (s.rest.length + 1) s
    let passageToken (start : Position) (s : Source) (blocks : List Nat) : List Placed :=
      let q := passage start [] (s.rest.length + 1) s
      let t := q.token start
      t :: tokensFrom fuel ⟨if q.isOpen then 0 :: blocks else blocks, false⟩ q.rest
    match s.rest, n.blocks with
    | '\x60' :: _, blocks => passageToken s.ahead (skipFirstLineEnd s.next) blocks
    | '\x7d' :: _, 1 :: blocks => ⟨.symbol "\x7d", s.ahead⟩ :: passageToken s.ahead s.next blocks
    | '\x7d' :: _, (d + 1) :: blocks =>
      ⟨.symbol "\x7d", s.ahead⟩ :: tokensFrom fuel ⟨d :: blocks, false⟩ s.next
    | _, _ =>
      let (t, rest) := token n s
      match t.token with
      | .finish => [t]
      | .fault _ => [t, ⟨.finish, rest.ahead⟩]
      | .symbol "\x7b" | .symbol "#\x7b" => t :: tokensFrom fuel n.enter rest
      | other => t :: tokensFrom fuel ⟨n.blocks, other.awaitsOperand⟩ rest

end Source

/-- The tokens of a script. -/
def tokens (script : String) : List Placed :=
  let cs := script.toList
  Source.tokensFrom (2 * cs.length + 2) ⟨[], true⟩ ⟨cs, 1, 0⟩

end HostedScripts.Language
