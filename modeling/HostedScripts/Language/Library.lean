import HostedScripts.Language.Operators
import HostedScripts.Text.Case

/-!
# Functions that every script has

The library has a function for a name and the types of its arguments, or none. A function gives a
value and may change its first argument, which is then the object of a method call. Indices below
zero count from the end.

`library?` looks a function up and applies it; `property?` does the same for the properties of
objects that are no maps.
-/

namespace HostedScripts.Language

/-- What a function gives: a value, and the new first argument if the function changes it. -/
structure Effect where
  value : Datum
  changed : Option Datum

namespace Effect

/-- The effect of a function that only gives a value. -/
def gives (d : Datum) : Option (Except Cause Effect) := some (.ok ⟨d, none⟩)

/-- The effect of a function that changes its first argument. -/
def changes (changed value : Datum) : Option (Except Cause Effect) :=
  some (.ok ⟨value, some changed⟩)

end Effect

namespace Library

open Datum Effect

/-- The place in a list that an index stands for, if there is one. -/
def place? (length : Nat) (index : Int64) : Option Nat :=
  let i := index.toInt
  if 0 ≤ i then (if i.toNat < length then some i.toNat else none)
  else if i.natAbs ≤ length then some (length - i.natAbs)
  else none

/-- The number of something. -/
def count (n : Nat) : Datum := int (Int64.ofNat n)

/-- Functions of arrays. What is put into an array stays fixed if it is. -/
def ofArray? (name : String) (es : List Datum) (args : List Datum) :
    Option (Except Cause Effect) :=
  match name, args.map bare with
  | "len", [] => gives (count es.length)
  | "is_empty", [] => gives (bool es.isEmpty)
  | "push", [_] => changes (array (es ++ args)) unit
  | "append", [array fs] => changes (array (es ++ fs)) unit
  | "pop", [] => changes (array es.dropLast) (es.getLast?.getD unit)
  | "shift", [] => changes (array es.tail) (es.head?.getD unit)
  | "clear", [] => changes (array []) unit
  | "reverse", [] => changes (array es.reverse) unit
  | "contains", [d] => some ((indexOfEqual? d 0 es).map fun n => ⟨bool n.isSome, none⟩)
  | "index_of", [d] =>
    some ((indexOfEqual? d 0 es).map fun n => ⟨int (n.elim (-1) Int64.ofNat), none⟩)
  | "insert", [int i, _] =>
    let n := (place? es.length i).getD (if i < 0 then 0 else es.length)
    changes (array (es.take n ++ args.drop 1 ++ es.drop n)) unit
  | "remove", [int i] =>
    match place? es.length i with
    | some n => changes (array (es.eraseIdx n)) (es[n]?.getD unit)
    | none => changes (array es) unit
  | _, _ => none

/-- Functions of maps. What is put into a map stays fixed if it is. -/
def ofMap? (name : String) (entries : Dictionary Datum) (args : List Datum) :
    Option (Except Cause Effect) :=
  match name, args.map bare with
  | "len", [] => gives (count entries.length)
  | "is_empty", [] => gives (bool entries.isEmpty)
  | "clear", [] => changes (map []) unit
  | "contains", [string k] => gives (bool (entries.get? k).isSome)
  | "get", [string k] => gives ((entries.get? k).getD unit).free
  | "set", [string k, _] => changes (map ((args.drop 1).foldl (fun m d => Dictionary.insert k d m) entries)) unit
  | "remove", [string k] => changes (map (entries.erase k)) ((entries.get? k).getD unit)
  | "mixin", [map other] => changes (map (entries.union other)) unit
  | "keys", [] => gives (array (entries.map fun (k, _) => string k))
  | "values", [] => gives (array (entries.map (·.2.free)))
  | _, _ => none

/-- The text of a text or character. -/
def textOf? : Datum → Option String
  | string s => some s
  | char c => some (String.singleton c)
  | _ => none

/-- Where a text occurs in another one, counted in characters. -/
def indexIn? (part : List Char) : List Char → Nat → Option Nat
  | [], n => if part.isEmpty then some n else none
  | c :: cs, n => if part.isPrefixOf (c :: cs) then some n else indexIn? part cs (n + 1)

/-- The characters of a text from an index on, at most so many. -/
def slice (s : String) (start : Int64) (length : Option Int64) : String :=
  let cs := s.toList
  let from' := if start < 0 then cs.length - start.toInt.natAbs else start.toInt.toNat
  let rest := cs.drop from'
  String.ofList (match length with
    | some n => rest.take n.toInt.toNat
    | none => rest)

/-- Functions of texts. -/
def ofString? (name : String) (s : String) (args : List Datum) : Option (Except Cause Effect) :=
  match name, args with
  | "len", [] => gives (count s.length)
  | "is_empty", [] => gives (bool s.isEmpty)
  | "bytes", [] => gives (count s.utf8ByteSize)
  | "to_upper", [] => gives (string (Text.upper s))
  | "to_lower", [] => gives (string (Text.lower s))
  | "make_upper", [] => changes (string (Text.upper s)) unit
  | "make_lower", [] => changes (string (Text.lower s)) unit
  | "trim", [] => changes (string (Text.trim s)) unit
  | "clear", [] => changes (string "") unit
  | "chars", [] => gives (array (s.toList.map char))
  | "sub_string", [int start] => gives (string (slice s start none))
  | "sub_string", [int start, int n] => gives (string (slice s start (some n)))
  | "split", [] =>
    gives (array (((s.toList.splitBy fun a b => !Text.isBlank a && !Text.isBlank b).filter
      (·.all (!Text.isBlank ·))).map fun part => string (String.ofList part)))
  | _, first :: more =>
    match textOf? first, more with
    | some t, [] =>
      match name with
      | "contains" => gives (bool (Text.contains s t))
      | "starts_with" => gives (bool (t.toList.isPrefixOf s.toList))
      | "ends_with" => gives (bool (t.toList.isSuffixOf s.toList))
      | "index_of" => gives (int ((indexIn? t.toList s.toList 0).elim (-1) Int64.ofNat))
      | "remove" => changes (string (BinaryOp.without s t)) unit
      | "split" => gives (array ((s.splitOn t).map string))
      | _ => none
    | some t, [second] =>
      match name, textOf? second with
      | "replace", some u => changes (string (u.intercalate (s.splitOn t))) unit
      | _, _ => none
    | _, _ => none
  | _, _ => none

/-- Functions of host applications. -/
def ofHost? (name : String) (handle : HostHandle) (args : List Datum) :
    Option (Except Cause Effect) :=
  match name, args with
  | "has_document", [] => gives (bool handle.host.document.isSome)
  | _, _ => none

/-- Functions of integers. -/
def ofInt? (name : String) (n : Int64) (args : List Datum) : Option (Except Cause Effect) :=
  match name, args with
  | "abs", [] =>
    some ((Datum.ofInteger n.toInt.natAbs ("Negation overflow: -" ++ toString n.toInt)).map
      (⟨·, none⟩))
  | "to_float", [] => gives (float n.toFloat)
  | "to_int", [] => gives (int n)
  | "is_odd", [] => gives (bool (n % 2 != 0))
  | "is_even", [] => gives (bool (n % 2 == 0))
  | "is_zero", [] => gives (bool (n == 0))
  | "sign", [] => gives (int (if n < 0 then -1 else if n = 0 then 0 else 1))
  | "min", [int m] => gives (int (if m < n then m else n))
  | "max", [int m] => gives (int (if n < m then m else n))
  | _, _ => none

/-- Functions of doubles. -/
def ofFloat? (name : String) (x : Float) (args : List Datum) : Option (Except Cause Effect) :=
  match name, args with
  | "abs", [] => gives (float x.abs)
  | "to_float", [] => gives (float x)
  | "to_int", [] => gives (int (Decimal.toInt64Saturating x))
  | "floor", [] => gives (float x.floor)
  | "ceiling", [] => gives (float x.ceil)
  | "round", [] => gives (float x.round)
  | "sqrt", [] => gives (float x.sqrt)
  | "is_zero", [] => gives (bool (x == 0))
  | "min", [float y] => gives (float (if y < x then y else x))
  | "max", [float y] => gives (float (if x < y then y else x))
  | _, _ => none

/-- Functions of characters. -/
def ofChar? (name : String) (c : Char) (args : List Datum) : Option (Except Cause Effect) :=
  match name, args with
  | "to_upper", [] =>
    gives (match Text.capital c with
      | [d] => char d
      | _ => char c)
  | "to_lower", [] =>
    gives (match Text.small c with
      | [d] => char d
      | _ => char c)
  | "to_int", [] => gives (count c.toNat)
  | _, _ => none

/-- What a name says about a range itself. -/
def ofRangeItself? (name : String) (first last : Int64) (inclusive : Bool) : Option Datum :=
  match name with
  | "start" => some (int first)
  | "end" => some (int last)
  | "is_inclusive" => some (bool inclusive)
  | "is_exclusive" => some (bool !inclusive)
  | "is_empty" => some (bool (if inclusive then last < first else last ≤ first))
  | _ => none

/-- Functions of ranges. -/
def ofRange? (name : String) (first last : Int64) (inclusive : Bool) (args : List Datum) :
    Option (Except Cause Effect) :=
  match name, args with
  | "contains", [int n] =>
    gives (bool (first ≤ n && (n < last || (inclusive && n = last))))
  | _, [] => (ofRangeItself? name first last inclusive).bind gives
  | _, _ => none

/-- Functions of functions. -/
def ofFunction? (name function : String) (args : List Datum) : Option (Except Cause Effect) :=
  match name, args with
  | "name", [] => gives (string function)
  | "is_anonymous", [] => gives (bool (Function.isNamelessName function))
  | _, _ => none

/-- Functions of all values. -/
def ofAny? (name : String) (d : Datum) (args : List Datum) : Option (Except Cause Effect) :=
  match name, args with
  | "type_of", [] => gives (string d.typeName)
  | "to_string", [] => gives (string d.printed)
  | "to_debug", [] => gives (string d.debugged)
  | _, _ => none

/-- What the function with a name gives for some arguments. -/
def library? (name : String) (args : List Datum) : Option (Except Cause Effect) :=
  match args with
  | [] => none
  | d :: rest =>
    let bareRest := rest.map bare
    let special := match d.bare with
      | array es => ofArray? name es rest
      | map entries => ofMap? name entries rest
      | string s => ofString? name s bareRest
      | host h => ofHost? name h bareRest
      | int n => ofInt? name n bareRest
      | float x => ofFloat? name x bareRest
      | char c => ofChar? name c bareRest
      | range a b i => ofRange? name a b i bareRest
      | .function f _ _ => ofFunction? name f bareRest
      | .unit | .bool _ | .fixed _ | .shared _ => none
    special <|> ofAny? name d.bare rest

/-- What the property with a name of an object is. -/
def property? (name : String) (d : Datum) : Option Datum :=
  match name, d.bare with
  | "name", host h => some (string h.host.name)
  | "version", host h => some (string h.host.version)
  | "kind", host h => some (string h.kind.name)
  | "document_title", host h => some (string h.host.documentTitle)
  | "document_path", host h => some (string h.host.documentPath)
  | "len", array es => some (count es.length)
  | "len", string s => some (count s.length)
  | "is_empty", array es => some (bool es.isEmpty)
  | "is_empty", string s => some (bool s.isEmpty)
  | "bytes", string s => some (count s.utf8ByteSize)
  | "chars", string s => some (array (s.toList.map char))
  | _, range first last inclusive => ofRangeItself? name first last inclusive
  | "name", .function f _ _ => some (string f)
  | "is_anonymous", .function f _ _ => some (bool (Function.isNamelessName f))
  | _, _ => none

end Library

end HostedScripts.Language
