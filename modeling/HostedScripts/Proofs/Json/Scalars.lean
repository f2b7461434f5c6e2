import HostedScripts.Json.Cursor
import Mathlib.Algebra.Group.Int.Defs
import Mathlib.Algebra.Group.Nat.Defs
import Mathlib.Order.Lattice
import Mathlib.Tactic.SplitIfs

/-! # Reading back what was written: texts and numbers

What `Json.quoteChars` writes for a text is read back as that text (`Cursor.string_escaped`): every escape
is undone by `Cursor.stringFrom`, and a character that is not escaped stands for itself
(`Cursor.stringFrom_escapeChar`). The numeral of an integer that fits 64 bits, signed or unsigned, is read
back as that integer (`Cursor.readsScalar_int`), if nothing follows that would make the number go on
(`Cursor.Ends`).

The lemmas tell what is read and what is left of the text; of the bytes before that they say nothing. -/

namespace HostedScripts

/-! ### Hexadecimal digits -/

namespace Text

theorem hexValue?_hexDigit : ∀ {n : Nat}, n < 16 → hexValue? (hexDigit n) = some n := by decide

theorem hexDigits_four (n : Nat) : hexDigits 4 n =
    [hexDigit (n / 4096 % 16), hexDigit (n / 256 % 16), hexDigit (n / 16 % 16), hexDigit (n % 16)] := by
  simp [hexDigits, List.range_succ]

theorem hexNumber?_hexDigits {n : Nat} (h : n < 65536) : hexNumber? (hexDigits 4 n) = some n := by
  have hvalue : ∀ m, hexValue? (hexDigit (m % 16)) = some (m % 16) := fun m =>
    hexValue?_hexDigit (Nat.mod_lt m (by decide))
  have hsum : 16 * (16 * (16 * (16 * 0 + n / 4096 % 16) + n / 256 % 16) + n / 16 % 16) + n % 16 = n := by
    omega
  rw [hexDigits_four]
  simp only [hexNumber?, List.foldlM, hvalue, Option.map_some, Option.bind_eq_bind, Option.bind_some,
    Option.pure_def]
  rw [hsum]

theorem length_hexDigits (width n : Nat) : (hexDigits width n).length = width := by simp [hexDigits]

theorem notMem_hexDigits {c : Char} (h : ∀ k < 16, hexDigit k ≠ c) (width n : Nat) :
    c ∉ hexDigits width n := by
  unfold hexDigits
  rw [List.mem_map]
  rintro ⟨i, -, hi⟩
  exact h _ (Nat.mod_lt _ (by decide)) hi

theorem length_le_byteLength (cs : List Char) : cs.length ≤ byteLength cs := by
  have hfold : ∀ (cs : List Char) (n : Nat),
      n + cs.length ≤ cs.foldl (fun n c => n + c.utf8Size) n := fun cs => by
    induction cs with
    | nil => exact fun n => le_rfl
    | cons c cs ih =>
      intro n
      have hc := c.utf8Size_pos
      have hrest := ih (n + c.utf8Size)
      rw [List.length_cons, List.foldl_cons]
      omega
  have hzero := hfold cs 0
  rwa [Nat.zero_add] at hzero

end Text

namespace Json.Cursor

/-! ### Quoted texts -/

theorem hexEscape_hexDigits {n : Nat} (h : n < 65536) (rest : List Char) (off : Nat) :
    hexEscape ⟨Text.hexDigits 4 n ++ rest, off⟩ = .ok (n, ⟨rest, off + 4⟩) := by
  have hlen := Text.length_hexDigits 4 n
  have hbytes : ¬ Text.byteLength (Text.hexDigits 4 n ++ rest) < 4 := by
    have hle := Text.length_le_byteLength (Text.hexDigits 4 n ++ rest)
    rw [List.length_append, hlen] at hle
    omega
  unfold hexEscape
  dsimp only
  rw [if_neg hbytes, List.take_left' hlen, List.drop_left' hlen, Text.hexNumber?_hexDigits h]

/-- The escape of a number that is no half of a surrogate pair stands for the character. -/
theorem unicodeEscape_hexDigits {n : Nat} (h : n < 0xD800) (rest : List Char) (off : Nat) :
    unicodeEscape ⟨Text.hexDigits 4 n ++ rest, off⟩ = .ok (Char.ofNat n, ⟨rest, off + 4⟩) := by
  have hlow : ¬ 0xDC00 ≤ n := by omega
  unfold unicodeEscape
  rw [hexEscape_hexDigits (by omega)]
  simp [hlow, h, Bind.bind, Except.bind, Pure.pure, Except.pure]

attribute [local simp] stringFrom

theorem stringFrom_quote (fuel : Nat) (read rest : List Char) (off : Nat) :
    stringFrom (fuel + 1) read ⟨'"' :: rest, off⟩ =
      .ok (String.ofList read.reverse, ⟨rest, off + 1⟩) := rfl

theorem stringFrom_simple {a b : Char} (hu : a ≠ 'u') (h : simpleEscape? a = some b) (fuel : Nat)
    (read rest : List Char) (off : Nat) :
    stringFrom (fuel + 1) read ⟨'\\' :: a :: rest, off⟩ =
      stringFrom fuel (b :: read) ⟨rest, off + 1 + a.utf8Size⟩ := by
  rw [stringFrom]
  dsimp only
  simp only [h]
  rfl

theorem stringFrom_unicode {n : Nat} (h : n < 0xD800) (fuel : Nat) (read rest : List Char) (off : Nat) :
    stringFrom (fuel + 1) read ⟨'\\' :: 'u' :: Text.hexDigits 4 n ++ rest, off⟩ =
      stringFrom fuel (Char.ofNat n :: read) ⟨rest, off + 6⟩ := by
  have hescape := unicodeEscape_hexDigits h rest (off + 2)
  rw [stringFrom]
  dsimp only [List.cons_append]
  rw [show (next (next ⟨'\\' :: 'u' :: (Text.hexDigits 4 n ++ rest), off⟩)) =
    ⟨Text.hexDigits 4 n ++ rest, off + 2⟩ from rfl, hescape]
  rfl

theorem stringFrom_plain {a : Char} (hquote : a ≠ '"') (hslash : a ≠ '\\') (h : ¬ a.toNat < 0x20)
    (fuel : Nat) (read rest : List Char) (off : Nat) :
    stringFrom (fuel + 1) read ⟨a :: rest, off⟩ =
      stringFrom fuel (a :: read) ⟨rest, off + a.utf8Size⟩ := by
  rw [stringFrom]
  dsimp only
  simp only [if_neg h]
  rfl

/-- Every escape is undone. -/
theorem stringFrom_escapeChar (a : Char) (fuel : Nat) (read rest : List Char) (off : Nat) :
    ∃ off', stringFrom (fuel + 1) read ⟨escapeChar a ++ rest, off⟩ =
      stringFrom fuel (a :: read) ⟨rest, off'⟩ := by
  have hchar : ∀ {n : Nat}, a.toNat = n → Char.ofNat n = a := fun h => h ▸ Char.ofNat_toNat a
  have hsimple : ∀ {b c : Char}, b ≠ 'u' → simpleEscape? b = some c → c = a →
      ∃ off', stringFrom (fuel + 1) read ⟨['\\', b] ++ rest, off⟩ =
        stringFrom fuel (a :: read) ⟨rest, off'⟩ := fun hu hb hc =>
    ⟨_, hc ▸ stringFrom_simple hu hb fuel read rest off⟩
  unfold escapeChar
  split_ifs with hquote hslash hcontrol
  · exact hsimple (by decide) rfl (eq_of_beq hquote).symm
  · exact hsimple (by decide) rfl (eq_of_beq hslash).symm
  · -- five control characters have letters, and the others are written by their numbers
    split
    · next h => exact hsimple (by decide) rfl (hchar h)
    · next h => exact hsimple (by decide) rfl (hchar h)
    · next h => exact hsimple (by decide) rfl (hchar h)
    · next h => exact hsimple (by decide) rfl (hchar h)
    · next h => exact hsimple (by decide) rfl (hchar h)
    · have hunicode := stringFrom_unicode (n := a.toNat) (by omega) fuel read rest off
      rw [Char.ofNat_toNat] at hunicode
      exact ⟨off + 6, hunicode⟩
  · exact ⟨_, stringFrom_plain (by simpa using hquote) (by simpa using hslash) hcontrol fuel read rest off⟩

theorem stringFrom_escaped (text : List Char) (fuel : Nat) (hfuel : text.length < fuel)
    (read rest : List Char) (off : Nat) :
    ∃ off', stringFrom fuel read ⟨text.flatMap escapeChar ++ '"' :: rest, off⟩ =
      .ok (String.ofList (read.reverse ++ text), ⟨rest, off'⟩) := by
  induction text generalizing fuel read off with
  | nil =>
    obtain ⟨fuel, rfl⟩ := Nat.exists_eq_succ_of_ne_zero (Nat.ne_of_gt hfuel)
    rw [List.append_nil]
    exact ⟨off + 1, stringFrom_quote fuel read rest off⟩
  | cons a text ih =>
    obtain ⟨fuel, rfl⟩ := Nat.exists_eq_succ_of_ne_zero (Nat.ne_zero_of_lt hfuel)
    obtain ⟨read', hread⟩ :=
      stringFrom_escapeChar a fuel read (text.flatMap escapeChar ++ '"' :: rest) off
    obtain ⟨off', hrest⟩ := ih fuel (Nat.lt_of_succ_lt_succ hfuel) (a :: read) read'
    refine ⟨off', ?_⟩
    rw [List.flatMap_cons, List.append_assoc, hread, hrest, List.reverse_cons, List.append_assoc]
    rfl

theorem escapeChar_ne_nil (a : Char) : escapeChar a ≠ [] := by
  unfold escapeChar
  split_ifs
  · simp
  · simp
  · split <;> simp
  · simp

theorem length_le_length_escaped (text : List Char) :
    text.length ≤ (text.flatMap escapeChar).length := by
  induction text with
  | nil => exact le_rfl
  | cons a text ih =>
    have ha := List.length_pos_iff.mpr (escapeChar_ne_nil a)
    rw [List.flatMap_cons, List.length_append, List.length_cons]
    omega

/-- A quoted text is read back, whatever follows it. -/
theorem string_escaped (s : String) (rest : List Char) (off : Nat) :
    ∃ off', string ⟨s.toList.flatMap escapeChar ++ '"' :: rest, off⟩ = .ok (s, ⟨rest, off'⟩) := by
  have hlen := length_le_length_escaped s.toList
  obtain ⟨off', hread⟩ := stringFrom_escaped s.toList
    ((s.toList.flatMap escapeChar ++ '"' :: rest).length + 1)
    (by rw [List.length_append]; omega) [] rest off
  refine ⟨off', hread.trans ?_⟩
  rw [List.reverse_nil, List.nil_append, String.ofList_toList]

/-! ### Numbers -/

/-- What can follow a document inside another, or at the end. -/
def Ends (rest : List Char) : Prop := ∀ a ∈ rest.head?, a = ',' ∨ a = ']' ∨ a = '\x7d'

theorem ends_nil : Ends [] := fun a ha => by cases ha

theorem ends_cons {a : Char} (h : a = ',' ∨ a = ']' ∨ a = '\x7d') (rest : List Char) :
    Ends (a :: rest) := fun b hb => by
  cases hb
  exact h

variable {rest : List Char}

/-- No digit, point or exponent follows. -/
theorem Ends.peek? (h : Ends rest) (off : Nat) :
    digitAhead ⟨rest, off⟩ = false ∧ peek? ⟨rest, off⟩ ≠ some '.' ∧
      exponentAhead ⟨rest, off⟩ = false := by
  cases rest with
  | nil => exact ⟨rfl, by simp [Cursor.peek?], rfl⟩
  | cons a rest =>
    rcases h a rfl with rfl | rfl | rfl
    all_goals exact ⟨rfl, by simp [Cursor.peek?], rfl⟩

theorem Ends.afterInteger (h : Ends rest) (negative : Bool) (significand : Nat) (before : Int)
    (off : Nat) (plain : Except Fault (Number × Cursor)) :
    afterInteger negative significand before ⟨rest, off⟩ plain = plain := by
  obtain ⟨-, hpoint, hexponent⟩ := h.peek? off
  unfold Cursor.afterInteger
  rw [if_neg (by simpa using hpoint), if_neg (by simp [hexponent])]

theorem le_ofDigitChars (digits : List Char) (m : Nat) : m ≤ Nat.ofDigitChars 10 digits m := by
  induction digits generalizing m with
  | nil => exact le_rfl
  | cons a digits ih =>
    rw [Nat.ofDigitChars_cons]
    have hrest := ih (10 * m + (a.toNat - '0'.toNat))
    omega

theorem appendDigits_of_ends (h : Ends rest) (significand count : Nat) :
    appendDigits significand count rest = (significand, count) := by
  cases rest with
  | nil => rfl
  | cons a rest =>
    have hdigit : Text.isDigit a = false := (h.peek? 0).1
    unfold appendDigits
    rw [hdigit]
    rfl

/-- Digits are appended as long as the significand is kept exactly. -/
theorem appendDigits_append (h : Ends rest) (digits : List Char)
    (hdigits : ∀ a ∈ digits, Text.isDigit a = true) (m count : Nat)
    (hmax : Nat.ofDigitChars 10 digits m ≤ maxSignificand) :
    appendDigits m count (digits ++ rest) =
      (Nat.ofDigitChars 10 digits m, count + digits.length) := by
  induction digits generalizing m count with
  | nil => exact appendDigits_of_ends h m count
  | cons a digits ih =>
    rw [Nat.ofDigitChars_cons, Nat.mul_comm] at hmax ⊢
    have hmore : m * 10 + (a.toNat - 48) ≤ maxSignificand := (le_ofDigitChars digits _).trans hmax
    have hrest := ih (fun b hb => hdigits b (List.mem_cons_of_mem a hb)) _ (count + 1) hmax
    rw [List.cons_append, appendDigits, if_pos (hdigits a List.mem_cons_self)]
    dsimp only
    rw [if_pos hmore, List.length_cons, Nat.add_comm digits.length, ← Nat.add_assoc]
    exact hrest

theorem isDigit_of_mem_toDigits {n : Nat} : ∀ a ∈ Nat.toDigits 10 n, Text.isDigit a = true :=
  fun _ ha => Nat.isDigit_of_mem_toDigits (by decide) (by decide) ha

/-- A numeral starts with a digit, and only that of zero with a zero. -/
theorem exists_toDigits (n : Nat) : ∃ a digits,
    Nat.toDigits 10 n = a :: digits ∧ Text.isDigit a = true ∧ (a = '0' → n = 0) := by
  obtain ⟨a, digits, hdigits⟩ := List.exists_cons_of_ne_nil (Nat.toDigits_ne_nil (n := n) (b := 10))
  have ha : a ∈ Nat.toDigits 10 n := by rw [hdigits]; exact List.mem_cons_self
  refine ⟨a, digits, hdigits, isDigit_of_mem_toDigits a ha, ?_⟩
  rintro rfl
  clear ha
  induction n using Nat.strong_induction_on generalizing digits with
  | _ n ih =>
    rw [Nat.toDigits_eq_if (by decide)] at hdigits
    split_ifs at hdigits with hlt
    · exact Nat.digitChar_eq_zero.mp (List.cons.inj hdigits).1
    · -- the first digit is that of the number without its last one, which is not zero
      obtain ⟨b, more, hmore⟩ :=
        List.exists_cons_of_ne_nil (Nat.toDigits_ne_nil (n := n / 10) (b := 10))
      rw [hmore] at hdigits
      obtain rfl := (List.cons.inj hdigits).1
      have hzero := ih (n / 10) (Nat.div_lt_self (by omega) (by decide)) more hmore
      omega

theorem number_zero (h : Ends rest) (negative : Bool) (off : Nat) :
    number negative ⟨'0' :: rest, off⟩ = .ok (integer negative 0, ⟨rest, off + 1⟩) := by
  have hdigit : digitAhead (next ⟨'0' :: rest, off⟩) = false := (h.peek? (off + 1)).1
  rw [number]
  dsimp only
  rw [if_neg (by simp [hdigit])]
  exact h.afterInteger negative 0 0 (off + 1) _

/-- **A numeral is read back.** -/
theorem number_toDigits (h : Ends rest) {n : Nat} (hn : n ≤ maxSignificand) (negative : Bool)
    (off : Nat) :
    ∃ off', number negative ⟨Nat.toDigits 10 n ++ rest, off⟩ =
      .ok (integer negative n, ⟨rest, off'⟩) := by
  by_cases hzero : n = 0
  · subst hzero
    exact ⟨off + 1, number_zero h negative off⟩
  · obtain ⟨a, digits, hdigits, hisDigit, ha⟩ := exists_toDigits n
    have hvalue : Nat.ofDigitChars 10 (Nat.toDigits 10 n) 0 = n := Nat.ofDigitChars_ten_toDigits
    have happend := appendDigits_append h (Nat.toDigits 10 n) isDigit_of_mem_toDigits 0 0
      (hvalue.trans_le hn)
    rw [hvalue, Nat.zero_add, hdigits, List.cons_append] at happend
    have hafter : advance ⟨a :: (digits ++ rest), off⟩ (a :: digits).length =
        ⟨rest, off + (a :: digits).length⟩ := by
      unfold advance
      rw [← List.cons_append, List.drop_left]
    refine ⟨off + (a :: digits).length, ?_⟩
    rw [hdigits, List.cons_append]
    unfold number
    split
    · next heq => cases heq
    · next heq => exact absurd (ha (List.cons.inj heq).1) hzero
    · next heq =>
      obtain ⟨rfl, rfl⟩ := List.cons.inj heq
      dsimp only
      rw [happend, if_neg (by simp [hisDigit])]
      dsimp only
      rw [hafter, if_neg (by simp [(h.peek? _).1])]
      exact h.afterInteger negative n 0 _ _

/-! ### Scalars -/

/-- A scalar is read from a text, whatever can follow it. -/
def ReadsScalar (text : List Char) (j : Json) : Prop :=
  ∀ rest off, Ends rest → ∃ off', scalar? ⟨text ++ rest, off⟩ = some (.ok (j, ⟨rest, off'⟩))

theorem literal_append (word rest : List Char) (off : Nat) :
    ∃ off', literal ⟨word ++ rest, off⟩ word = .ok ⟨rest, off'⟩ := by
  induction word generalizing off with
  | nil => exact ⟨off, rfl⟩
  | cons a word ih =>
    obtain ⟨off', hrest⟩ := ih (off + a.utf8Size)
    refine ⟨off', ?_⟩
    rw [List.cons_append, literal]
    dsimp only
    rw [if_pos (beq_self_eq_true a)]
    exact hrest

theorem readsScalar_of_literal {a : Char} {word : List Char} {j : Json}
    (hscalar : ∀ rest off, scalar? ⟨a :: rest, off⟩ =
      some ((literal (next ⟨a :: rest, off⟩) word).map (j, ·)))
    (hchars : j.chars = a :: word) : ReadsScalar j.chars j := fun rest off _ => by
  obtain ⟨off', hword⟩ := literal_append word rest (off + a.utf8Size)
  refine ⟨off', ?_⟩
  rw [hchars, List.cons_append, hscalar]
  exact congrArg (fun read => some (Except.map (fun c => (j, c)) read)) hword

attribute [local simp] chars

theorem readsScalar_null : ReadsScalar (chars .null) .null :=
  readsScalar_of_literal (fun _ _ => rfl) (by rw [chars])

theorem readsScalar_bool (b : Bool) : ReadsScalar (chars (.bool b)) (.bool b) := by
  cases b with
  | true => exact readsScalar_of_literal (fun _ _ => rfl) (by rw [chars])
  | false => exact readsScalar_of_literal (fun _ _ => rfl) (by rw [chars])

theorem readsScalar_string (s : String) : ReadsScalar (chars (.string s)) (.string s) :=
  fun rest off _ => by
    obtain ⟨off', hread⟩ := string_escaped s rest (off + 1)
    have hquoted : chars (.string s) ++ rest = '"' :: (s.toList.flatMap escapeChar ++ '"' :: rest) := by
      simp [quoteChars]
    have hscalar : ∀ more, scalar? ⟨'"' :: more, off⟩ =
        some ((string ⟨more, off + 1⟩).map fun read => (.string read.1, read.2)) := fun _ => rfl
    refine ⟨off', ?_⟩
    rw [hquoted, hscalar, hread]
    rfl

/-- An integer that is written as one of 64 bits, signed or unsigned. -/
def Fits (n : Int) : Prop := -2 ^ 63 ≤ n ∧ n < 2 ^ 64

theorem scalar?_of_isDigit {a : Char} (ha : Text.isDigit a = true) (rest : List Char) (off : Nat) :
    scalar? ⟨a :: rest, off⟩ =
      some ((number false ⟨a :: rest, off⟩).map fun read => (read.1.toJson, read.2)) := by
  obtain ⟨hn, ht, hf, hminus, hquote⟩ : a ≠ 'n' ∧ a ≠ 't' ∧ a ≠ 'f' ∧ a ≠ '-' ∧ a ≠ '"' := by
    refine ⟨?_, ?_, ?_, ?_, ?_⟩
    all_goals
      rintro rfl
      revert ha
      decide
  simp [scalar?, ha]

theorem chars_int_natCast (n : Nat) : chars (.int n) = Nat.toDigits 10 n := by
  rw [chars]
  show (Int.repr n).toList = _
  rw [Int.repr_eq_if, if_pos (Int.natCast_nonneg n), Int.toNat_natCast, Nat.repr_eq_ofList_toDigits,
    String.toList_ofList]

theorem chars_int_neg {n : Nat} (hn : n ≠ 0) : chars (.int (-n)) = '-' :: Nat.toDigits 10 n := by
  have hneg : ¬ (0 : Int) ≤ -n := by omega
  rw [chars]
  show (Int.repr (-n)).toList = _
  rw [Int.repr_eq_if, if_neg hneg, Int.neg_neg, Int.toNat_natCast, Nat.repr_eq_ofList_toDigits,
    String.toList_append, String.toList_ofList]
  simp

theorem maxSignificand_eq : maxSignificand = 2 ^ 64 - 1 := rfl

theorem integer_true {n : Nat} (hn : n ≠ 0) (hle : n ≤ 2 ^ 63) : integer true n = .negative (-n) := by
  have hkept : ¬ (n = 0 ∨ Nat.pow 2 63 < n) := by
    rintro (h | h)
    · exact hn h
    · exact absurd h (not_lt.mpr hle)
  unfold integer
  simp only [Bool.not_true, Bool.false_eq_true, if_false]
  rw [if_neg (by simpa using hkept)]

theorem readsScalar_natCast {n : Nat} (hn : n ≤ maxSignificand) :
    ReadsScalar (chars (.int n)) (.int n) := fun rest off hrest => by
  obtain ⟨off', hread⟩ := number_toDigits hrest hn false off
  obtain ⟨a, digits, hdigits, ha, -⟩ := exists_toDigits n
  refine ⟨off', ?_⟩
  rw [chars_int_natCast, hdigits, List.cons_append, scalar?_of_isDigit ha, ← List.cons_append,
    ← hdigits, hread]
  rfl

theorem readsScalar_neg {n : Nat} (hn : n ≠ 0) (hle : n ≤ 2 ^ 63) :
    ReadsScalar (chars (.int (-n))) (.int (-n)) := fun rest off hrest => by
  have hmax : n ≤ maxSignificand := by rw [maxSignificand_eq]; omega
  obtain ⟨off', hread⟩ := number_toDigits hrest hmax true (off + 1)
  rw [integer_true hn hle] at hread
  have hscalar : ∀ more, scalar? ⟨'-' :: more, off⟩ =
      some ((number true ⟨more, off + 1⟩).map fun read => (read.1.toJson, read.2)) := fun _ => rfl
  refine ⟨off', ?_⟩
  rw [chars_int_neg hn, List.cons_append, hscalar, hread]
  rfl

/-- **An integer is read back**, from the least signed to the greatest unsigned one. -/
theorem readsScalar_int {n : Int} (hn : Fits n) : ReadsScalar (chars (.int n)) (.int n) := by
  obtain ⟨hlow, hhigh⟩ := hn
  rcases Int.lt_or_le n 0 with hneg | hnonneg
  · obtain ⟨m, rfl⟩ : ∃ m : Nat, n = -m := ⟨n.natAbs, by omega⟩
    exact readsScalar_neg (by omega) (by omega)
  · obtain ⟨m, rfl⟩ : ∃ m : Nat, n = m := ⟨n.toNat, by omega⟩
    exact readsScalar_natCast (by rw [maxSignificand_eq]; omega)

end Json.Cursor

end HostedScripts
