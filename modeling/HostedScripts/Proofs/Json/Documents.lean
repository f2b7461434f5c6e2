import HostedScripts.Proofs.Json.Scalars

/-! # Reading back what was written: documents

The compact text of a document is read back as the document, if the document is *plain* (`Json.Plain`): there
are no doubles in it, its integers fit 64 bits, and it is not deeper than the reader allows. A document in
an array or an object is followed by a comma or a closing bracket, which ends any number
(`Cursor.Ends`), and starts with no blank and no closing bracket (`Cursor.Opens`); so each round of the loops
over elements and members reads one of them (`elementsFrom_tail`, `membersFrom_tail`). The proof of
`Cursor.value_chars` is by induction on the document, whose depth pays for the brackets, and `parse_render`
is the whole text. -/

namespace HostedScripts.Json

/-- A document without doubles whose integers fit 64 bits, with no more brackets inside each other than a
number. -/
inductive Plain : Nat → Json → Prop
  | null (depth : Nat) : Plain depth .null
  | bool (depth : Nat) (b : Bool) : Plain depth (.bool b)
  | int (depth : Nat) {n : Int} (hn : Cursor.Fits n) : Plain depth (.int n)
  | string (depth : Nat) (s : String) : Plain depth (.string s)
  | array {depth : Nat} {es : List Json} (h : ∀ e ∈ es, Plain depth e) : Plain (depth + 1) (.array es)
  | object {depth : Nat} {ms : List (String × Json)} (h : ∀ m ∈ ms, Plain depth m.2) :
    Plain (depth + 1) (.object ms)

/-- The text of a member. -/
def memberText (m : String × Json) : List Char := quoteChars m.1.toList ++ ':' :: chars m.2

theorem elementChars_cons (e : Json) (es : List Json) :
    elementChars (e :: es) = chars e ++ es.flatMap fun e => ',' :: chars e := by
  induction es generalizing e with
  | nil => simp [elementChars]
  | cons e' es ih => rw [elementChars, ih, List.flatMap_cons, List.cons_append]; simp

theorem memberChars_cons (m : String × Json) (ms : List (String × Json)) :
    memberChars (m :: ms) = memberText m ++ ms.flatMap fun m => ',' :: memberText m := by
  induction ms generalizing m with
  | nil => simp [memberChars, memberText]
  | cons m' ms ih =>
    rw [memberChars, ih, List.flatMap_cons, List.cons_append]
    · simp [memberText]
    · simp

namespace Cursor

variable {item : Cursor → Except Fault (Json × Cursor)} {text rest : List Char}

/-- A document is read from a text, whatever can follow it. -/
def Reads (read : Cursor → Except Fault (Json × Cursor)) (text : List Char) (j : Json) : Prop :=
  ∀ rest off, Ends rest → ∃ off', read ⟨text ++ rest, off⟩ = .ok (j, ⟨rest, off'⟩)

/-- A text that starts like a document. -/
def Opens (text : List Char) : Prop :=
  ∃ a more, text = a :: more ∧ isSpace a = false ∧ a ≠ ']'

/-! ### Arrays -/

theorem skipSpace_of_not_isSpace {a : Char} (h : isSpace a = false) (rest : List Char) (off : Nat) :
    skipSpace ⟨a :: rest, off⟩ = ⟨a :: rest, off⟩ := by
  simp [skipSpace, h]

theorem elementAhead_first (h : Opens text) (off : Nat) :
    elementAhead true ⟨text ++ rest, off⟩ = .ok (true, ⟨text ++ rest, off⟩) := by
  obtain ⟨a, more, rfl, hspace, hclose⟩ := h
  rw [List.cons_append]
  unfold elementAhead
  rw [skipSpace_of_not_isSpace hspace]
  dsimp only
  split
  · next heq => cases heq
  · next heq => exact absurd (List.cons.inj heq).1 hclose
  · rfl

theorem elementAhead_comma (h : Opens text) (off : Nat) :
    elementAhead false ⟨',' :: (text ++ rest), off⟩ = .ok (true, ⟨text ++ rest, off + 1⟩) := by
  obtain ⟨a, more, rfl, hspace, hclose⟩ := h
  rw [List.cons_append]
  have hnext : skipSpace (next ⟨',' :: a :: (more ++ rest), off⟩) = ⟨a :: (more ++ rest), off + 1⟩ :=
    skipSpace_of_not_isSpace hspace _ _
  unfold elementAhead
  rw [skipSpace_of_not_isSpace rfl]
  dsimp only
  split
  · next heq => cases heq
  · next heq => exact absurd (List.cons.inj heq).1 (by decide)
  · next heq =>
    obtain ⟨rfl, rfl⟩ := List.cons.inj heq
    simp only [Bool.false_eq_true, if_false, beq_self_eq_true, if_true, hnext]
    split
    · next heq => cases heq
    · next heq => exact absurd (List.cons.inj heq).1 hclose
    · rfl

theorem ends_tail {α : Type} (text : α → List Char) (as : List α) {a : Char}
    (ha : a = ',' ∨ a = ']' ∨ a = '\x7d') (rest : List Char) :
    Ends ((as.flatMap fun a => ',' :: text a) ++ a :: rest) := by
  cases as with
  | nil => exact ends_cons ha rest
  | cons a as => exact ends_cons (Or.inl rfl) _

theorem elementsFrom_step {first : Bool} {c : Cursor} {e : Json} {off : Nat}
    (hahead : c.elementAhead first = .ok (true, ⟨chars e ++ rest, off⟩))
    (hreads : Reads item (chars e) e) (hrest : Ends rest) (fuel : Nat) (read : List Json) :
    ∃ off', elementsFrom item (fuel + 1) first read c =
      elementsFrom item fuel false (e :: read) ⟨rest, off'⟩ := by
  obtain ⟨off', hitem⟩ := hreads rest off hrest
  refine ⟨off', ?_⟩
  rw [elementsFrom, hahead]
  dsimp only
  rw [hitem]

theorem elementsFrom_tail (es : List Json)
    (h : ∀ e ∈ es, Reads item (chars e) e ∧ Opens (chars e)) (fuel : Nat) (hfuel : es.length < fuel)
    (read : List Json) (rest : List Char) (off : Nat) :
    ∃ off', elementsFrom item fuel false read
      ⟨(es.flatMap fun e => ',' :: chars e) ++ ']' :: rest, off⟩ =
        .ok (read.reverse ++ es, ⟨rest, off'⟩) := by
  induction es generalizing fuel read off with
  | nil =>
    obtain ⟨fuel, rfl⟩ := Nat.exists_eq_succ_of_ne_zero (Nat.ne_zero_of_lt hfuel)
    rw [List.append_nil]
    exact ⟨off + 1, rfl⟩
  | cons e es ih =>
    obtain ⟨fuel, rfl⟩ := Nat.exists_eq_succ_of_ne_zero (Nat.ne_zero_of_lt hfuel)
    obtain ⟨hreads, hopens⟩ := h e List.mem_cons_self
    obtain ⟨after, hstep⟩ := elementsFrom_step (elementAhead_comma hopens off) hreads
      (ends_tail chars es (Or.inr (Or.inl rfl)) rest) fuel read
    obtain ⟨off', hrest⟩ := ih (fun e' he' => h e' (List.mem_cons_of_mem e he')) fuel
      (Nat.lt_of_succ_lt_succ hfuel) (e :: read) after
    refine ⟨off', ?_⟩
    rw [List.flatMap_cons, List.cons_append, List.cons_append, List.append_assoc, hstep, hrest,
      List.reverse_cons, List.append_assoc]
    rfl

theorem length_le_length_flatMap {α : Type} (as : List α) (text : α → List Char) :
    as.length ≤ (as.flatMap fun a => ',' :: text a).length := by
  induction as with
  | nil => exact le_rfl
  | cons a as ih =>
    rw [List.flatMap_cons, List.length_append, List.length_cons, List.length_cons]
    omega

/-- The elements of an array are read back. -/
theorem elementsFrom_elementChars (es : List Json)
    (h : ∀ e ∈ es, Reads item (chars e) e ∧ Opens (chars e)) (fuel : Nat)
    (hfuel : (elementChars es).length < fuel) (rest : List Char) (off : Nat) :
    ∃ off', elementsFrom item fuel true [] ⟨elementChars es ++ ']' :: rest, off⟩ =
      .ok (es, ⟨rest, off'⟩) := by
  obtain ⟨fuel, rfl⟩ := Nat.exists_eq_succ_of_ne_zero (Nat.ne_zero_of_lt hfuel)
  cases es with
  | nil =>
    rw [elementChars]
    exact ⟨off + 1, rfl⟩
  | cons e es =>
    obtain ⟨hreads, hopens⟩ := h e List.mem_cons_self
    rw [elementChars_cons] at hfuel ⊢
    have hpos : 0 < (chars e).length := by
      obtain ⟨a, more, hchars, -⟩ := hopens
      rw [hchars]
      exact Nat.succ_pos _
    have hlen := length_le_length_flatMap es chars
    rw [List.length_append] at hfuel
    obtain ⟨after, hstep⟩ := elementsFrom_step (elementAhead_first hopens off) hreads
      (ends_tail chars es (Or.inr (Or.inl rfl)) rest) fuel []
    obtain ⟨off', hrest⟩ := elementsFrom_tail es (fun e' he' => h e' (List.mem_cons_of_mem e he'))
      fuel (by omega) [e] rest after
    refine ⟨off', ?_⟩
    rw [List.append_assoc, hstep, hrest]
    rfl

/-! ### Objects -/

theorem membersFrom_step {first : Bool} {c : Cursor} {m : String × Json} {off : Nat}
    (hahead : c.memberAhead first = .ok (true, ⟨memberText m ++ rest, off⟩))
    (hreads : Reads item (chars m.2) m.2) (hrest : Ends rest) (fuel : Nat)
    (read : List (String × Json)) :
    ∃ off', membersFrom item (fuel + 1) first read c =
      membersFrom item fuel false (m :: read) ⟨rest, off'⟩ := by
  obtain ⟨colonAt, hname⟩ := string_escaped m.1 (':' :: (chars m.2 ++ rest)) (off + 1)
  obtain ⟨off', hitem⟩ := hreads rest (colonAt + 1) hrest
  have hquoted : next ⟨memberText m ++ rest, off⟩ =
      ⟨m.1.toList.flatMap escapeChar ++ '"' :: ':' :: (chars m.2 ++ rest), off + 1⟩ := by
    have htext : memberText m ++ rest =
        '"' :: (m.1.toList.flatMap escapeChar ++ '"' :: ':' :: (chars m.2 ++ rest)) := by
      simp [memberText, quoteChars]
    rw [htext]
    rfl
  have hcolon : colon ⟨':' :: (chars m.2 ++ rest), colonAt⟩ = .ok ⟨chars m.2 ++ rest, colonAt + 1⟩ :=
    rfl
  refine ⟨off', ?_⟩
  rw [membersFrom, hahead]
  dsimp only
  rw [hquoted, hname]
  dsimp only
  rw [hcolon]
  dsimp only
  rw [hitem]

theorem memberAhead_first (m : String × Json) (rest : List Char) (off : Nat) :
    memberAhead true ⟨memberText m ++ rest, off⟩ = .ok (true, ⟨memberText m ++ rest, off⟩) := rfl

theorem memberAhead_comma (m : String × Json) (rest : List Char) (off : Nat) :
    memberAhead false ⟨',' :: (memberText m ++ rest), off⟩ =
      .ok (true, ⟨memberText m ++ rest, off + 1⟩) := rfl

theorem membersFrom_tail (ms : List (String × Json)) (h : ∀ m ∈ ms, Reads item (chars m.2) m.2)
    (fuel : Nat) (hfuel : ms.length < fuel) (read : List (String × Json)) (rest : List Char)
    (off : Nat) :
    ∃ off', membersFrom item fuel false read
      ⟨(ms.flatMap fun m => ',' :: memberText m) ++ '\x7d' :: rest, off⟩ =
        .ok (read.reverse ++ ms, ⟨rest, off'⟩) := by
  induction ms generalizing fuel read off with
  | nil =>
    obtain ⟨fuel, rfl⟩ := Nat.exists_eq_succ_of_ne_zero (Nat.ne_zero_of_lt hfuel)
    rw [List.append_nil]
    exact ⟨off + 1, rfl⟩
  | cons m ms ih =>
    obtain ⟨fuel, rfl⟩ := Nat.exists_eq_succ_of_ne_zero (Nat.ne_zero_of_lt hfuel)
    obtain ⟨after, hstep⟩ := membersFrom_step (memberAhead_comma m _ off) (h m List.mem_cons_self)
      (ends_tail memberText ms (Or.inr (Or.inr rfl)) rest) fuel read
    obtain ⟨off', hrest⟩ := ih (fun m' hm' => h m' (List.mem_cons_of_mem m hm')) fuel
      (Nat.lt_of_succ_lt_succ hfuel) (m :: read) after
    refine ⟨off', ?_⟩
    rw [List.flatMap_cons, List.cons_append, List.cons_append, List.append_assoc, hstep, hrest,
      List.reverse_cons, List.append_assoc]
    rfl

/-- The members of an object are read back. -/
theorem membersFrom_memberChars (ms : List (String × Json))
    (h : ∀ m ∈ ms, Reads item (chars m.2) m.2) (fuel : Nat) (hfuel : (memberChars ms).length < fuel)
    (rest : List Char) (off : Nat) :
    ∃ off', membersFrom item fuel true [] ⟨memberChars ms ++ '\x7d' :: rest, off⟩ =
      .ok (ms, ⟨rest, off'⟩) := by
  obtain ⟨fuel, rfl⟩ := Nat.exists_eq_succ_of_ne_zero (Nat.ne_zero_of_lt hfuel)
  cases ms with
  | nil =>
    rw [memberChars]
    exact ⟨off + 1, rfl⟩
  | cons m ms =>
    rw [memberChars_cons] at hfuel ⊢
    have hpos : 0 < (memberText m).length := Nat.succ_pos _
    have hlen := length_le_length_flatMap ms memberText
    rw [List.length_append] at hfuel
    obtain ⟨after, hstep⟩ := membersFrom_step (memberAhead_first m _ off) (h m List.mem_cons_self)
      (ends_tail memberText ms (Or.inr (Or.inr rfl)) rest) fuel []
    obtain ⟨off', hrest⟩ := membersFrom_tail ms (fun m' hm' => h m' (List.mem_cons_of_mem m hm'))
      fuel (by omega) [m] rest after
    refine ⟨off', ?_⟩
    rw [List.append_assoc, hstep, hrest]
    rfl

/-! ### Documents -/

theorem opens_of_isDigit {a : Char} (ha : Text.isDigit a = true) (more : List Char) :
    Opens (a :: more) := by
  refine ⟨a, more, rfl, ?_, ?_⟩
  · by_contra hspace
    simp only [isSpace, Bool.not_eq_false, Bool.or_eq_true, beq_iff_eq] at hspace
    rcases hspace with ((rfl | rfl) | rfl) | rfl
    all_goals cases ha
  · rintro rfl
    cases ha

theorem opens_int (n : Int) : Opens (chars (.int n)) := by
  rcases Int.lt_or_le n 0 with hneg | hnonneg
  · obtain ⟨m, rfl⟩ : ∃ m : Nat, n = -m := ⟨n.natAbs, by omega⟩
    rw [chars_int_neg (by omega)]
    exact ⟨'-', _, rfl, rfl, by decide⟩
  · obtain ⟨m, rfl⟩ : ∃ m : Nat, n = m := ⟨n.toNat, by omega⟩
    obtain ⟨a, digits, hdigits, ha, -⟩ := exists_toDigits m
    rw [chars_int_natCast, hdigits]
    exact opens_of_isDigit ha digits

theorem opens_chars {depth : Nat} {j : Json} (h : Plain depth j) : Opens (chars j) := by
  cases h with
  | null => rw [chars]; exact ⟨'n', _, rfl, rfl, by decide⟩
  | bool _ b =>
    cases b with
    | true => rw [chars]; exact ⟨'t', _, rfl, rfl, by decide⟩
    | false => rw [chars]; exact ⟨'f', _, rfl, rfl, by decide⟩
  | int => exact opens_int _
  | string => rw [chars]; exact ⟨'"', _, rfl, rfl, by decide⟩
  | array => rw [chars]; exact ⟨'[', _, rfl, rfl, by decide⟩
  | object => rw [chars]; exact ⟨'\x7b', _, rfl, rfl, by decide⟩

attribute [local simp] value

theorem reads_of_readsScalar {j : Json} (hopens : Opens text) (h : ReadsScalar text j) (depth : Nat) :
    Reads (value (depth + 1)) text j := fun rest off hrest => by
  obtain ⟨off', hscalar⟩ := h rest off hrest
  obtain ⟨a, more, rfl, hspace, -⟩ := hopens
  refine ⟨off', ?_⟩
  rw [List.cons_append] at hscalar ⊢
  rw [value, skipSpace_of_not_isSpace hspace]
  dsimp only
  rw [hscalar]

theorem value_array (depth : Nat) (rest : List Char) (off : Nat) :
    value (depth + 2) ⟨'[' :: rest, off⟩ =
      (elementsFrom (value (depth + 1)) (rest.length + 2) true [] ⟨rest, off + 1⟩).map
        fun (es, c) => (.array es, c) := by
  have hscalar : scalar? ⟨'[' :: rest, off⟩ = none := rfl
  rw [value, skipSpace_of_not_isSpace rfl]
  dsimp only
  rw [hscalar]
  exact if_neg (Nat.succ_ne_zero depth)

theorem value_object (depth : Nat) (rest : List Char) (off : Nat) :
    value (depth + 2) ⟨'\x7b' :: rest, off⟩ =
      (membersFrom (value (depth + 1)) (rest.length + 2) true [] ⟨rest, off + 1⟩).map
        fun (ms, c) => (.object ms, c) := by
  have hscalar : scalar? ⟨'\x7b' :: rest, off⟩ = none := rfl
  rw [value, skipSpace_of_not_isSpace rfl]
  dsimp only
  rw [hscalar]
  exact if_neg (Nat.succ_ne_zero depth)

/-- A plain document is read back, if the reader allows one bracket more than there are. -/
theorem value_chars {depth : Nat} {j : Json} (h : Plain depth j) :
    Reads (value (depth + 1)) (chars j) j := by
  induction h with
  | null depth => exact reads_of_readsScalar (opens_chars (.null depth)) readsScalar_null depth
  | bool depth b => exact reads_of_readsScalar (opens_chars (.bool depth b)) (readsScalar_bool b) depth
  | int depth hn => exact reads_of_readsScalar (opens_chars (.int depth hn)) (readsScalar_int hn) depth
  | string depth s =>
    exact reads_of_readsScalar (opens_chars (.string depth s)) (readsScalar_string s) depth
  | @array depth es hes ih =>
    intro rest off hrest
    have htext : chars (.array es) ++ rest = '[' :: (elementChars es ++ ']' :: rest) := by
      rw [chars]
      simp
    obtain ⟨off', hread⟩ := elementsFrom_elementChars es
      (fun e he => ⟨ih e he, opens_chars (hes e he)⟩) ((elementChars es ++ ']' :: rest).length + 2)
      (by rw [List.length_append]; omega) rest (off + 1)
    refine ⟨off', ?_⟩
    rw [htext, value_array, hread]
    rfl
  | @object depth ms hms ih =>
    intro rest off hrest
    have htext : chars (.object ms) ++ rest = '\x7b' :: (memberChars ms ++ '\x7d' :: rest) := by
      rw [chars]
      simp
    obtain ⟨off', hread⟩ := membersFrom_memberChars ms ih
      ((memberChars ms ++ '\x7d' :: rest).length + 2) (by rw [List.length_append]; omega) rest (off + 1)
    refine ⟨off', ?_⟩
    rw [htext, value_object, hread]
    rfl

end Cursor

/-- **What is written is read back**: the compact text of a plain document with at most 127 brackets inside
each other holds that document. -/
theorem parse_render {j : Json} (h : Plain 127 j) : parse j.render = .ok j := by
  obtain ⟨off', hread⟩ := Cursor.value_chars h [] 0 Cursor.ends_nil
  have hstart : Cursor.start j.render = ⟨chars j ++ [], 0⟩ := by
    unfold Cursor.start render
    rw [String.toList_ofList, List.append_nil]
  unfold parse
  rw [hstart]
  show (Cursor.value 128 ⟨chars j ++ [], 0⟩).bind _ = _
  rw [hread]
  rfl

/-! ### Lines -/

theorem newline_notMem_escapeChar (a : Char) : '\n' ∉ escapeChar a := by
  have hdigits : '\n' ∉ Text.hexDigits 4 a.toNat := Text.notMem_hexDigits (by decide) 4 _
  unfold escapeChar
  split_ifs with hquote hslash hcontrol
  · decide
  · decide
  · split
    · decide
    · decide
    · decide
    · decide
    · decide
    · simp [hdigits]
  · rw [List.mem_singleton]
    rintro rfl
    exact hcontrol (by decide)

theorem newline_notMem_quoteChars (cs : List Char) : '\n' ∉ quoteChars cs := by
  simp [quoteChars, newline_notMem_escapeChar]

theorem newline_notMem_flatMap {α : Type} {text : α → List Char} {as : List α}
    (h : ∀ a ∈ as, '\n' ∉ text a) : '\n' ∉ as.flatMap fun a => ',' :: text a := by
  rw [List.mem_flatMap]
  rintro ⟨a, ha, hin⟩
  rcases List.mem_cons.mp hin with hcomma | hin
  · exact absurd hcomma (by decide)
  · exact h a ha hin

/-- **A plain document is written on one line.** -/
theorem newline_notMem_chars {depth : Nat} {j : Json} (h : Plain depth j) : '\n' ∉ chars j := by
  have hdigits : ∀ m : Nat, '\n' ∉ Nat.toDigits 10 m := fun m hm =>
    absurd (Cursor.isDigit_of_mem_toDigits _ hm) (by decide)
  induction h with
  | null => decide
  | bool depth b => cases b <;> decide
  | @int depth n hn =>
    rcases Int.lt_or_le n 0 with hneg | hnonneg
    · obtain ⟨m, rfl⟩ : ∃ m : Nat, n = -m := ⟨n.natAbs, by omega⟩
      rw [Cursor.chars_int_neg (by omega), List.mem_cons]
      rintro (h | h)
      · exact absurd h (by decide)
      · exact hdigits m h
    · obtain ⟨m, rfl⟩ : ∃ m : Nat, n = m := ⟨n.toNat, by omega⟩
      rw [Cursor.chars_int_natCast]
      exact hdigits m
  | string depth s =>
    rw [chars]
    exact newline_notMem_quoteChars _
  | @array depth es hes ih =>
    rw [chars]
    cases es with
    | nil => decide
    | cons e es =>
      have htail := newline_notMem_flatMap fun e' he' => ih e' (List.mem_cons_of_mem e he')
      simp [elementChars_cons, ih e List.mem_cons_self, htail]
  | @object depth ms hms ih =>
    have hmember : ∀ m ∈ ms, '\n' ∉ memberText m := fun m hm => by
      simp [memberText, newline_notMem_quoteChars, ih m hm]
    rw [chars]
    cases ms with
    | nil => decide
    | cons m ms =>
      have htail := newline_notMem_flatMap fun m' hm' => hmember m' (List.mem_cons_of_mem m hm')
      simp [memberChars_cons, hmember m List.mem_cons_self, htail]

end HostedScripts.Json
