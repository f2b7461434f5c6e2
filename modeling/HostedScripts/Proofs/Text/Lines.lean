import HostedScripts.Text.Lines
import Mathlib.Data.List.Basic
import Mathlib.Tactic.SplitIfs

/-! # Putting lines together and taking them apart

A line that has no line feed and does not end with a carriage return is *whole* (`IsWhole`). Whole lines can be
put together with line feeds, or with carriage returns and line feeds, and taken apart again. Only an empty last
line is lost: a text that ends with a terminator has no further line.

* `linesFrom_terminated`: a line and its terminator are taken off the front of a text.
* `lines_intercalate`: whole lines that were put together are the lines of the text.
* `linesFrom_eq_nil_iff`, `newline_notMem_linesFrom`: only the empty text has no line, and no line of any text
  has a line feed. -/

namespace HostedScripts.Text

/-- A line that has no line feed and does not end with a carriage return. -/
def IsWhole (line : String) : Prop := '\n' ∉ line.toList ∧ line.toList.getLast? ≠ some '\r'

/-- What may stand between two lines. -/
def terminators : List String := ["\n", "\r\n"]

/-! ### One line -/

theorem linesFrom_nil (current : List Char) :
    linesFrom current [] = if current.isEmpty then [] else [String.ofList current.reverse] := rfl

theorem linesFrom_newline (current rest : List Char) :
    linesFrom current ('\n' :: rest) = closeLine current :: linesFrom [] rest := rfl

theorem linesFrom_cons {c : Char} (hc : c ≠ '\n') (current rest : List Char) :
    linesFrom current (c :: rest) = linesFrom (c :: current) rest :=
  linesFrom.eq_3 current c rest hc

theorem linesFrom_append {line : List Char} (h : '\n' ∉ line) (current rest : List Char) :
    linesFrom current (line ++ rest) = linesFrom (line.reverse ++ current) rest := by
  induction line generalizing current with
  | nil => rfl
  | cons c line ih =>
    have hc : c ≠ '\n' := fun heq => h (heq ▸ List.mem_cons_self)
    have hline : '\n' ∉ line := fun hmem => h (List.mem_cons_of_mem _ hmem)
    rw [List.cons_append, linesFrom_cons hc, ih hline, List.reverse_cons, List.append_assoc]
    rfl

theorem closeLine_of_ne {line : List Char} (h : line.head? ≠ some '\r') :
    closeLine line = String.ofList line.reverse := by
  unfold closeLine
  split
  · exact absurd rfl h
  · rfl

/-- A whole line and its terminator are taken off the front of a text. -/
theorem linesFrom_terminated {line : String} (h : IsWhole line) {terminator : String}
    (ht : terminator ∈ terminators) (rest : List Char) :
    linesFrom [] (line.toList ++ terminator.toList ++ rest) = line :: linesFrom [] rest := by
  obtain ⟨hfree, hlast⟩ := h
  rw [List.append_assoc, linesFrom_append hfree, List.append_nil]
  rcases List.mem_pair.mp ht with rfl | rfl
  · have hhead : line.toList.reverse.head? ≠ some '\r' := by rwa [List.head?_reverse]
    show linesFrom _ ('\n' :: rest) = _
    rw [linesFrom_newline, closeLine_of_ne hhead, List.reverse_reverse, String.ofList_toList]
  · have hreturn : '\r' ≠ '\n' := by decide
    show linesFrom _ ('\r' :: '\n' :: rest) = _
    rw [linesFrom_cons hreturn, linesFrom_newline, closeLine, List.reverse_reverse, String.ofList_toList]

theorem linesFrom_last {line : String} (h : '\n' ∉ line.toList) :
    linesFrom [] line.toList = if line = "" then [] else [line] := by
  have hread := linesFrom_append h [] []
  rw [List.append_nil, List.append_nil, linesFrom_nil, List.reverse_reverse, String.ofList_toList] at hread
  rw [hread]
  simp

/-! ### All lines -/

/-- Whole lines that were put together are the lines of the text, but for an empty last one. -/
theorem lines_intercalate {terminator : String} (ht : terminator ∈ terminators) {parts : List String}
    (h : ∀ part ∈ parts, IsWhole part) :
    lines (terminator.intercalate parts) =
      if parts.getLast? = some "" then parts.dropLast else parts := by
  unfold lines
  induction parts with
  | nil => rfl
  | cons part parts ih =>
    obtain ⟨hpart, hparts⟩ := List.forall_mem_cons.mp h
    cases parts with
    | nil =>
      rw [String.intercalate_singleton, linesFrom_last hpart.1]
      simp
    | cons next parts =>
      rw [String.intercalate_cons_cons, String.toList_append, String.toList_append,
        linesFrom_terminated hpart ht, ih hparts, List.getLast?_cons_cons, List.dropLast_cons_cons]
      split_ifs <;> rfl

theorem newline_notMem_closeLine {line : List Char} (h : '\n' ∉ line) : '\n' ∉ (closeLine line).toList := by
  unfold closeLine
  split
  · next before => simpa using fun hmem => h (List.mem_cons_of_mem _ hmem)
  · simpa using h

/-- **Only the empty text has no line.** -/
theorem linesFrom_eq_nil_iff (rest current : List Char) :
    linesFrom current rest = [] ↔ current = [] ∧ rest = [] := by
  fun_induction linesFrom current rest with
  | case1 current hempty => simpa using hempty
  | case2 current hempty => simpa using hempty
  | case3 current rest ih => simp
  | case4 current c rest hne ih => simp [ih]

/-- **No line has a line feed.** -/
theorem newline_notMem_linesFrom (rest current : List Char) (hcurrent : '\n' ∉ current) :
    ∀ line ∈ linesFrom current rest, '\n' ∉ line.toList := by
  fun_induction linesFrom current rest with
  | case1 current hempty => nofun
  | case2 current hempty => simpa using hcurrent
  | case3 current rest ih =>
    intro line hline
    rcases List.mem_cons.mp hline with rfl | hline
    · exact newline_notMem_closeLine hcurrent
    · exact ih List.not_mem_nil line hline
  | case4 current c rest hne ih =>
    refine ih ?_
    rw [List.mem_cons]
    rintro (h | h)
    · exact hne h.symm
    · exact hcurrent h

end HostedScripts.Text
