import HostedScripts.Proofs.Output.Lines
import HostedScripts.Proofs.Text.Lines

/-! # What a text adds to a console

A text that is written to a stream becomes lines of the console that the stream feeds, one for each line of the
text (`Console.linesOf`); an empty text is one empty line. A console that is there *gains* these lines behind
those that it has, and nothing else of the registry changes (`Registry.Gains`).

* `Console.linesOf_ne_nil`, `Console.newline_notMem_linesOf`: a text becomes at least one line, and none has a
  line feed.
* `Console.linesOf_intercalate`: whole lines that were put together become these lines again.
* `Registry.gains_write`: what is written to a stream is gained by its console. -/

namespace HostedScripts.Output

/-! ### The lines that a text becomes -/

namespace Console

theorem linesOf_of_ne {text : String} (h : text ≠ "") : linesOf text = Text.lines text := if_neg h

/-- A text becomes at least one line. -/
theorem linesOf_ne_nil (text : String) : linesOf text ≠ [] := by
  by_cases hempty : text = ""
  · subst hempty
    exact List.cons_ne_nil _ _
  · rw [linesOf_of_ne hempty]
    intro hnone
    obtain ⟨-, htext⟩ := (Text.linesFrom_eq_nil_iff text.toList []).mp hnone
    exact hempty (String.toList_eq_nil_iff.mp htext)

/-- No line that a text becomes has a line feed. -/
theorem newline_notMem_linesOf (text : String) : ∀ line ∈ linesOf text, '\n' ∉ line.toList := by
  unfold linesOf
  split_ifs with hempty
  · decide
  · exact Text.newline_notMem_linesFrom text.toList [] List.not_mem_nil

/-- **Whole lines that were put together become these lines again**, but for an empty one that stands last
behind others. -/
theorem linesOf_intercalate {terminator : String} (ht : terminator ∈ Text.terminators) {parts : List String}
    (hne : parts ≠ []) (h : ∀ part ∈ parts, Text.IsWhole part) :
    linesOf (terminator.intercalate parts) =
      if 2 ≤ parts.length ∧ parts.getLast? = some "" then parts.dropLast else parts := by
  have hlines := Text.lines_intercalate ht h
  rcases parts with _ | ⟨part, _ | ⟨next, parts⟩⟩
  · exact absurd rfl hne
  · rw [String.intercalate_singleton] at hlines ⊢
    rw [if_neg (by simp)]
    unfold linesOf
    split_ifs with hempty
    · rw [hempty]
    · rw [hlines, if_neg (by simpa using hempty)]
  · -- There is a terminator in the text, which therefore is not empty.
    have htext : terminator.intercalate (part :: next :: parts) ≠ "" := by
      rw [String.intercalate_cons_cons]
      intro hempty
      rcases List.mem_pair.mp ht with rfl | rfl <;> simp at hempty
    have htwo : 2 ≤ (part :: next :: parts).length := by simp
    rw [linesOf_of_ne htext, hlines]
    simp only [htwo, true_and]

end Console

/-! ### What a console gains -/

namespace Registry

/-- The console of a stream has some texts behind the lines that it had, as lines of the stream's run; nothing
else is changed. -/
structure Gains (r : Registry) (s : Stream) (texts : List String) (r' : Registry) : Prop where
  console : ∃ c, r.consoleAt? s.console = some c ∧
    r'.consoleAt? s.console = some { c with lines := c.lines ++ tagged s.execId texts }
  others : ∀ n ≠ s.console, r'.consoleAt? n = r.consoleAt? n
  rest : r' = { r with made := r'.made }

variable {r : Registry} {s : Stream} {stream : Nat}

theorem consoleAt?_modifyConsole_of_ne (r : Registry) {n m : Nat} (h : m ≠ n) (f : Console → Console) :
    (r.modifyConsole n f).consoleAt? m = r.consoleAt? m := by
  cases n with
  | zero => rfl
  | succ i =>
    cases m with
    | zero => rfl
    | succ j =>
      have hij : i ≠ j := fun heq => h (congrArg Nat.succ heq.symm)
      exact List.getElem?_modify_ne f r.made hij

theorem modifyConsole_eq (r : Registry) (n : Nat) (f : Console → Console) :
    r.modifyConsole n f = { r with made := (r.modifyConsole n f).made } := by
  cases n <;> rfl

/-- **What is written to a stream is gained by its console, line by line.** -/
theorem gains_write {c : Console} (hs : r.streamAt? stream = some s) (hthere : r.isThere s.console = true)
    (hc : r.consoleAt? s.console = some c) (text : String) :
    r.Gains s (Console.linesOf text) (r.write stream text).1 := by
  have hconsole : c.write s.execId text =
      { c with lines := c.lines ++ tagged s.execId (Console.linesOf text) } := by
    rw [← lines_write, ← spec_write c s.execId text]
  rw [write_of_isThere hs hthere]
  refine ⟨⟨c, hc, ?_⟩, fun n hn => consoleAt?_modifyConsole_of_ne r hn _, modifyConsole_eq r _ _⟩
  rw [consoleAt?_modifyConsole, hc, Option.map_some, hconsole]

theorem write_of_not_isThere (hs : r.streamAt? stream = some s) (hgone : r.isThere s.console = false)
    (text : String) : (r.write stream text).1 = r := by
  unfold write
  rw [hs]
  dsimp only
  rw [if_neg (Bool.eq_false_iff.mp hgone)]

/-- **Texts are written line by line.** While the console of a stream is there, it gains at least one line
from every text, and none has a line feed. It gains whole lines that were put together, one or more, as these
lines in their order; only an empty one that stands last behind others is lost. When the console is gone,
nothing changes. -/
theorem write_splits (hs : r.streamAt? stream = some s) :
    (∀ c, r.isThere s.console = true → r.consoleAt? s.console = some c →
      (∀ text, ∃ texts ≠ [], (∀ line ∈ texts, '\n' ∉ line.toList) ∧ r.Gains s texts (r.write stream text).1) ∧
      ∀ terminator ∈ Text.terminators, ∀ parts ≠ [], (∀ part ∈ parts, Text.IsWhole part) →
        r.Gains s (if 2 ≤ parts.length ∧ parts.getLast? = some "" then parts.dropLast else parts)
          (r.write stream (terminator.intercalate parts)).1) ∧
    (r.isThere s.console = false → ∀ text, (r.write stream text).1 = r) := by
  refine ⟨fun c hthere hc => ⟨fun text => ?_, fun terminator ht parts hne hwhole => ?_⟩,
    write_of_not_isThere hs⟩
  · exact ⟨_, Console.linesOf_ne_nil text, Console.newline_notMem_linesOf text, gains_write hs hthere hc text⟩
  · rw [← Console.linesOf_intercalate ht hne hwhole]
    exact gains_write hs hthere hc _

/-- A registry with one console, which has a line, and two streams; the console of the second one is gone. -/
def oneConsole : Registry :=
  { empty with
    made := [⟨⟨"Demo", "Demo", "", false⟩, [⟨"a", "first"⟩]⟩]
    opened := [⟨"b", 1⟩, ⟨"b", 2⟩]
    consoleHolders := [1] }

/-- A blank line in the middle is kept and the empty one at the end is lost; the stream without a console
writes nothing. -/
theorem write_splits_oneConsole :
    oneConsole.Gains ⟨"b", 1⟩ ["x", "", "y"] (oneConsole.write 0 "x\r\n\r\ny\r\n").1 ∧
      (oneConsole.write 1 "x\ny").1 = oneConsole := by
  have hwhole : ∀ part ∈ ["x", "", "y", ""], Text.IsWhole part := by
    unfold Text.IsWhole
    decide
  have hlive : oneConsole.streamAt? 0 = some ⟨"b", 1⟩ := rfl
  have hdead : oneConsole.streamAt? 1 = some ⟨"b", 2⟩ := rfl
  have hfirst := (write_splits hlive).1 _ (by decide) rfl
  have hsecond := (write_splits hdead).2 (by decide)
  exact ⟨hfirst.2 "\r\n" (by decide) ["x", "", "y", ""] (by decide) hwhole, hsecond "x\ny"⟩

end Registry

end HostedScripts.Output
