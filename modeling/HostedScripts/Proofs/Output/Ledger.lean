import HostedScripts.Proofs.Output.Lines
import Mathlib.Data.List.Infix

/-! # Consoles without slots

A `Ledger` is a map from commands to consoles, beside all consoles that were ever made with the lines that
came to them. There are no slots, handles and generations in it. Four things can happen to it
(`Ledger.Change`): the console of a command is asked for, a console is released, lines come to a console,
or nothing.

* `Ledger.answer_run_eq_iff`: who asks for a command again gets the same console, unless it was released
  in the meantime.
* `Ledger.exists_console?_run`: what a console was made with stays, and its lines stay at the front. -/

namespace HostedScripts.Output

/-- The consoles of the commands, and all consoles ever made. -/
structure Ledger where
  listed : String → Option Nat
  made : List Console

namespace Ledger

/-- Something that happens to a ledger. -/
inductive Change where
  | ask (spec : ConsoleSpec)
  | release (n : Nat)
  | append (n : Nat) (lines : List ConsoleLine)
  | idle

namespace Change

/-- The release of a console, if there is one to be released. -/
def ofReleased : Option Nat → Change
  | some n => release n
  | none => idle

theorem ofReleased_eq_release_iff {o : Option Nat} {n : Nat} :
    ofReleased o = release n ↔ o = some n := by
  cases o <;> simp [ofReleased]

theorem ofReleased_ne_ask {o : Option Nat} {spec : ConsoleSpec} : ofReleased o ≠ ask spec := by
  cases o <;> simp [ofReleased]

theorem ofReleased_ne_append {o : Option Nat} {n : Nat} {lines : List ConsoleLine} :
    ofReleased o ≠ append n lines := by
  cases o <;> simp [ofReleased]

end Change

/-- The console with a number. -/
def console? (l : Ledger) : Nat → Option Console
  | 0 => none
  | i + 1 => l.made[i]?

/-- The number of the console that is given to who asks for a command: a new one if there is none. -/
def answer (l : Ledger) (id : String) : Nat := (l.listed id).getD (l.made.length + 1)

/-- The console with some lines added. -/
def extended (lines : List ConsoleLine) (c : Console) : Console := { c with lines := c.lines ++ lines }

/-- The ledger after a change. -/
def step (l : Ledger) : Change → Ledger
  | .ask spec =>
    match l.listed spec.outputId with
    | some _ => l
    | none =>
      { listed := fun id => if id = spec.outputId then some (l.made.length + 1) else l.listed id
        made := l.made ++ [⟨spec, []⟩] }
  | .release n => { l with listed := fun id => (l.listed id).filter (· ≠ n) }
  | .append 0 _ => l
  | .append (i + 1) lines => { l with made := l.made.modify i (extended lines) }
  | .idle => l

/-- The ledger after some changes. -/
def run (l : Ledger) (changes : List Change) : Ledger := changes.foldl step l

variable {l : Ledger} {n : Nat} {id : String} {c : Console}

/-! ### Asking again -/

theorem step_ask_of_listed {spec : ConsoleSpec} (h : l.listed spec.outputId = some n) :
    l.step (.ask spec) = l := by
  simp only [step, h]

theorem length_made_step (l : Ledger) (change : Change) :
    l.made.length ≤ (l.step change).made.length := by
  cases change with
  | ask spec =>
    unfold step
    dsimp only
    split
    · exact le_rfl
    · simp
  | append n lines => cases n <;> simp [step]
  | release n => exact le_rfl
  | idle => exact le_rfl

/-- A command keeps its console until that is released. -/
theorem listed_step (h : l.listed id = some n) {change : Change} (hc : change ≠ .release n) :
    (l.step change).listed id = some n := by
  cases change with
  | ask spec =>
    unfold step
    dsimp only
    split
    · exact h
    · next hnone =>
      have hne : id ≠ spec.outputId := by
        rintro rfl
        rw [hnone] at h
        cases h
      simpa [hne] using h
  | release m =>
    have hne : n ≠ m := by
      rintro rfl
      exact hc rfl
    simp [step, h, hne]
  | append m lines => cases m <;> exact h
  | idle => exact h

theorem listed_step_ask_ne_none_iff (l : Ledger) (spec : ConsoleSpec) :
    (l.step (.ask spec)).listed id ≠ none ↔ id = spec.outputId ∨ l.listed id ≠ none := by
  cases h : l.listed spec.outputId with
  | some n =>
    rw [step_ask_of_listed h]
    refine ⟨Or.inr, ?_⟩
    rintro (rfl | hid)
    · rw [h]
      exact Option.some_ne_none n
    · exact hid
  | none =>
    simp only [step, h]
    split_ifs with hid
    · simp [hid]
    · simp [hid]

theorem listed_step_ne_none_iff {change : Change} (hc : ∀ spec, change ≠ .ask spec) :
    (l.step change).listed id ≠ none ↔
      l.listed id ≠ none ∧ ¬ ∃ n, change = .release n ∧ l.listed id = some n := by
  cases change with
  | ask spec => exact absurd rfl (hc spec)
  | release n =>
    cases hid : l.listed id with
    | none => simp [step, hid]
    | some m =>
      by_cases hm : m = n
      · simp [step, hid, hm]
      · simp [step, hid, hm]
  | append m lines => cases m <;> simp [step]
  | idle => simp [step]

theorem not_listed_step (h : ∀ id, l.listed id ≠ some n) (hn : n ≤ l.made.length) (change : Change) :
    ∀ id, (l.step change).listed id ≠ some n := by
  intro id
  cases change with
  | ask spec =>
    unfold step
    dsimp only
    split
    · exact h id
    · dsimp only
      split_ifs
      · rw [ne_eq, Option.some.injEq]
        omega
      · exact h id
  | release m =>
    intro hm
    exact h id (Option.filter_eq_some_iff.mp hm).1
  | append m lines => cases m <;> exact h id
  | idle => exact h id

theorem not_listed_release (l : Ledger) (n : Nat) (id : String) :
    (l.step (.release n)).listed id ≠ some n := by
  intro h
  simpa using (Option.filter_eq_some_iff.mp h).2

theorem not_listed_run (h : ∀ id, l.listed id ≠ some n) (hn : n ≤ l.made.length)
    (changes : List Change) :
    (∀ id, (l.run changes).listed id ≠ some n) ∧ n ≤ (l.run changes).made.length := by
  induction changes generalizing l with
  | nil => exact ⟨h, hn⟩
  | cons change changes ih =>
    exact ih (not_listed_step h hn change) (hn.trans (length_made_step l change))

theorem answer_of_listed (h : l.listed id = some n) : l.answer id = n := by simp [answer, h]

theorem answer_ne (h : ∀ id, l.listed id ≠ some n) (hn : n ≤ l.made.length) (id : String) :
    l.answer id ≠ n := by
  unfold answer
  cases hid : l.listed id with
  | none =>
    rw [Option.getD_none]
    omega
  | some m =>
    rintro rfl
    exact h id hid

/-- **Who asks again gets the same console, unless it was released in the meantime.** -/
theorem answer_run_eq_iff (h : l.listed id = some n) (hn : n ≤ l.made.length)
    (changes : List Change) : (l.run changes).answer id = n ↔ Change.release n ∉ changes := by
  induction changes generalizing l with
  | nil => simp [run, answer_of_listed h]
  | cons change changes ih =>
    have hlen := hn.trans (length_made_step l change)
    by_cases hc : change = .release n
    · -- from here on no command has the console
      subst hc
      obtain ⟨hgone, hle⟩ := not_listed_run (not_listed_release l n) hlen changes
      exact iff_of_false (answer_ne hgone hle id) fun hmem => hmem List.mem_cons_self
    · have hrest := ih (listed_step h hc) hlen
      rw [List.mem_cons, not_or, ← hrest]
      exact ⟨fun heq => ⟨Ne.symm hc, heq⟩, fun heq => heq.2⟩

/-! ### What consoles hold -/

/-- A console with more lines perhaps, and otherwise the same. -/
def Grows (c c' : Console) : Prop := c'.spec = c.spec ∧ c.lines <+: c'.lines

theorem Grows.refl (c : Console) : Grows c c := ⟨rfl, List.prefix_rfl⟩

theorem Grows.trans {c' c'' : Console} (h : Grows c c') (h' : Grows c' c'') : Grows c c'' :=
  ⟨h'.1.trans h.1, h.2.trans h'.2⟩

theorem grows_extended (lines : List ConsoleLine) (c : Console) : Grows c (extended lines c) :=
  ⟨rfl, List.prefix_append _ _⟩

theorem console?_append (l : Ledger) (m : Nat) (lines : List ConsoleLine) (n : Nat) :
    (l.step (.append m lines)).console? n =
      if n = m then (l.console? n).map (extended lines) else l.console? n := by
  cases n with
  | zero => cases m <;> simp [console?]
  | succ i =>
    cases m with
    | zero => simp [step, console?]
    | succ j =>
      simp only [step, console?, List.getElem?_modify, Nat.add_right_cancel_iff, eq_comm (a := i)]
      split_ifs <;> simp

theorem exists_console?_step (h : l.console? n = some c) (change : Change) :
    ∃ c', (l.step change).console? n = some c' ∧ Grows c c' := by
  cases change with
  | ask spec =>
    cases n with
    | zero => cases h
    | succ i =>
      unfold step
      dsimp only
      split
      · exact ⟨c, h, .refl c⟩
      · have hi : i < l.made.length := (List.getElem?_eq_some_iff.mp h).1
        refine ⟨c, ?_, .refl c⟩
        exact (List.getElem?_append_left hi).trans h
  | append m lines =>
    rw [console?_append, h]
    split_ifs
    · exact ⟨_, rfl, grows_extended lines c⟩
    · exact ⟨c, rfl, .refl c⟩
  | release m => exact ⟨c, h, .refl c⟩
  | idle => exact ⟨c, h, .refl c⟩

theorem console?_step (hn : n ≤ l.made.length) {change : Change}
    (hc : ∀ lines, change ≠ .append n lines) : (l.step change).console? n = l.console? n := by
  cases change with
  | ask spec =>
    unfold step
    dsimp only
    split
    · rfl
    · cases n with
      | zero => rfl
      | succ i => exact List.getElem?_append_left hn
  | append m lines =>
    rw [console?_append, if_neg]
    rintro rfl
    exact hc lines rfl
  | release m => rfl
  | idle => rfl

/-- **What a console was made with stays, and so do its lines.** -/
theorem exists_console?_run (h : l.console? n = some c) (changes : List Change) :
    ∃ c', (l.run changes).console? n = some c' ∧ Grows c c' := by
  induction changes generalizing l c with
  | nil => exact ⟨c, h, .refl c⟩
  | cons change changes ih =>
    obtain ⟨c', hc', hgrows⟩ := exists_console?_step h change
    obtain ⟨c'', hc'', hgrows'⟩ := ih hc'
    exact ⟨c'', hc'', hgrows.trans hgrows'⟩

end Ledger

end HostedScripts.Output
