import HostedScripts.Proofs.Output.Registry

/-! # The lines of a command

What runs write for a command stands in its listed console, line by line (`Registry.commandLines`). A
stream *carries* to a command what is written to it (`Registry.Carries`) if the listed console of the
command is the one that it feeds.

* `Registry.commandLines_consoleFor`, `carries_streamFor`: who asks for the console of a command and for a
  stream to it changes no line, and gets a stream that carries.
* `Registry.Carries.write`: what is written to such a stream comes after the lines that there are.
* `Registry.output_eq`: the texts that a run is said to have written are those of the lines with its
  tag. -/

namespace HostedScripts.Output

/-- Some texts as the lines of a run. -/
def tagged (execId : String) (texts : List String) : List ConsoleLine := texts.map (⟨execId, ·⟩)

theorem tagged_append (execId : String) (texts texts' : List String) :
    tagged execId (texts ++ texts') = tagged execId texts ++ tagged execId texts' := List.map_append

theorem lines_write (c : Console) (execId text : String) :
    (c.write execId text).lines = c.lines ++ tagged execId (Console.linesOf text) := by
  unfold Console.write tagged
  generalize Console.linesOf text = texts
  induction texts generalizing c with
  | nil => exact (List.append_nil _).symm
  | cons line texts ih =>
    rw [List.foldl_cons, ih, Console.writeLine, List.append_assoc]
    rfl

namespace Registry

variable {r r' : Registry} {stream n : Nat} {execId outputId text : String}

/-- The lines in the listed console of a command. -/
def commandLines (r : Registry) (outputId : String) : List ConsoleLine :=
  (((r.findConsole? outputId).bind r.consoleAt?).map (·.lines)).getD []

theorem commandLines_eq {c : Console} (hn : r.findConsole? outputId = some n)
    (hc : r.consoleAt? n = some c) : r.commandLines outputId = c.lines := by
  unfold commandLines
  rw [hn, Option.bind_some, hc]
  rfl

theorem commandLines_congr (hcon : r'.consoles = r.consoles) (hid : r'.byOutputId = r.byOutputId)
    (hmade : r'.made = r.made) (outputId : String) :
    r'.commandLines outputId = r.commandLines outputId := by
  have hat : r'.consoleAt? = r.consoleAt? := by
    funext n
    unfold consoleAt?
    rw [hmade]
  unfold commandLines findConsole?
  rw [hat, hid, hcon]

theorem output_eq (r : Registry) (outputId execId : String) :
    ((r.findConsole? outputId).map fun n => r.linesFor n execId).getD [] =
      ((r.commandLines outputId).filter (·.execId = execId)).map (·.text) := by
  unfold commandLines linesFor
  cases r.findConsole? outputId with
  | none => rfl
  | some n =>
    rw [Option.map_some, Option.bind_some]
    cases r.consoleAt? n <;> rfl

/-! ### Asking for consoles -/

theorem exists_consoleAt? (h0 : 0 < n) (hn : n ≤ r.made.length) : ∃ c, r.consoleAt? n = some c := by
  obtain ⟨i, rfl⟩ := Nat.exists_eq_succ_of_ne_zero (by omega : n ≠ 0)
  exact ⟨r.made[i], List.getElem?_eq_getElem (by omega)⟩

theorem Sound.consoleAt?_of_findConsole? (hs : r.Sound) (hn : r.findConsole? outputId = some n) :
    ∃ c, r.consoleAt? n = some c := by
  obtain ⟨h, -, hget⟩ := Option.bind_eq_some_iff.mp hn
  obtain ⟨h0, hle⟩ := hs.console_made n (Arena.mem_entries_of_get? hget)
  exact exists_consoleAt? h0 hle

/-- **The console of a command is found by it, with the lines that the command has.** -/
theorem commandLines_consoleFor (hs : r.Sound) (spec : ConsoleSpec) :
    (r.consoleFor spec).1.findConsole? spec.outputId = some (r.consoleFor spec).2.2.1 ∧
      (r.consoleFor spec).1.commandLines spec.outputId = r.commandLines spec.outputId := by
  cases hid : r.byOutputId.get? spec.outputId with
  | some h =>
    obtain ⟨n, hn, -⟩ := hs.exists_console hid
    rw [consoleFor_of_get? hid hn]
    refine ⟨?_, rfl⟩
    unfold findConsole?
    rw [hid]
    exact hn
  | none =>
    rw [consoleFor_of_get?_eq_none hid]
    have hfound : (r.makeConsole spec).1.findConsole? spec.outputId = some (r.makeConsole spec).2.2 := by
      have hindex : (r.makeConsole spec).1.byOutputId.get? spec.outputId =
          some (r.makeConsole spec).2.1 := Dictionary.get?_insert_self ..
      unfold findConsole?
      rw [hindex]
      exact (console?_makeConsole hs spec).mpr (Or.inl ⟨rfl, rfl⟩)
    have hempty : (r.makeConsole spec).1.consoleAt? (r.makeConsole spec).2.2 = some ⟨spec, []⟩ :=
      List.getElem?_concat_length
    refine ⟨hfound, ?_⟩
    rw [commandLines_eq hfound hempty]
    unfold commandLines findConsole?
    rw [hid]
    rfl

theorem linesFor_congr (hmade : r'.made = r.made) (n : Nat) (execId : String) :
    r'.linesFor n execId = r.linesFor n execId := by
  unfold linesFor consoleAt?
  rw [hmade]

/-- Who asks for a console changes no line: a new console has none. -/
theorem linesFor_consoleFor (hs : r.Sound) (spec : ConsoleSpec) (n : Nat) (execId : String) :
    (r.consoleFor spec).1.linesFor n execId = r.linesFor n execId := by
  cases hid : r.byOutputId.get? spec.outputId with
  | some h =>
    obtain ⟨m, hm, -⟩ := hs.exists_console hid
    rw [consoleFor_of_get? hid hm]
  | none =>
    rw [consoleFor_of_get?_eq_none hid]
    have hmade : (r.makeConsole spec).1.made = r.made ++ [⟨spec, []⟩] := rfl
    unfold linesFor consoleAt?
    rw [hmade]
    cases n with
    | zero => rfl
    | succ i =>
      dsimp only
      rcases Nat.lt_trichotomy i r.made.length with hi | rfl | hi
      · rw [List.getElem?_append_left hi]
      · rw [List.getElem?_concat_length, List.getElem?_eq_none le_rfl]
        rfl
      · rw [List.getElem?_eq_none (by simp; omega), List.getElem?_eq_none hi.le]

/-! ### Streams to a command -/

/-- A stream of a run that feeds the listed console of a command. -/
def Carries (r : Registry) (stream : Nat) (execId outputId : String) : Prop :=
  ∃ n c, r.streamAt? stream = some ⟨execId, n⟩ ∧ r.findConsole? outputId = some n ∧
    r.consoleAt? n = some c

theorem carries_streamFor (hs : r.Sound) (hn : r.findConsole? outputId = some n) (execId : String) :
    (r.streamFor execId n).1.Carries (r.streamFor execId n).2.2.1 execId outputId ∧
      (r.streamFor execId n).1.commandLines outputId = r.commandLines outputId := by
  obtain ⟨c, hc⟩ := hs.consoleAt?_of_findConsole? hn
  rw [streamFor_eq]
  exact ⟨⟨n, c, List.getElem?_concat_length, hn, hc⟩, commandLines_congr rfl rfl rfl outputId⟩

theorem isThere_of_findConsole? (hn : r.findConsole? outputId = some n) : r.isThere n = true := by
  obtain ⟨h, -, hget⟩ := Option.bind_eq_some_iff.mp hn
  unfold isThere
  rw [List.contains_iff_mem.mpr (Arena.mem_entries_of_get? hget), Bool.true_or]

theorem consoleAt?_modifyConsole (r : Registry) (n : Nat) (f : Console → Console) :
    (r.modifyConsole n f).consoleAt? n = (r.consoleAt? n).map f := by
  cases n with
  | zero => rfl
  | succ i =>
    show (r.made.modify i f)[i]? = _
    simp only [List.getElem?_modify, if_true]
    rfl

theorem write_of_isThere {s : Stream} (hs : r.streamAt? stream = some s) (hthere : r.isThere s.console = true)
    (text : String) : (r.write stream text).1 = r.modifyConsole s.console (·.write s.execId text) := by
  unfold write
  rw [hs]
  dsimp only
  rw [if_pos hthere]

/-- **What is written to a stream that carries comes after the lines of the command.** -/
theorem Carries.write (h : r.Carries stream execId outputId) (text : String) :
    (r.write stream text).1.Carries stream execId outputId ∧
      (r.write stream text).1.commandLines outputId =
        r.commandLines outputId ++ tagged execId (Console.linesOf text) := by
  obtain ⟨n, c, hstream, hn, hc⟩ := h
  have hwrite := write_of_isThere hstream (isThere_of_findConsole? hn) text
  have hlists := sameLists_modifyConsole r n fun c => spec_write c execId text
  have hfound : (r.modifyConsole n (·.write execId text)).findConsole? outputId = some n := by
    unfold findConsole?
    rw [hlists.byOutputId, hlists.consoles]
    exact hn
  have hconsole : (r.modifyConsole n (·.write execId text)).consoleAt? n =
      some (c.write execId text) := by
    rw [consoleAt?_modifyConsole, hc]
    rfl
  have hsame : (r.modifyConsole n (·.write execId text)).streamAt? stream = r.streamAt? stream := by
    unfold streamAt?
    rw [hlists.opened]
  rw [hwrite, commandLines_eq hfound hconsole, commandLines_eq hn hc, lines_write]
  exact ⟨⟨n, _, hsame.trans hstream, hfound, hconsole⟩, rfl⟩

end Registry

end HostedScripts.Output
