import HostedScripts.Proofs.Output.Recall
import HostedScripts.Proofs.Runtime.Streams

/-! # The console that a runtime remembers

A runtime *remembers* its command (`Runtime.Remembers`) if its handle was issued for a console of that
command, and its stream was made for its run. Every call keeps that, and continues the registry
(`Runtime.remembers_call`).

A runtime that remembers its command gets the console that the registry finds for it, and a new one if
there is none (`Runtime.window_finds`). Its stream is one of its run and feeds that console
(`Runtime.feed_streams`), and is given again as long as it does (`Runtime.feed_of_feeds`,
`Runtime.stream_call`). -/

namespace HostedScripts

open Output (Handle Registry ConsoleSpec)

namespace Runtime

variable {rt rt' : Runtime} {w w' : World} {r r' : Registry} {n c : Nat} {h : Handle}

/-- What a runtime keeps is of its command and of its run. -/
structure Remembers (rt : Runtime) (r : Registry) : Prop where
  console : ∀ h, rt.console = some h → r.Recalls rt.script.commandUniqueId h
  stream : ∀ h n, rt.stream = some (h, n) → ∃ c, r.streamAt? n = some ⟨rt.execId, c⟩

theorem Remembers.of_continues (hrt : rt.Remembers r) (hr : r.Continues r')
    (hw : r.consoles.NoWrap r'.consoles) : rt.Remembers r' where
  console h hh := (hrt.console h hh).of_continues hr hw
  stream h n hn := by
    obtain ⟨c, hc⟩ := hrt.stream h n hn
    exact ⟨c, hr.streamAt? hc⟩

/-- The handle of a runtime resolves to the console of its command, if it does. -/
theorem Remembers.findConsole?_eq (hrt : rt.Remembers r) (hs : r.Sound) (hh : rt.console = some h)
    (hn : r.console? h = some n) : r.findConsole? rt.script.commandUniqueId = some n :=
  (hrt.console h hh).findConsole?_eq hs hn

theorem Equipped.script (he : rt.Equipped rt') : rt'.script = rt.script := by rw [he]

/-! ### The console -/

/-- What a runtime gets that asks for its console: the one of its command, or else a new one. -/
structure Finds (rt : Runtime) (w : World) (n : Nat) (r' : Registry) : Prop where
  found : r'.findConsole? rt.script.commandUniqueId = some n
  kept : ∀ m, w.outputs.findConsole? rt.script.commandUniqueId = some m → n = m ∧ r' = w.outputs
  made : w.outputs.findConsole? rt.script.commandUniqueId = none →
    n = w.outputs.made.length + 1 ∧
      r'.made = w.outputs.made ++ [⟨rt.consoleSpec (rt.engineIn w.files), []⟩]

theorem Finds.of_listed (hn : w.outputs.findConsole? rt.script.commandUniqueId = some n) :
    rt.Finds w n w.outputs where
  found := hn
  kept m hm := by
    rw [hn] at hm
    exact ⟨Option.some.inj hm, rfl⟩
  made hnone := by
    rw [hn] at hnone
    cases hnone

theorem finds_consoleIn (hs : w.outputs.Sound) (rt : Runtime) :
    rt.Finds w (rt.consoleIn w).2.2.1 (rt.consoleIn w).1 where
  found := (Registry.commandLines_consoleFor hs (rt.consoleSpec (rt.engineIn w.files))).1
  kept m hm := by
    have hspec : w.outputs.findConsole? (rt.consoleSpec (rt.engineIn w.files)).outputId = some m := hm
    have hin : rt.consoleIn w = w.outputs.consoleFor (rt.consoleSpec (rt.engineIn w.files)) := rfl
    obtain ⟨h, heq⟩ := hs.consoleFor_of_findConsole? hspec
    rw [hin, heq]
    exact ⟨rfl, rfl⟩
  made hnone := by
    have hspec : w.outputs.findConsole? (rt.consoleSpec (rt.engineIn w.files)).outputId = none := hnone
    have hin : rt.consoleIn w = w.outputs.consoleFor (rt.consoleSpec (rt.engineIn w.files)) := rfl
    obtain ⟨-, -, hnew⟩ := hs.consoleFor_of_findConsole?_eq_none hspec
    rw [hin]
    exact ⟨hnew, (hs.fresh hspec).1⟩

theorem continues_consoleIn (hs : w.outputs.Sound) (rt : Runtime) :
    w.outputs.Continues (rt.consoleIn w).1 :=
  Registry.continues_perform hs (.consoleFor (rt.consoleSpec (rt.engineIn w.files)))

/-- The console of a runtime is the one that the registry finds for its command. -/
theorem window_finds (hs : w.outputs.Sound) (hrt : rt.Remembers w.outputs)
    (hw : rt.window.run w = ((rt', .ok n), w')) :
    rt.Finds w n w'.outputs ∧ rt'.Remembers w'.outputs ∧ w.outputs.Continues w'.outputs ∧
      rt'.stream = rt.stream := by
  have hlive : rt.phase ≠ .disposed := by
    intro hp
    rw [window_of_disposed hp] at hw
    cases hw
  cases hn : rt.console.bind w.outputs.console? with
  | some m =>
    rw [window_of_listed hlive hn] at hw
    cases hw
    obtain ⟨h, hh, hget⟩ := Option.bind_eq_some_iff.mp hn
    exact ⟨.of_listed (hrt.findConsole?_eq hs hh hget), hrt, .refl _, rfl⟩
  | none =>
    rw [window_of_not_listed hlive hn] at hw
    cases hw
    have hcont := continues_consoleIn hs rt
    refine ⟨finds_consoleIn hs rt, ⟨?_, ?_⟩, hcont, rfl⟩
    · intro h hh
      cases hh
      exact Registry.recalls_consoleFor hs (rt.consoleSpec (rt.engineIn w.files))
    · intro h k hk
      obtain ⟨c, hc⟩ := hrt.stream h k hk
      exact ⟨c, hcont.streamAt? hc⟩

/-! ### The stream -/

theorem closeStream_silent (rt : Runtime) (w : World) :
    (rt.closeStream.run w).2.outputs.consoles = w.outputs.consoles ∧
      (rt.closeStream.run w).2.outputs.made = w.outputs.made ∧
      (rt.closeStream.run w).2.outputs.byOutputId = w.outputs.byOutputId ∧
      (rt.closeStream.run w).2.outputs.opened = w.outputs.opened := by
  rcases hst : rt.stream with - | ⟨h, n⟩
  · rw [closeStream_of_none hst]
    exact ⟨rfl, rfl, rfl, rfl⟩
  · rw [closeStream_of_some hst, Registry.releaseStream_fst]
    exact ⟨rfl, rfl, rfl, rfl⟩

theorem outputIdAt?_of_made (hmade : r'.made = r.made) (n : Nat) : r'.outputIdAt? n = r.outputIdAt? n := by
  cases n with
  | zero => rfl
  | succ i => rw [Registry.outputIdAt?_succ, Registry.outputIdAt?_succ, hmade]

theorem continues_closeStream (rt : Runtime) (w : World) :
    w.outputs.Continues (rt.closeStream.run w).2.outputs := by
  obtain ⟨hcon, hmade, -, ho⟩ := closeStream_silent rt w
  exact (Registry.Continues.refl _).silent hcon (outputIdAt?_of_made hmade) (by rw [ho])

/-- What a runtime gets that asks for its stream. -/
structure Streams (rt : Runtime) (w : World) (rt' : Runtime) (n c : Nat) (r' : Registry) : Prop where
  own : ∃ h, rt'.stream = some (h, n)
  stream : r'.streamAt? n = some ⟨rt.execId, c⟩
  console : r'.findConsole? rt.script.commandUniqueId = some c
  remembers : rt'.Remembers r'
  continues : w.outputs.Continues r'

theorem streamTo_eq_some_iff :
    rt.streamTo r c = some (h, n) ↔
      rt.stream = some (h, n) ∧ r.feeds? n = some c ∧ r.isThere c = true := by
  have hfeeds : r.consoleOfStream? n = some c ↔ r.feeds? n = some c ∧ r.isThere c = true := by
    unfold Registry.consoleOfStream? Registry.feeds?
    cases r.streamAt? n with
    | none => simp
    | some s =>
      simp only [Option.map_some, Option.some.injEq]
      split_ifs with hthere
      · rw [Option.some.injEq]
        exact ⟨fun heq => ⟨heq, heq ▸ hthere⟩, fun hpair => hpair.1⟩
      · constructor
        · intro hn
          cases hn
        · rintro ⟨rfl, hyes⟩
          exact absurd hyes hthere
  unfold streamTo
  rw [Option.filter_eq_some_iff, decide_eq_true_iff, hfeeds]

/-- The stream of a runtime is one of its run that feeds the console of its command. -/
theorem feed_streams (hs : w.outputs.Sound) (hrt : rt.Remembers w.outputs)
    (hw : rt.window.run w = ((rt', .ok c), w')) :
    ∃ fed n w'', rt.feed.run w = ((fed, .ok n), w'') ∧ rt.Streams w fed n c w''.outputs := by
  obtain ⟨hfinds, hrt', hcont, -⟩ := window_finds hs hrt hw
  have he := equipped_window rt w
  rw [hw] at he
  rcases hn : rt'.streamTo w'.outputs c with - | ⟨h, n⟩
  · obtain ⟨hcon, hmade, hindex, ho⟩ := closeStream_silent rt' w'
    refine ⟨_, _, _, feed_of_not_current hw hn, ?_⟩
    rw [openStream_run]
    dsimp only
    generalize (rt'.closeStream.run w').2 = closed at hcon hmade hindex ho
    have hlast : (closed.outputs.streamFor rt'.execId c).1.streamAt? closed.outputs.opened.length =
        some ⟨rt'.execId, c⟩ := List.getElem?_concat_length
    have hopened : w'.outputs.opened <+: (closed.outputs.streamFor rt'.execId c).1.opened := by
      rw [← ho]
      exact List.prefix_append _ _
    have hsilent : w'.outputs.Continues (closed.outputs.streamFor rt'.execId c).1 :=
      (Registry.Continues.refl _).silent hcon (outputIdAt?_of_made hmade) hopened
    have hstay := hrt'.of_continues hsilent (.of_eq hcon)
    have hfound : (closed.outputs.streamFor rt'.execId c).1.findConsole? rt.script.commandUniqueId =
        some c := by
      rw [← hfinds.found]
      unfold Registry.findConsole?
      show (closed.outputs.byOutputId.get? _).bind closed.outputs.consoles.get? = _
      rw [hindex, hcon]
    refine ⟨⟨_, rfl⟩, ?_, hfound, ⟨hstay.console, fun h k hk => ?_⟩,
      hcont.silent hcon (outputIdAt?_of_made hmade) hopened⟩
    · rw [← he.execId]
      exact hlast
    · cases hk
      exact ⟨c, hlast⟩
  · obtain ⟨hst, hf, -⟩ := streamTo_eq_some_iff.mp hn
    refine ⟨_, _, _, feed_of_current hw hn, ⟨h, hst⟩, ?_, hfinds.found, hrt', hcont⟩
    obtain ⟨other, hother⟩ := hrt'.stream h n hst
    unfold Registry.feeds? at hf
    rw [hother, Option.map_some, Option.some.injEq] at hf
    rw [hother, he.execId, ← hf]

/-- A stream that feeds the console of the command is given again, and nothing changes. -/
theorem feed_of_feeds (hs : w.outputs.Sound) (hrt : rt.Remembers w.outputs) (hp : rt.phase ≠ .disposed)
    (hst : rt.stream = some (h, n)) (hf : w.outputs.feeds? n = some c)
    (hfound : w.outputs.findConsole? rt.script.commandUniqueId = some c) :
    ∃ fed w', rt.feed.run w = ((fed, .ok n), w') ∧ fed.stream = some (h, n) := by
  obtain ⟨rt', m, w', hw⟩ := exists_window rt w hp
  obtain ⟨hfinds, -, -, hsame⟩ := window_finds hs hrt hw
  obtain ⟨rfl, hout⟩ := hfinds.kept c hfound
  have hthere : w.outputs.isThere m = true := by
    have hlisted := (hs.findConsole?_eq_some_iff.mp hfound).1
    simp [Registry.isThere, hlisted]
  have hn : rt'.streamTo w'.outputs m = some (h, n) := by
    rw [hout]
    exact streamTo_eq_some_iff.mpr ⟨hsame.trans hst, hf, hthere⟩
  exact ⟨rt', w', feed_of_current hw hn, hsame.trans hst⟩

/-! ### The calls -/

theorem remembers_feed (hs : w.outputs.Sound) (hrt : rt.Remembers w.outputs) :
    (rt.feed.run w).1.1.Remembers (rt.feed.run w).2.outputs ∧
      w.outputs.Continues (rt.feed.run w).2.outputs := by
  by_cases hp : rt.phase = .disposed
  · rw [feed_of_disposed hp]
    exact ⟨hrt, .refl _⟩
  · obtain ⟨rt', c, w', hw⟩ := exists_window rt w hp
    obtain ⟨fed, n, w'', hf, hstreams⟩ := feed_streams hs hrt hw
    rw [hf]
    exact ⟨hstreams.remembers, hstreams.continues⟩

theorem call_same (rt : Runtime) (c : Call) (w : World) :
    ((rt.call c).run w).1.1.script = rt.script ∧ ((rt.call c).run w).1.1.execId = rt.execId := by
  cases c with
  | setEventSender | setEventArgs | readEngine | editResults => exact ⟨rfl, rfl⟩
  | outputWindow => exact ⟨(equipped_window rt w).script, (equipped_window rt w).execId⟩
  | outputStream => exact ⟨(equipped_feed rt w).script, (equipped_feed rt w).execId⟩
  | run engines =>
    by_cases hc : rt.phase = .configured
    · obtain ⟨begun, -, rt', ending, w', hrun, hfed⟩ := run_eq hc engines w
      rw [hrun]
      exact ⟨hfed.equipped.script, hfed.equipped.execId⟩
    · rw [run_of_ne_configured hc]
      exact ⟨rfl, rfl⟩
  | dispose =>
    obtain ⟨told, hcall⟩ := call_dispose rt w
    rw [hcall]
    exact ⟨rfl, rfl⟩

/-- **Every call of a runtime leaves it remembering its command**, and continues the registry. -/
theorem remembers_call (hs : w.outputs.Sound) (hrt : rt.Remembers w.outputs) (c : Call) :
    ((rt.call c).run w).1.1.Remembers ((rt.call c).run w).2.outputs ∧
      w.outputs.Continues ((rt.call c).run w).2.outputs := by
  cases c with
  | setEventSender | setEventArgs | readEngine | editResults =>
    exact ⟨⟨hrt.console, hrt.stream⟩, .refl _⟩
  | outputWindow =>
    by_cases hp : rt.phase = .disposed
    · rw [call_outputWindow (window_of_disposed hp)]
      exact ⟨hrt, .refl _⟩
    · obtain ⟨rt', n, w', hw⟩ := exists_window rt w hp
      obtain ⟨-, hrt', hcont, -⟩ := window_finds hs hrt hw
      rw [call_outputWindow hw]
      exact ⟨hrt', hcont⟩
  | outputStream => exact remembers_feed hs hrt
  | run engines =>
    by_cases hc : rt.phase = .configured
    · obtain ⟨begun, hbegun, rt', ending, w', hrun, hfed⟩ := run_eq hc engines w
      have hrunning : ({ rt.pinned w.files with phase := .running } : Runtime).Remembers begun.outputs := by
        rw [hbegun]
        exact ⟨hrt.console, hrt.stream⟩
      rw [← hbegun] at hs
      rw [hrun, ← hbegun]
      rcases hfed with ⟨rfl, hout⟩ | ⟨n, fed, hf, hq⟩
      · rw [hout]
        exact ⟨⟨hrunning.console, hrunning.stream⟩, .refl _⟩
      · obtain ⟨hfedRt, hcont⟩ := remembers_feed hs hrunning
        rw [hf] at hfedRt hcont
        have hquiet := (Registry.Continues.refl fed.outputs).sameLists hq.sameLists
        have hafter := hfedRt.of_continues hquiet (.of_eq hq.sameLists.consoles)
        exact ⟨⟨hafter.console, hafter.stream⟩, hcont.sameLists hq.sameLists⟩
    · rw [run_of_ne_configured hc]
      exact ⟨hrt, .refl _⟩
  | dispose =>
    obtain ⟨told, hcall⟩ := call_dispose rt w
    rw [hcall]
    refine ⟨⟨fun h hh => ?_, fun h n hn => ?_⟩, continues_closeStream rt w⟩
    · cases hh
    · cases hn

/-- **A runtime whose stream feeds the console of its command keeps it** in every call but disposal. -/
theorem stream_call (hs : w.outputs.Sound) (hrt : rt.Remembers w.outputs) (hp : rt.phase ≠ .disposed)
    (hst : rt.stream = some (h, n)) (hf : w.outputs.feeds? n = some c)
    (hfound : w.outputs.findConsole? rt.script.commandUniqueId = some c) {call : Call}
    (hcall : call.isDispose = false) :
    ((rt.call call).run w).1.1.stream = some (h, n) := by
  cases call with
  | setEventSender | setEventArgs | readEngine | editResults => exact hst
  | outputWindow =>
    obtain ⟨rt', m, w', hw⟩ := exists_window rt w hp
    obtain ⟨-, -, -, hsame⟩ := window_finds hs hrt hw
    rw [call_outputWindow hw]
    exact hsame.trans hst
  | outputStream =>
    obtain ⟨fed, w', hfeed, hsame⟩ := feed_of_feeds hs hrt hp hst hf hfound
    rw [call_outputStream hfeed]
    exact hsame
  | run engines =>
    by_cases hc : rt.phase = .configured
    · obtain ⟨begun, hbegun, rt', ending, w', hrun, hfed⟩ := run_eq hc engines w
      rw [hrun]
      rcases hfed with ⟨rfl, -⟩ | ⟨m, fed, hfeed, -⟩
      · exact hst
      · rw [← hbegun] at hs hf hfound
        have hrunning : ({ rt.pinned w.files with phase := .running } : Runtime).Remembers
            begun.outputs := by
          rw [hbegun]
          exact ⟨hrt.console, hrt.stream⟩
        obtain ⟨fed', w'', hfeed', hsame⟩ := feed_of_feeds hs hrunning (by simp) hst hf hfound
        rw [hfeed'] at hfeed
        cases hfeed
        exact hsame
    · rw [run_of_ne_configured hc]
      exact hst
  | dispose => cases hcall

theorem phase_call (hp : rt.phase ≠ .disposed) {call : Call} (hcall : call.isDispose = false) (w : World) :
    ((rt.call call).run w).1.1.phase ≠ .disposed := by
  rcases run_or_quiet rt call with ⟨engines, rfl, hc⟩ | hq
  · obtain ⟨rt', outcome, w', hrun, hphase, -⟩ := run_of_configured hc engines w
    rw [hrun, hphase]
    cases outcome <;> decide
  · rw [(call_of_quiet hq w).1, hcall]
    exact hp

end Runtime

end HostedScripts
