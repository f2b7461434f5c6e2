import HostedScripts.Proofs.Output.Generations
import HostedScripts.Proofs.Output.Ledger

/-! # A registry as a ledger

For those who ask for consoles and write to them a registry is a ledger: a map from commands to consoles
and the lines of all consoles (`Registry.ledger`). Every operation does to the ledger what it means to it
(`Registry.changeOf`), whatever slots and generations it moves: `Registry.ledger_perform`, and for any
operations `Registry.ledger_after`. A console that is neither listed nor held is not written to and does
not come back (`Registry.lost_after`).

`Registry.KeepsLedger` says what follows for consoles and streams, and `Registry.keepsLedger_after` that
it holds of a registry after any operations. -/

namespace HostedScripts.Output

/-- The console that somebody has to have who does an operation. -/
def Operation.needs? : Operation → Option Nat
  | .streamFor _ console => some console
  | .holdConsole n => some n
  | .writeLine console _ _ => some console
  | _ => none

namespace Registry

variable {r : Registry} {n : Nat} {id : String}

/-! ### What operations mean -/

/-- What a registry is without its slots. -/
def ledger (r : Registry) : Ledger := ⟨r.findConsole?, r.made⟩

/-- The console that an operation releases, if it answers that it did. -/
def released? (r : Registry) : Operation → Option Nat
  | .releaseConsole h => if (r.releaseConsole h).2.1 then r.console? h else none
  | .releaseOutput id => if (r.releaseOutput id).2.1 then r.findConsole? id else none
  | _ => none

/-- A console is released in the course of some operations. -/
def Releases (r : Registry) (n : Nat) : List Operation → Prop
  | [] => False
  | op :: ops => r.released? op = some n ∨ (r.perform op).Releases n ops

/-- What writing to a stream means to the ledger. -/
def changeOfWrite (r : Registry) (stream : Nat) (text : String) : Ledger.Change :=
  match r.streamAt? stream with
  | some s =>
    if r.isThere s.console then .append s.console (tagged s.execId (Console.linesOf text)) else .idle
  | none => .idle

/-- What an operation means to the ledger. -/
def changeOf (r : Registry) : Operation → Ledger.Change
  | .consoleFor spec => .ask spec
  | .releaseConsole h => .ofReleased (r.released? (.releaseConsole h))
  | .releaseOutput id => .ofReleased (r.released? (.releaseOutput id))
  | .write stream text => r.changeOfWrite stream text
  | .writeLine console execId text => .append console [⟨execId, text⟩]
  | _ => .idle

/-- What some operations mean to the ledger. -/
def changes (r : Registry) : List Operation → List Ledger.Change
  | [] => []
  | op :: ops => r.changeOf op :: (r.perform op).changes ops

/-! ### Listed consoles -/

/-- The console of a command is the listed one that was made for it. -/
theorem Sound.findConsole?_eq_some_iff (hs : r.Sound) :
    r.findConsole? id = some n ↔ n ∈ r.consoles.entries ∧ r.outputIdAt? n = some id := by
  constructor
  · intro hn
    obtain ⟨h, hid, hget⟩ := Option.bind_eq_some_iff.mp hn
    obtain ⟨m, hm, hidm⟩ := hs.exists_console hid
    obtain rfl : m = n := Option.some.inj (hm.symm.trans hget)
    exact ⟨Arena.mem_entries_of_get? hget, hidm⟩
  · rintro ⟨hn, hid⟩
    obtain ⟨other, hother, hfound⟩ := hs.findConsole?_eq hn
    rw [hid] at hother
    rw [Option.some.inj hother]
    exact hfound

theorem Sound.findConsole?_of_get? (hs : r.Sound) {h : Handle} (hid : r.byOutputId.get? id = some h) :
    ∃ n, r.console? h = some n ∧ r.findConsole? id = some n := by
  obtain ⟨n, hn, -⟩ := hs.exists_console hid
  refine ⟨n, hn, ?_⟩
  unfold findConsole?
  rw [hid]
  exact hn

theorem findConsole?_of_get?_eq_none (hid : r.byOutputId.get? id = none) :
    r.findConsole? id = none := by
  unfold findConsole?
  rw [hid]
  rfl

theorem Sound.consoleFor_of_findConsole? (hs : r.Sound) {spec : ConsoleSpec}
    (hn : r.findConsole? spec.outputId = some n) : ∃ h, r.consoleFor spec = (r, h, n, []) := by
  cases hid : r.byOutputId.get? spec.outputId with
  | none =>
    rw [findConsole?_of_get?_eq_none hid] at hn
    cases hn
  | some h =>
    obtain ⟨m, hm, hfound⟩ := hs.findConsole?_of_get? hid
    rw [hfound] at hn
    rw [← Option.some.inj hn]
    exact ⟨h, consoleFor_of_get? hid hm⟩

theorem Sound.consoleFor_of_findConsole?_eq_none (hs : r.Sound) {spec : ConsoleSpec}
    (hn : r.findConsole? spec.outputId = none) :
    r.byOutputId.get? spec.outputId = none ∧ (r.consoleFor spec).1 = (r.makeConsole spec).1 ∧
      (r.consoleFor spec).2.2.1 = r.made.length + 1 := by
  cases hid : r.byOutputId.get? spec.outputId with
  | none =>
    rw [consoleFor_of_get?_eq_none hid]
    exact ⟨rfl, rfl, rfl⟩
  | some h =>
    obtain ⟨m, -, hfound⟩ := hs.findConsole?_of_get? hid
    rw [hfound] at hn
    cases hn

theorem findConsole?_makeConsole (hs : r.Sound) {spec : ConsoleSpec}
    (hid : r.byOutputId.get? spec.outputId = none) :
    (r.makeConsole spec).1.findConsole? id =
      if id = spec.outputId then some (r.made.length + 1) else r.findConsole? id := by
  have hnone := findConsole?_of_get?_eq_none hid
  have hnew := new_not_listed hs
  refine Option.ext fun m => ?_
  rw [(sound_makeConsole hs hid).findConsole?_eq_some_iff, outputIdAt?_makeConsole]
  have hmem : m ∈ (r.makeConsole spec).1.consoles.entries ↔
      m = r.made.length + 1 ∨ m ∈ r.consoles.entries :=
    Arena.mem_entries_insert hs.consoles_wellFormed
  rw [hmem]
  by_cases hm : m = r.made.length + 1
  · subst hm
    rw [if_pos rfl]
    by_cases hid' : id = spec.outputId
    · simp [hid']
    · simp only [hid', if_false, hs.findConsole?_eq_some_iff, hnew, false_and, iff_false]
      rintro ⟨-, heq⟩
      exact hid' (Option.some.inj heq).symm
  · by_cases hid' : id = spec.outputId
    · subst hid'
      have hother : ¬ (m ∈ r.consoles.entries ∧ r.outputIdAt? m = some spec.outputId) := by
        rw [← hs.findConsole?_eq_some_iff, hnone]
        simp
      simp only [hm, false_or, if_false, if_true, hother, false_iff, Option.some.injEq]
      exact Ne.symm hm
    · simp only [hm, hid', false_or, if_false]
      exact hs.findConsole?_eq_some_iff.symm

theorem findConsole?_releaseConsole (hs : r.Sound) {h : Handle} (hn : r.console? h = some n) :
    (r.releaseConsole h).1.findConsole? id = (r.findConsole? id).filter (· ≠ n) := by
  have hs' := sound_releaseConsole hs h
  obtain ⟨own, hown, -⟩ := hs.exists_outputId hn
  refine Option.ext fun m => ?_
  rw [hs'.findConsole?_eq_some_iff, Option.filter_eq_some_iff, hs.findConsole?_eq_some_iff,
    hs.releaseConsole_eq hn hown]
  have hmem : m ∈ (r.consoles.remove h).1.entries ↔ m ∈ r.consoles.entries ∧ m ≠ n :=
    Arena.mem_entries_remove hs.consoles_distinct hn
  have hsame : ({ r.unlist h own with
      streams := r.streams.retain (r.survives n) } : Registry).outputIdAt? m = r.outputIdAt? m := rfl
  rw [hsame, decide_eq_true_eq, and_right_comm, ← hmem]
  rfl

/-! ### The operations -/

theorem ledger_consoleFor (hs : r.Sound) (spec : ConsoleSpec) :
    (r.consoleFor spec).1.ledger = r.ledger.step (.ask spec) ∧
      (r.consoleFor spec).2.2.1 = r.ledger.answer spec.outputId := by
  cases hn : r.findConsole? spec.outputId with
  | some n =>
    obtain ⟨h, heq⟩ := hs.consoleFor_of_findConsole? hn
    have hlisted : r.ledger.listed spec.outputId = some n := hn
    rw [heq, Ledger.step_ask_of_listed hlisted, Ledger.answer_of_listed hlisted]
    exact ⟨rfl, rfl⟩
  | none =>
    obtain ⟨hid, hmade, hnew⟩ := hs.consoleFor_of_findConsole?_eq_none hn
    have hlisted : r.ledger.listed spec.outputId = none := hn
    have hfound : (r.makeConsole spec).1.findConsole? = fun id =>
        if id = spec.outputId then some (r.made.length + 1) else r.findConsole? id :=
      funext fun _ => findConsole?_makeConsole hs hid
    rw [hmade, hnew, Ledger.answer, hlisted, Option.getD_none]
    refine ⟨?_, rfl⟩
    simp only [Ledger.step, hlisted]
    unfold ledger
    rw [hfound]
    rfl

theorem released?_releaseConsole (hs : r.Sound) (h : Handle) :
    r.released? (.releaseConsole h) = r.console? h := by
  unfold released?
  dsimp only
  cases hn : r.console? h with
  | none => exact ite_self none
  | some n =>
    obtain ⟨id, hid, -⟩ := hs.exists_outputId hn
    rw [hs.releaseConsole_eq hn hid]
    rfl

theorem ledger_releaseConsole (hs : r.Sound) (h : Handle) :
    (r.releaseConsole h).1.ledger =
      r.ledger.step (.ofReleased (r.console? h)) := by
  cases hn : r.console? h with
  | none =>
    rw [releaseConsole_of_console?_eq_none hn]
    rfl
  | some n =>
    obtain ⟨id, hid, -⟩ := hs.exists_outputId hn
    have hmade : (r.releaseConsole h).1.made = r.made := by rw [hs.releaseConsole_eq hn hid]; rfl
    have hfound : (r.releaseConsole h).1.findConsole? =
        fun id => (r.findConsole? id).filter (· ≠ n) :=
      funext fun _ => findConsole?_releaseConsole hs hn
    have hledger : (r.releaseConsole h).1.ledger =
        ⟨fun id => (r.findConsole? id).filter (· ≠ n), r.made⟩ := by
      rw [← hfound, ← hmade]
      rfl
    exact hledger

theorem released?_releaseOutput (hs : r.Sound) (id : String) :
    r.released? (.releaseOutput id) = r.findConsole? id := by
  unfold released? releaseOutput
  dsimp only
  cases hid : r.byOutputId.get? id with
  | none =>
    rw [findConsole?_of_get?_eq_none hid]
    rfl
  | some h =>
    obtain ⟨n, hn, hfound⟩ := hs.findConsole?_of_get? hid
    obtain ⟨own, hown, -⟩ := hs.exists_outputId hn
    have hanswer : (r.releaseConsole h).2.1 = true := by rw [hs.releaseConsole_eq hn hown]
    rw [hfound]
    exact if_pos hanswer

theorem ledger_releaseOutput (hs : r.Sound) (id : String) :
    (r.releaseOutput id).1.ledger =
      r.ledger.step (.ofReleased (r.findConsole? id)) := by
  unfold releaseOutput
  cases hid : r.byOutputId.get? id with
  | none =>
    rw [findConsole?_of_get?_eq_none hid]
    rfl
  | some h =>
    obtain ⟨n, hn, hfound⟩ := hs.findConsole?_of_get? hid
    have hrelease := ledger_releaseConsole hs h
    rw [hfound]
    rw [hn] at hrelease
    exact hrelease

theorem write_eq_extended (c : Console) (execId text : String) :
    c.write execId text = Ledger.extended (tagged execId (Console.linesOf text)) c := by
  have hspec := spec_write c execId text
  have hlines := lines_write c execId text
  cases hc : c.write execId text
  rw [hc] at hspec hlines
  cases hspec
  cases hlines
  rfl

theorem ledger_modifyConsole (r : Registry) (n : Nat) (lines : List ConsoleLine) :
    (r.modifyConsole n (Ledger.extended lines)).ledger = r.ledger.step (.append n lines) := by
  cases n <;> rfl

/-- Every operation does to the ledger what it means to it. -/
theorem ledger_perform (hs : r.Sound) (op : Operation) :
    (r.perform op).ledger = r.ledger.step (r.changeOf op) := by
  cases op with
  | consoleFor spec => exact (ledger_consoleFor hs spec).1
  | releaseConsole h =>
    rw [changeOf, released?_releaseConsole hs]
    exact ledger_releaseConsole hs h
  | releaseOutput id =>
    rw [changeOf, released?_releaseOutput hs]
    exact ledger_releaseOutput hs id
  | releaseStream h =>
    rw [perform, releaseStream_fst]
    rfl
  | write stream text =>
    show (r.write stream text).1.ledger = r.ledger.step (r.changeOfWrite stream text)
    unfold write changeOfWrite
    cases hstream : r.streamAt? stream with
    | none => rfl
    | some s =>
      dsimp only
      split_ifs
      · rw [funext fun c => write_eq_extended c s.execId text]
        exact ledger_modifyConsole r s.console _
      · rfl
  | writeLine console execId text => exact ledger_modifyConsole r console [⟨execId, text⟩]
  | streamFor | holdConsole | dropConsole | holdStream | dropStream => rfl

/-- **A registry is a ledger**, after any operations. -/
theorem ledger_after (hs : r.Sound) (ops : List Operation) :
    (r.after ops).ledger = r.ledger.run (r.changes ops) := by
  induction ops generalizing r with
  | nil => rfl
  | cons op ops ih =>
    have hrest := ih (sound_perform hs op)
    rw [ledger_perform hs op] at hrest
    exact hrest

theorem changeOfWrite_eq (r : Registry) (stream : Nat) (text : String) :
    r.changeOfWrite stream text = .idle ∨ ∃ s, r.streamAt? stream = some s ∧
      r.isThere s.console = true ∧
      r.changeOfWrite stream text = .append s.console (tagged s.execId (Console.linesOf text)) := by
  unfold changeOfWrite
  cases r.streamAt? stream with
  | none => exact Or.inl rfl
  | some s =>
    dsimp only
    split_ifs with hthere
    · exact Or.inr ⟨s, rfl, hthere, rfl⟩
    · exact Or.inl rfl

theorem changeOfWrite_ne {stream : Nat} {text : String} {change : Ledger.Change}
    (hidle : change ≠ .idle) (happend : ∀ n lines, change ≠ .append n lines) :
    r.changeOfWrite stream text ≠ change := by
  rintro rfl
  rcases changeOfWrite_eq r stream text with heq | ⟨s, -, -, heq⟩
  · exact hidle heq
  · exact happend _ _ heq

theorem changeOf_eq_release_iff {op : Operation} :
    r.changeOf op = .release n ↔ r.released? op = some n := by
  cases op with
  | releaseConsole h => exact Ledger.Change.ofReleased_eq_release_iff
  | releaseOutput id => exact Ledger.Change.ofReleased_eq_release_iff
  | write stream text =>
    exact iff_of_false (changeOfWrite_ne (by simp) (by simp)) fun h => by cases h
  | _ => exact iff_of_false (fun h => by cases h) fun h => by cases h

theorem release_mem_changes_iff (ops : List Operation) :
    Ledger.Change.release n ∈ r.changes ops ↔ r.Releases n ops := by
  induction ops generalizing r with
  | nil => simp [changes, Releases]
  | cons op ops ih => rw [changes, Releases, List.mem_cons, eq_comm, changeOf_eq_release_iff, ih]

/-! ### Streams -/

/-- Nobody outside has got hold of a console, and no stream has been made. -/
structure SameOutside (r r' : Registry) : Prop where
  opened : r'.opened = r.opened
  consoleHolders : r'.consoleHolders = r.consoleHolders

theorem sameOutside_releaseConsole (hs : r.Sound) (h : Handle) :
    r.SameOutside (r.releaseConsole h).1 := by
  cases hn : r.console? h with
  | none =>
    rw [releaseConsole_of_console?_eq_none hn]
    exact ⟨rfl, rfl⟩
  | some n =>
    obtain ⟨id, hid, -⟩ := hs.exists_outputId hn
    rw [hs.releaseConsole_eq hn hid]
    exact ⟨rfl, rfl⟩

theorem sameOutside_consoleFor (hs : r.Sound) (spec : ConsoleSpec) :
    r.SameOutside (r.consoleFor spec).1 := by
  cases hn : r.findConsole? spec.outputId with
  | some n =>
    obtain ⟨h, heq⟩ := hs.consoleFor_of_findConsole? hn
    rw [heq]
    exact ⟨rfl, rfl⟩
  | none =>
    obtain ⟨-, hmade, -⟩ := hs.consoleFor_of_findConsole?_eq_none hn
    rw [hmade]
    exact ⟨rfl, rfl⟩

theorem sameOutside_modifyConsole (r : Registry) (n : Nat) (f : Console → Console) :
    r.SameOutside (r.modifyConsole n f) := by
  cases n <;> exact ⟨rfl, rfl⟩

theorem sameOutside_write (r : Registry) (stream : Nat) (text : String) :
    r.SameOutside (r.write stream text).1 := by
  unfold write
  cases r.streamAt? stream with
  | none => exact ⟨rfl, rfl⟩
  | some s =>
    dsimp only
    split_ifs
    · exact sameOutside_modifyConsole r _ _
    · exact ⟨rfl, rfl⟩

/-- Streams stay made, and only who asks for it gets hold of a console. -/
theorem outside_perform (hs : r.Sound) (op : Operation) :
    r.opened <+: (r.perform op).opened ∧
      ∀ n ∈ (r.perform op).consoleHolders, n ∈ r.consoleHolders ∨ op = .holdConsole n := by
  have hsame : ∀ {r'}, r.SameOutside r' → r.opened <+: r'.opened ∧
      ∀ n ∈ r'.consoleHolders, n ∈ r.consoleHolders ∨ op = .holdConsole n := fun h => by
    rw [h.opened, h.consoleHolders]
    exact ⟨List.prefix_rfl, fun n hn => Or.inl hn⟩
  cases op with
  | consoleFor spec => exact hsame (sameOutside_consoleFor hs spec)
  | streamFor execId console => exact ⟨List.prefix_append _ _, fun n hn => Or.inl hn⟩
  | releaseConsole h => exact hsame (sameOutside_releaseConsole hs h)
  | releaseOutput id =>
    have hreleased : r.SameOutside (r.releaseOutput id).1 :=
      releaseOutput_cases id ⟨rfl, rfl⟩ (sameOutside_releaseConsole hs)
    exact hsame hreleased
  | releaseStream h =>
    refine hsame ?_
    rw [perform, releaseStream_fst]
    exact ⟨rfl, rfl⟩
  | write stream text => exact hsame (sameOutside_write r stream text)
  | writeLine console execId text => exact hsame (sameOutside_modifyConsole r console _)
  | holdConsole m =>
    refine ⟨List.prefix_rfl, fun n hn => ?_⟩
    rcases List.mem_cons.mp hn with rfl | hn
    · exact Or.inr rfl
    · exact Or.inl hn
  | dropConsole m => exact ⟨List.prefix_rfl, fun n hn => Or.inl (List.mem_of_mem_erase hn)⟩
  | holdStream | dropStream => exact ⟨List.prefix_rfl, fun n hn => Or.inl hn⟩

theorem streamAt?_after (hs : r.Sound) {stream : Nat} {s : Stream}
    (h : r.streamAt? stream = some s) (ops : List Operation) :
    (r.after ops).streamAt? stream = some s := by
  induction ops generalizing r with
  | nil => exact h
  | cons op ops ih =>
    refine ih (sound_perform hs op) ?_
    obtain ⟨more, hmore⟩ := (outside_perform hs op).1
    have hlt : stream < r.opened.length := (List.getElem?_eq_some_iff.mp h).1
    unfold streamAt? at h ⊢
    rw [← hmore, List.getElem?_append_left hlt, h]

/-- **What is written to a stream** comes to the console that the stream was made for while that is there,
with the tag of the stream, and to no other. -/
theorem consoleAt?_write (hs : r.Sound) {stream : Nat} {s : Stream}
    (h : r.streamAt? stream = some s) (text : String) (n : Nat) :
    (r.write stream text).1.consoleAt? n =
      if n = s.console ∧ r.isThere s.console = true then
        (r.consoleAt? n).map (Ledger.extended (tagged s.execId (Console.linesOf text)))
      else r.consoleAt? n := by
  have hledger : (r.write stream text).1.ledger = r.ledger.step (r.changeOfWrite stream text) :=
    ledger_perform hs (.write stream text)
  have hconsole : (r.write stream text).1.consoleAt? n = (r.write stream text).1.ledger.console? n :=
    rfl
  rw [hconsole, hledger, changeOfWrite, h]
  dsimp only
  by_cases hthere : r.isThere s.console = true
  · rw [if_pos hthere, Ledger.console?_append]
    simp only [hthere, and_true]
    rfl
  · rw [if_neg hthere, if_neg fun hand => hthere hand.2]
    rfl

/-! ### Consoles that are lost -/

theorem isThere_eq_false_iff :
    r.isThere n = false ↔ n ∉ r.consoles.entries ∧ n ∉ r.consoleHolders := by
  simp [isThere]

/-- A console that is not there is not changed and does not come back, unless somebody still has it. -/
theorem lost_perform (hs : r.Sound) (hn : n ≤ r.made.length) (hlost : r.isThere n = false)
    {op : Operation} (hop : op.needs? ≠ some n) :
    (r.perform op).isThere n = false ∧ (r.perform op).consoleAt? n = r.consoleAt? n := by
  obtain ⟨hlisted, hheld⟩ := isThere_eq_false_iff.mp hlost
  refine ⟨isThere_eq_false_iff.mpr ⟨fun hmem => ?_, fun hmem => ?_⟩, ?_⟩
  · exact hlisted ((spares_perform hs op).console n hmem hn)
  · rcases (outside_perform hs op).2 n hmem with hbefore | rfl
    · exact hheld hbefore
    · exact hop rfl
  · have hledger : (r.perform op).consoleAt? n = (r.ledger.step (r.changeOf op)).console? n := by
      rw [← ledger_perform hs op]
      rfl
    rw [hledger]
    refine Ledger.console?_step hn fun lines hchange => ?_
    cases op with
    | write stream text =>
      have hwrite : r.changeOfWrite stream text = .append n lines := hchange
      rcases changeOfWrite_eq r stream text with hidle | ⟨s, -, hthere, happend⟩
      · rw [hidle] at hwrite
        cases hwrite
      · rw [happend] at hwrite
        cases hwrite
        rw [hlost] at hthere
        cases hthere
    | writeLine console execId text =>
      cases hchange
      exact hop rfl
    | releaseConsole h => exact Ledger.Change.ofReleased_ne_append hchange
    | releaseOutput id => exact Ledger.Change.ofReleased_ne_append hchange
    | _ => cases hchange

theorem lost_after (hs : r.Sound) (hn : n ≤ r.made.length) (hlost : r.isThere n = false)
    {ops : List Operation} (hops : ∀ op ∈ ops, op.needs? ≠ some n) :
    (r.after ops).isThere n = false ∧ (r.after ops).consoleAt? n = r.consoleAt? n := by
  induction ops generalizing r with
  | nil => exact ⟨hlost, rfl⟩
  | cons op ops ih =>
    obtain ⟨hgone, hsame⟩ := lost_perform hs hn hlost (hops op List.mem_cons_self)
    have hle := hn.trans (spares_perform hs op).length_made
    obtain ⟨hrest, hkept⟩ :=
      ih (sound_perform hs op) hle hgone fun op hop => hops op (List.mem_cons_of_mem _ hop)
    exact ⟨hrest, hkept.trans hsame⟩

/-! ### What follows for those who ask -/

/-- What a ledger promises to those who ask a registry for consoles and write to streams. Operations do to the
registry what they mean to its ledger. Who asks for a command gets what the ledger answers, and gets the same
console again if and only if that was not released in between. A new console is as it was asked for, without
lines, and its number is above all others. What is found for a command is what who asks for it is given, and
nothing is found exactly if that has a console made. The lines of a console stay at the front. What is written
to a stream at any time comes to the console that it was made for, with its tag, if that is listed or held,
and to no other. A console that is neither never is again, as nobody can do what takes it (`needs?`). -/
structure KeepsLedger (r : Registry) : Prop where
  simulates : ∀ ops, (r.after ops).ledger = r.ledger.run (r.changes ops)
  answers : ∀ spec, (r.consoleFor spec).2.2.1 = r.ledger.answer spec.outputId
  same_iff : ∀ (spec spec' : ConsoleSpec) (ops : List Operation), spec'.outputId = spec.outputId →
    ((((r.consoleFor spec).1.after ops).consoleFor spec').2.2.1 = (r.consoleFor spec).2.2.1 ↔
      ¬ (r.consoleFor spec).1.Releases (r.consoleFor spec).2.2.1 ops)
  fresh : ∀ spec, r.findConsole? spec.outputId = none →
    (r.consoleFor spec).1.consoleAt? (r.consoleFor spec).2.2.1 = some ⟨spec, []⟩ ∧
      ∀ m c, r.consoleAt? m = some c → m < (r.consoleFor spec).2.2.1
  found_iff : ∀ spec n, r.findConsole? spec.outputId = some n ↔
    (r.consoleFor spec).1 = r ∧ (r.consoleFor spec).2.2.1 = n
  missing_iff : ∀ spec, r.findConsole? spec.outputId = none ↔
    (r.consoleFor spec).1.made = r.made ++ [⟨spec, []⟩]
  grows : ∀ ops n c, r.consoleAt? n = some c →
    ∃ c', (r.after ops).consoleAt? n = some c' ∧ c'.spec = c.spec ∧ c.lines <+: c'.lines
  writes : ∀ execId console ops text n,
    let stream := (r.streamFor execId console).2.2.1
    let now := (r.streamFor execId console).1.after ops
    (now.write stream text).1.consoleAt? n =
      if n = console ∧ now.isThere console = true then
        (now.consoleAt? n).map fun c =>
          { c with lines := c.lines ++ tagged execId (Console.linesOf text) }
      else now.consoleAt? n
  lost : ∀ ops n c, r.consoleAt? n = some c → r.isThere n = false →
    (∀ op ∈ ops, op.needs? ≠ some n) →
    (r.after ops).isThere n = false ∧ (r.after ops).consoleAt? n = some c

theorem le_length_of_consoleAt? {c : Console} (h : r.consoleAt? n = some c) : n ≤ r.made.length := by
  cases n with
  | zero => exact Nat.zero_le _
  | succ i => exact (List.getElem?_eq_some_iff.mp h).1

theorem Sound.same_iff (hs : r.Sound) {spec spec' : ConsoleSpec} (ops : List Operation)
    (hid : spec'.outputId = spec.outputId) :
    ((((r.consoleFor spec).1.after ops).consoleFor spec').2.2.1 = (r.consoleFor spec).2.2.1 ↔
      ¬ (r.consoleFor spec).1.Releases (r.consoleFor spec).2.2.1 ops) := by
  have hgiven := sound_consoleFor hs spec
  have hlisted : (r.consoleFor spec).1.ledger.listed spec.outputId = some (r.consoleFor spec).2.2.1 :=
    (commandLines_consoleFor hs spec).1
  have hle := (hgiven.console_made _ (mem_entries_consoleFor hs spec)).2
  rw [(ledger_consoleFor (sound_after hgiven ops) spec').2, hid, ledger_after hgiven,
    Ledger.answer_run_eq_iff hlisted hle, release_mem_changes_iff]

theorem Sound.fresh (hs : r.Sound) {spec : ConsoleSpec} (hn : r.findConsole? spec.outputId = none) :
    (r.consoleFor spec).1.made = r.made ++ [⟨spec, []⟩] ∧
      (r.consoleFor spec).1.consoleAt? (r.consoleFor spec).2.2.1 = some ⟨spec, []⟩ ∧
      ∀ m c, r.consoleAt? m = some c → m < (r.consoleFor spec).2.2.1 := by
  obtain ⟨-, hmade, hnew⟩ := hs.consoleFor_of_findConsole?_eq_none hn
  rw [hmade, hnew]
  exact ⟨rfl, List.getElem?_concat_length,
    fun m c hc => Nat.lt_succ_of_le (le_length_of_consoleAt? hc)⟩

theorem Sound.findConsole?_eq_none_iff (hs : r.Sound) {spec : ConsoleSpec} :
    r.findConsole? spec.outputId = none ↔ (r.consoleFor spec).1.made = r.made ++ [⟨spec, []⟩] := by
  refine ⟨fun hn => (hs.fresh hn).1, fun hmade => ?_⟩
  by_contra hne
  obtain ⟨n, hn⟩ := Option.ne_none_iff_exists'.mp hne
  obtain ⟨h, heq⟩ := hs.consoleFor_of_findConsole? hn
  rw [heq] at hmade
  simpa using congrArg List.length hmade

theorem Sound.findConsole?_iff (hs : r.Sound) {spec : ConsoleSpec} :
    r.findConsole? spec.outputId = some n ↔
      (r.consoleFor spec).1 = r ∧ (r.consoleFor spec).2.2.1 = n := by
  constructor
  · intro hn
    obtain ⟨h, heq⟩ := hs.consoleFor_of_findConsole? hn
    rw [heq]
    exact ⟨rfl, rfl⟩
  · rintro ⟨hsame, hnumber⟩
    cases hn : r.findConsole? spec.outputId with
    | none =>
      have hmade := (hs.fresh hn).1
      rw [hsame] at hmade
      simpa using congrArg List.length hmade
    | some m =>
      obtain ⟨h, heq⟩ := hs.consoleFor_of_findConsole? hn
      rw [heq] at hnumber
      exact congrArg some hnumber

end Registry

end HostedScripts.Output
