import HostedScripts.Proofs.Output.Refinement

/-! # What whoever remembers a console may rely on

A registry *continues* as another one (`Continues`) if the slots of consoles are in a later state, and
consoles and streams that were made are still those of their commands and runs. Every operation continues
a registry (`continues_perform`).

Somebody *recalls* the console of a command (`Recalls`) by a handle that was issued for a console of that
command. While the registry continues and no generation wraps around this stays so
(`Recalls.of_continues`), and if the handle resolves then to the console that is listed for the command
(`Recalls.findConsole?_eq`), whatever was released and made in between. -/

namespace HostedScripts.Output.Registry

open HostedScripts.Output

variable {r r' r'' : Registry} {n c : Nat} {id : String} {h : Handle}

/-- A later state of a registry, for those who remember consoles and streams. -/
structure Continues (r r' : Registry) : Prop where
  consoles : r.consoles.Advances (r.made.length + 1) r'.consoles
  outputIdAt? : ∀ n id, r.outputIdAt? n = some id → r'.outputIdAt? n = some id
  opened : r.opened <+: r'.opened

namespace Continues

theorem refl (r : Registry) : r.Continues r := ⟨.of_eq _ rfl, fun _ _ hn => hn, List.prefix_rfl⟩

/-- After a step the lists of consoles may stay as they are, and streams may be made. -/
theorem silent (hr : r.Continues r') (hcon : r''.consoles = r'.consoles)
    (hid : ∀ n, r''.outputIdAt? n = r'.outputIdAt? n) (ho : r'.opened <+: r''.opened) :
    r.Continues r'' where
  consoles := hcon ▸ hr.consoles
  outputIdAt? n id hn := (hid n).trans (hr.outputIdAt? n id hn)
  opened := hr.opened.trans ho

theorem sameLists (hr : r.Continues r') (hq : r'.SameLists r'') : r.Continues r'' :=
  hr.silent hq.consoles hq.outputIdAt? (by rw [hq.opened])

theorem streamAt? (hr : r.Continues r') {s : Stream} (hn : r.streamAt? n = some s) :
    r'.streamAt? n = some s := by
  obtain ⟨more, hmore⟩ := hr.opened
  have hlt : n < r.opened.length := (List.getElem?_eq_some_iff.mp hn).1
  unfold Registry.streamAt? at hn ⊢
  rw [← hmore, List.getElem?_append_left hlt, hn]

end Continues

theorem ledger_console? (r : Registry) (n : Nat) : r.ledger.console? n = r.consoleAt? n := by
  cases n <;> rfl

theorem outputIdAt?_perform (hs : r.Sound) (op : Operation) (hn : r.outputIdAt? n = some id) :
    (r.perform op).outputIdAt? n = some id := by
  obtain ⟨console, hconsole, hid⟩ := Option.map_eq_some_iff.mp hn
  rw [← ledger_console?] at hconsole
  obtain ⟨console', hconsole', hspec, -⟩ := Ledger.exists_console?_step hconsole (r.changeOf op)
  rw [← ledger_perform hs, ledger_console?] at hconsole'
  unfold Registry.outputIdAt?
  rw [hconsole', Option.map_some, hspec, hid]

/-- **Every operation continues a registry.** -/
theorem continues_perform (hs : r.Sound) (op : Operation) : r.Continues (r.perform op) where
  consoles := progresses_consoles hs op
  outputIdAt? _ _ hn := outputIdAt?_perform hs op hn
  opened := (outside_perform hs op).1

/-! ### Remembering a console -/

/-- A handle that was issued for a console of a command. -/
def Recalls (r : Registry) (id : String) (h : Handle) : Prop :=
  ∃ n, r.outputIdAt? n = some id ∧ r.consoles.Issued h n

theorem Recalls.of_continues (hrec : r.Recalls id h) (hr : r.Continues r')
    (hw : r.consoles.NoWrap r'.consoles) : r'.Recalls id h := by
  obtain ⟨n, hid, hissued⟩ := hrec
  exact ⟨n, hr.outputIdAt? n id hid, hissued.of_advances hr.consoles hw⟩

/-- **What is remembered is what is found**, or the handle does not resolve. -/
theorem Recalls.findConsole?_eq (hrec : r.Recalls id h) (hs : r.Sound) (hn : r.console? h = some n) :
    r.findConsole? id = some n := by
  obtain ⟨m, hid, hissued⟩ := hrec
  obtain rfl : n = m := hissued.eq_of_get? hn
  exact hs.findConsole?_eq_some_iff.mpr ⟨Arena.mem_entries_of_get? hn, hid⟩

theorem recalls_consoleFor (hs : r.Sound) (spec : ConsoleSpec) :
    (r.consoleFor spec).1.Recalls spec.outputId (r.consoleFor spec).2.1 := by
  have hfound := (commandLines_consoleFor hs spec).1
  have hid := ((sound_consoleFor hs spec).findConsole?_eq_some_iff.mp hfound).2
  exact ⟨_, hid, Or.inl (console?_consoleFor hs spec)⟩

/-! ### Staying listed -/

theorem Continues.findConsole? (hr : r.Continues r') (hs : r.Sound) (hs' : r'.Sound)
    (hfound : r.findConsole? id = some c) (hc : c ∈ r'.consoles.entries) :
    r'.findConsole? id = some c := by
  have hid := (hs.findConsole?_eq_some_iff.mp hfound).2
  exact hs'.findConsole?_eq_some_iff.mpr ⟨hc, hr.outputIdAt? c id hid⟩

theorem listed_perform_iff (hs : r.Sound) (op : Operation) (hc : c ∈ r.consoles.entries) :
    c ∈ (r.perform op).consoles.entries ↔ r.released? op ≠ some c := by
  obtain ⟨id, -, hfound⟩ := hs.findConsole?_eq hc
  have hledger := ledger_perform hs op
  constructor
  · intro hmem hreleased
    obtain ⟨id', -, hfound'⟩ := (sound_perform hs op).findConsole?_eq hmem
    have hlisted : (r.perform op).ledger.listed id' = some c := hfound'
    rw [hledger, changeOf_eq_release_iff.mpr hreleased] at hlisted
    exact Ledger.not_listed_release r.ledger c id' hlisted
  · intro hreleased
    have hstay : r.changeOf op ≠ .release c := fun heq => hreleased (changeOf_eq_release_iff.mp heq)
    have hlisted := Ledger.listed_step (l := r.ledger) hfound hstay
    rw [← hledger] at hlisted
    exact ((sound_perform hs op).findConsole?_eq_some_iff.mp hlisted).1

end HostedScripts.Output.Registry
