import HostedScripts.Proofs.Runtime.Engine

/-! # Interpreters come and go

An executor is called to run script files and to check them (`Executor.Call`). In a call whose file can be
read an interpreter comes first and goes last, and what happens in between is *quiet*: neither is it done
nor told there that an interpreter comes or goes (`actionsOf_of_readable`). Without the file nothing but
quiet things happen (`isQuiet_of_unreadable`).

So each call leaves as many interpreters as there were (`liveInterpreters_actionsOf`), and so do any calls
one after the other (`liveInterpreters_calls`). Whoever watches is told the same, wherever the words of the
script go to (`Executor.relay`). Together this is `interpreters_are_released`. -/

namespace HostedScripts

open Output (Registry)

/-! ### What is told of interpreters -/

namespace Event

/-- An interpreter comes into being. -/
def coming : Event := ⟨.debug, "scripthost::executor", "interpreter created", []⟩

/-- An interpreter is gone. -/
def going : Event := ⟨.debug, "scripthost::executor", "interpreter released", []⟩

/-- An event of the executor that tells that an interpreter comes or goes. -/
def Heralds (e : Event) : Prop :=
  e.target = "scripthost::executor" ∧
    (e.message = "interpreter created" ∨ e.message = "interpreter released")

end Event

/-- An action by which nobody is told that an interpreter comes or goes. -/
def Action.IsQuiet (action : Action) : Prop := ∀ e ∈ Executor.eventsOf action, ¬ e.Heralds

namespace Action

variable {action : Action}

theorem IsQuiet.ne (h : action.IsQuiet) : action ≠ .opened ∧ action ≠ .released := by
  constructor
  · rintro rfl
    exact h .coming (List.mem_singleton_self _) ⟨rfl, Or.inl rfl⟩
  · rintro rfl
    exact h .going (List.mem_singleton_self _) ⟨rfl, Or.inr rfl⟩

theorem isQuiet_said (isDebug : Bool) (text : String) : (said isDebug text).IsQuiet := by
  intro e he hheralds
  rw [List.mem_singleton.mp he] at hheralds
  have htarget : "scripthost::script" ≠ "scripthost::executor" := by decide
  exact htarget hheralds.1

theorem IsRemark.isQuiet (h : action.IsRemark) : action.IsQuiet := by
  obtain ⟨severity, message, fields, rfl, hcreated, hreleased⟩ := h
  intro e he hheralds
  rw [List.mem_singleton.mp he] at hheralds
  exact hheralds.2.elim hcreated hreleased

end Action

theorem liveInterpreters_of_isQuiet {actions : List Action}
    (h : ∀ action ∈ actions, action.IsQuiet) (n : Nat) : liveInterpreters n actions = n :=
  liveInterpreters_of_neither (fun action haction => (h action haction).ne) n

namespace Executor

/-! ### Calls -/

/-- A call of an executor, with the files as they are by then. -/
inductive Call where
  | execute (interpreter : Interpreter) (files : FileTree) (source : Path) (searchPaths : List Path)
    (log : Option Path) (vars : Dictionary Value)
  | check (files : FileTree) (source : Path)

/-- What is read from the file of a call. -/
def Call.text : Call → Except FileError String
  | .execute _ files source _ _ _ | .check files source => files.readText source

/-- What happens in a call. -/
def actionsOf (x : Executor) : Call → List Action
  | .execute interpreter files source searchPaths log vars =>
    (x.execute interpreter files source searchPaths log vars).actions
  | .check files source =>
    match x.check files source with
    | .ok (_, actions) => actions
    | .error _ => []

variable {x : Executor} {c : Call} {w : World}

/-- If the file can be read an interpreter comes first and goes last, whatever becomes of the script. -/
theorem actionsOf_of_readable {text : String} (h : c.text = .ok text) :
    ∃ inside, x.actionsOf c = .opened :: inside ++ [.released] ∧ ∀ action ∈ inside, action.IsQuiet := by
  cases c with
  | execute interpreter files source searchPaths log vars =>
    have hread : files.readText source = .ok text := h
    cases hi : interpreter (x.setting files source searchPaths) (x.scope source vars) text with
    | notCompiled e =>
      refine ⟨_, congrArg Execution.actions (execute_of_notCompiled hread hi log), ?_⟩
      intro action haction
      rcases List.mem_cons.mp haction with rfl | hlog
      · exact Action.IsRemark.isQuiet ⟨_, _, _, rfl, by decide, by decide⟩
      · exact (isRemark_of_writeLog action hlog).isQuiet
    | finished f =>
      refine ⟨_, congrArg Execution.actions (execute_of_finished ⟨text, hread, hi⟩ log), ?_⟩
      intro action haction
      rcases List.mem_append.mp haction with hsaid | hend
      · obtain ⟨⟨isDebug, text⟩, -, rfl⟩ := List.mem_map.mp hsaid
        exact Action.isQuiet_said isDebug text
      · exact (isRemark_of_conclude action hend).isQuiet
  | check files source =>
    have hread : files.readText source = .ok text := h
    refine ⟨[], ?_, nofun⟩
    rw [actionsOf, check, hread]
    rfl

theorem isQuiet_of_unreadable {e : FileError} (h : c.text = .error e) :
    ∀ action ∈ x.actionsOf c, action.IsQuiet := by
  intro action haction
  cases c with
  | execute interpreter files source searchPaths log vars =>
    rw [actionsOf, execute_of_unreadable h] at haction
    rw [List.mem_singleton.mp haction]
    exact Action.IsRemark.isQuiet ⟨_, _, _, rfl, by decide, by decide⟩
  | check files source =>
    have hread : files.readText source = .error e := h
    rw [actionsOf, check, hread] at haction
    cases haction

/-! ### Counting -/

theorem liveInterpreters_inside {inside part : List Action} (h : ∀ action ∈ inside, action.IsQuiet)
    (hpart : part <+: inside) (n : Nat) : liveInterpreters n (.opened :: part) = n + 1 :=
  liveInterpreters_of_isQuiet (fun action haction => h action (hpart.subset haction)) (n + 1)

/-- A call leaves as many interpreters as there were. -/
theorem liveInterpreters_actionsOf (x : Executor) (c : Call) (n : Nat) :
    liveInterpreters n (x.actionsOf c) = n := by
  cases htext : c.text with
  | error e => exact liveInterpreters_of_isQuiet (isQuiet_of_unreadable htext) n
  | ok text =>
    obtain ⟨inside, hactions, hquiet⟩ := actionsOf_of_readable (x := x) htext
    rw [hactions, liveInterpreters_append, liveInterpreters_inside hquiet List.prefix_rfl]
    rfl

/-- **Calls one after the other leave as many interpreters as there were.** -/
theorem liveInterpreters_calls (x : Executor) (calls : List Call) (n : Nat) :
    liveInterpreters n (calls.flatMap x.actionsOf) = n := by
  induction calls with
  | nil => rfl
  | cons c calls ih => rw [List.flatMap_cons, liveInterpreters_append, liveInterpreters_actionsOf, ih]

theorem liveInterpreters_before_released {before : List Action}
    (h : before ++ [.released] <+: x.actionsOf c) (n : Nat) : liveInterpreters n before = n + 1 := by
  obtain ⟨after, hsplit⟩ := h
  have hmem : Action.released ∈ x.actionsOf c := by
    rw [← hsplit]
    simp
  cases htext : c.text with
  | error e => exact absurd rfl (isQuiet_of_unreadable htext _ hmem).ne.2
  | ok text =>
    obtain ⟨inside, hactions, hquiet⟩ := actionsOf_of_readable (x := x) htext
    have hnot : Action.released ∉ Action.opened :: inside := by
      rintro (_ | ⟨_, hin⟩)
      exact (hquiet _ hin).ne.2 rfl
    rw [hactions, List.append_assoc, List.singleton_append] at hsplit
    -- the one that goes is the last action, so everything else stands before it
    have hbefore : before = .opened :: inside :=
      ((List.append_cons_inj_of_notMem hnot List.not_mem_nil).mp hsplit.symm).1.symm
    rw [hbefore]
    exact liveInterpreters_inside hquiet List.prefix_rfl n

/-- An interpreter that goes in any calls is the only one. -/
theorem liveInterpreters_before_released_calls {calls : List Call} {before : List Action}
    (h : before ++ [.released] <+: calls.flatMap x.actionsOf) (n : Nat) :
    liveInterpreters n before = n + 1 := by
  induction calls generalizing before with
  | nil => simp at h
  | cons c calls ih =>
    rw [List.flatMap_cons] at h
    rcases List.prefix_or_prefix_of_prefix h (List.prefix_append _ _) with hfirst | ⟨rest, hrest⟩
    · exact liveInterpreters_before_released hfirst n
    -- the interpreter goes in a later call, unless it is the last thing in this one
    rcases rest.eq_nil_or_concat' with rfl | ⟨part, last, rfl⟩
    · rw [List.append_nil] at hrest
      exact liveInterpreters_before_released ⟨[], by rw [hrest, List.append_nil]⟩ n
    · rw [← hrest] at h
      have hlater := (List.prefix_append_right_inj _).mp h
      rw [← List.append_assoc] at hrest
      obtain ⟨rfl, hlast⟩ := List.append_inj' hrest rfl
      rw [hlast] at hlater
      rw [liveInterpreters_append, liveInterpreters_actionsOf, ih hlater]

/-! ### What those who watch are told -/

/-- Does what happened in a call; what the script says goes to a stream, or is told where there is none. -/
def relay (output : Option Nat) (actions : List Action) : Act Unit :=
  match output with
  | some stream => Runtime.perform stream actions
  | none => Act.tell (actions.flatMap eventsOf)

theorem relay_append (output : Option Nat) (before after : List Action) (w : World) :
    (relay output (before ++ after)).run w = (relay output after).run ((relay output before).run w).2 := by
  cases output with
  | none =>
    unfold relay
    simp only [Act.run_tell, List.flatMap_append, List.append_assoc]
  | some stream =>
    unfold relay
    induction before generalizing w with
    | nil => rfl
    | cons action before ih => cases action <;> exact ih _

theorem told_of_isQuiet (output : Option Nat) {actions : List Action}
    (h : ∀ action ∈ actions, action.IsQuiet) (w : World) :
    ∃ told, ((relay output actions).run w).2.told = w.told ++ told ∧ ∀ e ∈ told, ¬ e.Heralds := by
  cases output with
  | none =>
    refine ⟨actions.flatMap eventsOf, rfl, fun e he => ?_⟩
    obtain ⟨action, haction, he⟩ := List.mem_flatMap.mp he
    exact h action haction e he
  | some stream =>
    unfold relay
    induction actions generalizing w with
    | nil => exact ⟨[], (List.append_nil _).symm, nofun⟩
    | cons action actions ih =>
      have hrest := ih fun a ha => h a (List.mem_cons_of_mem _ ha)
      rcases hwords : action.words? with - | ⟨isDebug, text⟩
      · obtain ⟨told, htold, hquiet⟩ := hrest { w with told := w.told ++ eventsOf action }
        refine ⟨eventsOf action ++ told, ?_, fun e he => ?_⟩
        · rw [Runtime.perform_of_silent hwords, htold, List.append_assoc]
        · exact (List.mem_append.mp he).elim (h action List.mem_cons_self e) (hquiet e)
      · obtain rfl : action = .said isDebug text := by
          cases action <;> cases hwords
          rfl
        -- a text that is lost is told of by the registry
        obtain ⟨told, htold, hquiet⟩ := hrest ((Act.writeTo stream text).run w).2
        refine ⟨(w.outputs.write stream text).2 ++ told, ?_, fun e he => ?_⟩
        · rw [← List.append_assoc]
          exact htold
        · rcases List.mem_append.mp he with hlost | hlater
          · exact fun hheralds => Runtime.target_ne_executor (Registry.target_write hlost) hheralds.1
          · exact hquiet e hlater

/-- **Who watches a call whose file can be read** is told first that an interpreter comes, at the end that it
goes, and nothing of the kind in between. -/
theorem told_of_readable {text : String} (h : c.text = .ok text) (output : Option Nat) (w : World) :
    ∃ told, ((relay output (x.actionsOf c)).run w).2.told = w.told ++ .coming :: told ++ [.going] ∧
      ∀ e ∈ told, ¬ e.Heralds := by
  obtain ⟨inside, hactions, hquiet⟩ := actionsOf_of_readable (x := x) h
  obtain ⟨told, htold, hnone⟩ := told_of_isQuiet output hquiet ((relay output [.opened]).run w).2
  refine ⟨told, ?_, hnone⟩
  have hcoming : ((relay output [.opened]).run w).2.told = w.told ++ [.coming] := by
    cases output <;> rfl
  have hgoing : ∀ before : World,
      ((relay output [.released]).run before).2.told = before.told ++ [.going] := fun before => by
    cases output <;> rfl
  have hsplit : x.actionsOf c = [.opened] ++ inside ++ [.released] := hactions
  rw [hsplit, relay_append, hgoing, relay_append, htold, hcoming, List.append_assoc w.told,
    List.singleton_append]

/-! ### Any calls -/

/-- **Interpreters are always released.** Take any calls of an executor, to run files or to check them, each
with its own files, log and interpreter, and then one more call `c`. Before it and after it there is no
interpreter, and whenever one goes in all these calls it is the only one that is there. If the file of `c` can
be read then an interpreter comes at first and goes at last; all the time in between there is exactly one; and
those who watch are told that it comes, then what else happens, and then that it goes, and nothing of the kind
in between, wherever the words of the script go to. If the file cannot be read then no interpreter is there at
any time, and nobody is told of one. -/
theorem interpreters_are_released (x : Executor) (calls : List Call) (c : Call) :
    let past := calls.flatMap x.actionsOf
    let alive := liveInterpreters 0
    alive past = 0 ∧ alive (past ++ x.actionsOf c) = 0 ∧
    (∀ before, before ++ [.released] <+: past ++ x.actionsOf c → alive before = 1) ∧
    match c.text with
    | .ok _ => ∃ inside, x.actionsOf c = .opened :: inside ++ [.released] ∧
        (∀ part, part <+: inside → alive (past ++ .opened :: part) = 1) ∧
        ∀ output w, ∃ told,
          ((relay output (x.actionsOf c)).run w).2.told = w.told ++ .coming :: told ++ [.going] ∧
            ∀ e ∈ told, ¬ e.Heralds
    | .error _ => (∀ part, part <+: x.actionsOf c → alive (past ++ part) = 0) ∧
        ∀ output w, ∃ told,
          ((relay output (x.actionsOf c)).run w).2.told = w.told ++ told ∧ ∀ e ∈ told, ¬ e.Heralds := by
  intro past alive
  have hpast : ∀ actions, alive (past ++ actions) = alive actions := fun actions => by
    show liveInterpreters 0 (past ++ actions) = liveInterpreters 0 actions
    rw [liveInterpreters_append, liveInterpreters_calls]
  have hall : past ++ x.actionsOf c = (calls ++ [c]).flatMap x.actionsOf := by
    rw [List.flatMap_append, List.flatMap_singleton]
  refine ⟨liveInterpreters_calls x calls 0, ?_, fun before hbefore => ?_, ?_⟩
  · rw [hpast]
    exact liveInterpreters_actionsOf x c 0
  · rw [hall] at hbefore
    exact liveInterpreters_before_released_calls hbefore 0
  · cases htext : c.text with
    | ok text =>
      obtain ⟨inside, hactions, hquiet⟩ := actionsOf_of_readable (x := x) htext
      refine ⟨inside, hactions, fun part hpart => ?_, told_of_readable htext⟩
      rw [hpast]
      exact liveInterpreters_inside hquiet hpart 0
    | error e =>
      refine ⟨fun part hpart => ?_, fun output => told_of_isQuiet output (isQuiet_of_unreadable htext)⟩
      rw [hpast]
      exact liveInterpreters_of_isQuiet
        (fun action haction => isQuiet_of_unreadable htext action (hpart.subset haction)) 0

end Executor

end HostedScripts
