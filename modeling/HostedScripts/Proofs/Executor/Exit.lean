import HostedScripts.Proofs.Executor.Course

/-! # Controlled exits

A script that calls `exit` departs (`Evaluator.callLibrary_exit`): the code and the moment go on record,
and stay there (`Upshot.Obeys.suffix`). A departure ends every computation of a script
(`Computation.obeys`), whatever blocks, loops, functions, `try` and `catch` blocks and modules it is made
of; so it ends the whole script (`Program.ends_of_departure`).

* `Executor.execute_settled`: the run succeeds with the code, and with what was left in the slots at
  that moment; nothing happens afterwards, and no log is written (`Departure.Settles`).
* `Scope.lookUp_of_suffix`: what is in a slot at the end was in it where the script departed.

One kind of departure is left out. Imports, and the running of texts, wrap the failures that come through
them, even those with an exit code; the wrapped failure can be caught. So a `try` block with an import in
it catches the exits of the module (`Executor.exit_caught_of_import`). -/

namespace HostedScripts

open HostedScripts.Language

namespace Language

/-! ### Departures of a script -/

namespace Evaluator

/-- The exit code that some arguments of `exit` stand for: zero if there are none. -/
def exitCode? : List Datum → Option Int64
  | [] => some 0
  | [d] =>
    match d.bare with
    | .int code => some code
    | _ => none
  | _ => none

theorem callLibrary_exit {arguments : List Datum} {code : Int64}
    (h : exitCode? arguments = some code) (p : Position) (s : Situation Machine) (m : Machine)
    (record : List Departure) :
    (callLibrary "exit" arguments p).run s m record =
      ⟨.error (.failure (.plain (.exited code) (some p))), m, s.departure code m :: record⟩ := by
  match arguments with
  | [] =>
    cases h
    rfl
  | [d] =>
    have hd : d.bare = .int code := by
      simp only [exitCode?] at h
      split at h
      next code' hbare =>
        cases h
        exact hbare
      next => cases h
    show (match d.bare with
      | .int code => Computation.depart code p
      | _ => Computation.interrupt (.finish d) : Run Effect).run s m record = _
    rw [hd]
    rfl
  | _ :: _ :: _ => cases h

end Evaluator

variable {d : Departure}

/-- The machine of a script that has departed is the one that the departure leads to. -/
theorem Departure.Ends.state_eq {setting : Setting} {u : Upshot Machine Datum}
    (h : d.Ends (.outset setting) u) : u.state = d.left := h.left

/-- **A departure ends the script**, wherever it is made, unless it is wrapped. -/
theorem Program.ends_of_departure {program : Program} {setting : Setting} {scope : Scope}
    (hd : d ∈ (program.upshot setting scope).departures) (hfree : d.isWrapped = false) :
    d.Ends (.outset setting) (program.upshot setting scope) := by
  have hobeys : (program.upshot setting scope).Obeys (.outset setting) [] := Computation.obeys _ _ _ _
  rcases hobeys.ends d hd with h | h | h
  · cases h
  · rw [hfree] at h
    cases h
  · exact h

/-! ### What was in sight -/

/-- What is in sight of the script as it departs; where functions are under way that see only their own
variables, what was in sight where the outermost one was called. -/
def Departure.sight (d : Departure) : Scope := d.caller.getD d.moment.scope

namespace Scope

/-- The variables with a name. -/
def named (s : Scope) (name : String) : Scope := s.filter (·.name = name)

theorem lookUp_eq_head? (s : Scope) (name : String) : s.lookUp name = (s.named name).head? :=
  List.head?_filter.symm

theorem named_without (s : Scope) {name : String} {names : List String} (h : name ∉ names) :
    (s.without names).named name = s.named name := by
  unfold named without
  rw [List.filter_filter]
  refine List.filter_congr fun b _ => ?_
  by_cases hb : b.name = name
  · simp [hb, h]
  · simp [hb]

/-- What has gone out of sight does not count for a name if there are as many variables with it. -/
theorem lookUp_of_suffix {s t : Scope} {name : String} {names : List String}
    (hsuffix : s.without names <:+ t.without names) (hname : name ∉ names)
    (hlength : (s.named name).length = (t.named name).length) : s.lookUp name = t.lookUp name := by
  have hnamed : s.named name <:+ t.named name := by
    rw [← s.named_without hname, ← t.named_without hname]
    exact hsuffix.filter _
  rw [lookUp_eq_head?, lookUp_eq_head?, hnamed.eq_of_length hlength]

end Scope

end Language

/-! ### Runs that depart -/

/-- What a departure leaves of a run of a script file. The run succeeds with the code, whatever outcome was
chosen, and with what was left in the slots; no log is written. What the script said until then is all that it
says, and nothing is counted afterwards. Variables only go out of sight: a slot is as it was, unless it was
being changed in place or hidden by a variable of the same name. -/
structure Language.Departure.Settles (d : Departure) (files : FileTree) (r : Execution) : Prop where
  ending : ∃ message results, Executor.LeavesMessage d.left.held message ∧
    Executor.LeavesResults d.left.held results ∧
    r.ending = ⟨.succeeded, message, results, some d.code, none⟩
  files : r.files = files
  said : r.said = d.moment.said.reverse
  operations : d.left.operations = d.moment.operations
  scope : d.left.scope.without d.changing <:+ d.sight.without d.changing
  slot : ∀ name ∉ d.changing, (d.left.scope.named name).length = (d.sight.named name).length →
    d.left.scope.lookUp name = d.sight.lookUp name
  cells : d.changing = [] → d.left.cells = d.moment.cells

namespace Executor

/-- The departures of a script file that is run. -/
def departures (x : Executor) (files : FileTree) (source : Path) (searchPaths : List Path)
    (vars : Dictionary Value) : List Departure :=
  match files.readText source with
  | .error _ => []
  | .ok text =>
    match compiled x.limits.isStrict (x.scope source vars) text with
    | .error _ => []
    | .ok program =>
      (program.upshot (x.setting files source searchPaths) (x.scope source vars)).departures

variable {x : Executor} {files : FileTree} {source : Path} {searchPaths : List Path}
  {vars : Dictionary Value} {d : Departure}

theorem exists_program_of_departure (hd : d ∈ x.departures files source searchPaths vars) :
    ∃ program : Program,
      x.Interprets .standard files source searchPaths vars
        (.finished (program.run (x.setting files source searchPaths) (x.scope source vars))) ∧
      d ∈ (program.upshot (x.setting files source searchPaths) (x.scope source vars)).departures := by
  unfold departures at hd
  cases hread : files.readText source with
  | error e => simp [hread] at hd
  | ok text =>
    cases hcompiled : compiled x.limits.isStrict (x.scope source vars) text with
    | error e => simp [hread, hcompiled] at hd
    | ok program =>
      simp only [hread, hcompiled] at hd
      refine ⟨program, ⟨text, hread, ?_⟩, hd⟩
      have hstrict : compiled (x.setting files source searchPaths).isStrict (x.scope source vars) text =
          .ok program := hcompiled
      rw [Interpreter.standard, hstrict]

/-- **Controlled exits.** A call of `exit` goes on record wherever it stands, with its code and its moment.
Take any script file that is run, and any exit on record that is not wrapped on its way out of a `try` block:
the run succeeds with that code and with what was left in the slots at that moment; nothing that the script
would do afterwards has any effect, and no log is written. -/
theorem execute_settled (x : Executor) (files : FileTree) (source : Path) (searchPaths : List Path)
    (log : Option Path) (vars : Dictionary Value) :
    (∀ arguments code, Evaluator.exitCode? arguments = some code → ∀ p s m record,
      (Evaluator.callLibrary "exit" arguments p).run s m record =
        ⟨.error (.failure (.plain (.exited code) (some p))), m, s.departure code m :: record⟩) ∧
    ∀ d ∈ x.departures files source searchPaths vars, d.isWrapped = false →
      d.Settles files (x.execute .standard files source searchPaths log vars) := by
  refine ⟨fun arguments code h => Evaluator.callLibrary_exit h, fun d hd hfree => ?_⟩
  obtain ⟨program, hinterprets, hmem⟩ := exists_program_of_departure hd
  have hends := Program.ends_of_departure hmem hfree
  obtain ⟨failure, hfailed, hcode, -⟩ := hends.failed
  have hfailure : (program.run (x.setting files source searchPaths) (x.scope source vars)).failure =
      some failure := by
    show Upshot.failure? _ = _
    rw [Upshot.failure?, hfailed]
  have htakes : x.Takes .standard files source searchPaths vars (.exited _ d.code) :=
    ⟨hinterprets, failure, hfailure, Failure.exits_iff_exitCode?.mpr hcode⟩
  obtain ⟨course, hfollows, hleaves, -⟩ :=
    exists_follows x .standard files source searchPaths log vars
  rw [hfollows.eq_course, ← htakes.eq_course] at hleaves
  obtain ⟨hsaid, hfiles, hending⟩ := hleaves
  have hstate := hends.state_eq
  refine ⟨?_, hfiles, ?_, ?_, d.keeps.1, fun _ => Scope.lookUp_of_suffix d.keeps.1, d.keeps.2⟩
  · rwa [Program.run, hstate] at hending
  · rw [hsaid, Program.run, ← hends.said]
    rfl
  · rw [← hstate]
    exact hends.operations

/-- `fn stop() { exit(3) } try { loop { stop() } } catch { } print(1)`, a script with an exit in a function, a
loop and a `try` block. -/
def stoppingScript : String :=
  "fn stop() \x7b exit(3) \x7d try \x7b loop \x7b stop() \x7d \x7d catch \x7b \x7d print(1)"

/-- `try { import "exiter" as u; print("in"); } catch (e) { __message__ = "caught"; }`, a script that imports
a module in a `try` block. -/
def importingScript : String :=
  "try \x7b import \"exiter\" as u; print(\"in\"); \x7d catch (e) \x7b __message__ = \"caught\"; \x7d"

/-- Both scripts, and the module, which calls `exit`. -/
def exitingFiles : FileTree :=
  ⟨[(["stop.rhai"], .file (Text.toBytes stoppingScript) none),
      (["main.rhai"], .file (Text.toBytes importingScript) none),
      (["lib"], .directory),
      (["lib", "exiter.rhai"], .file (Text.toBytes "exit(9);") none)], []⟩

/-- An executor without a host. -/
def hostless : Executor := ⟨⟨false, 100000, 64⟩, none, none⟩

/-- The exit in the function ends the run. -/
theorem execute_settled_stop :
    ∃ d ∈ hostless.departures exitingFiles ⟨"stop.rhai"⟩ [] [], d.code = 3 ∧ d.isWrapped = false ∧
      d.Settles exitingFiles (hostless.execute .standard exitingFiles ⟨"stop.rhai"⟩ [] none []) := by
  have hrecord : (hostless.departures exitingFiles ⟨"stop.rhai"⟩ [] []).map
      (fun d => (d.code, d.isWrapped)) = [(3, false)] := by decide +kernel
  obtain ⟨d, hd, hcode⟩ := List.map_eq_singleton_iff.mp hrecord
  obtain ⟨hthree, hfree⟩ := Prod.mk.inj hcode
  have hmem : d ∈ hostless.departures exitingFiles ⟨"stop.rhai"⟩ [] [] := by
    rw [hd]
    exact List.mem_singleton_self d
  obtain ⟨-, hsettles⟩ := execute_settled hostless exitingFiles ⟨"stop.rhai"⟩ [] none []
  exact ⟨d, hmem, hthree, hfree, hsettles d hmem hfree⟩

/-- **An exit that is caught.** The module calls `exit` while it is imported in a `try` block; the run goes on
in the `catch` block and ends without an exit code. -/
theorem exit_caught_of_import :
    let r := hostless.execute .standard exitingFiles ⟨"main.rhai"⟩ [⟨"lib"⟩] none []
    r.ending = ⟨.succeeded, "caught", [], none, none⟩ ∧
    ∃ d ∈ hostless.departures exitingFiles ⟨"main.rhai"⟩ [⟨"lib"⟩] [],
      d.code = 9 ∧ ¬ d.Settles exitingFiles r := by
  intro r
  have hrun : r.ending = ⟨.succeeded, "caught", [], none, none⟩ ∧
      (hostless.departures exitingFiles ⟨"main.rhai"⟩ [⟨"lib"⟩] []).map (·.code) = [9] := by
    decide +kernel
  obtain ⟨hending, hcodes⟩ := hrun
  obtain ⟨d, hd, hcode⟩ := List.map_eq_singleton_iff.mp hcodes
  refine ⟨hending, d, by rw [hd]; exact List.mem_singleton_self d, hcode, fun h => ?_⟩
  obtain ⟨message, results, -, -, hsettled⟩ := h.ending
  have hexit := congrArg Ending.exitCode (hending.symm.trans hsettled)
  cases hexit

end Executor

end HostedScripts
