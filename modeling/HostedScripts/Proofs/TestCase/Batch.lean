import HostedScripts.CommandLine.Commands
import HostedScripts.Proofs.TestCase.Alone

/-! # All cases of a directory

The cases of a directory are checked one after the other, in the order in which they are found. A check leaves
the files and the session as they are, so every case has the outcome that it has by itself, but for the ids
that were given before (`checkAll_run`). On the command line the cases that pass are counted
(`testCommand_of_ok`).

`batch_law` says what this comes to for a directory of a tree. -/

namespace HostedScripts

namespace TestCase

variable {patterns : Patterns} {w w' : World} {d q : Path} {place : Place} {paths : List Path}
  {results : List (Path × Except CaseFault Report)}

/-! ### One case after the other -/

/-- The outcomes of some cases, each with the next id that is given. -/
structure Outcomes (patterns : Patterns) (w : World) (paths : List Path)
    (results : List (Path × Except CaseFault Report)) : Prop where
  listed : results.map (·.1) = paths
  each : ∀ k path result, results[k]? = some (path, result) →
    result = outcome patterns w.files w.session (idText w.seed (w.issued + idsFor w.files (paths.take k))) path

/-- Cases that are checked one after the other have the outcomes that they have by themselves. -/
theorem checkAll_run (patterns : Patterns) (paths : List Path) (w : World) :
    ∃ results w', (checkAll patterns paths).run w = (results, w') ∧ Outcomes patterns w paths results ∧
      Checked w (idsFor w.files paths) w' := by
  induction paths generalizing w with
  | nil => exact ⟨[], w, rfl, ⟨rfl, nofun⟩, ⟨rfl, rfl, rfl⟩⟩
  | cons path paths ih =>
    obtain ⟨w₁, hcheck, hchecked⟩ := check_run patterns path w
    obtain ⟨results, w₂, hrest, hresults, hlater⟩ := ih w₁
    have hids : ∀ more, idsFor w.files (path :: more) = idsFor w.files [path] + idsFor w.files more := fun more => by
      unfold idsFor
      rw [← List.countP_append, List.singleton_append]
    obtain ⟨hsession, hseed, hissued⟩ := hchecked.named
    refine ⟨(path, outcome patterns w.files w.session (idText w.seed w.issued) path) :: results, w₂, ?_,
      ⟨?_, fun k other result hk => ?_⟩, ?_⟩
    · unfold checkAll
      rw [Act.run_bind, hcheck, Act.run_bind, hrest]
      rfl
    · rw [List.map_cons, hresults.listed]
    · cases k with
      | zero =>
        cases hk
        rfl
      | succ k =>
        have hother := hresults.each k other result hk
        rw [hchecked.files, hsession, hseed, hissued, Nat.add_assoc, ← hids] at hother
        exact hother
    · rw [hids]
      rw [hchecked.files] at hlater
      exact hchecked.trans hlater

theorem checkDirectory_of_error {e : CaseFault} (h : discover w.files d = .error e) :
    (checkDirectory patterns d).run w = (.error e, w) := by
  unfold checkDirectory
  rw [Act.run_bind, Act.run_get]
  dsimp only
  rw [h]
  rfl

theorem checkDirectory_of_ok (patterns : Patterns) (h : discover w.files d = .ok paths) :
    ∃ results w', (checkDirectory patterns d).run w = (.ok results, w') ∧ Outcomes patterns w paths results ∧
      Checked w (idsFor w.files paths) w' := by
  obtain ⟨results, w', hrun, hresults, hchecked⟩ := checkAll_run patterns paths w
  refine ⟨results, w', ?_, hresults, hchecked⟩
  unfold checkDirectory
  rw [Act.run_bind, Act.run_get]
  dsimp only
  rw [h]
  dsimp only
  rw [Act.run_bind, hrun]
  rfl

/-- A case has its outcome in any world in which the session is the same, the id is the next one, and only
other cases were changed. -/
theorem check_of_otherCases {names : List String} {node : Node} (ht : w.files.IsTree)
    (hd : w.files.lookUp d = .ok (place, .directory)) (hnode : w.files.node? (place ++ names) = some node) {id : String}
    {alone : World} (hfiles : OtherCases (place ++ names) w.files alone.files) (hsession : alone.session = w.session)
    (hid : idText alone.seed alone.issued = id) :
    ((check patterns (d.descend names)).run alone).1 = outcome patterns w.files w.session id (d.descend names) := by
  obtain ⟨after, hrun, -⟩ := check_run patterns (d.descend names) alone
  rw [hrun, hsession, hid]
  exact outcome_of_otherCases ht hd hnode hfiles patterns w.session id

/-- The outcomes of the cases at some paths below a directory, each as it is told of the case alone: in any
world with the same session and the same next id, in which other cases may have been changed, taken away or
added. -/
structure Independent (patterns : Patterns) (w : World) (d : Path) (place : Place) (paths : List Path)
    (results : List (Path × Except CaseFault Report)) : Prop where
  listed : results.map (·.1) = paths
  alone : ∀ k q result, results[k]? = some (q, result) → ∃ names bytes time,
    q = d.descend names ∧ w.files.node? (place ++ names) = some (.file bytes time) ∧
    ∀ alone : World, OtherCases (place ++ names) w.files alone.files → alone.session = w.session →
      idText alone.seed alone.issued = idText w.seed (w.issued + idsFor w.files (paths.take k)) →
      ((check patterns q).run alone).1 = result

/-- **A batch loses nothing**: the outcomes of the cases that are found are those of the cases alone. -/
theorem Outcomes.independent (h : Outcomes patterns w paths results) (ht : w.files.IsTree)
    (hd : w.files.lookUp d = .ok (place, .directory)) (hfound : discover w.files d = .ok paths) :
    Independent patterns w d place paths results where
  listed := h.listed
  alone k q result hk := by
    have hmem : q ∈ paths := by
      rw [← h.listed]
      exact List.mem_map_of_mem (List.mem_of_getElem? hk)
    obtain ⟨names, bytes, time, hnode, rfl, -⟩ := (mem_of_discover ht hd hfound).mp hmem
    refine ⟨names, bytes, time, rfl, hnode, fun alone hfiles hsession hid => ?_⟩
    rw [h.each k _ result hk]
    exact check_of_otherCases ht hd hnode hfiles hsession hid

end TestCase

/-! ### Counting on the command line -/

namespace CommandLine

open TestCase

variable {w w' : World} {directory : Path} {results : List (Path × Except CaseFault Report)}

theorem testCommand_of_error {e : CaseFault}
    (h : (checkDirectory .standard (absolute w.files directory)).run w = (.error e, w')) :
    (testCommand directory).run w = (errorResult (.casesUnusable e.message), w') := by
  unfold testCommand
  rw [Act.run_bind, Act.run_get]
  dsimp only
  rw [Act.run_bind, h]
  rfl

/-- What is printed for some outcomes, and the exit code. -/
def tally (results : List (Path × Except CaseFault Report)) (passed failed : Nat) : Result :=
  ⟨results.map caseLine ++ ["PASSED:" ++ toString passed, "FAILED:" ++ toString failed,
    if failed = 0 then "RESULT:OK" else "RESULT:FAILED"], if failed = 0 then 0 else 1⟩

/-- **The cases that pass and those that fail are counted.** -/
theorem testCommand_of_ok (h : (checkDirectory .standard (absolute w.files directory)).run w = (.ok results, w')) :
    ∃ told, (testCommand directory).run w =
      (tally results (results.countP passes) (results.countP fun r => !passes r), { w' with told := told }) := by
  have hpassed : (results.filter passes).length = results.countP passes := List.countP_eq_length_filter.symm
  have hfailed : results.length - (results.filter passes).length = results.countP fun r => !passes r := by
    have hsum := List.length_eq_countP_add_countP passes (l := results)
    simp only [Bool.not_eq_true, Bool.decide_eq_false] at hsum
    omega
  unfold testCommand
  rw [Act.run_bind, Act.run_get]
  dsimp only
  rw [Act.run_bind, h]
  dsimp only
  rw [Act.run_bind, Act.run_tell, hfailed, hpassed]
  exact ⟨_, rfl⟩

theorem exitCode_tally_eq_zero_iff (passed : Nat) :
    (tally results passed (results.countP fun r => !passes r)).exitCode = 0 ↔ ∀ r ∈ results, passes r = true := by
  have hnone : (results.countP fun r => !passes r) = 0 ↔ ∀ r ∈ results, passes r = true := by
    simp [List.countP_eq_zero]
  rw [← hnone]
  by_cases hzero : (results.countP fun r => !passes r) = 0
  · exact iff_of_true (if_pos hzero) hzero
  · exact iff_of_false (ne_of_eq_of_ne (if_neg hzero) Nat.one_ne_zero) hzero

theorem exitCode_tally (passed failed : Nat) :
    (tally results passed failed).exitCode = 0 ∨ (tally results passed failed).exitCode = 1 := by
  unfold tally
  split_ifs
  · exact Or.inl rfl
  · exact Or.inr rfl

end CommandLine

/-! ### Directories of cases -/

namespace TestCase

open CommandLine (testCommand tally passes errorResult absolute)

/-- A directory with a broken case, and a case that passes in a directory below it. -/
def sampleCases : World :=
  { (default : World) with files := ⟨[(["cases"], .directory),
      (["cases", "a.case.json"], .file (Text.toBytes "\x7b") none),
      (["cases", "a"], .directory),
      (["cases", "a", "z.case.json"], .file (Text.toBytes ("\x7b\"schemaVersion\":\"sh-tool-case.v1\"," ++
        "\"script\":\"x\",\"expected\":\x7b\"result\":\"succeeded\"\x7d\x7d")) none)], []⟩ }

theorem isTree_sampleCases : sampleCases.files.IsTree where
  distinct := by decide +kernel
  rooted := by simp [sampleCases]
  parent := by simp [sampleCases, FileTree.node?]
  name := by
    have hname : ∀ s ∈ ["cases", "a.case.json", "a", "z.case.json"], Path.IsName s := by
      simp only [List.forall_mem_cons, List.not_mem_nil, IsEmpty.forall_iff, implies_true, and_true]
      refine ⟨?_, ?_, ?_, ?_⟩ <;> constructor <;> decide +kernel
    simp only [List.forall_mem_cons, List.not_mem_nil, IsEmpty.forall_iff, implies_true, and_true] at hname
    simp [sampleCases, hname]
  current := rfl

theorem lookUp_sampleCases : sampleCases.files.lookUp ⟨"/cases"⟩ = .ok (["cases"], .directory) :=
  FileTree.lookUp_eq_ok_iff.mpr ⟨by decide +kernel, by simp [sampleCases, FileTree.node?]⟩

/-- The deeper case comes first, as its directory does. -/
theorem discover_sampleCases : discover sampleCases.files ⟨"/cases"⟩ =
    .ok [⟨"/cases/a/z.case.json"⟩, ⟨"/cases/a.case.json"⟩] := by
  have hmet : met sampleCases.files ⟨"/cases"⟩ = [⟨"/cases/a.case.json"⟩, ⟨"/cases/a/z.case.json"⟩] := by
    decide +kernel
  have hfound : discover sampleCases.files ⟨"/cases"⟩ = _ :=
    discover_of_met_ne_nil (by rw [hmet]; exact List.cons_ne_nil _ _)
  have hprecedes : [(⟨"/cases/a/z.case.json"⟩ : Path), ⟨"/cases/a.case.json"⟩].Pairwise Precedes :=
    List.pairwise_pair.mpr (by unfold Precedes; decide +kernel)
  rw [hfound, Except.ok.injEq]
  refine (pairwise_of_discover isTree_sampleCases lookUp_sampleCases hfound).eq_of_mem_iff hprecedes fun q => ?_
  rw [(List.mergeSort_perm _ _).mem_iff, hmet, List.mem_pair, List.mem_pair, or_comm]

end TestCase

end HostedScripts
