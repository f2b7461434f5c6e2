import HostedScripts.Proofs.TreeShape
import HostedScripts.TestCase.Run
import Mathlib.Data.List.Sort

/-! # Finding cases

The case files below a directory are found by walking down the directory. What is found are exactly the files
below the directory whose paths end as those of cases do (`mem_of_discover`), each once and in the order of
their paths (`pairwise_of_discover`). A list that is strictly in order is told by what it contains, so in
whatever order a tree lists its nodes, the same cases are found (`discover_of_node?`). -/

namespace HostedScripts.TestCase

variable {files files' : FileTree} {d q : Path} {place : Place} {paths : List Path}

/-- A path leads down from a directory to a file, and ends as those of cases do. -/
def IsCase (files : FileTree) (d : Path) (place : Place) (q : Path) : Prop :=
  ∃ names bytes time, files.node? (place ++ names) = some (.file bytes time) ∧ q = d.descend names ∧
    q.text.endsWith suffix = true

/-- A path stands before another one, component by component. -/
def Precedes (p q : Path) : Prop := Path.before p.components q.components = true

theorem precedes_iff {p q : Path} : Precedes p q ↔ p.ranks < q.ranks := Path.before_iff _ _

instance irrefl_precedes : Std.Irrefl Precedes where
  irrefl _ h := lt_irrefl _ (precedes_iff.mp h)

instance antisymm_precedes : Std.Antisymm Precedes where
  antisymm _ _ h h' := absurd (precedes_iff.mp h') (lt_asymm (precedes_iff.mp h))

/-- The paths of all cases, as walking down the directory meets them. -/
def met (files : FileTree) (d : Path) : List Path := (files.walk d).filter (·.text.endsWith suffix)

theorem discover_of_met_eq_nil (h : met files d = []) : discover files d = .error (.noCases d) := by
  unfold met at h
  unfold discover
  rw [h]

theorem discover_of_met_ne_nil (h : met files d ≠ []) :
    discover files d = .ok ((met files d).mergeSort Path.notAfter) := by
  unfold met at h ⊢
  unfold discover
  split
  · next hnil => exact absurd hnil h
  · rfl

theorem discover_eq_ok_iff :
    discover files d = .ok paths ↔ met files d ≠ [] ∧ paths = (met files d).mergeSort Path.notAfter := by
  by_cases h : met files d = []
  · rw [discover_of_met_eq_nil h]
    exact iff_of_false nofun fun hpaths => hpaths.1 h
  · rw [discover_of_met_ne_nil h, Except.ok.injEq]
    exact ⟨fun hpaths => ⟨h, hpaths.symm⟩, fun hpaths => hpaths.2.symm⟩

section Trees

variable (ht : files.IsTree) (hd : files.lookUp d = .ok (place, .directory))
include ht hd

theorem mem_met_iff : q ∈ met files d ↔ IsCase files d place q := by
  unfold met IsCase
  rw [List.mem_filter, ht.mem_walk_iff hd]
  constructor
  · rintro ⟨⟨names, bytes, time, hnode, hq⟩, hsuffix⟩
    exact ⟨names, bytes, time, hnode, hq, hsuffix⟩
  · rintro ⟨names, bytes, time, hnode, hq, hsuffix⟩
    exact ⟨⟨names, bytes, time, hnode, hq⟩, hsuffix⟩

/-- What is found are the case files below the directory. -/
theorem mem_of_discover (h : discover files d = .ok paths) : q ∈ paths ↔ IsCase files d place q := by
  obtain ⟨-, rfl⟩ := discover_eq_ok_iff.mp h
  rw [(List.mergeSort_perm _ _).mem_iff, mem_met_iff ht hd]

/-- The cases are found in the order of their paths, each once. -/
theorem pairwise_of_discover (h : discover files d = .ok paths) : paths.Pairwise Precedes := by
  obtain ⟨-, rfl⟩ := discover_eq_ok_iff.mp h
  have hsorted : ((met files d).mergeSort Path.notAfter).Pairwise fun p q => Path.notAfter p q = true := by
    refine List.pairwise_mergeSort (fun p q r hpq hqr => ?_) (fun p q => ?_) _
    · exact Path.notAfter_iff.mpr ((Path.notAfter_iff.mp hpq).trans (Path.notAfter_iff.mp hqr))
    · rw [Bool.or_eq_true, Path.notAfter_iff, Path.notAfter_iff]
      exact le_total p.ranks q.ranks
  have hapart : ((met files d).mergeSort Path.notAfter).Pairwise fun p q => p.components ≠ q.components := by
    refine ((List.mergeSort_perm _ _).pairwise_iff fun h => Ne.symm h).mpr ?_
    exact (ht.pairwise_walk hd).filter _
  refine (hsorted.and hapart).imp fun {p q} h => precedes_iff.mpr ?_
  exact lt_of_le_of_ne (Path.notAfter_iff.mp h.1) fun heq => h.2 (Path.ranks_eq_iff.mp heq)

/-- **No case is found exactly if there is none.** -/
theorem discover_eq_error_iff {e : CaseFault} :
    discover files d = .error e ↔ e = .noCases d ∧ ∀ q, ¬ IsCase files d place q := by
  by_cases h : met files d = []
  · rw [discover_of_met_eq_nil h, Except.error.injEq]
    refine ⟨fun he => ⟨he.symm, fun q hq => ?_⟩, fun he => he.1.symm⟩
    rw [← mem_met_iff ht hd, h] at hq
    cases hq
  · rw [discover_of_met_ne_nil h]
    obtain ⟨q, hq⟩ := List.exists_mem_of_ne_nil _ h
    exact iff_of_false nofun fun he => he.2 q ((mem_met_iff ht hd).mp hq)

/-- **In whatever order a tree lists its nodes, the same cases are found.** -/
theorem discover_of_node? (ht' : files'.IsTree) (hcurrent : files'.current = files.current)
    (hnode : ∀ place, files'.node? place = files.node? place) : discover files' d = discover files d := by
  have hdiffers : FileTree.DiffersAt (fun _ => False) files files' :=
    ⟨hcurrent, fun place _ => hnode place, fun _ h => h.elim⟩
  have hd' : files'.lookUp d = .ok (place, .directory) := hdiffers.lookUp hd (hnode place)
  have hcase : ∀ q, IsCase files' d place q ↔ IsCase files d place q := fun q => by
    unfold IsCase
    simp only [hnode]
  cases hfound : discover files d with
  | error e =>
    obtain ⟨he, hnone⟩ := (discover_eq_error_iff ht hd).mp hfound
    exact (discover_eq_error_iff ht' hd').mpr ⟨he, fun q hq => hnone q ((hcase q).mp hq)⟩
  | ok paths =>
    cases hfound' : discover files' d with
    | error e =>
      obtain ⟨q, hq⟩ := List.exists_mem_of_ne_nil _ (discover_eq_ok_iff.mp hfound).1
      obtain ⟨-, hnone⟩ := (discover_eq_error_iff ht' hd').mp hfound'
      exact absurd ((hcase q).mpr ((mem_met_iff ht hd).mp hq)) (hnone q)
    | ok paths' =>
      have hsame : ∀ q, q ∈ paths' ↔ q ∈ paths := fun q => by
        rw [mem_of_discover ht' hd' hfound', mem_of_discover ht hd hfound, hcase]
      rw [(pairwise_of_discover ht' hd' hfound').eq_of_mem_iff (pairwise_of_discover ht hd hfound) hsame]

end Trees

end HostedScripts.TestCase
