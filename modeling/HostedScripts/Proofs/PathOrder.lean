import HostedScripts.Proofs.Extension
import Mathlib.Data.List.Induction
import Mathlib.Data.List.Lex
import Mathlib.Data.Prod.Lex
import Mathlib.Order.Lex

/-! # The order of paths, and paths below a directory

Paths are compared component by component. The order of components is that of their ranks (`Component.rank`), so
that one list of components comes before another one exactly if its ranks are smaller in the order of lists
(`Path.before_iff`): what holds of a linear order holds of paths.

A name that stands in a directory adds one component to the path of the directory (`Path.components_join`), so a
path below a directory has the components of the directory and then the names (`Path.components_descend`), and
different names lead to different paths. -/

namespace HostedScripts

/-! ### The order -/

/-- What a component is compared by. -/
def Component.rank : Component → ℕ ×ₗ String
  | .root => toLex (0, "")
  | .current => toLex (1, "")
  | .up => toLex (2, "")
  | .name s => toLex (3, s)

theorem Component.rank_injective : Function.Injective Component.rank := by
  intro a b h
  cases a <;> cases b <;> simp_all [Component.rank]

namespace Path

theorem componentBefore_iff (a b : Component) : componentBefore a b = true ↔ a.rank < b.rank := by
  cases a <;> cases b <;> simp [componentBefore, Component.rank, Prod.Lex.lt_iff]

/-- Lists of components are in the order of their ranks. -/
theorem before_iff (as bs : List Component) :
    before as bs = true ↔ as.map Component.rank < bs.map Component.rank := by
  induction as generalizing bs with
  | nil => cases bs <;> simp [before]
  | cons a as ih =>
    cases bs with
    | nil => simp [before]
    | cons b bs =>
      rw [before, Bool.or_eq_true, Bool.and_eq_true, decide_eq_true_iff, componentBefore_iff, ih, List.map_cons,
        List.map_cons, List.cons_lt_cons_iff, Component.rank_injective.eq_iff]

/-- What a path is compared by. -/
def ranks (p : Path) : List (ℕ ×ₗ String) := p.components.map Component.rank

theorem ranks_eq_iff {p q : Path} : p.ranks = q.ranks ↔ p.components = q.components :=
  (List.map_injective_iff.mpr Component.rank_injective).eq_iff

theorem notAfter_iff {p q : Path} : notAfter p q = true ↔ p.ranks ≤ q.ranks := by
  unfold notAfter
  rw [Bool.not_eq_true', ← Bool.not_eq_true, before_iff]
  exact not_lt

/-! ### Names in a directory -/

/-- A name that something may have in a directory: a slash would end it, a zero character the path, and it
adds a component. -/
structure IsName (s : String) : Prop where
  slash : '/' ∉ s.toList
  zero : '\x00' ∉ s.toList
  idle : isIdle s.toList = false
  up : s.toList ≠ ['.', '.']
  short : s.utf8ByteSize ≤ 255

variable {d p q : Path} {s : String}

/-- A name is written behind a directory and a slash, unless the directory ends with a slash or is empty. -/
theorem join_of_isName (d : Path) (hs : IsName s) :
    ((d.text = "" ∨ ∃ most, d.text.toList = most ++ ['/']) ∧
        (d.join ⟨s⟩).text.toList = d.text.toList ++ s.toList) ∨
      (d.text ≠ "" ∧ (d.join ⟨s⟩).text.toList = d.text.toList ++ '/' :: s.toList) := by
  have hrelative : (⟨s⟩ : Path).isAbsolute ≠ true := fun h => by
    obtain ⟨rest, hrest⟩ := isAbsolute_iff.mp h
    refine hs.slash ?_
    have hcs : s.toList = '/' :: rest := hrest
    rw [hcs]
    exact List.mem_cons_self
  unfold join
  rw [if_neg hrelative]
  split_ifs with hends
  · refine Or.inl ⟨?_, String.toList_append⟩
    rcases Bool.or_eq_true_iff.mp hends with hempty | hslash
    · exact Or.inl (of_decide_eq_true hempty)
    · have hsuffix : "/".toList <:+ d.text.toSlice.copy.toList := String.Slice.endsWith_string_iff.mp hslash
      rw [String.copy_toSlice] at hsuffix
      obtain ⟨most, hmost⟩ := hsuffix
      exact Or.inr ⟨most, hmost.symm⟩
  · refine Or.inr ⟨fun hempty => hends ?_, ?_⟩
    · rw [hempty]
      rfl
    · rw [String.toList_append, String.toList_append, List.append_assoc]
      rfl

theorem lead_congr {first : List Char} {more more' : List (List Char)}
    (hp : p.text.toList.splitOn '/' = first :: more) (hq : q.text.toList.splitOn '/' = first :: more')
    (hroot : first = [] → more ≠ [] ∧ more' ≠ []) : q.parts.lead = p.parts.lead := by
  rw [← Text.splitList_eq_splitOn] at hp hq
  by_cases hempty : first = []
  · obtain ⟨hmore, hmore'⟩ := hroot hempty
    rw [hempty] at hp hq
    rw [parts_of_root hp hmore, parts_of_root hq hmore']
  · by_cases hdot : first = ['.']
    · rw [hdot] at hp hq
      rw [parts_of_current hp, parts_of_current hq]
    · rw [parts_of_name hp hempty hdot, parts_of_name hq hempty hdot]

theorem components_eq (p : Path) : p.components =
    p.parts.lead.toList ++ ((p.text.toList.splitOn '/').filter (!isIdle ·)).map componentOf := by
  unfold components
  rw [filter_pieces]

/-- **A name adds one component to the path of a directory.** -/
theorem components_join (d : Path) (hs : IsName s) : (d.join ⟨s⟩).components = d.components ++ [.name s] := by
  have hname : s.toList.splitOn '/' = [s.toList] := List.splitOn_eq_singleton hs.slash
  have hkept : ([s.toList].filter (!isIdle ·)).map componentOf = [.name s] := by
    simp [hs.idle, componentOf, hs.up]
  have hslash : ∀ most, (most ++ '/' :: s.toList).splitOn '/' = most.splitOn '/' ++ [s.toList] := fun most => by
    rw [← hname]
    exact List.splitOnP_append_cons most s.toList (beq_self_eq_true '/')
  -- in all cases the pieces of the name come after pieces that are the directory's
  have hsplit : (d.text = "" ∧ (d.join ⟨s⟩).text.toList.splitOn '/' = [s.toList]) ∨
      ∃ first more more', d.text.toList.splitOn '/' = first :: more ∧
        (d.join ⟨s⟩).text.toList.splitOn '/' = first :: more' ++ [s.toList] ∧ (first = [] → more ≠ []) ∧
        (first :: more).filter (!isIdle ·) = (first :: more').filter (!isIdle ·) := by
    rcases join_of_isName d hs with ⟨hd | ⟨most, hmost⟩, htext⟩ | ⟨hd, htext⟩
    · refine Or.inl ⟨hd, ?_⟩
      rw [htext, hd]
      exact hname
    · obtain ⟨first, more, hfirst⟩ := List.exists_cons_of_ne_nil (List.splitOn_ne_nil '/' most)
      refine Or.inr ⟨first, more ++ [[]], more, ?_, ?_, fun _ => by simp, ?_⟩
      · have hempty : (most ++ '/' :: []).splitOn '/' = most.splitOn '/' ++ [[]] :=
          List.splitOnP_append_cons most [] (beq_self_eq_true '/')
        rw [hmost, hempty, hfirst]
        rfl
      · rw [htext, hmost, List.append_assoc, List.singleton_append, hslash, hfirst]
      · rw [← List.cons_append, List.filter_append]
        exact List.append_nil _
    · obtain ⟨first, more, hfirst⟩ := List.exists_cons_of_ne_nil (List.splitOn_ne_nil '/' d.text.toList)
      refine Or.inr ⟨first, more, more, hfirst, ?_, ?_, rfl⟩
      · rw [htext, hslash, hfirst]
      · rintro rfl rfl
        have hback : ['/'].intercalate (d.text.toList.splitOn '/') = d.text.toList := List.intercalate_splitOn '/'
        rw [hfirst] at hback
        exact hd (String.toList_eq_nil_iff.mp hback.symm)
  rcases hsplit with ⟨hd, hs'⟩ | ⟨first, more, more', hfirst, hjoin, hroot, hfilter⟩
  · have hlead : (d.join ⟨s⟩).parts.lead = none := by
      rw [← Text.splitList_eq_splitOn] at hs'
      have hne : s.toList ≠ [] ∧ s.toList ≠ ['.'] := by simpa [isIdle] using hs.idle
      rw [parts_of_name hs' hne.1 hne.2]
    have hnone : d.components = [] := by
      obtain ⟨text⟩ := d
      obtain rfl : text = "" := hd
      decide
    rw [components_eq, hlead, hs', hkept, hnone]
    rfl
  · have hlead : (d.join ⟨s⟩).parts.lead = d.parts.lead :=
      lead_congr hfirst hjoin fun h => ⟨hroot h, by simp⟩
    rw [components_eq, components_eq d, hlead, hjoin, hfirst, hfilter, List.filter_append, List.map_append, hkept,
      List.append_assoc]

theorem getLast?_of_fileName? (h : p.fileName? = some s) : p.components.getLast? = some (.name s) := by
  unfold fileName? at h
  split at h
  · next hlast =>
    cases h
    exact hlast
  · cases h

/-- The path that leads from a directory down by some names. -/
def descend (d : Path) (names : List String) : Path := names.foldl (fun q s => q.join ⟨s⟩) d

theorem descend_concat (d : Path) (names : List String) (s : String) :
    d.descend (names ++ [s]) = (d.descend names).join ⟨s⟩ := List.foldl_concat ..

/-- **A path below a directory has the components of the directory and then the names.** -/
theorem components_descend (d : Path) {names : List String} (h : ∀ s ∈ names, IsName s) :
    (d.descend names).components = d.components ++ names.map .name := by
  induction names using List.reverseRecOn with
  | nil => exact (List.append_nil _).symm
  | append_singleton names s ih =>
    obtain ⟨hnames, hs⟩ := List.forall_mem_append.mp h
    rw [descend_concat, components_join _ (hs s (List.mem_singleton_self s)), ih hnames, List.map_append,
      List.append_assoc]
    rfl

theorem name_injective : Function.Injective Component.name := fun _ _ h => Component.name.inj h

theorem eq_of_descend {names names' : List String} (h : ∀ s ∈ names, IsName s) (h' : ∀ s ∈ names', IsName s)
    (heq : (d.descend names).components = (d.descend names').components) : names = names' := by
  rw [components_descend d h, components_descend d h'] at heq
  exact List.map_injective_iff.mpr name_injective (List.append_cancel_left heq)

end Path

end HostedScripts
