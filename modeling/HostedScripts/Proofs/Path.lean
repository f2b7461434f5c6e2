import HostedScripts.Path
import Mathlib.Data.List.Basic
import Mathlib.Data.List.TakeWhile
import Mathlib.Data.String.Basic

/-! # Names at the end of a path, and the root in front

A path is split at its slashes. A name without slashes that is joined to a path is the last of its pieces
(`Path.getLast?_pieces_join`), and its last component (`Path.getLast?_components_join`), however the path
before it is written. Absolute paths stay absolute where paths are joined and directories are taken
(`Path.isAbsolute_join`, `Path.parent?_of_isAbsolute`). -/

namespace HostedScripts

namespace Text

theorem splitList_eq_splitOn (sep : Char) (cs : List Char) : splitList sep cs = cs.splitOn sep := by
  induction cs with
  | nil => rfl
  | cons c cs ih =>
    have hstep : (c :: cs).splitOn sep =
        if c == sep then [] :: cs.splitOn sep else (cs.splitOn sep).modifyHead (c :: ·) :=
      List.splitOnP_cons_eq_if_modifyHead c cs
    rw [splitList, hstep, ih]
    cases h : cs.splitOn sep with
    | nil => exact absurd h (List.splitOn_ne_nil sep cs)
    | cons part parts => rfl

theorem splitList_flatMap {sep : Char} {parts : List (List Char)} (h : ∀ part ∈ parts, sep ∉ part)
    (rest : List Char) :
    splitList sep ((parts.flatMap (· ++ [sep])) ++ rest) = parts ++ splitList sep rest := by
  simp only [splitList_eq_splitOn]
  induction parts with
  | nil => rfl
  | cons part parts ih =>
    have htext : ((part :: parts).flatMap (· ++ [sep])) ++ rest =
        part ++ sep :: ((parts.flatMap (· ++ [sep])) ++ rest) := by simp
    have hfirst : (part ++ sep :: ((parts.flatMap (· ++ [sep])) ++ rest)).splitOn sep =
        part.splitOn sep ++ ((parts.flatMap (· ++ [sep])) ++ rest).splitOn sep :=
      List.splitOnP_append_cons _ _ (beq_self_eq_true sep)
    rw [htext, hfirst, List.splitOn_eq_singleton (h part List.mem_cons_self),
      ih fun p hp => h p (List.mem_cons_of_mem part hp)]
    rfl

theorem notMem_of_mem_splitOn {sep : Char} {cs part : List Char} (h : part ∈ cs.splitOn sep) : sep ∉ part := by
  rw [← splitList_eq_splitOn] at h
  induction cs generalizing part with
  | nil =>
    obtain rfl : part = [] := List.mem_singleton.mp h
    exact List.not_mem_nil
  | cons c cs ih =>
    obtain ⟨first, more, hsplit⟩ : ∃ first more, splitList sep cs = first :: more :=
      List.exists_cons_of_ne_nil (by rw [splitList_eq_splitOn]; exact List.splitOn_ne_nil sep cs)
    rw [hsplit] at ih
    rw [splitList, hsplit] at h
    dsimp only at h
    split_ifs at h with hsep
    · rcases List.mem_cons.mp h with rfl | hpart
      · exact List.not_mem_nil
      · exact ih hpart
    · rcases List.mem_cons.mp h with rfl | hpart
      · rw [List.mem_cons, not_or]
        exact ⟨fun heq => hsep (by rw [heq]; exact beq_self_eq_true c), ih List.mem_cons_self⟩
      · exact ih (List.mem_cons_of_mem first hpart)

theorem intercalate_cons (sep : Char) (part : List Char) (after : List (List Char)) :
    [sep].intercalate (part :: after) = part ++ after.flatMap (sep :: ·) := by
  induction after generalizing part with
  | nil => simp [List.intercalate]
  | cons next after ih =>
    have hstep : [sep].intercalate (part :: next :: after) = part ++ sep :: [sep].intercalate (next :: after) := by
      simp [List.intercalate]
    rw [hstep, ih next, List.flatMap_cons, List.cons_append]

theorem intercalate_append_cons (sep : Char) (before : List (List Char)) (part : List Char)
    (after : List (List Char)) :
    [sep].intercalate (before ++ part :: after) =
      before.flatMap (· ++ [sep]) ++ part ++ after.flatMap (sep :: ·) := by
  induction before with
  | nil => exact intercalate_cons sep part after
  | cons first before ih =>
    have hstep : [sep].intercalate (first :: (before ++ part :: after)) =
        first ++ sep :: [sep].intercalate (before ++ part :: after) := by
      cases before <;> simp [List.intercalate]
    rw [List.cons_append, hstep, ih]
    simp

/-- A part that is followed by further parts is split off from them. -/
theorem splitOn_append_flatMap {sep : Char} {part : List Char} {after : List (List Char)} (hpart : sep ∉ part)
    (hafter : ∀ p ∈ after, sep ∉ p) : (part ++ after.flatMap (sep :: ·)).splitOn sep = part :: after := by
  rw [← intercalate_cons]
  refine List.splitOn_intercalate sep (fun p hp => ?_) (List.cons_ne_nil part after)
  rcases List.mem_cons.mp hp with rfl | hp
  · exact hpart
  · exact hafter p hp

end Text

namespace Path

/-! ### What stands in front -/

theorem parts_of_root {p : Path} {more : List (List Char)} (h : Text.splitList '/' p.text.toList = [] :: more)
    (hmore : more ≠ []) : p.parts = ⟨some .root, more⟩ := by
  unfold parts
  rw [h]
  cases more with
  | nil => exact absurd rfl hmore
  | cons piece more => rfl

theorem parts_of_current {p : Path} {more : List (List Char)} (h : Text.splitList '/' p.text.toList = ['.'] :: more) :
    p.parts = ⟨some .current, more⟩ := by
  unfold parts
  rw [h]
  rfl

theorem parts_of_name {p : Path} {first : List Char} {more : List (List Char)}
    (h : Text.splitList '/' p.text.toList = first :: more) (hroot : first ≠ []) (hdot : first ≠ ['.']) :
    p.parts = ⟨none, first :: more⟩ := by
  unfold parts
  rw [h]
  split
  · next heq => exact absurd (List.cons.inj heq).1 hroot
  · next heq => exact absurd (List.cons.inj heq).1 hroot
  · next heq => exact absurd (List.cons.inj heq).1 hdot
  · rfl

/-! ### Names that are joined -/

/-- **A joined path ends with what was joined to it**, behind a slash if there is something before it. -/
theorem exists_toList_join (d : Path) (name : String) :
    ∃ before : List Char, (d.join ⟨name⟩).text.toList = before ++ name.toList ∧
      (before = [] ∨ ∃ most, before = most ++ ['/']) := by
  unfold join
  split_ifs with habsolute hends
  · exact ⟨[], rfl, Or.inl rfl⟩
  · refine ⟨d.text.toList, String.toList_append, ?_⟩
    rcases Bool.or_eq_true_iff.mp hends with hempty | hslash
    · left
      rw [of_decide_eq_true hempty]
      rfl
    · right
      have hsuffix : "/".toList <:+ d.text.toSlice.copy.toList := String.Slice.endsWith_string_iff.mp hslash
      rw [String.copy_toSlice] at hsuffix
      obtain ⟨most, hmost⟩ := hsuffix
      exact ⟨most, hmost.symm⟩
  · refine ⟨d.text.toList ++ ['/'], ?_, Or.inr ⟨_, rfl⟩⟩
    rw [String.toList_append, String.toList_append]
    rfl

theorem getLast?_pieces_join (d : Path) {name : String} (hslash : '/' ∉ name.toList)
    (hidle : isIdle name.toList = false) :
    (d.join ⟨name⟩).parts.pieces.getLast? = some name.toList := by
  obtain ⟨before, htext, hbefore⟩ := exists_toList_join d name
  have hname : name.toList.splitOn '/' = [name.toList] := List.splitOn_eq_singleton hslash
  have hsplit : ∃ some : List (List Char),
      Text.splitList '/' (d.join ⟨name⟩).text.toList = some ++ [name.toList] := by
    rw [Text.splitList_eq_splitOn, htext]
    rcases hbefore with rfl | ⟨most, rfl⟩
    · exact ⟨[], by rw [List.nil_append, hname]; rfl⟩
    · refine ⟨most.splitOn '/', ?_⟩
      rw [List.append_assoc, List.singleton_append, ← hname]
      exact List.splitOnP_append_cons _ _ (beq_self_eq_true '/')
  obtain ⟨pieces, hpieces⟩ := hsplit
  -- so the name is not taken for what stands in front of the pieces
  have hnot : name.toList ≠ [] ∧ name.toList ≠ ['.'] := by
    simpa [isIdle] using hidle
  unfold parts
  rw [hpieces]
  cases pieces with
  | nil =>
    rw [List.nil_append]
    split
    · next h => exact absurd (List.cons.inj h).1 hnot.1
    · next h => exact absurd (List.cons.inj h).1 hnot.1
    · next h => exact absurd (List.cons.inj h).1 hnot.2
    · rfl
  | cons first pieces =>
    have hlast : (pieces ++ [name.toList]).getLast? = some name.toList := List.getLast?_concat
    rw [List.cons_append]
    split
    · next h => simp at h
    · next h =>
      rw [← (List.cons.inj h).2]
      exact hlast
    · next h =>
      rw [← (List.cons.inj h).2]
      exact hlast
    · dsimp only
      rw [← List.cons_append]
      exact List.getLast?_concat

/-- **A name is the last component of a path that it was joined to.** -/
theorem getLast?_components_join (d : Path) {name : String} (hslash : '/' ∉ name.toList)
    (hidle : isIdle name.toList = false) (hup : name.toList ≠ ['.', '.']) :
    (d.join ⟨name⟩).components.getLast? = some (.name name) := by
  obtain ⟨most, hmost⟩ := List.getLast?_eq_some_iff.mp (getLast?_pieces_join d hslash hidle)
  have hcomponent : componentOf name.toList = .name name := by
    rw [componentOf, if_neg hup, String.ofList_toList]
  unfold components
  rw [hmost, List.filter_append, List.map_append]
  have hkept : [name.toList].filter (!isIdle ·) = [name.toList] := by simp [hidle]
  rw [hkept, List.map_singleton, hcomponent, ← List.append_assoc]
  exact List.getLast?_concat

/-! ### Absolute paths -/

theorem isAbsolute_iff {p : Path} : p.isAbsolute = true ↔ ∃ rest, p.text.toList = '/' :: rest := by
  unfold isAbsolute
  rw [String.startsWith_string_iff]
  constructor
  · rintro ⟨rest, hrest⟩
    exact ⟨rest, hrest.symm⟩
  · rintro ⟨rest, hrest⟩
    exact ⟨rest, hrest.symm⟩

theorem isAbsolute_join {d : Path} (h : d.isAbsolute = true) (q : Path) : (d.join q).isAbsolute = true := by
  obtain ⟨rest, hrest⟩ := isAbsolute_iff.mp h
  unfold join
  split_ifs with hq hends
  · exact hq
  · exact isAbsolute_iff.mpr ⟨rest ++ q.text.toList, by simp [hrest]⟩
  · exact isAbsolute_iff.mpr ⟨rest ++ '/' :: q.text.toList, by simp [hrest]⟩

theorem parts_of_isAbsolute {p : Path} (h : p.isAbsolute = true) : p.parts.lead = some .root := by
  obtain ⟨rest, hrest⟩ := isAbsolute_iff.mp h
  have hsplit : Text.splitList '/' p.text.toList = [] :: Text.splitList '/' rest := by
    simp only [Text.splitList_eq_splitOn, hrest]
    exact List.splitOnP_append_cons [] rest (beq_self_eq_true '/')
  have hrest : Text.splitList '/' rest ≠ [] := by
    rw [Text.splitList_eq_splitOn]
    exact List.splitOn_ne_nil '/' rest
  unfold parts
  rw [hsplit]
  cases hpieces : Text.splitList '/' rest with
  | nil => exact absurd hpieces hrest
  | cons piece pieces => rfl

/-- Where no piece adds a component there is only what stands in front. -/
theorem components_of_trimPieces {p : Path} (h : trimPieces p.parts.pieces = []) :
    p.components = p.parts.lead.toList := by
  have hidle : ∀ piece ∈ p.parts.pieces, isIdle piece = true := by
    have hdrop := List.reverse_eq_nil_iff.mp h
    rw [List.dropWhile_eq_nil_iff] at hdrop
    exact fun piece hpiece => hdrop piece (List.mem_reverse.mpr hpiece)
  have hnone : p.parts.pieces.filter (!isIdle ·) = [] :=
    List.filter_eq_nil_iff.mpr fun piece hpiece => by simp [hidle piece hpiece]
  unfold components
  rw [hnone, List.map_nil, List.append_nil]

/-- The directory of an absolute path is absolute; only what leads to the root has none. -/
theorem parent?_of_isAbsolute {p : Path} (h : p.isAbsolute = true) :
    (∃ d, p.parent? = some d ∧ d.isAbsolute = true) ∨ p.components = [.root] := by
  have hlead := parts_of_isAbsolute h
  unfold parent?
  dsimp only
  cases htrim : trimPieces p.parts.pieces with
  | nil =>
    right
    rw [components_of_trimPieces htrim, hlead]
    rfl
  | cons piece pieces =>
    left
    refine ⟨_, rfl, isAbsolute_iff.mpr ⟨joinPieces (trimPieces (piece :: pieces).dropLast), ?_⟩⟩
    unfold ofParts
    rw [hlead, String.toList_ofList]

theorem trimPieces_cons_ne_nil {piece : List Char} (h : isIdle piece = false) (pieces : List (List Char)) :
    trimPieces (piece :: pieces) ≠ [] := fun htrim => by
  have hdrop := List.reverse_eq_nil_iff.mp htrim
  rw [List.dropWhile_eq_nil_iff] at hdrop
  have hidle : isIdle piece = true := hdrop piece (by simp)
  rw [h] at hidle
  cases hidle

/-- Only the empty path and what leads to the root lie in no directory. -/
theorem components_of_parent?_eq_none {p : Path} (h : p.parent? = none) :
    p.text = "" ∨ p.components = [.root] := by
  by_cases habsolute : p.isAbsolute = true
  · rcases parent?_of_isAbsolute habsolute with ⟨d, hd, -⟩ | hroot
    · rw [h] at hd
      cases hd
    · exact Or.inr hroot
  · left
    by_contra hne
    obtain ⟨c, rest, htext⟩ : ∃ c rest, p.text.toList = c :: rest :=
      List.exists_cons_of_ne_nil fun hnil => hne (String.toList_eq_nil_iff.mp hnil)
    have hc : c ≠ '/' := by
      rintro rfl
      exact habsolute (isAbsolute_iff.mpr ⟨rest, htext⟩)
    -- the first piece begins with the first character, so that it adds a component
    obtain ⟨piece, pieces, hsplit⟩ : ∃ piece pieces,
        Text.splitList '/' p.text.toList = (c :: piece) :: pieces := by
      have hrest : Text.splitList '/' rest ≠ [] := by
        rw [Text.splitList_eq_splitOn]
        exact List.splitOn_ne_nil '/' rest
      obtain ⟨piece, pieces, hpieces⟩ := List.exists_cons_of_ne_nil hrest
      refine ⟨piece, pieces, ?_⟩
      rw [htext, Text.splitList, hpieces]
      simp [hc]
    by_cases hdot : c :: piece = ['.']
    · have hparts : p.parts = ⟨some .current, pieces⟩ := by
        unfold parts
        rw [hsplit, hdot]
        rfl
      unfold parent? at h
      rw [hparts] at h
      dsimp only at h
      split at h <;> cases h
    · have hparts : p.parts = ⟨none, (c :: piece) :: pieces⟩ := by
        unfold parts
        rw [hsplit]
        split
        · next heq => simp at heq
        · next heq => simp at heq
        · next heq => exact absurd (List.cons.inj heq).1 hdot
        · rfl
      have hidle : isIdle (c :: piece) = false := by simpa [isIdle] using hdot
      unfold parent? at h
      rw [hparts] at h
      dsimp only at h
      split at h
      · next htrim => exact trimPieces_cons_ne_nil hidle pieces htrim
      · cases h

end Path

end HostedScripts
