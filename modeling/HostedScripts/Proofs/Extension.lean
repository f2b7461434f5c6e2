import HostedScripts.Kinds
import HostedScripts.Proofs.Path
import Mathlib.Logic.Relation

/-! # The extension of a path

`Path.HasExtension` says what the extension of a path is without taking the path apart: the path ends with a
name, behind which nothing but slashes and single dots may stand, and the name is cut at its last dot.
`Path.extension?` finds that extension (`Path.extension?_eq_some_iff`). Letters of another case, directories in
front and separators behind do not change it but for that case (`Path.Rewritten.endsAlike`). -/

namespace HostedScripts

namespace Text

/-- Small form changes letters only, and into letters. -/
theorem toLower_eq_iff {c sep : Char} (h : sep.toNat < 65) : c.toLower = sep ↔ c = sep := by
  unfold Char.toLower
  split_ifs with hupper
  · obtain ⟨hfirst, hlast⟩ := hupper
    have hfirst : 65 ≤ c.toNat := UInt32.le_iff_toNat_le.mp hfirst
    have hlast : c.toNat ≤ 90 := UInt32.le_iff_toNat_le.mp hlast
    have hsmall : (c.val + ('a'.val - 'A'.val)).toNat = c.toNat + 32 := by
      have hmod : (c.val + ('a'.val - 'A'.val)).toNat = (c.toNat + 32) % 2 ^ 32 := UInt32.toNat_add _ _
      omega
    constructor
    · intro heq
      have hnat := congrArg Char.toNat heq
      have : c.toNat + 32 = sep.toNat := by rw [← hnat, ← hsmall]; rfl
      omega
    · rintro rfl
      omega
  · rfl

theorem map_toLower_eq_iff {cs seps : List Char} (h : ∀ sep ∈ seps, sep.toNat < 65) :
    cs.map Char.toLower = seps ↔ cs = seps := by
  induction cs generalizing seps with
  | nil => rfl
  | cons c cs ih =>
    cases seps with
    | nil => simp
    | cons sep seps =>
      rw [List.map_cons, List.cons.injEq, List.cons.injEq, toLower_eq_iff (h sep List.mem_cons_self),
        ih fun s hs => h s (List.mem_cons_of_mem sep hs)]

theorem notMem_map_toLower {sep : Char} (h : sep.toNat < 65) {cs : List Char} (hcs : sep ∉ cs) :
    sep ∉ cs.map Char.toLower := by
  intro hmem
  obtain ⟨c, hc, hlower⟩ := List.mem_map.mp hmem
  exact hcs ((toLower_eq_iff h).mp hlower ▸ hc)

theorem splitOn_map_toLower {sep : Char} (h : sep.toNat < 65) (cs : List Char) :
    (cs.map Char.toLower).splitOn sep = (cs.splitOn sep).map (List.map Char.toLower) := by
  simp only [← splitList_eq_splitOn]
  induction cs with
  | nil => rfl
  | cons c cs ih =>
    rw [List.map_cons, splitList, splitList, ih]
    cases splitList sep cs with
    | nil => rfl
    | cons part parts =>
      have hsame : (c.toLower == sep) = (c == sep) := by
        rw [Bool.eq_iff_iff, beq_iff_eq, beq_iff_eq]
        exact toLower_eq_iff h
      rw [List.map_cons]
      dsimp only
      rw [hsame]
      split_ifs <;> rfl

end Text

namespace Path

/-! ### The last name of a path -/

/-- A path ends with a name: nothing or a slash stands in front of the name, and nothing but slashes and
single dots follows it. -/
def EndsWith (p : Path) (name : List Char) : Prop :=
  ∃ (before : List Char) (after : List (List Char)),
    p.text.toList = before ++ name ++ after.flatMap ('/' :: ·) ∧
    (before = [] ∨ before.getLast? = some '/') ∧ '/' ∉ name ∧ isIdle name = false ∧
    ∀ piece ∈ after, isIdle piece = true

/-- The last piece of a text that adds a component to a path. -/
def lastPiece? (cs : List Char) : Option (List Char) := ((cs.splitOn '/').filter (!isIdle ·)).getLast?

theorem slash_notMem_of_isIdle {piece : List Char} (h : isIdle piece = true) : '/' ∉ piece := by
  unfold isIdle at h
  rcases Bool.or_eq_true_iff.mp h with h | h
  · rw [of_decide_eq_true h]
    exact List.not_mem_nil
  · rw [of_decide_eq_true h]
    decide

/-- What follows the last name does not count. -/
theorem lastPiece?_of_after {name : List Char} {after : List (List Char)} (hslash : '/' ∉ name)
    (hname : isIdle name = false) (hafter : ∀ piece ∈ after, isIdle piece = true) :
    lastPiece? (name ++ after.flatMap ('/' :: ·)) = some name := by
  have hnone : after.filter (!isIdle ·) = [] :=
    List.filter_eq_nil_iff.mpr fun piece hpiece => by simp [hafter piece hpiece]
  unfold lastPiece?
  rw [Text.splitOn_append_flatMap hslash fun piece hpiece => slash_notMem_of_isIdle (hafter piece hpiece),
    List.filter_cons_of_pos (by simp [hname]), hnone]
  rfl

theorem lastPiece?_append (before : List Char) {cs name : List Char} (h : lastPiece? cs = some name) :
    lastPiece? (before ++ '/' :: cs) = some name := by
  have hsplit : (before ++ '/' :: cs).splitOn '/' = before.splitOn '/' ++ cs.splitOn '/' :=
    List.splitOnP_append_cons before cs (beq_self_eq_true '/')
  unfold lastPiece? at h ⊢
  rw [hsplit, List.filter_append, List.getLast?_append, h]
  rfl

/-- The last piece that counts is the name a path ends with. -/
theorem lastPiece?_eq_some_iff {p : Path} {name : List Char} :
    lastPiece? p.text.toList = some name ↔ p.EndsWith name := by
  constructor
  · intro h
    unfold lastPiece? at h
    rw [List.getLast?_filter, List.find?_eq_some_iff_append] at h
    obtain ⟨hname, after, before, hpieces, hafter⟩ := h
    have hsplit : p.text.toList.splitOn '/' = before.reverse ++ name :: after.reverse := by
      rw [← List.reverse_reverse (p.text.toList.splitOn '/'), hpieces]
      simp
    refine ⟨before.reverse.flatMap (· ++ ['/']), after.reverse, ?_, ?_, ?_, by simpa using hname, ?_⟩
    · rw [← Text.intercalate_append_cons, ← hsplit, List.intercalate_splitOn]
    · cases before with
      | nil => exact Or.inl rfl
      | cons first before =>
        right
        rw [List.reverse_cons, List.flatMap_append, List.flatMap_singleton, ← List.append_assoc]
        exact List.getLast?_concat
    · have hmem : name ∈ p.text.toList.splitOn '/' := by
        rw [hsplit]
        simp
      exact Text.notMem_of_mem_splitOn hmem
    · intro piece hpiece
      simpa using hafter piece (List.mem_reverse.mp hpiece)
  · rintro ⟨before, after, htext, hbefore, hslash, hname, hafter⟩
    have hlast := lastPiece?_of_after hslash hname hafter
    rw [htext, List.append_assoc]
    rcases hbefore with rfl | hbefore
    · exact hlast
    · obtain ⟨most, rfl⟩ := List.getLast?_eq_some_iff.mp hbefore
      rw [List.append_assoc, List.singleton_append]
      exact lastPiece?_append most hlast

theorem filter_pieces (p : Path) :
    p.parts.pieces.filter (!isIdle ·) = (p.text.toList.splitOn '/').filter (!isIdle ·) := by
  rw [← Text.splitList_eq_splitOn]
  unfold parts
  split
  · next h => rw [h]; rfl
  · next h => rw [h]; rfl
  · next h => rw [h]; rfl
  · next h => rfl

theorem lead_ne_name (p : Path) (s : String) : p.parts.lead ≠ some (.name s) := by
  unfold parts
  split <;> exact fun h => by cases h

/-- The name of a file is the last piece that counts, unless that is a step up. -/
theorem fileName?_eq (p : Path) :
    p.fileName? = (lastPiece? p.text.toList).bind fun piece =>
      if piece = ['.', '.'] then none else some (String.ofList piece) := by
  have hlast : p.components.getLast? =
      ((lastPiece? p.text.toList).map componentOf).or p.parts.lead := by
    unfold components lastPiece?
    rw [List.getLast?_append, filter_pieces, List.getLast?_map]
    cases p.parts.lead <;> rfl
  unfold fileName?
  rw [hlast]
  cases lastPiece? p.text.toList with
  | none =>
    cases hlead : p.parts.lead with
    | none => rfl
    | some lead =>
      cases lead with
      | name s => exact absurd hlead (lead_ne_name p s)
      | root => rfl
      | current => rfl
      | up => rfl
  | some piece =>
    by_cases hup : piece = ['.', '.']
    · simp [componentOf, hup]
    · simp [componentOf, hup]

/-! ### The extension of a path -/

theorem cutName_append {stem e : List Char} (he : '.' ∉ e) :
    (cutName (stem ++ '.' :: e)).2 = if stem = [] ∨ stem ++ '.' :: e = ['.', '.'] then none else some e := by
  have hafter : (stem ++ '.' :: e).reverse.takeWhile (· ≠ '.') = e.reverse := by
    rw [List.reverse_append, List.reverse_cons, List.append_assoc, List.singleton_append,
      List.takeWhile_append_of_pos (by
        intro c hc
        have hne : c ≠ '.' := fun heq => he (heq ▸ List.mem_reverse.mp hc)
        simpa using hne)]
    simp
  have hbefore : (stem ++ '.' :: e).take ((stem ++ '.' :: e).length - e.length - 1) = stem := by
    have hlength : (stem ++ '.' :: e).length - e.length - 1 = stem.length := by
      rw [List.length_append, List.length_cons]
      omega
    rw [hlength, List.take_left]
  have hless : ¬ e.length = stem.length + (e.length + 1) := by omega
  unfold cutName
  rw [hafter, List.reverse_reverse]
  dsimp only
  rw [hbefore]
  by_cases hstem : stem = []
  · simp [hstem]
  · by_cases hup : stem ++ '.' :: e = ['.', '.'] <;> simp [hstem, hup, hless]

theorem cutName_of_notMem {name : List Char} (h : '.' ∉ name) : (cutName name).2 = none := by
  have hafter : name.reverse.takeWhile (· ≠ '.') = name.reverse := by
    rw [List.takeWhile_eq_self_iff]
    intro c hc
    have hne : c ≠ '.' := fun heq => h (heq ▸ List.mem_reverse.mp hc)
    simpa using hne
  unfold cutName
  rw [hafter, List.reverse_reverse]
  simp

theorem exists_lastDot {name : List Char} (h : '.' ∈ name) :
    ∃ stem rest, name = stem ++ '.' :: rest ∧ '.' ∉ rest := by
  obtain ⟨after, before, hreverse, hafter⟩ := List.eq_append_cons_of_mem (List.mem_reverse.mpr h)
  refine ⟨before.reverse, after.reverse, ?_, by simpa using hafter⟩
  rw [← List.reverse_reverse name, hreverse]
  simp

/-- What a name is cut into: the text behind its last dot, if something stands in front of that dot and the
name is not a step up. -/
theorem cutName_eq_some_iff {name e : List Char} :
    (cutName name).2 = some e ↔
      ∃ stem, name = stem ++ '.' :: e ∧ stem ≠ [] ∧ '.' ∉ e ∧ name ≠ ['.', '.'] := by
  constructor
  · intro h
    by_cases hdot : '.' ∈ name
    · obtain ⟨stem, rest, rfl, hrest⟩ := exists_lastDot hdot
      rw [cutName_append hrest] at h
      split_ifs at h with hnone
      obtain rfl : rest = e := Option.some.inj h
      exact ⟨stem, rfl, fun hstem => hnone (Or.inl hstem), hrest, fun hup => hnone (Or.inr hup)⟩
    · rw [cutName_of_notMem hdot] at h
      cases h
  · rintro ⟨stem, rfl, hstem, he, hup⟩
    rw [cutName_append he, if_neg (not_or.mpr ⟨hstem, hup⟩)]

/-- A path has an extension: it ends with a name, which is cut at its last dot. Something stands in front of
that dot, and the name is not a step up. -/
def HasExtension (p : Path) (e : String) : Prop :=
  ∃ stem : List Char, stem ≠ [] ∧ '.' ∉ e.toList ∧ stem ++ '.' :: e.toList ≠ ['.', '.'] ∧
    p.EndsWith (stem ++ '.' :: e.toList)

theorem extension?_eq (p : Path) :
    p.extension? = (lastPiece? p.text.toList).bind fun piece => (cutName piece).2.map String.ofList := by
  unfold extension?
  rw [fileName?_eq, Option.bind_assoc]
  congr 1
  funext piece
  by_cases hup : piece = ['.', '.']
  · rw [if_pos hup, hup]
    rfl
  · rw [if_neg hup, Option.bind_some, String.toList_ofList]

/-- **The extension that is found is the extension a path has.** -/
theorem extension?_eq_some_iff {p : Path} {e : String} : p.extension? = some e ↔ p.HasExtension e := by
  rw [extension?_eq, Option.bind_eq_some_iff]
  constructor
  · rintro ⟨piece, hpiece, he⟩
    obtain ⟨cs, hcut, rfl⟩ := Option.map_eq_some_iff.mp he
    obtain ⟨stem, rfl, hstem, hdot, hup⟩ := cutName_eq_some_iff.mp hcut
    refine ⟨stem, hstem, ?_, ?_, ?_⟩
    · rwa [String.toList_ofList]
    · rwa [String.toList_ofList]
    · rw [String.toList_ofList]
      exact lastPiece?_eq_some_iff.mp hpiece
  · rintro ⟨stem, hstem, hdot, hup, hends⟩
    refine ⟨_, lastPiece?_eq_some_iff.mpr hends, ?_⟩
    rw [cutName_eq_some_iff.mpr ⟨stem, rfl, hstem, hdot, hup⟩, Option.map_some, String.ofList_toList]

example : (⟨"bin/.rhai"⟩ : Path).extension? = none ∧ (⟨"a.b.Rhai/./"⟩ : Path).extension? = some "Rhai" ∧
    (⟨"a."⟩ : Path).extension? = some "" := by decide +kernel

/-! ### Changing the extension -/

/-- What stands in front of the last dot of a name begins it, and is not empty. -/
theorem cutName_fst (name : List Char) : (cutName name).1 <+: name ∧ (name ≠ [] → (cutName name).1 ≠ []) := by
  unfold cutName
  dsimp only
  split_ifs with hwhole
  · exact ⟨List.prefix_rfl, fun hname => hname⟩
  · refine ⟨List.take_prefix .., fun _ hempty => hwhole ?_⟩
    rw [decide_eq_true hempty, Bool.or_true]

theorem joinPieces_concat (pieces : List (List Char)) (name : List Char) :
    joinPieces (pieces ++ [name]) = pieces.flatMap (· ++ ['/']) ++ name := by
  induction pieces with
  | nil => rfl
  | cons piece pieces ih =>
    have hcons : joinPieces (piece :: (pieces ++ [name])) = piece ++ '/' :: joinPieces (pieces ++ [name]) := by
      cases pieces <;> rfl
    rw [List.cons_append, hcons, ih, List.flatMap_cons]
    simp

theorem endsWith_ofParts (lead : Option Component) (pieces : List (List Char)) {name : List Char}
    (hslash : '/' ∉ name) (hidle : isIdle name = false) : (ofParts ⟨lead, pieces ++ [name]⟩).EndsWith name := by
  have hbefore : ∀ more : List Char, (more = [] ∨ more.getLast? = some '/') →
      more ++ pieces.flatMap (· ++ ['/']) = [] ∨
        (more ++ pieces.flatMap (· ++ ['/'])).getLast? = some '/' := fun more hmore => by
    rcases List.eq_nil_or_concat' pieces with rfl | ⟨pieces, piece, rfl⟩
    · simpa using hmore
    · right
      rw [List.flatMap_append, List.flatMap_singleton, ← List.append_assoc, ← List.append_assoc]
      exact List.getLast?_concat
  have htext : ∃ more : List Char, (more = [] ∨ more.getLast? = some '/') ∧
      (ofParts ⟨lead, pieces ++ [name]⟩).text.toList = more ++ (pieces.flatMap (· ++ ['/']) ++ name) := by
    unfold ofParts
    dsimp only
    rw [String.toList_ofList, joinPieces_concat]
    split
    · exact ⟨['/'], Or.inr rfl, rfl⟩
    · rw [if_neg (by simp)]
      exact ⟨['.', '/'], Or.inr rfl, rfl⟩
    · exact ⟨[], Or.inl rfl, rfl⟩
  obtain ⟨more, hmore, htext⟩ := htext
  refine ⟨more ++ pieces.flatMap (· ++ ['/']), [], ?_, hbefore more hmore, hslash, hidle, nofun⟩
  rw [htext, List.flatMap_nil, List.append_nil, List.append_assoc]

/-- **A file name gets the extension that it is given.** -/
theorem extension?_withExtension {p : Path} (hp : p.fileName?.isSome = true) {e : String} (hne : e ≠ "")
    (hdot : '.' ∉ e.toList) (hslash : '/' ∉ e.toList) : (p.withExtension e).extension? = some e := by
  obtain ⟨s, hs⟩ := Option.isSome_iff_exists.mp hp
  have hpiece := hs
  rw [fileName?_eq, Option.bind_eq_some_iff] at hpiece
  obtain ⟨piece, hlast, hkept⟩ := hpiece
  obtain rfl : String.ofList piece = s := by
    split_ifs at hkept
    exact Option.some.inj hkept
  obtain ⟨-, -, -, -, hfree, hidle, -⟩ := lastPiece?_eq_some_iff.mp hlast
  obtain ⟨hbegins, hstem⟩ := cutName_fst piece
  have hstem : (cutName piece).1 ≠ [] := hstem fun hempty => by
    rw [hempty] at hidle
    cases hidle
  have hstem? : p.stem? = some (String.ofList (cutName piece).1) := by
    unfold stem?
    rw [hs, Option.map_some, String.toList_ofList]
  have hcons : e.toList ≠ [] := fun h => hne (String.toList_eq_nil_iff.mp h)
  refine extension?_eq_some_iff.mpr ⟨(cutName piece).1, hstem, hdot, fun hup => ?_, ?_⟩
  · -- the extension would be empty
    have hlength := congrArg List.length hup
    have hstem := List.length_pos_of_ne_nil hstem
    have he := List.length_pos_of_ne_nil hcons
    simp only [List.length_append, List.length_cons, List.length_nil] at hlength
    omega
  · unfold withExtension
    rw [hstem?]
    dsimp only
    rw [String.toList_ofList]
    refine endsWith_ofParts _ _ ?_ ?_
    · have hkeeps : '/' ∉ (cutName piece).1 := fun hmem => hfree (hbegins.subset hmem)
      simp [hkeeps, hslash]
    · simp [isIdle, hstem, List.append_eq_singleton_iff]

/-! ### Other ways to write a path -/

theorem extension?_of_lastPiece? {p q : Path} (h : lastPiece? p.text.toList = lastPiece? q.text.toList) :
    p.extension? = q.extension? := by
  rw [extension?_eq, extension?_eq, h]

/-- A piece behind a path that adds no component does not count. -/
theorem extension?_append_idle (p : Path) {piece : List Char} (hpiece : isIdle piece = true) :
    (⟨p.text ++ String.ofList ('/' :: piece)⟩ : Path).extension? = p.extension? := by
  apply extension?_of_lastPiece?
  have hsplit : (p.text.toList ++ '/' :: piece).splitOn '/' = p.text.toList.splitOn '/' ++ [piece] := by
    have hone : piece.splitOn '/' = [piece] := List.splitOn_eq_singleton (slash_notMem_of_isIdle hpiece)
    rw [← hone]
    exact List.splitOnP_append_cons _ _ (beq_self_eq_true '/')
  unfold lastPiece?
  rw [String.toList_append, String.toList_ofList, hsplit, List.filter_append]
  simp [hpiece]

/-- Directories in front of a file name do not count. -/
theorem extension?_join (d : Path) {p : Path} (h : p.fileName?.isSome = true) :
    (d.join p).extension? = p.extension? := by
  apply extension?_of_lastPiece?
  obtain ⟨name, hname⟩ := Option.isSome_iff_exists.mp h
  rw [fileName?_eq, Option.bind_eq_some_iff] at hname
  obtain ⟨piece, hpiece, -⟩ := hname
  obtain ⟨before, htext, hbefore⟩ := exists_toList_join d p.text
  rw [hpiece, htext]
  rcases hbefore with rfl | ⟨most, rfl⟩
  · exact hpiece
  · rw [List.append_assoc, List.singleton_append]
    exact lastPiece?_append most hpiece

theorem isIdle_map_toLower (piece : List Char) : isIdle (piece.map Char.toLower) = isIdle piece := by
  have hnil : piece.map Char.toLower = [] ↔ piece = [] := List.map_eq_nil_iff
  have hdot : piece.map Char.toLower = ['.'] ↔ piece = ['.'] := Text.map_toLower_eq_iff (by simp)
  unfold isIdle
  rw [decide_eq_decide.mpr hnil, decide_eq_decide.mpr hdot]

theorem lastPiece?_map_toLower (cs : List Char) :
    lastPiece? (cs.map Char.toLower) = (lastPiece? cs).map (List.map Char.toLower) := by
  have hkept : (fun piece : List Char => !isIdle piece) ∘ List.map Char.toLower = (!isIdle ·) :=
    funext fun piece => congrArg not (isIdle_map_toLower piece)
  unfold lastPiece?
  rw [Text.splitOn_map_toLower (by decide), List.filter_map, hkept, List.getLast?_map]

theorem cutName_map_toLower (name : List Char) :
    (cutName (name.map Char.toLower)).2 = (cutName name).2.map (List.map Char.toLower) := by
  by_cases hdot : '.' ∈ name
  · obtain ⟨stem, rest, rfl, hrest⟩ := exists_lastDot hdot
    have hstem : stem.map Char.toLower = [] ↔ stem = [] := List.map_eq_nil_iff
    have hup : (stem ++ '.' :: rest).map Char.toLower = ['.', '.'] ↔ stem ++ '.' :: rest = ['.', '.'] :=
      Text.map_toLower_eq_iff (by simp)
    have hlower : (stem ++ '.' :: rest).map Char.toLower =
        stem.map Char.toLower ++ '.' :: rest.map Char.toLower := by
      rw [List.map_append, List.map_cons]
      rfl
    rw [hlower] at hup
    rw [hlower, cutName_append (Text.notMem_map_toLower (by decide) hrest), cutName_append hrest]
    simp only [hstem, hup]
    split_ifs <;> rfl
  · rw [cutName_of_notMem hdot, cutName_of_notMem (Text.notMem_map_toLower (by decide) hdot)]
    rfl

theorem extension?_lowerAscii (p : Path) :
    (⟨Text.lowerAscii p.text⟩ : Path).extension? = p.extension?.map Text.lowerAscii := by
  rw [extension?_eq, extension?_eq]
  unfold Text.lowerAscii
  rw [String.toList_ofList, lastPiece?_map_toLower]
  cases lastPiece? p.text.toList with
  | none => rfl
  | some piece =>
    rw [Option.map_some, Option.bind_some, Option.bind_some, cutName_map_toLower]
    cases (cutName piece).2 with
    | none => rfl
    | some e => simp

theorem extension?_of_agrees {p q : Path} (h : p.agrees q = true) : p.extension? = q.extension? := by
  have hname : p.fileName? = q.fileName? := by
    unfold fileName?
    rw [of_decide_eq_true h]
  unfold extension?
  rw [hname]

/-- A path that is not empty agrees with itself followed by a piece that adds no component. -/
theorem agrees_append_idle {p : Path} (hp : p.text ≠ "") {piece : List Char} (hpiece : isIdle piece = true) :
    p.agrees ⟨p.text ++ String.ofList ('/' :: piece)⟩ = true := by
  have hone : piece.splitOn '/' = [piece] := List.splitOn_eq_singleton (slash_notMem_of_isIdle hpiece)
  have hsplit : Text.splitList '/' (p.text ++ String.ofList ('/' :: piece)).toList =
      Text.splitList '/' p.text.toList ++ [piece] := by
    rw [Text.splitList_eq_splitOn, Text.splitList_eq_splitOn, String.toList_append, String.toList_ofList, ← hone]
    exact List.splitOnP_append_cons _ _ (beq_self_eq_true '/')
  have hempty : Text.splitList '/' p.text.toList ≠ [[]] := fun h => by
    have htext : ['/'].intercalate (p.text.toList.splitOn '/') = p.text.toList := List.intercalate_splitOn '/'
    rw [← Text.splitList_eq_splitOn, h] at htext
    exact hp (String.toList_eq_nil_iff.mp htext.symm)
  have hparts : (⟨p.text ++ String.ofList ('/' :: piece)⟩ : Path).parts =
      ⟨p.parts.lead, p.parts.pieces ++ [piece]⟩ := by
    obtain ⟨first, more, hfirst⟩ : ∃ first more, Text.splitList '/' p.text.toList = first :: more :=
      List.exists_cons_of_ne_nil (by rw [Text.splitList_eq_splitOn]; exact List.splitOn_ne_nil _ _)
    rw [hfirst] at hsplit hempty
    by_cases hroot : first = []
    · subst hroot
      have hmore : more ≠ [] := fun h => hempty (by rw [h])
      rw [parts_of_root hfirst hmore, parts_of_root hsplit (by simp)]
      rfl
    · by_cases hdot : first = ['.']
      · subst hdot
        rw [parts_of_current hfirst, parts_of_current hsplit]
        rfl
      · rw [parts_of_name hfirst hroot hdot, parts_of_name hsplit hroot hdot]
        rfl
  refine decide_eq_true ?_
  unfold components
  rw [hparts, List.filter_append]
  simp [hpiece]

/-- A path has an extension, in letters of any case. -/
def IsOf (p : Path) (e : String) : Prop := ∃ spelled, p.HasExtension spelled ∧ Text.lowerAscii spelled = e

theorem isOf_iff {p : Path} {e : String} : p.IsOf e ↔ p.extension?.map Text.lowerAscii = some e := by
  rw [Option.map_eq_some_iff]
  exact exists_congr fun spelled => and_congr_left fun _ => extension?_eq_some_iff.symm

/-- Paths whose extensions differ in the case of their letters at most. -/
def EndsAlike (p q : Path) : Prop := p.extension?.map Text.lowerAscii = q.extension?.map Text.lowerAscii

theorem EndsAlike.isOf_iff {p q : Path} (h : p.EndsAlike q) (e : String) : p.IsOf e ↔ q.IsOf e := by
  rw [Path.isOf_iff, Path.isOf_iff, h]

theorem endsAlike_of_agrees {p q : Path} (h : p.agrees q = true) : p.EndsAlike q :=
  congrArg (Option.map Text.lowerAscii) (extension?_of_agrees h)

/-- Two ways to write a path that ends with the same extension: in letters of another case, from a directory
in front of it, with a slash or a single dot behind it, or in any other way with the same components. -/
inductive Rewritten : Path → Path → Prop
  | cased {p q : Path} (h : Text.lowerAscii p.text = Text.lowerAscii q.text) : Rewritten p q
  | inside (d : Path) {p : Path} (hrelative : p.isAbsolute = false) (hname : p.fileName?.isSome = true) :
    Rewritten p (d.join p)
  | slash (p : Path) : Rewritten p ⟨p.text ++ "/"⟩
  | dot (p : Path) : Rewritten p ⟨p.text ++ "/."⟩
  | agreeing {p q : Path} (h : p.agrees q = true) : Rewritten p q

theorem Rewritten.endsAlike {p q : Path} (h : Rewritten p q) : p.EndsAlike q := by
  unfold EndsAlike
  cases h with
  | cased h => rw [← extension?_lowerAscii, ← extension?_lowerAscii, h]
  | inside d hrelative hname => rw [extension?_join d hname]
  | slash =>
    have hidle : isIdle [] = true := rfl
    rw [← extension?_append_idle p hidle]
  | dot =>
    have hidle : isIdle ['.'] = true := rfl
    rw [← extension?_append_idle p hidle]
  | agreeing h => exact endsAlike_of_agrees h

/-- However often a path is rewritten, it ends with the same extension. -/
theorem endsAlike_of_eqvGen {p q : Path} (h : Relation.EqvGen Rewritten p q) : p.EndsAlike q := by
  induction h with
  | rel p q h => exact h.endsAlike
  | refl p => rfl
  | symm p q _ ih => exact ih.symm
  | trans p q r _ _ ihpq ihqr => exact ihpq.trans ihqr

end Path

end HostedScripts
