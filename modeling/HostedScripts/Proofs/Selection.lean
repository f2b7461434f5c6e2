import HostedScripts.Proofs.Extension
import Mathlib.Data.Option.Defs

/-! # The engine that a script asks for

The extension of a script decides on its engine, or leaves it to the bundle; whether the file is there counts
for interpreted scripts only (`EngineKind.Decided`). So the engine stays the same however the two paths are
written. -/

namespace HostedScripts

/-! ### What decides on the engine -/

namespace EngineKind

/-- What a bundle answers where the script does not decide. -/
inductive Answers (bundle : Option Path) : EngineKind → Prop
  | invoke {b : Path} (hb : bundle = some b) (h : b.IsOf "invokebutton") : Answers bundle invoke
  | unknown (h : ∀ b, bundle = some b → ¬ b.IsOf "invokebutton") : Answers bundle unknown

/-- The engine for the script at a path, where `there` tells whether its file is there. -/
inductive Decided (there : Bool) (path : Path) (bundle : Option Path) : EngineKind → Prop
  | script (h : path.IsOf "rhai") (hthere : there = true) : Decided there path bundle script
  | missing (h : path.IsOf "rhai") (hthere : there = false) {k : EngineKind} (hk : Answers bundle k) :
    Decided there path bundle k
  | compiled (h : path.IsOf "cs" ∨ path.IsOf "vb") : Decided there path bundle compiled
  | visual (h : path.IsOf "dyn") : Decided there path bundle visual
  | unrecognized (h : ∀ e ∈ ["rhai", "cs", "vb", "dyn"], ¬ path.IsOf e) {k : EngineKind} (hk : Answers bundle k) :
    Decided there path bundle k

variable {present other : Path → Bool} {path path' : Path} {bundle bundle' : Option Path} {k : EngineKind}

theorem ofExtension_eq_invokeButton_iff {e : String} :
    BundleKind.ofExtension e = .invokeButton ↔ e = "invokebutton" := by
  constructor
  · intro h
    have hname : Text.lowerAscii BundleKind.invokeButton.name = "invokebutton" := by decide +kernel
    unfold BundleKind.ofExtension at h
    rcases Option.getD_eq_iff.mp h with hfind | hother
    · rw [← hname]
      have hkind := List.find?_some hfind
      exact (of_decide_eq_true hkind).symm
    · cases hother.2
  · rintro rfl
    decide +kernel

theorem ofPath_eq_invokeButton_iff {b : Path} : BundleKind.ofPath b = .invokeButton ↔ b.IsOf "invokebutton" := by
  rw [Path.isOf_iff]
  unfold BundleKind.ofPath
  cases b.extension? with
  | none => simp
  | some e =>
    rw [Option.map_some, Option.some_inj]
    exact ofExtension_eq_invokeButton_iff

theorem answers_iff : Answers bundle k ↔
    k = if bundle.map BundleKind.ofPath = some .invokeButton then .invoke else .unknown := by
  have hinvokes : bundle.map BundleKind.ofPath = some .invokeButton ↔
      ∃ b, bundle = some b ∧ b.IsOf "invokebutton" := by
    rw [Option.map_eq_some_iff]
    exact exists_congr fun b => and_congr_right fun _ => ofPath_eq_invokeButton_iff
  constructor
  · rintro (⟨hb, h⟩ | h)
    · rw [if_pos (hinvokes.mpr ⟨_, hb, h⟩)]
    · rw [if_neg fun hsome => ?_]
      obtain ⟨b, hb, hinvoke⟩ := hinvokes.mp hsome
      exact h b hb hinvoke
  · rintro rfl
    split_ifs with h
    · obtain ⟨b, hb, hinvoke⟩ := hinvokes.mp h
      exact .invoke hb hinvoke
    · exact .unknown fun b hb hinvoke => h (hinvokes.mpr ⟨b, hb, hinvoke⟩)

theorem ofPath?_eq (p : Path) :
    ScriptKind.ofPath? p = (p.extension?.map Text.lowerAscii).bind ScriptKind.ofExtension? := by
  unfold ScriptKind.ofPath?
  cases p.extension? <;> rfl

/-- **The engine that is selected is the one that is decided.** -/
theorem selectEngine_of_decided (h : Decided (present path) path bundle k) : selectEngine present path bundle = k := by
  unfold selectEngine
  rw [ofPath?_eq]
  cases h with
  | script h hthere =>
    rw [Path.isOf_iff.mp h]
    exact if_pos hthere
  | missing h hthere hk =>
    rw [Path.isOf_iff.mp h, answers_iff.mp hk]
    exact if_neg (by rw [hthere]; exact Bool.false_ne_true)
  | compiled h =>
    rcases h with h | h <;> rw [Path.isOf_iff.mp h] <;> rfl
  | visual h => rw [Path.isOf_iff.mp h]; rfl
  | unrecognized h hk =>
    rw [answers_iff.mp hk]
    cases he : path.extension?.map Text.lowerAscii with
    | none => rfl
    | some e =>
      have hother : ∀ known ∈ ["rhai", "cs", "vb", "dyn"], e ≠ known := fun known hknown heq =>
        h known hknown (Path.isOf_iff.mpr (by rw [he, heq]))
      have hnone : ScriptKind.ofExtension? e = none := by
        simp only [List.mem_cons, List.not_mem_nil, or_false, forall_eq_or_imp, forall_eq] at hother
        simp [ScriptKind.ofExtension?, ScriptKind.interpreted, hother]
      rw [Option.bind_some, hnone]

theorem exists_answers (bundle : Option Path) : ∃ k, Answers bundle k := ⟨_, answers_iff.mpr rfl⟩

theorem exists_decided (there : Bool) (path : Path) (bundle : Option Path) : ∃ k, Decided there path bundle k := by
  obtain ⟨k, hk⟩ := exists_answers bundle
  by_cases hrhai : path.IsOf "rhai"
  · cases hthere : there with
    | true => exact ⟨_, .script hrhai rfl⟩
    | false => exact ⟨k, .missing hrhai rfl hk⟩
  · by_cases hcompiled : path.IsOf "cs" ∨ path.IsOf "vb"
    · exact ⟨_, .compiled hcompiled⟩
    · by_cases hvisual : path.IsOf "dyn"
      · exact ⟨_, .visual hvisual⟩
      · refine ⟨k, .unrecognized ?_ hk⟩
        rw [not_or] at hcompiled
        simpa using ⟨hrhai, hcompiled.1, hcompiled.2, hvisual⟩

theorem selectEngine_eq_iff : selectEngine present path bundle = k ↔ Decided (present path) path bundle k := by
  constructor
  · rintro rfl
    obtain ⟨k, hk⟩ := exists_decided (present path) path bundle
    rwa [selectEngine_of_decided hk]
  · exact selectEngine_of_decided

theorem answers_congr (h : Option.Rel Path.EndsAlike bundle bundle') (hk : Answers bundle k) : Answers bundle' k := by
  cases h with
  | none => exact hk
  | @some b b' h =>
    cases hk with
    | invoke hb hinvoke =>
      cases hb
      exact .invoke rfl ((h.isOf_iff _).mp hinvoke)
    | unknown hnot =>
      refine .unknown fun c hc hinvoke => ?_
      cases hc
      exact hnot b rfl ((h.isOf_iff _).mpr hinvoke)

/-- The engine depends on extensions in small letters, and for interpreted scripts on the answer of the test.
-/
theorem selectEngine_congr (hpath : path.EndsAlike path') (hbundle : Option.Rel Path.EndsAlike bundle bundle')
    (hthere : path.IsOf "rhai" → other path' = present path) :
    selectEngine other path' bundle' = selectEngine present path bundle := by
  have hdecided : Decided (present path) path bundle (selectEngine present path bundle) := selectEngine_eq_iff.mp rfl
  generalize selectEngine present path bundle = k at hdecided
  apply selectEngine_of_decided
  have hof := hpath.isOf_iff
  cases hdecided with
  | script h hpresent => exact .script ((hof _).mp h) ((hthere h).trans hpresent)
  | missing h hpresent hk => exact .missing ((hof _).mp h) ((hthere h).trans hpresent) (answers_congr hbundle hk)
  | compiled h => exact .compiled (h.imp (hof _).mp (hof _).mp)
  | visual h => exact .visual ((hof _).mp h)
  | unrecognized h hk =>
    exact .unrecognized (fun e he hpath' => h e he ((hof e).mpr hpath')) (answers_congr hbundle hk)

theorem endsAlike_refl (bundle : Option Path) : Option.Rel Path.EndsAlike bundle bundle := by
  cases bundle with
  | none => exact .none
  | some b => exact .some rfl

/-- Two tests of existence select different engines only for an interpreted script about which they differ. -/
theorem selectEngine_of_presence (present other : Path → Bool) (path : Path) (bundle : Option Path) :
    selectEngine other path bundle = selectEngine present path bundle ∨
      (path.IsOf "rhai" ∧ ∃ k, Answers bundle k ∧
        (selectEngine other path bundle = .script ∧ selectEngine present path bundle = k ∨
          selectEngine other path bundle = k ∧ selectEngine present path bundle = .script)) := by
  by_cases hrhai : path.IsOf "rhai"
  · obtain ⟨k, hk⟩ := exists_answers bundle
    have hscript : ∀ test : Path → Bool, test path = true → selectEngine test path bundle = .script :=
      fun test htest => selectEngine_of_decided (.script hrhai htest)
    have hmissing : ∀ test : Path → Bool, test path = false → selectEngine test path bundle = k :=
      fun test htest => selectEngine_of_decided (.missing hrhai htest hk)
    cases hother : other path with
    | true =>
      cases hpresent : present path with
      | true => exact Or.inl ((hscript other hother).trans (hscript present hpresent).symm)
      | false => exact Or.inr ⟨hrhai, k, hk, Or.inl ⟨hscript other hother, hmissing present hpresent⟩⟩
    | false =>
      cases hpresent : present path with
      | true => exact Or.inr ⟨hrhai, k, hk, Or.inr ⟨hmissing other hother, hscript present hpresent⟩⟩
      | false => exact Or.inl ((hmissing other hother).trans (hmissing present hpresent).symm)
  · exact Or.inl (selectEngine_congr rfl (endsAlike_refl bundle) fun h => absurd h hrhai)

end EngineKind

open EngineKind in
/-- **What the engine depends on.** The engine is the one decided on by the extension of the script, by
whether its file is there if it is an interpreted script, and by the extension of the bundle. Two tests of
existence select different engines for interpreted scripts only, and then the built-in one and the answer of
the bundle. However script and bundle are rewritten, for the same answer of the test the same engine is
selected; a test that answers alike for paths that agree needs no such condition. -/
theorem selection_law (present : Path → Bool) (script : Path) (bundle : Option Path) :
    (∀ k, selectEngine present script bundle = k ↔ Decided (present script) script bundle k) ∧
    (∀ other : Path → Bool, selectEngine other script bundle = selectEngine present script bundle ∨
      (script.IsOf "rhai" ∧ ∃ k, Answers bundle k ∧
        (selectEngine other script bundle = .script ∧ selectEngine present script bundle = k ∨
          selectEngine other script bundle = k ∧ selectEngine present script bundle = .script))) ∧
    (∀ (other : Path → Bool) (script' : Path) (bundle' : Option Path),
      Relation.EqvGen Path.Rewritten script script' →
      Option.Rel (Relation.EqvGen Path.Rewritten) bundle bundle' → other script' = present script →
      selectEngine other script' bundle' = selectEngine present script bundle) ∧
    ((∀ p q : Path, p.agrees q = true → present p = present q) →
      (∀ script' : Path, script.agrees script' = true →
        selectEngine present script' bundle = selectEngine present script bundle) ∧
      ∀ tail ∈ ["/", "/."],
        selectEngine present ⟨script.text ++ tail⟩ bundle = selectEngine present script bundle) := by
  refine ⟨fun k => selectEngine_eq_iff, fun other => selectEngine_of_presence present other script bundle,
    fun other script' bundle' hscript hbundle hthere => ?_, fun halike => ?_⟩
  · refine selectEngine_congr (Path.endsAlike_of_eqvGen hscript) ?_ fun _ => hthere
    cases hbundle with
    | none => exact .none
    | some h => exact .some (Path.endsAlike_of_eqvGen h)
  · have hagreeing : ∀ script' : Path, script.agrees script' = true →
        selectEngine present script' bundle = selectEngine present script bundle := fun script' hagrees =>
      selectEngine_congr (Path.endsAlike_of_agrees hagrees) (endsAlike_refl bundle)
        fun _ => (halike script script' hagrees).symm
    refine ⟨hagreeing, fun tail htail => ?_⟩
    obtain ⟨piece, rfl, hpiece⟩ : ∃ piece, tail = String.ofList ('/' :: piece) ∧ Path.isIdle piece = true := by
      rcases List.mem_pair.mp htail with rfl | rfl
      · exact ⟨[], rfl, rfl⟩
      · exact ⟨['.'], rfl, rfl⟩
    by_cases hempty : script.text = ""
    · -- the root is no path that agrees with the empty one, but neither has an extension
      have hnone : ¬ script.IsOf "rhai" := fun h => by
        have hscript : script = ⟨""⟩ := by cases script; congr
        rw [hscript, Path.isOf_iff] at h
        cases h
      exact selectEngine_congr (congrArg _ (Path.extension?_append_idle script hpiece).symm) (endsAlike_refl bundle)
        fun h => absurd h hnone
    · exact hagreeing _ (Path.agrees_append_idle hempty hpiece)

end HostedScripts
