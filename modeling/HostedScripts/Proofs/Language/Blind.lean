import HostedScripts.Proofs.Language.Moved

/-! # Computations that do not see the place of a variable

Two machines may be the same but for the place of a variable in their scopes (`Machine.Alike`). A computation is
*blind* to the difference if it comes to the same result in both of them and leaves them alike
(`Computation.Blind`), provided that the scope is clear where the computation ends. Nothing else counts than
what the script is bound to, and of the files only which modules are found (`Setting.Alike`): what is under way
and what is on record may be anything.

Every way to build a computation from others keeps it blind. One that looks at the machine as a whole has to do
the same whatever the place of the variable is (`Blind.get_bind`). One inside something is blind if the way
there and back is (`Passage.Blind`); where none of the variables before is in sight, there is no difference any
more. -/

namespace HostedScripts.Language

variable {d d' : Difference} {m m' : Machine}

/-- Machines that are the same but for the place of a variable. -/
inductive Machine.Alike (d : Difference) (m : Machine) : Machine → Prop
  | intro {s : Scope} (hscope : d.Scopes m.scope s) : Alike d m { m with scope := s }

namespace Machine.Alike

theorem lookUp_eq (h : Machine.Alike d m m') (x : String) : m'.scope.lookUp x = m.scope.lookUp x := by
  obtain ⟨hscope⟩ := h
  exact hscope.lookUp_eq x

theorem held?_eq (h : Machine.Alike d m m') (x : String) : m'.scope.held? x = m.scope.held? x := by
  obtain ⟨hscope⟩ := h
  exact hscope.held?_eq x

theorem said_eq (h : Machine.Alike d m m') : m'.said = m.said := by
  obtain ⟨-⟩ := h
  rfl

theorem eq_of_nothing (h : Machine.Alike .nothing m m') : m' = m := by
  obtain ⟨hscope⟩ := h
  cases hscope
  rfl

end Machine.Alike

/-- A change of a machine that has nothing to do with its scope. -/
def SparesScope (f : Machine → Machine) : Prop := ∀ m s, f { m with scope := s } = { f m with scope := s }

namespace SparesScope

variable {f : Machine → Machine}

theorem scope_eq (h : SparesScope f) (m : Machine) : (f m).scope = m.scope := by
  have hscope := congrArg Machine.scope (h m m.scope)
  exact hscope

theorem alike (h : SparesScope f) (hm : Machine.Alike d m m') : Machine.Alike d (f m) (f m') := by
  obtain @⟨s, hscope⟩ := hm
  rw [← h.scope_eq m] at hscope
  rw [h m s]
  exact .intro hscope

end SparesScope

/-- Settings that bind a script by the same, and in which it finds the same modules. -/
structure Setting.Alike (setting setting' : Setting) : Prop where
  isStrict : setting'.isStrict = setting.isStrict
  maxOperations : setting'.maxOperations = setting.maxOperations
  maxCallLevels : setting'.maxCallLevels = setting.maxCallLevels
  modules : ∀ name, Evaluator.findModule? setting'.files name setting'.directories =
    Evaluator.findModule? setting.files name setting.directories

namespace Setting.Alike

theorem refl (setting : Setting) : setting.Alike setting := ⟨rfl, rfl, rfl, fun _ => rfl⟩

theorem levels {setting setting' : Setting} (h : setting.Alike setting') : setting'.levels = setting.levels := by
  unfold Setting.levels
  rw [h.maxCallLevels]

end Setting.Alike

/-- Stages that can be compared, as the same but for the place of a variable. -/
class Comparable (σ : Type) [Stage σ] where
  Alike : Difference → σ → σ → Prop

export Comparable (Alike)

instance : Comparable Machine := ⟨Machine.Alike⟩

instance : Comparable (Datum × Machine) := ⟨fun d x x' => x'.1 = x.1 ∧ Machine.Alike d x.2 x'.2⟩

variable {σ τ : Type} [Stage σ] [Stage τ] [Comparable σ] [Comparable τ] {α β : Type}

/-- What was in sight in a stage is there in another one. -/
abbrev GrowsTo (x y : σ) : Prop := (machine x).scope.Grows (machine y).scope

namespace Computation

omit [Comparable σ] in
theorem run_bind (c : Computation σ α) (next : α → Computation σ β) (s : Situation σ) (x : σ)
    (record : List Departure) :
    (c >>= next).run s x record =
      match c.run s x record with
      | ⟨.ok a, y, record⟩ => (next a).run s y record
      | ⟨.error i, y, record⟩ => ⟨.error i, y, record⟩ := rfl

omit [Comparable σ] [Comparable τ] in
theorem run_inside_bind (p : Passage σ τ) (c : Computation τ α) (next : α → Computation τ β)
    (s : Situation σ) (x : σ) (record : List Departure) :
    (inside p (c >>= next)).run s x record =
      match c.run (s.through p x) (p.enter x) record with
      | ⟨.ok a, y, record⟩ =>
        match (next a).run (s.through p x) y record with
        | ⟨result, y, record⟩ => ⟨result, p.back x y, record⟩
      | ⟨.error i, y, record⟩ => ⟨.error i, p.back x y, record⟩ := by
  have hrun (c : Computation τ β) : (inside p c).run s x record =
      match c.run (s.through p x) (p.enter x) record with
      | ⟨result, y, record⟩ => ⟨result, p.back x y, record⟩ := rfl
  rw [hrun, run_bind]
  generalize c.run (s.through p x) (p.enter x) record = u
  obtain ⟨result, y, record⟩ := u
  cases result <;> rfl

/-- A computation that does not see the place of a variable. -/
structure Blind (c : Computation σ α) (d : Difference) : Prop where
  grows : ∀ s x record, GrowsTo x (c.run s x record).state
  same : ∀ s s' x x' record record', s.setting.Alike s'.setting → Alike d x x' →
    d.Clear (machine (c.run s x record).state).scope →
      (c.run s' x' record').result = (c.run s x record).result ∧
        Alike d (c.run s x record).state (c.run s' x' record').state

namespace Blind

variable {c : Computation σ α} {next : α → Computation σ β}

/-! ### Steps -/

theorem act {f : Setting → σ → Except Interrupt α × σ} (hgrows : ∀ setting x, GrowsTo x (f setting x).2)
    (hsame : ∀ setting setting' x x', setting.Alike setting' → Alike d x x' →
      (f setting' x').1 = (f setting x).1 ∧ Alike d (f setting x).2 (f setting' x').2) :
    (Computation.act f).Blind d where
  grows s x _ := hgrows s.setting x
  same s s' x x' _ _ hsetting hx _ := by
    have hrun : ∀ (s : Situation σ) x record, (Computation.act f).run s x record =
      ⟨(f s.setting x).1, (f s.setting x).2, record⟩ := fun _ _ _ => rfl
    rw [hrun, hrun]
    exact hsame s.setting s'.setting x x' hsetting hx

theorem of_result (result : Except Interrupt α) :
    (Computation.act (σ := σ) fun _ x => (result, x)).Blind d :=
  act (fun _ _ => .refl _) fun _ _ _ _ _ hx => ⟨rfl, hx⟩

theorem pure (a : α) : (Pure.pure a : Computation σ α).Blind d := of_result (.ok a)

theorem interrupt (i : Interrupt) : (Computation.interrupt i : Computation σ α).Blind d :=
  of_result (.error i)

theorem fail (f : Failure) : (Computation.fail f : Computation σ α).Blind d := interrupt _

theorem failAt (cause : Cause) (p : Position) : (Computation.failAt cause p : Computation σ α).Blind d :=
  fail _

theorem ofExcept (r : Except Failure α) : (Computation.ofExcept r : Computation σ α).Blind d := by
  cases r with
  | ok a => exact pure a
  | error f => exact fail f

theorem depart (code : Int64) (p : Position) : (Computation.depart code p : Computation σ α).Blind d where
  grows _ _ _ := .refl _
  same _ _ _ _ _ _ _ hx _ := ⟨rfl, hx⟩

/-! ### One computation after another -/

theorem bind (h : c.Blind d) (hnext : ∀ a, (next a).Blind d) : (c >>= next).Blind d := by
  constructor
  · intro s x record
    have hgrows := h.grows s x record
    rw [run_bind]
    generalize c.run s x record = u at hgrows
    obtain ⟨result, y, record⟩ := u
    cases result with
    | error i => exact hgrows
    | ok a => exact hgrows.trans ((hnext a).grows s y record)
  · intro s s' x x' record record' hsetting hx hclear
    have hsame := h.same s s' x x' record record' hsetting hx
    rw [run_bind] at hclear
    rw [run_bind, run_bind]
    generalize c.run s x record = u at hsame hclear
    generalize c.run s' x' record' = u' at hsame
    obtain ⟨result, y, record⟩ := u
    obtain ⟨result', y', record'⟩ := u'
    cases result with
    | error i =>
      obtain ⟨rfl, hy⟩ := hsame hclear
      exact ⟨rfl, hy⟩
    | ok a =>
      obtain ⟨rfl, hy⟩ := hsame (hclear.of_grows ((hnext a).grows s y record))
      exact (hnext a).same s s' y y' record record' hsetting hy hclear

theorem ite {p : Prop} [Decidable p] {c' : Computation σ α} (h : c.Blind d) (h' : c'.Blind d) :
    (if p then c else c').Blind d := by
  split
  · exact h
  · exact h'

theorem read_bind {f : Setting → Computation σ α}
    (hsame : ∀ setting setting', setting.Alike setting' → f setting' = f setting)
    (h : ∀ setting, (f setting).Blind d) : ((read : Computation σ Setting) >>= f).Blind d where
  grows s x record := (h s.setting).grows s x record
  same s s' x x' record record' hsetting hx hclear := by
    have hrun : ∀ (s : Situation σ) x record,
      ((read : Computation σ Setting) >>= f).run s x record = (f s.setting).run s x record := fun _ _ _ => rfl
    rw [hrun] at hclear
    rw [hrun, hrun, hsame s.setting s'.setting hsetting]
    exact (h s.setting).same s s' x x' record record' hsetting hx hclear

theorem get_bind {f : Machine → Run α} (hsame : ∀ m m', Machine.Alike d m m' → f m' = f m)
    (h : ∀ m, (f m).Blind d) : ((get : Run Machine) >>= f).Blind d where
  grows s m record := (h m).grows s m record
  same s s' m m' record record' hsetting hm hclear := by
    have hrun : ∀ (s : Situation Machine) m record,
      ((get : Run Machine) >>= f).run s m record = (f m).run s m record := fun _ _ _ => rfl
    rw [hrun] at hclear
    rw [hrun, hrun, hsame m m' hm]
    exact (h m).same s s' m m' record record' hsetting hm hclear

/-- What looks at anything but the scope. -/
theorem get_bind_of_scopeless {f : Machine → Run α} (hf : ∀ m s, f { m with scope := s } = f m)
    (h : ∀ m, (f m).Blind d) : ((get : Run Machine) >>= f).Blind d := by
  refine get_bind ?_ h
  rintro m _ ⟨-⟩
  exact hf m _

theorem change {f : Machine → Machine} (hgrows : ∀ m : Machine, m.scope.Grows (f m).scope)
    (hsame : ∀ m m', Machine.Alike d m m' → Machine.Alike d (f m) (f m')) :
    (modify f : Run Unit).Blind d :=
  act (f := fun _ m => (.ok (), f m)) (fun _ m => hgrows m) fun _ _ m m' _ hm => ⟨rfl, hsame m m' hm⟩

/-- A change that has nothing to do with the scope. -/
theorem change_of_sparesScope {f : Machine → Machine} (hf : SparesScope f) : (modify f : Run Unit).Blind d :=
  change (fun m => by rw [hf.scope_eq m]; exact .refl _) fun _ _ hm => hf.alike hm

/-- A change of a variable that keeps its name and what it is exported under. -/
theorem change_variable {f : Binding → Binding} (hf : ∀ b, (f b).name = b.name ∧ b.exports ⊆ (f b).exports)
    (name : String) :
    (modify fun m => { m with scope := m.scope.modify name f } : Run Unit).Blind d := by
  refine .change (fun m => Scope.grows_modify hf name m.scope) ?_
  rintro m _ ⟨hscope⟩
  exact .intro (hscope.modify (fun b => (hf b).1) name)

/-! ### Lists -/

theorem mapM {γ : Type} {f : γ → Computation σ α} {as : List γ} (h : ∀ a ∈ as, (f a).Blind d) :
    (as.mapM f).Blind d := by
  have hloop : ∀ as done, (∀ a ∈ as, (f a).Blind d) → (List.mapM.loop f as done).Blind d := by
    intro as
    induction as with
    | nil => exact fun done _ => pure done.reverse
    | cons a as ih =>
      intro done h
      obtain ⟨ha, has⟩ := List.forall_mem_cons.mp h
      exact bind ha fun b => ih (b :: done) has
  exact hloop as [] h

theorem forIn {γ : Type} {f : γ → α → Computation σ (ForInStep α)} (h : ∀ a b, (f a b).Blind d) (as : List γ)
    (b : α) : (ForIn.forIn as b f).Blind d := by
  induction as generalizing b with
  | nil => exact pure b
  | cons a as ih =>
    rw [List.forIn_cons]
    refine bind (h a b) fun step => ?_
    cases step with
    | done b => exact pure b
    | yield b => exact ih b

/-! ### Results and failures -/

theorem turned {turn : Except Interrupt α → Except Interrupt β} (hturn : IsFaithful turn) (h : c.Blind d) :
    (Computation.turned turn hturn c).Blind d where
  grows s x record := h.grows s x record
  same s s' x x' record record' hsetting hx hclear := by
    obtain ⟨hresult, hy⟩ := h.same s s' x x' record record' hsetting hx hclear
    exact ⟨congrArg turn hresult, hy⟩

theorem enclosed {wrap : Failure → Failure} (hwrap : KeepsCode wrap) (h : c.Blind d) :
    (Computation.enclosed wrap hwrap c).Blind d where
  grows s x record := h.grows { s with isWrapping := s.isWrapping || s.isTrying } x record
  same s s' x x' record record' hsetting hx hclear := by
    obtain ⟨hresult, hy⟩ := h.same { s with isWrapping := s.isWrapping || s.isTrying }
      { s' with isWrapping := s'.isWrapping || s'.isTrying } x x' record record' hsetting hx hclear
    exact ⟨congrArg (Except.mapError (Interrupt.mapFailure wrap)) hresult, hy⟩

theorem attempted {handle : Failure → Computation σ α} (h : c.Blind d) (hhandle : ∀ f, (handle f).Blind d) :
    (Computation.attempted c handle).Blind d := by
  unfold Computation.attempted
  constructor
  · intro s x record
    have hgrows := h.grows { s with isTrying := true } x record
    dsimp only
    generalize c.run { s with isTrying := true } x record = u at hgrows ⊢
    split
    · split
      · exact hgrows.trans ((hhandle _).grows s _ _)
      · exact hgrows
    · exact hgrows
  · intro s s' x x' record record' hsetting hx hclear
    have hsame := h.same { s with isTrying := true } { s' with isTrying := true } x x' record record' hsetting hx
    dsimp only at hclear ⊢
    generalize c.run { s with isTrying := true } x record = u at hsame hclear ⊢
    generalize c.run { s' with isTrying := true } x' record' = u' at hsame ⊢
    obtain ⟨result, y, record⟩ := u
    obtain ⟨result', y', record'⟩ := u'
    cases result with
    | ok a =>
      obtain ⟨rfl, hy⟩ := hsame hclear
      exact ⟨rfl, hy⟩
    | error i =>
      cases i with
      | failure f =>
        dsimp only at hclear
        split at hclear
        next hcatchable =>
          obtain ⟨rfl, hy⟩ := hsame (hclear.of_grows ((hhandle f).grows s y record))
          dsimp only
          rw [if_pos hcatchable, if_pos hcatchable]
          exact (hhandle f).same s s' y y' record record' hsetting hy hclear
        next hcatchable =>
          obtain ⟨rfl, hy⟩ := hsame hclear
          dsimp only
          rw [if_neg hcatchable, if_neg hcatchable]
          exact ⟨rfl, hy⟩
      | _ =>
        obtain ⟨rfl, hy⟩ := hsame hclear
        exact ⟨rfl, hy⟩

end Blind

end Computation

/-! ### One computation inside another -/

/-- A way to something and back where computations do not see the place of a variable: as long as it is in
sight there, they are alike, and what becomes of the machine on the way back is the same. -/
structure Passage.Blind (p : Passage σ τ) (d d' : Difference) : Prop where
  grows : ∀ x y, GrowsTo (p.enter x) y → GrowsTo x (p.back x y)
  enter : ∀ x x', Alike d x x' → Alike d' (p.enter x) (p.enter x')
  clear : ∀ x x' y, Alike d x x' → GrowsTo (p.enter x) y → d.Clear (machine (p.back x y)).scope →
    d'.Clear (machine y).scope
  back : ∀ x x' y y', Alike d x x' → GrowsTo (p.enter x) y → Alike d' y y' →
    Alike d (p.back x y) (p.back x' y')

theorem Computation.Blind.inside {p : Passage σ τ} {c : Computation τ α} (hp : p.Blind d d')
    (h : c.Blind d') : (Computation.inside p c).Blind d where
  grows s x record := hp.grows x _ (h.grows (s.through p x) (p.enter x) record)
  same s s' x x' record record' hsetting hx hclear := by
    have hgrows := h.grows (s.through p x) (p.enter x) record
    obtain ⟨hresult, hy⟩ := h.same (s.through p x) (s'.through p x') (p.enter x) (p.enter x') record record'
      hsetting (hp.enter x x' hx) (hp.clear x x' _ hx hgrows hclear)
    exact ⟨hresult, hp.back x x' _ _ hx hgrows hy⟩

namespace Passage

theorem blind_block : block.Blind d d where
  grows _ _ h := h.rewind
  enter m m' hm := by
    obtain ⟨hscope⟩ := hm
    exact .intro hscope
  clear m m' t hm hgrows hclear := by
    obtain ⟨hscope⟩ := hm
    exact hclear.of_rewind hscope.depth_le hgrows.length_le
  back m m' t t' hm hgrows ht := by
    obtain ⟨hscope⟩ := hm
    obtain ⟨hinside⟩ := ht
    exact .intro (hscope.rewind hinside hgrows)

theorem blind_beside : beside.Blind d d where
  grows _ _ h := h
  enter _ _ h := h.2
  clear _ _ _ _ _ h := h
  back _ _ _ _ hx _ hm := ⟨hx.1, hm⟩

theorem blind_ofValue (v : Datum) : (ofValue v).Blind d d where
  grows _ _ h := h
  enter _ _ h := ⟨rfl, h⟩
  clear _ _ _ _ _ h := h
  back _ _ _ _ _ _ hx := hx.2

theorem blind_shift (v : Datum) (back : Datum → Datum → Datum) : (shift v back).Blind d d where
  grows _ _ h := h
  enter _ _ h := ⟨rfl, h.2⟩
  clear _ _ _ _ _ h := h
  back _ _ _ _ hx _ hy := ⟨congrArg₂ back hx.1 hy.1, hy.2⟩

end Passage

namespace Machine

theorem grows_store (name : String) (value : Datum) (m : Machine) :
    m.scope.Grows (m.store name value).scope := by
  unfold store
  split
  · exact .refl _
  · refine Scope.grows_modify ?_ name m.scope
    exact fun b => ⟨rfl, List.Subset.refl b.exports⟩

theorem Alike.store (h : m.Alike d m') (name : String) (value : Datum) :
    (m.store name value).Alike d (m'.store name value) := by
  obtain ⟨hscope⟩ := h
  unfold Machine.store
  rw [hscope.held?_eq]
  split
  · exact .intro hscope
  · refine .intro (hscope.modify ?_ name)
    exact fun _ => rfl

theorem grows_share (name : String) (m : Machine) : m.scope.Grows (m.share name).scope := by
  unfold share
  split
  · exact .refl _
  · exact .refl _
  · refine Scope.grows_modify ?_ name m.scope
    exact fun b => ⟨rfl, List.Subset.refl b.exports⟩

theorem Alike.share (h : m.Alike d m') (name : String) : (m.share name).Alike d (m'.share name) := by
  obtain ⟨hscope⟩ := h
  unfold Machine.share
  rw [hscope.held?_eq]
  split
  · exact .intro hscope
  · exact .intro hscope
  · refine .intro (hscope.modify ?_ name)
    exact fun _ => rfl

end Machine

theorem Passage.blind_ofVariable (name : String) (v : Datum) : (ofVariable name v).Blind d d where
  grows _ x h := h.trans (x.2.grows_store name x.1)
  enter _ _ h := ⟨rfl, h⟩
  clear _ _ x _ _ h := h.of_grows (x.2.grows_store name x.1)
  back m m' x x' _ _ hx := by
    obtain ⟨hvalue, hm⟩ := hx
    have hstore := hm.store name x.1
    have hback : (ofVariable name v).back m' x' = x'.2.store name x.1 := by rw [← hvalue]; rfl
    rw [hback]
    exact hstore

namespace Focus

open Computation

variable {focus : Focus α}

theorem blind_get_bind {f : Datum → Focus α} (h : ∀ v, (f v).Blind d) :
    ((get : Focus Datum) >>= f).Blind d := by
  have hget : (get : Focus Datum).Blind d :=
    .act (f := fun _ (x : Datum × Machine) => (.ok x.1, x)) (fun _ _ => .refl _) fun _ _ x x' _ hx =>
      ⟨congrArg Except.ok hx.1, hx⟩
  exact .bind hget h

theorem blind_set (v : Datum) : (set v : Focus PUnit).Blind d :=
  .act (f := fun _ x => (.ok (), v, x.2)) (fun _ x => .refl x.2.scope) fun _ _ _ _ _ hx => ⟨rfl, rfl, hx.2⟩

theorem blind_lift {run : Run α} (h : run.Blind d) : (lift run).Blind d := .inside Passage.blind_beside h

theorem blind_aside (h : focus.Blind d) (v : Datum) : (aside focus v).Blind d :=
  .inside (Passage.blind_shift v _) h

theorem blind_within (part : Part) (h : focus.Blind d) : (within part focus).Blind d := by
  refine blind_get_bind fun v => ?_
  split
  · exact blind_aside h _
  · exact .inside (Passage.blind_shift _ _) h

theorem blind_placedAt (p : Position) (h : focus.Blind d) : (placedAt p focus).Blind d := .turned _ h

end Focus

namespace Run

open Computation

theorem blind_onVariable (name : String) (v : Datum) {focus : Focus α} (h : focus.Blind d) :
    (onVariable name v focus).Blind d :=
  .inside (Passage.blind_ofVariable name v) h

theorem blind_onValue (v : Datum) {focus : Focus α} (h : focus.Blind d) : (onValue v focus).Blind d :=
  .inside (Passage.blind_ofValue v) h

theorem blind_withinBlock {run : Run α} (h : run.Blind d) : (withinBlock run).Blind d :=
  .inside Passage.blind_block h

theorem blind_count (p : Option Position) : (count p).Blind d := by
  refine .read_bind (fun _ _ hsetting => by simp only [hsetting.maxOperations]) fun setting =>
    .get_bind_of_scopeless (fun _ _ => rfl) fun m => .bind (.change_of_sparesScope fun _ _ => rfl) fun _ => ?_
  split
  · exact .fail _
  · exact .pure _

theorem blind_tick (p : Position) : (tick p).Blind d := blind_count p.known?

theorem blind_introduce (name : String) (value : Datum) : (introduce name value).Blind d := by
  refine .change (fun m => Scope.grows_append [_] m.scope) ?_
  rintro m _ ⟨hscope⟩
  exact .intro (hscope.append [_])

theorem blind_declare (name : String) (value : Datum) (isConstant : Bool) :
    (declare name value isConstant).Blind d :=
  blind_introduce _ _

theorem blind_say (isDebug : Bool) (text : String) : (say isDebug text).Blind d :=
  .change_of_sparesScope fun _ _ => rfl

end Run

end HostedScripts.Language
