import HostedScripts.Language.Evaluator.Statements
import HostedScripts.Proofs.Dictionary
import Mathlib.Data.List.Forall2
import Mathlib.Data.List.Infix

/-! # Scopes that differ in the place of a variable

Two scopes may hold the same variables, but one of them further up (`Scope.Moved`): what hides it there at its
old place has its name, so that nobody finds it. Whoever looks for a variable by its name finds the same in
both scopes, and a change by name is the same change in both. Only where a script shows what it exports does
the place of a variable count: of two variables under one name the one further up is taken. So a scope is
*clear* if the variable shares no such name with those that it was moved across (`Difference.Clear`).

A scope only grows while a script goes on: what was in sight keeps its name, and its exports
(`Scope.Grows`). So a scope that is clear at the end was clear all the time. -/

namespace HostedScripts.Language

/-- How two scopes may differ: not at all, or in the place of the variable with a name, which stands further
up in the second one, before so many others, where so many follow it in the first one. -/
inductive Difference where
  | nothing
  | place (name : String) (across below : Nat)

namespace Scope

variable {name : String} {across below : Nat} {s s' t u : Scope}

/-- The variable with a name stands further up in the second scope. -/
inductive Moved (name : String) (across below : Nat) : Scope → Scope → Prop
  | intro {top between rest : Scope} {b hidden : Binding} (htop : top ≠ [])
      (hacross : between.length = across) (hbelow : rest.length = below) (hname : b.name = name)
      (hhidden : hidden.name = name ∧ hidden.exports = [])
      (hbetween : ∀ c ∈ between, c.name ≠ name) :
      Moved name across below (top ++ (between ++ b :: rest)) (top ++ b :: (between ++ hidden :: rest))

/-- A scope in which what was in sight keeps its names and its exports. -/
def Grows (s t : Scope) : Prop :=
  ∃ top rest, t = top ++ rest ∧ List.Forall₂ (fun b c => c.name = b.name ∧ b.exports ⊆ c.exports) s rest

/-! ### Growing -/

theorem exists_of_forall₂_append {α β : Type} {R : α → β → Prop} {as as' : List α} {bs : List β}
    (h : List.Forall₂ R (as ++ as') bs) :
    ∃ front back, bs = front ++ back ∧ List.Forall₂ R as front ∧ List.Forall₂ R as' back := by
  have hfront := List.forall₂_take as.length h
  have hback := List.forall₂_drop as.length h
  rw [List.take_left] at hfront
  rw [List.drop_left] at hback
  exact ⟨_, _, (List.take_append_drop as.length bs).symm, hfront, hback⟩

theorem kept_refl (s : Scope) :
    List.Forall₂ (fun b c : Binding => c.name = b.name ∧ b.exports ⊆ c.exports) s s :=
  List.forall₂_same.mpr fun _ _ => ⟨rfl, List.Subset.refl _⟩

theorem Grows.refl (s : Scope) : s.Grows s := ⟨[], s, rfl, kept_refl s⟩

theorem grows_append (top s : Scope) : s.Grows (top ++ s) := ⟨top, s, rfl, kept_refl s⟩

theorem kept_trans (h : List.Forall₂ (fun b c : Binding => c.name = b.name ∧ b.exports ⊆ c.exports) s t)
    (h' : List.Forall₂ (fun b c : Binding => c.name = b.name ∧ b.exports ⊆ c.exports) t u) :
    List.Forall₂ (fun b c : Binding => c.name = b.name ∧ b.exports ⊆ c.exports) s u := by
  induction h generalizing u with
  | nil => exact h'
  | cons hb hs ih =>
    cases h' with
    | cons hc ht => exact .cons ⟨hc.1.trans hb.1, List.Subset.trans hb.2 hc.2⟩ (ih ht)

theorem Grows.trans (h : s.Grows t) (h' : t.Grows u) : s.Grows u := by
  obtain ⟨top, rest, rfl, hrest⟩ := h
  obtain ⟨top', all, rfl, hall⟩ := h'
  obtain ⟨above, rest', rfl, -, hrest'⟩ := exists_of_forall₂_append hall
  exact ⟨top' ++ above, rest', (List.append_assoc ..).symm, kept_trans hrest hrest'⟩

theorem exists_of_kept
    (h : List.Forall₂ (fun b c : Binding => c.name = b.name ∧ b.exports ⊆ c.exports) s t) {b : Binding}
    (hb : b ∈ s) : ∃ c ∈ t, c.name = b.name ∧ b.exports ⊆ c.exports := by
  induction h with
  | nil => cases hb
  | cons hkept hs ih =>
    rcases List.mem_cons.mp hb with rfl | hb
    · exact ⟨_, List.mem_cons_self, hkept⟩
    · obtain ⟨c, hc, hkept⟩ := ih hb
      exact ⟨c, List.mem_cons_of_mem _ hc, hkept⟩

theorem map_name_of_kept
    (h : List.Forall₂ (fun b c : Binding => c.name = b.name ∧ b.exports ⊆ c.exports) s t) :
    t.map (·.name) = s.map (·.name) := by
  induction h with
  | nil => rfl
  | cons hkept hs ih => rw [List.map_cons, List.map_cons, hkept.1, ih]

/-- What was in sight is found again at the end of the scope. -/
theorem Grows.rewind (h : s.Grows t) : s.Grows (t.rewind s.length) := by
  obtain ⟨top, rest, rfl, hrest⟩ := h
  have hlength : (top ++ rest).length - s.length = top.length := by
    rw [List.length_append, hrest.length_eq, Nat.add_sub_cancel]
  refine ⟨[], rest, ?_, hrest⟩
  unfold Scope.rewind
  rw [hlength, List.drop_left, List.nil_append]

theorem Grows.length_le (h : s.Grows t) : s.length ≤ t.length := by
  obtain ⟨top, rest, rfl, hrest⟩ := h
  rw [List.length_append, hrest.length_eq]
  exact Nat.le_add_left ..

theorem Grows.of_append {top : Scope} (h : (top ++ s).Grows t) : s.Grows (t.rewind s.length) :=
  ((grows_append top s).trans h).rewind

theorem grows_modify {f : Binding → Binding} (hf : ∀ b, (f b).name = b.name ∧ b.exports ⊆ (f b).exports)
    (x : String) (s : Scope) : s.Grows (s.modify x f) := by
  refine ⟨[], s.modify x f, rfl, ?_⟩
  induction s with
  | nil => exact .nil
  | cons b s ih =>
    unfold Scope.modify
    split
    · exact .cons (hf b) (kept_refl s)
    · exact .cons ⟨rfl, List.Subset.refl _⟩ ih

theorem grows_modifyHead {f : Binding → Binding}
    (hf : ∀ b, (f b).name = b.name ∧ b.exports ⊆ (f b).exports) (s : Scope) : s.Grows (s.modifyHead f) := by
  cases s with
  | nil => exact .refl _
  | cons b s => exact ⟨[], f b :: s, rfl, .cons (hf b) (kept_refl s)⟩

/-! ### A variable that was moved -/

theorem lookUp_append (x : String) (s t : Scope) :
    Scope.lookUp (s ++ t) x = (Scope.lookUp s x).or (Scope.lookUp t x) := List.find?_append ..

theorem lookUp_eq_none {x : String} (h : ∀ c ∈ s, c.name ≠ x) : s.lookUp x = none :=
  List.find?_eq_none.mpr fun c hc => by simpa using h c hc

/-- Everybody finds the same in scopes in which a variable was moved. -/
theorem Moved.lookUp_eq (h : Moved name across below s s') (x : String) : s'.lookUp x = s.lookUp x := by
  obtain ⟨-, -, -, hname, ⟨hhidden, -⟩, hbetween⟩ := h
  rename_i top between rest b hidden
  have hstep : ∀ (c : Binding) (t : Scope), Scope.lookUp (c :: t) x =
      if c.name = x then some c else Scope.lookUp t x := fun c t => by
    unfold Scope.lookUp
    by_cases hc : c.name = x <;> simp [hc]
  rw [lookUp_append, lookUp_append, hstep, lookUp_append, lookUp_append, hstep, hstep]
  congr 1
  by_cases hx : name = x
  · subst hx
    rw [if_pos hname, lookUp_eq_none hbetween, if_pos hname]
    rfl
  · rw [if_neg (hname.trans_ne hx), if_neg (hhidden.trans_ne hx), if_neg (hname.trans_ne hx)]

theorem modify_append_of_mem {x : String} {f : Binding → Binding} {s t : Scope}
    (h : ∃ c ∈ s, c.name = x) : Scope.modify x f (s ++ t) = Scope.modify x f s ++ t := by
  induction s with
  | nil => simp at h
  | cons b s ih =>
    rw [List.cons_append]
    unfold Scope.modify
    split
    · rfl
    · next hb =>
      rw [ih, List.cons_append]
      obtain ⟨c, hc, hcx⟩ := h
      rcases List.mem_cons.mp hc with rfl | hc
      · exact absurd hcx hb
      · exact ⟨c, hc, hcx⟩

theorem modify_append_of_notMem {x : String} {f : Binding → Binding} {s t : Scope}
    (h : ∀ c ∈ s, c.name ≠ x) : Scope.modify x f (s ++ t) = s ++ Scope.modify x f t := by
  induction s with
  | nil => rfl
  | cons b s ih =>
    obtain ⟨hb, hs⟩ := List.forall_mem_cons.mp h
    have hstep : Scope.modify x f (b :: (s ++ t)) = b :: Scope.modify x f (s ++ t) := if_neg hb
    rw [List.cons_append, hstep, ih hs, List.cons_append]

theorem map_name_modify {x : String} {f : Binding → Binding} (hf : ∀ b, (f b).name = b.name) (s : Scope) :
    (s.modify x f).map (·.name) = s.map (·.name) := by
  induction s with
  | nil => rfl
  | cons b s ih =>
    unfold Scope.modify
    split
    · rw [List.map_cons, List.map_cons, hf]
    · rw [List.map_cons, List.map_cons, ih]

theorem length_modify (x : String) (f : Binding → Binding) (s : Scope) :
    (s.modify x f).length = s.length := by
  induction s with
  | nil => rfl
  | cons b s ih =>
    unfold Scope.modify
    split
    · rfl
    · rw [List.length_cons, List.length_cons, ih]

/-- **A change by name is the same change** in scopes in which a variable was moved. -/
theorem Moved.modify (h : Moved name across below s s') {f : Binding → Binding}
    (hf : ∀ b, (f b).name = b.name) (x : String) : Moved name across below (s.modify x f) (s'.modify x f) := by
  obtain ⟨htop, hacross, hbelow, hname, hhidden, hbetween⟩ := h
  rename_i top between rest b hidden
  by_cases hmem : ∃ c ∈ top, c.name = x
  · rw [modify_append_of_mem hmem, modify_append_of_mem hmem]
    refine .intro (fun hnil => htop ?_) hacross hbelow hname hhidden hbetween
    have hlength := length_modify x f top
    rw [hnil] at hlength
    exact List.eq_nil_of_length_eq_zero hlength.symm
  · have hnot : ∀ c ∈ top, c.name ≠ x := fun c hc hcx => hmem ⟨c, hc, hcx⟩
    rw [modify_append_of_notMem hnot, modify_append_of_notMem hnot]
    by_cases hx : name = x
    · -- the variable itself is changed at both places
      subst hx
      have hsecond : Scope.modify name f (b :: (between ++ hidden :: rest)) =
          f b :: (between ++ hidden :: rest) := if_pos hname
      have hfirst : Scope.modify name f (b :: rest) = f b :: rest := if_pos hname
      rw [modify_append_of_notMem hbetween, hfirst, hsecond]
      exact .intro htop hacross hbelow ((hf b).trans hname) hhidden hbetween
    · have hb : b.name ≠ x := hname.trans_ne hx
      have hh : hidden.name ≠ x := hhidden.1.trans_ne hx
      have hsecond : Scope.modify x f (b :: (between ++ hidden :: rest)) =
          b :: Scope.modify x f (between ++ hidden :: rest) := if_neg hb
      have hfirst : Scope.modify x f (b :: rest) = b :: Scope.modify x f rest := if_neg hb
      have hthird : Scope.modify x f (hidden :: rest) = hidden :: Scope.modify x f rest := if_neg hh
      rw [hsecond]
      by_cases hbetweenMem : ∃ c ∈ between, c.name = x
      · rw [modify_append_of_mem hbetweenMem, modify_append_of_mem hbetweenMem]
        refine .intro htop ((length_modify x f between).trans hacross) hbelow hname hhidden fun c hc => ?_
        have hcname : c.name ∈ between.map (·.name) := by
          rw [← map_name_modify hf]
          exact List.mem_map_of_mem hc
        obtain ⟨c', hc', heq⟩ := List.mem_map.mp hcname
        rw [← heq]
        exact hbetween c' hc'
      · have hnotBetween : ∀ c ∈ between, c.name ≠ x := fun c hc hcx => hbetweenMem ⟨c, hc, hcx⟩
        rw [modify_append_of_notMem hnotBetween, modify_append_of_notMem hnotBetween, hfirst, hthird]
        exact .intro htop hacross ((length_modify x f rest).trans hbelow) hname hhidden hbetween

theorem Moved.append (h : Moved name across below s s') (more : Scope) :
    Moved name across below (more ++ s) (more ++ s') := by
  obtain ⟨htop, hacross, hbelow, hname, hhidden, hbetween⟩ := h
  rename_i top between rest b hidden
  rw [← List.append_assoc more top, ← List.append_assoc more top]
  exact .intro (fun hnil => htop (List.append_eq_nil_iff.mp hnil).2) hacross hbelow hname hhidden hbetween

theorem Moved.length_eq (h : Moved name across below s s') : s'.length = s.length + 1 := by
  obtain ⟨⟩ := h
  simp only [List.length_append, List.length_cons]
  omega

theorem Moved.length_gt (h : Moved name across below s s') : across + 1 + below < s.length := by
  obtain ⟨htop, hacross, hbelow, -⟩ := h
  have htop := List.length_pos_iff.mpr htop
  simp only [List.length_append, List.length_cons]
  omega

theorem Moved.rewind (h : Moved name across below s s') {n : Nat} (hn : across + 1 + below < n)
    (hle : n ≤ s.length) : Moved name across below (s.rewind n) (s'.rewind (n + 1)) := by
  have hlength := h.length_eq
  have hdrop : s'.length - (n + 1) = s.length - n := by omega
  unfold Scope.rewind
  rw [hdrop]
  obtain ⟨htop, hacross, hbelow, hname, hhidden, hbetween⟩ := h
  rename_i top between rest b hidden
  simp only [List.length_append, List.length_cons] at hle ⊢
  have hlt : top.length + (between.length + (rest.length + 1)) - n < top.length := by omega
  rw [List.drop_append_of_le_length hlt.le, List.drop_append_of_le_length hlt.le]
  refine .intro (fun hnil => ?_) hacross hbelow hname hhidden hbetween
  have hshort := List.drop_eq_nil_iff.mp hnil
  omega

theorem Moved.exists_cons (h : Moved name across below s s') :
    ∃ b t t', s = b :: t ∧ s' = b :: t' ∧ ∀ b', Moved name across below (b' :: t) (b' :: t') := by
  obtain ⟨htop, hacross, hbelow, hname, hhidden, hbetween⟩ := h
  rename_i top between rest c hidden
  cases top with
  | nil => exact absurd rfl htop
  | cons b top =>
    exact ⟨b, _, _, rfl, rfl, fun b' =>
      .intro (List.cons_ne_nil b' top) hacross hbelow hname hhidden hbetween⟩

end Scope

/-! ### Clear scopes -/

namespace Difference

/-- How the scopes of two machines differ. -/
def Scopes : Difference → Scope → Scope → Prop
  | nothing, s, s' => s' = s
  | place name across below, s, s' => Scope.Moved name across below s s'

/-- The variable that stands elsewhere is exported under no name under which one of those is exported that it
was moved across. -/
def Clear : Difference → Scope → Prop
  | nothing, _ => True
  | place _ across below, s => ∀ top between b rest, s = top ++ (between ++ b :: rest) →
      between.length = across → rest.length = below → ∀ c ∈ between, b.exports.Disjoint c.exports

variable {d : Difference} {s s' t t' : Scope}

/-- A scope that is clear at the end was clear all the time. -/
theorem Clear.of_grows (h : d.Clear t) (hgrows : s.Grows t) : d.Clear s := by
  cases d with
  | nothing => trivial
  | place name across below =>
    rintro top between b rest rfl hacross hbelow
    obtain ⟨above, all, rfl, hall⟩ := hgrows
    obtain ⟨top', more, rfl, -, hmore⟩ := Scope.exists_of_forall₂_append hall
    obtain ⟨between', last, rfl, hbetween, hlast⟩ := Scope.exists_of_forall₂_append hmore
    obtain ⟨b', rest', hb, hrest, rfl⟩ := List.forall₂_cons_left_iff.mp hlast
    intro c hc
    obtain ⟨c', hc', -, hkept⟩ := Scope.exists_of_kept hbetween hc
    have hdisjoint := h (above ++ top') between' b' rest' (List.append_assoc ..).symm
      (hbetween.length_eq.symm.trans hacross) (hrest.length_eq.symm.trans hbelow) c' hc'
    exact fun a hab hac => hdisjoint (hb.2 hab) (hkept hac)

/-- How many variables there are at least. -/
def depth : Difference → Nat
  | nothing => 0
  | place _ across below => across + 2 + below

/-- Whether a scope is clear is seen from the variables that were in sight first. -/
theorem Clear.of_rewind {n : Nat} (h : d.Clear (s.rewind n)) (hn : d.depth ≤ n) (hle : n ≤ s.length) :
    d.Clear s := by
  cases d with
  | nothing => trivial
  | place name across below =>
    rintro top between b rest rfl hacross hbelow
    have hdepth : depth (.place name across below) = across + 2 + below := rfl
    unfold Scope.rewind at h
    simp only [List.length_append, List.length_cons] at h hle
    rw [List.drop_append_of_le_length (by omega)] at h
    exact h _ between b rest rfl hacross hbelow

/-! ### What scopes have in common that differ in the place of a variable -/

namespace Scopes

theorem depth_le (h : d.Scopes s s') : d.depth ≤ s.length := by
  cases d with
  | nothing => exact Nat.zero_le _
  | place name across below =>
    have hlength := Scope.Moved.length_gt h
    have hdepth : depth (.place name across below) = across + 2 + below := rfl
    omega

theorem lookUp_eq (h : d.Scopes s s') (x : String) : s'.lookUp x = s.lookUp x := by
  cases d with
  | nothing => exact congrArg (Scope.lookUp · x) h
  | place name across below => exact Scope.Moved.lookUp_eq h x

theorem held?_eq (h : d.Scopes s s') (x : String) : s'.held? x = s.held? x :=
  congrArg (Option.map Binding.value) (h.lookUp_eq x)

theorem isEmpty_eq (h : d.Scopes s s') : s'.isEmpty = s.isEmpty := by
  cases d with
  | nothing => exact congrArg List.isEmpty h
  | place name across below =>
    obtain ⟨b, t, t', rfl, rfl, -⟩ := Scope.Moved.exists_cons h
    rfl

theorem modify (h : d.Scopes s s') {f : Binding → Binding} (hf : ∀ b, (f b).name = b.name) (x : String) :
    d.Scopes (s.modify x f) (s'.modify x f) := by
  cases d with
  | nothing => exact congrArg (Scope.modify x f) h
  | place name across below => exact Scope.Moved.modify h hf x

theorem append (h : d.Scopes s s') (more : Scope) : d.Scopes (more ++ s) (more ++ s') := by
  cases d with
  | nothing => exact congrArg (more ++ ·) h
  | place name across below => exact Scope.Moved.append h more

theorem rewind (h : d.Scopes s s') (ht : d.Scopes t t') (hgrows : s.Grows t) :
    d.Scopes (t.rewind s.length) (t'.rewind s'.length) := by
  cases d with
  | nothing =>
    obtain rfl : s' = s := h
    obtain rfl : t' = t := ht
    rfl
  | place name across below =>
    unfold Scopes at h
    rw [h.length_eq]
    exact Scope.Moved.rewind ht h.length_gt hgrows.length_le

theorem modifyHead (h : d.Scopes s s') (f : Binding → Binding) :
    d.Scopes (s.modifyHead f) (s'.modifyHead f) := by
  cases d with
  | nothing => exact congrArg (List.modifyHead f) h
  | place name across below =>
    obtain ⟨b, t, t', rfl, rfl, hcons⟩ := Scope.Moved.exists_cons h
    exact hcons (f b)

/-- **Clear scopes export the same.** -/
theorem get?_exports_eq (h : d.Scopes s s') (hclear : d.Clear s) (f : Datum → Datum) (name : String) :
    Dictionary.get? name (s'.flatMap fun b => b.exports.map (·, f b.value)) =
      Dictionary.get? name (s.flatMap fun b => b.exports.map (·, f b.value)) := by
  cases d with
  | nothing =>
    obtain rfl : s' = s := h
    rfl
  | place x across below =>
    obtain ⟨-, hacross, hbelow, -, ⟨-, hhidden⟩, -⟩ := h
    rename_i top between rest b hidden
    simp only [List.flatMap_append, List.flatMap_cons, hhidden, List.map_nil, List.nil_append,
      Dictionary.get?_append]
    congr 1
    by_cases hb : name ∈ b.exports
    · -- none of those in between is exported under the name
      have hbetween : Dictionary.get? name (between.flatMap fun b => b.exports.map (·, f b.value)) = none := by
        refine not_ne_iff.mp (mt Dictionary.mem_keys_iff.mpr fun hkey => ?_)
        simp only [List.map_flatMap, List.map_map, List.mem_flatMap, List.mem_map, Function.comp_apply,
          exists_eq_right] at hkey
        obtain ⟨c, hc, hname⟩ := hkey
        exact hclear top between b rest rfl hacross hbelow c hc hb hname
      rw [hbetween, Option.none_or, Option.none_or]
    · have hnone : Dictionary.get? name (b.exports.map (·, f b.value)) = none := by
        refine not_ne_iff.mp (mt Dictionary.mem_keys_iff.mpr fun hkey => hb ?_)
        simpa only [List.map_map, Function.comp_def, List.map_id'] using hkey
      rw [hnone, Option.none_or, Option.none_or]

end Scopes

end Difference

/-- A scope that has grown from one in which a variable was moved is clear if the variable shares no name with
any other of those that were in sight first. -/
theorem Scope.Moved.clear_of_disjoint {name : String} {across below : Nat} {s s' t : Scope}
    (h : Scope.Moved name across below s s') (hgrows : s.Grows t)
    (hdisjoint : ∀ b ∈ t.rewind s.length, ∀ c ∈ t.rewind s.length, b.name = name → c.name ≠ name →
      b.exports.Disjoint c.exports) : (Difference.place name across below).Clear t := by
  obtain ⟨-, hacross, hbelow, hname, -, hbetween⟩ := h
  rename_i top between rest b hidden
  obtain ⟨above, all, rfl, hall⟩ := hgrows
  have hlength : (above ++ all).length - (top ++ (between ++ b :: rest)).length = above.length := by
    rw [List.length_append, hall.length_eq, Nat.add_sub_cancel]
  have hrewind : Scope.rewind (above ++ all) (top ++ (between ++ b :: rest)).length = all := by
    unfold Scope.rewind
    rw [hlength, List.drop_left]
  rw [hrewind] at hdisjoint
  obtain ⟨top', more, rfl, -, hmore⟩ := exists_of_forall₂_append hall
  obtain ⟨between', last, rfl, hbetween', hlast⟩ := exists_of_forall₂_append hmore
  obtain ⟨b', rest', hb, hrest, rfl⟩ := List.forall₂_cons_left_iff.mp hlast
  intro top₂ between₂ b₂ rest₂ heq hacross₂ hbelow₂ c hc
  rw [← List.append_assoc] at heq
  obtain ⟨-, htail⟩ := List.append_inj' heq (by
    simp only [List.length_append, List.length_cons, ← hbetween'.length_eq, ← hrest.length_eq]
    omega)
  obtain ⟨rfl, hcons⟩ := List.append_inj' htail (by
    simp only [List.length_cons, ← hrest.length_eq]
    omega)
  obtain ⟨rfl, rfl⟩ := List.cons.inj hcons
  have hnames : c.name ≠ name := by
    have hmem := List.mem_map_of_mem (f := Binding.name) hc
    rw [map_name_of_kept hbetween'] at hmem
    obtain ⟨e, he, heq⟩ := List.mem_map.mp hmem
    exact heq ▸ hbetween e he
  exact hdisjoint b' (by simp) c (by simp [hc]) (hb.1.trans hname) hnames

end HostedScripts.Language
