import HostedScripts.Language.Machine

/-!
# Computations of a running script

A `Computation` changes a machine, or a machine with something beside it, and may be interrupted; an
interrupted computation keeps what it did. `Run` is a computation on a machine alone. Every operation is
counted by `count`, which fails as soon as the limit is passed.

A script can ask to end: `depart` fails with the code and puts the moment on record as a `Departure`, with
the machine as it is when everything under way has been left. A computation that has departed does nothing
but leave (`Upshot.Obeys`). The law is a part of every computation, since all the ways to build one keep it:

* `inside` leaves a block, a call, a module or a value by its `Passage`, which neither says nor counts
  anything;
* `turned` may put other failures in place of failures, with the same exit codes;
* `attempted` handles failures that can be caught, and that of a departure cannot;
* `enclosed` wraps failures into some that can be caught. A departure that is wrapped on its way out of a
  `try` block is marked as such, and the law says nothing about it.
-/

namespace HostedScripts.Language

/-- What a computation works on: a machine, perhaps with something beside it. -/
class Stage (σ : Type) where
  machine : σ → Machine

export Stage (machine)

instance : Stage Machine := ⟨id⟩

instance : Stage (Datum × Machine) := ⟨Prod.snd⟩

@[simp]
theorem machine_self (m : Machine) : machine m = m := rfl

@[simp]
theorem machine_pair (d : Datum) (m : Machine) : machine (d, m) = m := rfl

variable {σ τ : Type} [Stage σ] [Stage τ] {α β : Type}

/-! ### Departures -/

/-- A script asks to end with a code: the machine at that moment, and when all that is under way has
been `left`; what was in sight where the outermost function was called, if it sees only its own
variables (`caller`); and the variables that are being changed in place. It is wrapped if an import,
or the running of a text, is under way that was begun in a `try` block. Leaving only puts variables
out of sight, and stores those that are being changed. -/
structure Departure where
  code : Int64
  moment : Machine
  left : Machine
  caller : Option Scope
  changing : List String
  isWrapped : Bool
  keeps : left.scope.without changing <:+ (caller.getD moment.scope).without changing ∧
    (changing = [] → left.cells = moment.cells)

/-- Where a computation stands: what the script is bound to, and what is under way. `leave` tells
what becomes of the machine when all that is left; the rest is as in a departure, but for
`isTrying`: a `try` block is under way. -/
structure Situation (σ : Type) [Stage σ] where
  setting : Setting
  leave : σ → Machine
  caller : Option Scope
  changing : List String
  isTrying : Bool
  isWrapping : Bool
  keeps : ∀ x, (leave x).scope.without changing <:+ (caller.getD (machine x).scope).without changing ∧
    (changing = [] → (leave x).cells = (machine x).cells)

/-- Where a script begins: nothing is under way. -/
def Situation.outset (setting : Setting) : Situation Machine where
  setting := setting
  leave := id
  caller := none
  changing := []
  isTrying := false
  isWrapping := false
  keeps _ := ⟨List.suffix_refl _, fun _ => rfl⟩

/-- The departure with a code from a state. -/
def Situation.departure (s : Situation σ) (code : Int64) (x : σ) : Departure where
  code := code
  moment := machine x
  left := s.leave x
  caller := s.caller
  changing := s.changing
  isWrapped := s.isWrapping
  keeps := s.keeps x

/-- What a computation came to: its result or why it does not go on, the state it leaves, and the
departures on record, the latest first. -/
structure Upshot (σ α : Type) where
  result : Except Interrupt α
  state : σ
  departures : List Departure

/-- A computation ends by a departure: it fails with the exit code, in a way that cannot be caught
where it could be, and did nothing after it but leave what was under way. -/
structure Departure.Ends (d : Departure) (s : Situation σ) (u : Upshot σ α) : Prop where
  isWrapping_eq : s.isWrapping = false
  failed : ∃ f, u.result = .error (.failure f) ∧ f.exitCode? = some d.code ∧
    (s.isTrying = true → f.isCatchable = false)
  left : s.leave u.state = d.left
  said : (machine u.state).said = d.moment.said
  operations : (machine u.state).operations = d.moment.operations

/-- What is demanded of a computation that began with some departures on record: it strikes none
out, and it ends by every new one that is not wrapped. -/
structure Upshot.Obeys (u : Upshot σ α) (s : Situation σ) (record : List Departure) : Prop where
  suffix : record <:+ u.departures
  ends : ∀ d ∈ u.departures, d ∈ record ∨ d.isWrapped = true ∨ d.Ends s u

/-- A computation of a running script, on a stage. -/
structure Computation (σ : Type) [Stage σ] (α : Type) where
  run : Situation σ → σ → List Departure → Upshot σ α
  obeys : ∀ s x record, (run s x record).Obeys s record

/-- A computation on a machine. -/
abbrev Run := Computation Machine

namespace Upshot

variable {u : Upshot σ α} {s : Situation σ} {v : Upshot τ β} {t : Situation τ} {record : List Departure}

theorem obeys_of_departures_eq (h : u.departures = record) : u.Obeys s record :=
  ⟨h ▸ List.suffix_refl _, fun _ hd => .inl (h ▸ hd)⟩

/-- What has the departures of another upshot obeys if they end it too. -/
theorem Obeys.map (h : u.Obeys s record) (heq : v.departures = u.departures)
    (hends : ∀ d : Departure, d.Ends s u → d.Ends t v) : v.Obeys t record :=
  ⟨heq ▸ h.suffix, fun d hd => (h.ends d (heq ▸ hd)).imp_right (Or.imp_right (hends d))⟩

/-- A computation goes on with another one that no departure ends. -/
theorem Obeys.trans (h : u.Obeys s record) (hgo : ∀ d : Departure, ¬ d.Ends s u)
    (hv : v.Obeys t u.departures) : v.Obeys t record := by
  refine ⟨h.suffix.trans hv.suffix, fun d hd => ?_⟩
  rcases hv.ends d hd with hd | hd
  · rcases h.ends d hd with hd | hd | hd
    · exact .inl hd
    · exact .inr (.inl hd)
    · exact absurd hd (hgo d)
  · exact .inr hd

end Upshot

namespace Computation

/-! ### Steps that nothing departs in -/

/-- Looks at what the script is bound to and at the state, and changes it. -/
def act (f : Setting → σ → Except Interrupt α × σ) : Computation σ α where
  run s x record :=
    match f s.setting x with
    | (result, x) => ⟨result, x, record⟩
  obeys _ _ _ := Upshot.obeys_of_departures_eq rfl

/-- Does not go on. -/
def interrupt (i : Interrupt) : Computation σ α := act fun _ x => (.error i, x)

/-- Asks to end the script with a code. -/
def depart (code : Int64) (p : Position) : Computation σ α where
  run s x record :=
    ⟨.error (.failure (.plain (.exited code) (some p))), x, s.departure code x :: record⟩
  obeys s x record := by
    refine ⟨List.suffix_cons _ _, fun d hd => ?_⟩
    rcases List.mem_cons.mp hd with rfl | hd
    · cases hs : s.isWrapping with
      | true => exact .inr (.inl hs)
      | false => exact .inr (.inr ⟨hs, ⟨_, rfl, rfl, fun _ => rfl⟩, rfl, rfl, rfl⟩)
    · exact .inl hd

/-! ### One computation after another -/

/-- Two computations, the second with what the first one gives. -/
def andThen (run : Computation σ α) (next : α → Computation σ β) : Computation σ β where
  run s x record :=
    match run.run s x record with
    | ⟨.ok a, y, record⟩ => (next a).run s y record
    | ⟨.error i, y, record⟩ => ⟨.error i, y, record⟩
  obeys s x record := by
    have hrun := run.obeys s x record
    generalize run.run s x record = u at hrun
    obtain ⟨result, y, record'⟩ := u
    cases result with
    | ok a =>
      refine hrun.trans (fun d hd => ?_) ((next a).obeys s y record')
      obtain ⟨f, hf, -⟩ := hd.failed
      cases hf
    | error i =>
      refine hrun.map rfl fun d hd => ?_
      obtain ⟨f, hf, hcode⟩ := hd.failed
      cases hf
      exact ⟨hd.isWrapping_eq, ⟨f, rfl, hcode⟩, hd.left, hd.said, hd.operations⟩

instance : Monad (Computation σ) where
  pure a := act fun _ x => (.ok a, x)
  bind := andThen

instance : MonadReaderOf Setting (Computation σ) where
  read := act fun setting x => (.ok setting, x)

instance : MonadStateOf Machine Run where
  get := act fun _ m => (.ok m, m)
  set m := act fun _ _ => (.ok (), m)
  modifyGet f := act fun _ m =>
    match f m with
    | (a, m) => (.ok a, m)

instance : MonadStateOf Datum (Computation (Datum × Machine)) where
  get := act fun _ x => (.ok x.1, x)
  set d := act fun _ x => (.ok (), d, x.2)
  modifyGet f := act fun _ x =>
    match f x.1 with
    | (a, d) => (.ok a, d, x.2)

end Computation

/-! ### One computation inside another -/

/-- A way into something that is left again when the computation ends, however it ends; `back` leads
out, from the state before and the one at the end. If it is closed, what was in sight before is out
of sight inside. On the way out nothing is said or counted, variables are only put out of sight, and
those that are changed in place are stored. -/
structure Passage (σ τ : Type) [Stage σ] [Stage τ] where
  enter : σ → τ
  back : σ → τ → σ
  isClosed : Bool
  changing : List String
  said : ∀ x y, (machine (back x y)).said = (machine y).said
  operations : ∀ x y, (machine (back x y)).operations = (machine y).operations
  keeps : ∀ x y, (machine (back x y)).scope.without changing <:+
      (if isClosed then machine x else machine y).scope.without changing ∧
    (changing = [] → (machine (back x y)).cells = (machine y).cells)

/-- Where a computation stands that is entered from a state. -/
def Situation.through (s : Situation σ) (p : Passage σ τ) (x : σ) : Situation τ where
  setting := s.setting
  leave y := s.leave (p.back x y)
  caller := s.caller <|> if p.isClosed then some (machine x).scope else none
  changing := s.changing ++ p.changing
  isTrying := s.isTrying
  isWrapping := s.isWrapping
  keeps y := by
    obtain ⟨hscope, hcells⟩ := s.keeps (p.back x y)
    obtain ⟨hscope', hcells'⟩ := p.keeps x y
    refine ⟨?_, fun h => ?_⟩
    · have hleft := Scope.without_suffix p.changing hscope
      rw [Scope.without_append, Scope.without_append]
      refine hleft.trans ?_
      cases hcaller : s.caller with
      | some scope => exact List.suffix_refl _
      | none =>
        have hback := Scope.without_suffix s.changing hscope'
        rw [Scope.without_comm _ p.changing, Scope.without_comm _ p.changing] at hback
        cases hclosed : p.isClosed <;> simpa [hclosed] using hback
    · obtain ⟨hs, hp⟩ := List.append_eq_nil_iff.mp h
      exact (hcells hs).trans (hcells' hp)

/-- A change of results that lets exit codes through, and makes nothing catchable that is not. -/
def IsFaithful (turn : Except Interrupt α → Except Interrupt β) : Prop :=
  ∀ f code, f.exitCode? = some code → ∃ f', turn (.error (.failure f)) = .error (.failure f') ∧
    f'.exitCode? = some code ∧ (f.isCatchable = false → f'.isCatchable = false)

/-- A change of failures that keeps exit codes. -/
def KeepsCode (wrap : Failure → Failure) : Prop := ∀ f, (wrap f).exitCode? = f.exitCode?

namespace Computation

/-- A computation inside something that is left afterwards. -/
def inside (p : Passage σ τ) (run : Computation τ α) : Computation σ α where
  run s x record :=
    match run.run (s.through p x) (p.enter x) record with
    | ⟨result, y, record⟩ => ⟨result, p.back x y, record⟩
  obeys s x record :=
    (run.obeys (s.through p x) (p.enter x) record).map rfl fun _ hd =>
      ⟨hd.isWrapping_eq, hd.failed, hd.left, (p.said _ _).trans hd.said,
        (p.operations _ _).trans hd.operations⟩

/-- A computation with another result in place of its own. -/
def turned (turn : Except Interrupt α → Except Interrupt β) (hturn : IsFaithful turn)
    (run : Computation σ α) : Computation σ β where
  run s x record :=
    match run.run s x record with
    | ⟨result, y, record⟩ => ⟨turn result, y, record⟩
  obeys s x record := by
    refine (run.obeys s x record).map rfl fun d hd => ?_
    obtain ⟨f, hf, hcode, hcatch⟩ := hd.failed
    obtain ⟨f', hf', hcode', hcatch'⟩ := hturn f d.code hcode
    exact ⟨hd.isWrapping_eq, ⟨f', (congrArg turn hf).trans hf', hcode', fun ht => hcatch' (hcatch ht)⟩,
      hd.left, hd.said, hd.operations⟩

/-- A computation whose failures are wrapped. -/
def enclosed (wrap : Failure → Failure) (hwrap : KeepsCode wrap) (run : Computation σ α) :
    Computation σ α where
  run s x record :=
    match run.run { s with isWrapping := s.isWrapping || s.isTrying } x record with
    | ⟨result, y, record⟩ => ⟨result.mapError (Interrupt.mapFailure wrap), y, record⟩
  obeys s x record := by
    refine (run.obeys { s with isWrapping := s.isWrapping || s.isTrying } x record).map rfl fun d hd => ?_
    obtain ⟨f, hf, hcode, -⟩ := hd.failed
    obtain ⟨hwrapping, htrying⟩ := Bool.or_eq_false_iff.mp hd.isWrapping_eq
    -- The wrapped failure can be caught, but no `try` block is under way.
    have hfree : s.isTrying = true → (wrap f).isCatchable = false := fun h => by simp [htrying] at h
    have hwrapped := congrArg (Except.mapError (Interrupt.mapFailure wrap)) hf
    exact ⟨hwrapping, ⟨wrap f, hwrapped, (hwrap f).trans hcode, hfree⟩, hd.left, hd.said, hd.operations⟩

/-- A computation, and another one with the failure if it fails in a way that can be caught. -/
def attempted (run : Computation σ α) (handle : Failure → Computation σ α) : Computation σ α where
  run s x record :=
    match run.run { s with isTrying := true } x record with
    | ⟨.error (.failure f), y, record⟩ =>
      if f.isCatchable then (handle f).run s y record else ⟨.error (.failure f), y, record⟩
    | u => u
  obeys s x record := by
    have hrun := run.obeys { s with isTrying := true } x record
    generalize run.run { s with isTrying := true } x record = u at hrun
    have hpass : ∀ d : Departure, d.Ends { s with isTrying := true } u → d.Ends s u := fun d hd =>
      have ⟨f, hf, hcode, hcatch⟩ := hd.failed
      ⟨hd.isWrapping_eq, ⟨f, hf, hcode, fun _ => hcatch rfl⟩, hd.left, hd.said, hd.operations⟩
    split
    next f y record' =>
      split
      next hcatchable =>
        refine hrun.trans (fun d hd => ?_) ((handle f).obeys s y record')
        obtain ⟨f', hf', -, hcatch⟩ := hd.failed
        cases hf'
        simp [hcatch rfl] at hcatchable
      next => exact hrun.map rfl hpass
    next => exact hrun.map rfl hpass

/-! ### Failing -/

/-- Fails. -/
def fail (f : Failure) : Computation σ α := interrupt (.failure f)

/-- Fails for a cause at a place. -/
def failAt (cause : Cause) (p : Position) : Computation σ α := fail (.plain cause (some p))

/-- Goes on with a result that may be a failure. -/
def ofExcept : Except Failure α → Computation σ α
  | .ok a => pure a
  | .error f => fail f

end Computation

theorem isFaithful_of_failure {turn : Except Interrupt α → Except Interrupt β}
    (h : ∀ f, turn (.error (.failure f)) = .error (.failure f)) : IsFaithful turn :=
  fun f _ hcode => ⟨f, h f, hcode, id⟩

theorem isFaithful_mapFailure {wrap : Failure → Failure} (hcode : KeepsCode wrap)
    (hcatch : ∀ f, (wrap f).isCatchable = f.isCatchable) :
    IsFaithful fun result : Except Interrupt α => result.mapError (Interrupt.mapFailure wrap) :=
  fun f _ hf => ⟨wrap f, rfl, (hcode f).trans hf, (hcatch f).trans⟩

/-! ### What a script does to its machine -/

/-- The way through a block: its variables and modules go out of sight afterwards. -/
def Passage.block : Passage Machine Machine where
  enter m := { m with blocks := m.blocks + 1 }
  back before m :=
    { m with
      scope := m.scope.rewind before.scope.length
      modules := before.modules
      blocks := before.blocks }
  isClosed := false
  changing := []
  said _ _ := rfl
  operations _ _ := rfl
  keeps _ m := ⟨Scope.without_suffix _ (m.scope.rewind_suffix _), fun _ => rfl⟩

namespace Run

open Computation

/-- Counts an operation that may have a place. -/
def count (p : Option Position) : Run Unit := do
  let limit := (← read).maxOperations
  let n := (← get).operations + 1
  modify fun m => { m with operations := n }
  if limit ≠ 0 && limit < n then fail (.plain .tooManyOperations p)

/-- Counts an operation at a place. -/
def tick (p : Position) : Run Unit := count p.known?

/-- A computation whose variables and modules go out of sight afterwards. -/
def withinBlock (run : Run α) : Run α := inside .block run

/-- Brings a variable into sight with a value as it is. -/
def introduce (name : String) (value : Datum) : Run Unit :=
  modify fun m => { m with scope := ⟨name, value, []⟩ :: m.scope }

/-- The value of a variable that is declared, which is fixed if the variable is a constant. -/
def declared (value : Datum) (isConstant : Bool) : Datum := if isConstant then value.fix else value.free

/-- Declares a variable. -/
def declare (name : String) (value : Datum) (isConstant : Bool) : Run Unit :=
  introduce name (declared value isConstant)

/-- Says a line, or something for debugging. -/
def say (isDebug : Bool) (text : String) : Run Unit :=
  modify fun m => { m with said := (isDebug, text) :: m.said }

end Run

end HostedScripts.Language
