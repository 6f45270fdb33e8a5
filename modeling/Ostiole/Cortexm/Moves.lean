import Ostiole.Cortexm.Control
import Ostiole.Logic.Program

/-!
# What the driver may do next

Every access a method makes is one of the moves below: what must hold of the
target for the access to be made, and what the target is once its result has been
taken in. Whole methods are sequences of moves, so a property of every run is a
property of every move.
-/

namespace Ostiole.Cortexm

open Ostiole Logic

variable {event : Event} {log log' : List Entry} {t t' : Target}

/-! ## Taking in a result -/

namespace Target

/-- A value passes as control state. -/
def valid (t : Target) (value : Word) : Bool :=
  value &&& cDebugEnable != 0 && value &&& (cStep ||| cMaskInts) == 0 &&
    (t.architectureError value).isNone

theorem valid_iff (t : Target) (value : Word) :
    t.valid value = true ↔ value &&& cDebugEnable ≠ 0 ∧ value &&& (cStep ||| cMaskInts) = 0 ∧
      t.architectureError value = none := by
  simp [valid, and_assoc]

/-- After `readControl`. -/
def controlled (t : Target) (result : Except Err Word) : Target :=
  match result with
  | .error _ => t.observed result
  | .ok value =>
    if (t.observed result).valid value then (t.observed result).observeHaltRequest value
    else t.observed result

/-- After `registerStatus`. -/
def transferred (t : Target) (result : Except Err Word) : Target :=
  match result with
  | .error _ => t.observed result
  | .ok value =>
    if (t.observed result).transferLost value then
      { t.observed result with registerLost := true }
    else if !(t.observed result).valid value then t.observed result
    else if !showsHalted value then (t.observed result).observeHaltRequest value
    else { (t.observed result).observeHaltRequest value with
      registerPending := value &&& sRegReady == 0 }

/-- After `stepStatus`. -/
def confirmed (t : Target) (result : Except Err Word) : Target :=
  match result with
  | .error _ => t.observed result
  | .ok value => (t.observed result).observeStepState value

/-- A value shows that stepping has been disabled again. -/
def settles (t : Target) (value : Word) : Bool :=
  t.step == .restoring && value &&& 15 == cDebugEnable ||| cHalt && value &&& sHalt != 0

theorem settles_iff (t : Target) (value : Word) :
    t.settles value = true ↔ t.step = .restoring ∧ value &&& 15 = cDebugEnable ||| cHalt ∧
      value &&& sHalt ≠ 0 := by
  simp [settles, and_assoc]

/-- After a turn of `settleStep`. -/
def polled (t : Target) (result : Except Err Word) : Target :=
  match result with
  | .error _ => t.observed result
  | .ok value =>
    if !(t.observed result).stepInvalid value ∧
        ((t.observed result).architectureError value).isNone ∧
        (t.observed result).settles value then
      { t.observed result with step := .idle }
    else t.confirmed result

/-- After the reason of a stop has been read. -/
def reasoned (t : Target) : Except Err Word → Target
  | .error _ => t
  | .ok reason =>
    if reason &&& 0x1f = 1 then { t with haltOwned := true, step := .restoring }
    else { t with haltOwned := false, changed := t.disabled, step := .restoring }

/-- The uncertain writes that a reading without a halt clears. -/
def clearUncertain (t : Target) (value : Word) : Target :=
  if (t.resumeUncertain ∨ t.haltUncertain) ∧ value &&& (cHalt ||| sHalt) = 0 then
    { t with
      resumeUncertain := false
      haltUncertain := false
      haltOwned := false
      changed := t.disabled }
  else t

/-- What the first reading of `restore` makes of a target that has observed it. -/
def considered (t : Target) (value : Word) : Target :=
  if t.saved = 0 ∧ value &&& cDebugEnable = 0 ∨ (t.architectureError value).isSome ∨
      value &&& cDebugEnable ≠ 0 ∧ value &&& (cStep ||| cMaskInts) ≠ 0 then t
  else if t.haltUncertain then t.clearUncertain value
  else (t.observeHaltRequest value).clearUncertain value

/-- After the first reading of `restore`. -/
def checked (t : Target) (result : Except Err Word) : Target :=
  match result with
  | .error _ => t.observed result
  | .ok value => (t.observed result).considered value

/-- After the reading back of `writeControl`. -/
def writtenBack (t : Target) (result : Except Err Word) : Target :=
  match result with
  | .error _ => t.observed result
  | .ok value =>
    if value &&& cDebugEnable = 0 ∧ t.saved = 0 then { t.observed result with changed := false }
    else t.observed result

/-- No write is unconfirmed and no claim is held. -/
structure Free (t : Target) : Prop where
  owned : t.haltOwned = false
  halt : t.haltUncertain = false
  resume : t.resumeUncertain = false

/-- No transfer and no step is open. -/
structure Quiet (t : Target) : Prop where
  pending : t.registerPending = false
  step : t.step = .idle

end Target

/-! ## Moves -/

/-- The last call in a log. -/
def lastCall (log : List Entry) : Option Call :=
  (log.filterMap fun entry => match entry.event with
    | .call call => some call
    | _ => none).getLast?

/-- A call that is under way is `Release`. -/
abbrev Releasing (log : List Entry) : Prop :=
  ∀ call, lastCall log = some call → ∃ ctx, call = .release ctx

/-- The accesses that the driver makes, but for the launch of a step. -/
inductive Move (log : List Entry) : Target → Event → Target → Prop where
  | control {t : Target} (result : Except Err Word) (quiet : t.Quiet) :
      Move log t (.read dhcsrAddress result) (t.controlled result)
  | transfer {t : Target} (result : Except Err Word) (idle : t.step = .idle)
      (known : t.registerLost = false) :
      Move log t (.read dhcsrAddress result) (t.transferred result)
  | poll {t : Target} (result : Except Err Word) (pending : t.registerPending = false)
      (busy : t.step = .running ∨ t.step = .stopped ∨ t.step = .restoring) :
      Move log t (.read dhcsrAddress result) (t.polled result)
  | confirm {t : Target} (result : Except Err Word) (pending : t.registerPending = false)
      (restoring : t.step = .restoring) :
      Move log t (.read dhcsrAddress result) (t.confirmed result)
  | reason {t : Target} (result : Except Err Word) (pending : t.registerPending = false)
      (stopped : t.step = .stopped) :
      Move log t (.read dfsrAddress result) (t.reasoned result)
  | look {t : Target} {address : Word} (result : Except Err Word) (quiet : t.Quiet)
      (other : address = dfsrAddress ∨ address = dcrdrAddress) :
      Move log t (.read address result) t
  | first {t : Target} (result : Except Err Word) (quiet : t.Quiet) :
      Move log t (.read dhcsrAddress result) (t.checked result)
  | second {t : Target} (result : Except Err Word) (quiet : t.Quiet) (free : t.Free) :
      Move log t (.read dhcsrAddress result) (t.observed result)
  | back {t : Target} (result : Except Err Word) (quiet : t.Quiet) (free : t.Free) :
      Move log t (.read dhcsrAddress result) (t.writtenBack result)
  | halt {t : Target} (err : Option Err) (quiet : t.Quiet) {earlier : List Entry} {seen : Target}
      {value : Word} (enabled : value &&& cDebugEnable ≠ 0) (running : value &&& sHalt = 0)
      (last : log = earlier ++ [⟨seen, .read dhcsrAddress (.ok value)⟩]) :
      Move log t (.write dhcsrAddress (debugKey ||| cDebugEnable ||| cHalt) err)
        (if err.isSome then { t with changed := true, haltUncertain := true }
          else { t with changed := true, haltUncertain := false, haltOwned := true })
  | resume {t : Target} (err : Option Err) (quiet : t.Quiet) (owned : t.haltOwned = true) :
      Move log t (.write dhcsrAddress (debugKey ||| cDebugEnable) err)
        { t with resumeUncertain := true, haltOwned := err.isSome }
  | finish {t : Target} (err : Option Err) (pending : t.registerPending = false)
      (restoring : t.step = .restoring) :
      Move log t (.write dhcsrAddress (debugKey ||| cDebugEnable ||| cHalt) err) t
  | enable {t : Target} (err : Option Err) (quiet : t.Quiet) (free : t.Free)
      (saved : t.saved = 0) (release : ∀ call, lastCall log = some call →
        ∃ ctx, call = .release ctx)
      {earlier : List Entry} {seen : Target} {value : Word}
      (running : value &&& (cHalt ||| sHalt) = 0 ∨ value &&& cDebugEnable = 0)
      (last : log = earlier ++ [⟨seen, .read dhcsrAddress (.ok value)⟩]) :
      Move log t (.write dhcsrAddress (debugKey ||| 0) err) { t with changed := true }
  | select {t : Target} (selector : Word) (err : Option Err) (quiet : t.Quiet) :
      Move log t (.write dcrsrAddress selector err) { t with registerPending := true }
  | stage {t : Target} (value : Word) (err : Option Err) (quiet : t.Quiet) :
      Move log t (.write dcrdrAddress value err) t

/-- The value that launches a step. -/
def launchValue : Word := debugKey ||| cDebugEnable ||| cStep

/-- The target after a launch. -/
def Target.launched (t : Target) (err : Option Err) : Target :=
  { t with haltOwned := false, step := if err.isSome then .uncertain else .running }

/-- Moves one after another. The target may be closed at any time. -/
inductive Reach (t₀ : Target) (log₀ : List Entry) : Target → List Entry → Prop where
  | refl : Reach t₀ log₀ t₀ log₀
  | close {t : Target} {log : List Entry} (before : Reach t₀ log₀ t log) :
      Reach t₀ log₀ { t with closing := true } log
  | move {t t' : Target} {log : List Entry} {event : Event} (before : Reach t₀ log₀ t log)
      (move : Move log t event t') : Reach t₀ log₀ t' (log ++ [⟨t, event⟩])

theorem Reach.trans {t₀ t₁ t₂ : Target} {log₀ log₁ log₂ : List Entry}
    (first : Reach t₀ log₀ t₁ log₁) (second : Reach t₁ log₁ t₂ log₂) :
    Reach t₀ log₀ t₂ log₂ := by
  induction second with
  | refl => exact first
  | close _ ih => exact .close ih
  | move _ move ih => exact .move ih move

/-! ## What no move undoes -/

/-- The facts about a target that hold throughout. -/
structure Kept (t : Target) : Prop where
  saved : t.saved = 0 ∨ t.saved &&& cDebugEnable ≠ 0
  pending : t.registerPending = true → t.step = .idle
  lost : t.registerLost = true → t.registerPending = true
  owed : t.disabled = false → t.changed = true →
    t.haltOwned = true ∨ t.haltUncertain = true ∨ t.resumeUncertain = true ∨
      t.step = .uncertain ∨ t.step = .running ∨ t.step = .stopped ∨ t.step = .lost
  stepping : t.step = .uncertain ∨ t.step = .running ∨ t.step = .stopped → t.haltOwned = false

/-- What a DHCSR reading may do on its own: give a claim up, and with it a resume
that was unconfirmed. -/
structure Softer (t t' : Target) : Prop where
  memory : t'.memory = t.memory
  identity : t'.identity = t.identity
  saved : t'.saved = t.saved
  closing : t'.closing = t.closing
  haltUncertain : t'.haltUncertain = t.haltUncertain
  registerPending : t'.registerPending = t.registerPending
  registerLost : t'.registerLost = t.registerLost
  step : t'.step = t.step
  resume : t'.resumeUncertain = true → t.resumeUncertain = true
  claim : (t'.haltOwned = t.haltOwned ∧ t'.resumeUncertain = t.resumeUncertain ∧
    t'.changed = t.changed) ∨ t'.haltOwned = false ∧ t'.changed = t.disabled

namespace Softer

variable {t t₁ t₂ : Target}

protected theorem refl (t : Target) : Softer t t :=
  ⟨rfl, rfl, rfl, rfl, rfl, rfl, rfl, rfl, id, .inl ⟨rfl, rfl, rfl⟩⟩

theorem disabled (softer : Softer t t₁) : t₁.disabled = t.disabled := by
  rw [Target.disabled, softer.saved, Target.disabled]

theorem m33 (softer : Softer t t₁) : t₁.m33 = t.m33 := by
  rw [Target.m33, softer.identity, Target.m33]

theorem owned (softer : Softer t t₁) (owned : t₁.haltOwned = true) : t.haltOwned = true := by
  rcases softer.claim with ⟨same, -, -⟩ | ⟨given, -⟩
  · exact same ▸ owned
  · exact absurd (given.symm.trans owned) nofun

protected theorem trans (first : Softer t t₁) (second : Softer t₁ t₂) : Softer t t₂ where
  memory := second.memory.trans first.memory
  identity := second.identity.trans first.identity
  saved := second.saved.trans first.saved
  closing := second.closing.trans first.closing
  haltUncertain := second.haltUncertain.trans first.haltUncertain
  registerPending := second.registerPending.trans first.registerPending
  registerLost := second.registerLost.trans first.registerLost
  step := second.step.trans first.step
  resume := first.resume ∘ second.resume
  claim := by
    rcases second.claim with ⟨owned, resume, changed⟩ | ⟨given, changed⟩
    · rw [owned, resume, changed]
      exact first.claim
    · exact .inr ⟨given, changed.trans first.disabled⟩

theorem quiet (softer : Softer t t₁) (quiet : t.Quiet) : t₁.Quiet :=
  ⟨softer.registerPending.trans quiet.pending, softer.step.trans quiet.step⟩

theorem free (softer : Softer t t₁) (free : t.Free) : t₁.Free where
  owned := by
    by_contra owned
    exact absurd (free.owned.symm.trans (softer.owned (by simpa using owned))) nofun
  halt := softer.haltUncertain.trans free.halt
  resume := by
    by_contra resume
    exact absurd (free.resume.symm.trans (softer.resume (by simpa using resume))) nofun

theorem kept (softer : Softer t t₁) (kept : Kept t) : Kept t₁ where
  saved := softer.saved ▸ kept.saved
  pending := by
    rw [softer.registerPending, softer.step]
    exact kept.pending
  lost := by
    rw [softer.registerPending, softer.registerLost]
    exact kept.lost
  owed enabled changed := by
    rw [softer.disabled] at enabled
    rw [softer.haltUncertain, softer.step]
    rcases softer.claim with ⟨owned, resume, same⟩ | ⟨-, given⟩
    · rw [owned, resume]
      exact kept.owed enabled (same.symm.trans changed)
    · exact absurd (enabled.symm.trans (given.symm.trans changed)) nofun
  stepping busy := by
    rw [softer.step] at busy
    by_contra owned
    exact absurd ((kept.stepping busy).symm.trans (softer.owned (by simpa using owned))) nofun

end Softer

theorem Target.relinquish_softer (t : Target) : Softer t t.relinquish :=
  ⟨rfl, rfl, rfl, rfl, rfl, rfl, rfl, rfl, nofun, .inr ⟨rfl, rfl⟩⟩

theorem Target.noteSnapStall_softer (t : Target) (value : Word) :
    Softer t (t.noteSnapStall value) := by
  unfold Target.noteSnapStall
  split
  · exact ⟨rfl, rfl, rfl, rfl, rfl, rfl, rfl, rfl, id, .inl ⟨rfl, rfl, rfl⟩⟩
  · exact .refl t

theorem Target.observed_softer (t : Target) (result : Except Err Word) :
    Softer t (t.observed result) := by
  cases result with
  | error err =>
    unfold Target.observed
    simp only
    split
    · exact ⟨rfl, rfl, rfl, rfl, rfl, rfl, rfl, rfl, id, .inr ⟨rfl, rfl⟩⟩
    · exact .refl t
  | ok value =>
    unfold Target.observed
    simp only
    split
    · split
      · exact (t.noteSnapStall_softer value).trans (Target.relinquish_softer _)
      · exact t.noteSnapStall_softer value
    · exact .refl t

theorem Target.observeHaltRequest_softer (t : Target) (value : Word) :
    Softer t (t.observeHaltRequest value) := by
  unfold Target.observeHaltRequest
  split
  · exact t.relinquish_softer
  · exact .refl t

theorem Target.controlled_softer (t : Target) (result : Except Err Word) :
    Softer t (t.controlled result) := by
  cases result with
  | error err => exact t.observed_softer (.error err)
  | ok value =>
    unfold Target.controlled
    simp only
    split
    · exact (t.observed_softer _).trans (Target.observeHaltRequest_softer _ _)
    · exact t.observed_softer _

/-- A change of the phase of a step that is under way. -/
theorem Kept.stepped (kept : Kept t) (busy : t.step ≠ .idle) {phase : StepPhase}
    (phase_of : phase = .lost ∨ phase = .stopped ∧ t.step = .running ∨
      phase = .idle ∧ t.step = .restoring) : Kept { t with step := phase } where
  saved := kept.saved
  pending pending := absurd (kept.pending pending) busy
  lost := kept.lost
  owed enabled changed := by
    rcases phase_of with rfl | ⟨rfl, -⟩ | ⟨rfl, restoring⟩
    · simp
    · simp
    · have owed := kept.owed enabled changed
      rw [restoring] at owed
      simpa using owed
  stepping phases := by
    rcases phase_of with rfl | ⟨rfl, running⟩ | ⟨rfl, -⟩
    · simp at phases
    · exact kept.stepping (.inr (.inl running))
    · simp at phases

theorem Kept.observeStepState (kept : Kept t) (busy : t.step ≠ .idle)
    (value : Word) : Kept (t.observeStepState value) := by
  unfold Target.observeStepState
  split
  · exact kept.stepped busy (.inl rfl)
  · split
    · next running => exact kept.stepped busy (.inr (.inl ⟨rfl, running.1⟩))
    · exact kept

theorem Kept.clearUncertain (kept : Kept t) (value : Word) :
    Kept (t.clearUncertain value) := by
  unfold Target.clearUncertain
  split
  · refine ⟨kept.saved, kept.pending, kept.lost, fun enabled changed => ?_, fun _ => rfl⟩
    exact absurd (enabled.symm.trans changed) nofun
  · exact kept

theorem Kept.considered (kept : Kept t) (value : Word) :
    Kept (t.considered value) := by
  unfold Target.considered
  split
  · exact kept
  · split
    · exact kept.clearUncertain value
    · exact ((t.observeHaltRequest_softer value).kept kept).clearUncertain value

theorem Move.kept (kept : Kept t)
    (move : Move log t event t') : Kept t' := by
  cases move with
  | control result => exact (t.controlled_softer result).kept kept
  | transfer result idle known =>
    have observed := t.observed_softer result
    cases result with
    | error err => exact observed.kept kept
    | ok value =>
      unfold Target.transferred
      simp only
      split
      · next lost =>
          have pending : (t.observed (.ok value)).registerPending = true := by
            simp only [Target.transferLost, Bool.and_eq_true] at lost
            exact lost.1
          have kept := observed.kept kept
          exact ⟨kept.saved, kept.pending, fun _ => pending, kept.owed, kept.stepping⟩
      · split
        · exact observed.kept kept
        · have softer := observed.trans (Target.observeHaltRequest_softer _ value)
          split
          · exact softer.kept kept
          · have kept := softer.kept kept
            refine ⟨kept.saved, fun _ => softer.step.trans idle, fun lost => ?_, kept.owed,
              kept.stepping⟩
            rw [show _ = _ from softer.registerLost, known] at lost
            cases lost
  | poll result pending busy =>
    have active : t.step ≠ .idle := by rcases busy with busy | busy | busy <;> simp [busy]
    have observed := t.observed_softer result
    have active' : (t.observed result).step ≠ .idle := by rwa [observed.step]
    cases result with
    | error err => exact observed.kept kept
    | ok value =>
      unfold Target.polled
      simp only
      split
      · next settled =>
          have restoring : (t.observed (.ok value)).step = .restoring := by
            have settles := settled.2.2
            simp only [Target.settles, Bool.and_eq_true, beq_iff_eq] at settles
            exact settles.1.1
          exact (observed.kept kept).stepped active' (.inr (.inr ⟨rfl, restoring⟩))
      · exact (observed.kept kept).observeStepState active' value
  | confirm result pending restoring =>
    have observed := t.observed_softer result
    cases result with
    | error err => exact observed.kept kept
    | ok value =>
      refine (observed.kept kept).observeStepState ?_ value
      rw [observed.step, restoring]
      decide
  | reason result pending stopped =>
    cases result with
    | error err => exact kept
    | ok reason =>
      have absent : t.registerPending = true → False := fun held => by
        rw [pending] at held
        cases held
      unfold Target.reasoned
      simp only
      split
      · exact ⟨kept.saved, fun held => (absent held).elim, kept.lost, fun _ _ => .inl rfl,
          by simp⟩
      · refine ⟨kept.saved, fun held => (absent held).elim, kept.lost, fun enabled changed => ?_,
          by simp⟩
        exact absurd (enabled.symm.trans changed) nofun
  | look => exact kept
  | first result =>
    have observed := (t.observed_softer result).kept kept
    cases result with
    | error err => exact observed
    | ok value => exact observed.considered value
  | second result => exact (t.observed_softer result).kept kept
  | back result =>
    have observed := t.observed_softer result
    cases result with
    | error err => exact observed.kept kept
    | ok value =>
      have kept := observed.kept kept
      unfold Target.writtenBack
      simp only
      split
      · exact ⟨kept.saved, kept.pending, kept.lost, fun _ changed => absurd changed nofun,
          kept.stepping⟩
      · exact kept
  | halt err quiet =>
    have idle : ¬(t.step = .uncertain ∨ t.step = .running ∨ t.step = .stopped) := by
      simp [quiet.step]
    split
    · exact ⟨kept.saved, kept.pending, kept.lost, fun _ _ => .inr (.inl rfl),
        fun busy => absurd busy idle⟩
    · exact ⟨kept.saved, kept.pending, kept.lost, fun _ _ => .inl rfl,
        fun busy => absurd busy idle⟩
  | resume err quiet =>
    have idle : ¬(t.step = .uncertain ∨ t.step = .running ∨ t.step = .stopped) := by
      simp [quiet.step]
    exact ⟨kept.saved, kept.pending, kept.lost, fun _ _ => .inr (.inr (.inl rfl)),
      fun busy => absurd busy idle⟩
  | finish => exact kept
  | enable err quiet free saved =>
    refine ⟨kept.saved, kept.pending, kept.lost, fun enabled _ => ?_, kept.stepping⟩
    rw [Target.disabled, saved] at enabled
    cases enabled
  | select selector err quiet =>
    exact ⟨kept.saved, fun _ => quiet.step, fun _ => rfl, kept.owed, kept.stepping⟩
  | stage => exact kept

theorem Reach.kept (reach : Reach t log t' log')
    (kept : Kept t) : Kept t' := by
  induction reach with
  | refl => exact kept
  | close _ ih =>
    exact ⟨ih.saved, ih.pending, ih.lost,
      ih.owed, ih.stepping⟩
  | move _ move ih => exact move.kept ih

/-- What a target is made with, and what it keeps once it is closing. -/
structure Fixed (t t' : Target) : Prop where
  memory : t'.memory = t.memory
  identity : t'.identity = t.identity
  saved : t'.saved = t.saved
  closing : t.closing = true → t'.closing = true

theorem Fixed.trans {t₁ t₂ : Target} (first : Fixed t t₁) (second : Fixed t₁ t₂) : Fixed t t₂ :=
  ⟨second.memory.trans first.memory, second.identity.trans first.identity,
    second.saved.trans first.saved, second.closing ∘ first.closing⟩

theorem Softer.fixed (softer : Softer t t') : Fixed t t' :=
  ⟨softer.memory, softer.identity, softer.saved, softer.closing.trans⟩

theorem Target.clearUncertain_fixed (t : Target) (value : Word) :
    Fixed t (t.clearUncertain value) := by
  unfold Target.clearUncertain
  split <;> exact ⟨rfl, rfl, rfl, id⟩

theorem Target.considered_fixed (t : Target) (value : Word) : Fixed t (t.considered value) := by
  unfold Target.considered
  split
  · exact ⟨rfl, rfl, rfl, id⟩
  · split
    · exact t.clearUncertain_fixed value
    · exact (t.observeHaltRequest_softer value).fixed.trans (Target.clearUncertain_fixed _ value)

theorem Target.observeStepState_fixed (t : Target) (value : Word) :
    Fixed t (t.observeStepState value) := by
  unfold Target.observeStepState
  split
  · exact ⟨rfl, rfl, rfl, id⟩
  · split <;> exact ⟨rfl, rfl, rfl, id⟩

theorem Target.confirmed_fixed (t : Target) (result : Except Err Word) :
    Fixed t (t.confirmed result) := by
  have observed := (t.observed_softer result).fixed
  cases result with
  | error err => exact observed
  | ok value => exact observed.trans (Target.observeStepState_fixed _ value)

theorem Move.fixed
    (move : Move log t event t') : Fixed t t' := by
  have observed := fun result => (t.observed_softer result).fixed
  have reads : ∀ value, Fixed t ((t.observed (.ok value)).observeHaltRequest value) :=
    fun value => (observed _).trans (Target.observeHaltRequest_softer _ value).fixed
  cases move with
  | control result => exact (t.controlled_softer result).fixed
  | transfer result =>
    cases result with
    | error err => exact observed (.error err)
    | ok value =>
      unfold Target.transferred
      simp only
      split
      · exact ⟨(observed _).memory, (observed _).identity, (observed _).saved, (observed _).closing⟩
      · split
        · exact observed _
        · split
          · exact reads value
          · exact ⟨(reads value).memory, (reads value).identity, (reads value).saved,
              (reads value).closing⟩
  | poll result =>
    cases result with
    | error err => exact observed (.error err)
    | ok value =>
      unfold Target.polled
      simp only
      split
      · exact ⟨(observed _).memory, (observed _).identity, (observed _).saved, (observed _).closing⟩
      · exact t.confirmed_fixed _
  | confirm result => exact t.confirmed_fixed result
  | reason result =>
    cases result with
    | error err => exact ⟨rfl, rfl, rfl, id⟩
    | ok reason =>
      unfold Target.reasoned
      simp only
      split <;> exact ⟨rfl, rfl, rfl, id⟩
  | first result =>
    cases result with
    | error err => exact observed (.error err)
    | ok value => exact (observed (.ok value)).trans (Target.considered_fixed _ value)
  | second result => exact observed result
  | back result =>
    cases result with
    | error err => exact observed (.error err)
    | ok value =>
      unfold Target.writtenBack
      simp only
      split
      · exact ⟨(observed _).memory, (observed _).identity, (observed _).saved, (observed _).closing⟩
      · exact observed _
  | halt err => split <;> exact ⟨rfl, rfl, rfl, id⟩
  | look | resume | finish | enable | select | stage => exact ⟨rfl, rfl, rfl, id⟩

theorem Reach.fixed (reach : Reach t log t' log') :
    Fixed t t' := by
  induction reach with
  | refl => exact ⟨rfl, rfl, rfl, id⟩
  | close _ ih =>
    exact ⟨ih.memory, ih.identity, ih.saved,
      fun _ => rfl⟩
  | move _ move ih => exact ih.trans move.fixed

/-- Moves are not calls. -/
theorem Move.lastCall
    (move : Move log t event t') (before : Target) :
    Cortexm.lastCall (log ++ [⟨before, event⟩]) = Cortexm.lastCall log := by
  cases move <;> simp [Cortexm.lastCall]

theorem Reach.lastCall (reach : Reach t log t' log') :
    Cortexm.lastCall log' = Cortexm.lastCall log := by
  induction reach with
  | refl => rfl
  | close _ ih => exact ih
  | move _ move ih => exact (move.lastCall _).trans ih

theorem Kept.launched (kept : Kept t) (quiet : t.Quiet) (err : Option Err) :
    Kept (t.launched err) where
  saved := kept.saved
  pending pending := absurd (quiet.pending.symm.trans pending) nofun
  lost := kept.lost
  owed _ _ := by cases err <;> simp [Target.launched]
  stepping _ := rfl

end Ostiole.Cortexm
