import Ostiole.Cortexm.Methods

/-!
# Steps and restoration

The methods that may leave something open behind them. `Step` makes the one
access that is no move, its launch; `Release` works from any state.
-/

namespace Ostiole.Cortexm

open Ostiole Logic

variable {log : List Entry} {t : Target} {P : Assertion} {value : Word}
    (ctx : Ctx)

/-! ## Settling a step -/

section Stepping

variable {t₀ base : Target} {log₀ : List Entry}

/-- A step is open and no transfer is. -/
structure Stepping (t₀ : Target) (log₀ : List Entry) (base t : Target) (log : List Entry) :
    Prop where
  live : Live t₀ log₀ base t log
  pending : t.registerPending = false
  busy : t.step ≠ .idle

/-- The phases in which a step is polled. -/
def Target.Polling (t : Target) : Prop :=
  t.step = .running ∨ t.step = .stopped ∨ t.step = .restoring

theorem Target.observeStepState_phase (t : Target) (value : Word) :
    ∃ phase, t.observeStepState value = { t with step := phase } ∧
      (t.step ≠ .idle → phase ≠ .idle) := by
  unfold Target.observeStepState
  split
  · exact ⟨.lost, rfl, nofun⟩
  · split
    · exact ⟨.stopped, rfl, nofun⟩
    · exact ⟨t.step, rfl, id⟩

theorem Target.confirmed_soft (t : Target) (result : Except Err Word) :
    Soft t (t.confirmed result) ∧ (t.confirmed result).registerPending = t.registerPending ∧
      (t.step ≠ .idle → (t.confirmed result).step ≠ .idle) := by
  have observed := t.observed_softer result
  have soft := observed.soft
  cases result with
  | error err => exact ⟨soft, observed.registerPending, fun busy => observed.step ▸ busy⟩
  | ok value =>
    obtain ⟨phase, same, busy⟩ := (t.observed (.ok value)).observeStepState_phase value
    rw [Target.confirmed, same]
    exact ⟨⟨soft.closing, soft.halt, soft.resume⟩, observed.registerPending,
      fun active => busy (observed.step ▸ active)⟩

/-- The phase of a step does not enter into the architecture checks. -/
theorem Target.confirmed_architecture (t : Target) (value : Word) :
    (t.confirmed (.ok value)).architectureError value =
        (t.observed (.ok value)).architectureError value ∧
      (t.confirmed (.ok value)).noteSnapStall value = t.confirmed (.ok value) := by
  obtain ⟨phase, same, -⟩ := (t.observed (.ok value)).observeStepState_phase value
  rw [Target.confirmed, same]
  refine ⟨rfl, Target.noteSnapStall_again (show _ = (t.observed (.ok value)).m33 from rfl) ?_⟩
  rw [t.noteSnapStall_observed value]

/-- A reading that does not end the step. -/
theorem Stepping.polled (stepping : Stepping t₀ log₀ base t log)
    (polling : t.Polling) {result : Except Err Word} (same : t.polled result = t.confirmed result) :
    Stepping t₀ log₀ base (t.confirmed result) (log ++ [⟨t, .read dhcsrAddress result⟩]) := by
  obtain ⟨soft, pending, busy⟩ := t.confirmed_soft result
  refine ⟨⟨?_, stepping.live.soft.trans soft⟩, pending.trans stepping.pending, busy stepping.busy⟩
  rw [← same]
  exact .move stepping.live.reach (.poll result stepping.pending polling)

/-- A value that `stepStatus` has passed, not yet acted on. -/
structure Passed (P : Assertion) (value : Word) (u : Target)
    (before : List Entry) (t : Target) (log : List Entry) : Prop where
  start : P u before
  polling : u.Polling
  target : t = u.confirmed (.ok value)
  entries : log = before ++ [⟨u, .read dhcsrAddress (.ok value)⟩]
  sound : (u.observed (.ok value)).stepInvalid value = false
  permitted : (u.observed (.ok value)).architectureError value = none

/-- How a reading of `stepStatus` ends. -/
def StepRead (t₀ : Target) (log₀ : List Entry) (base : Target) (P : Assertion)
    (result : Except Err Word) (t : Target) (log : List Entry) : Prop :=
  match result with
  | .error _ => Stepping t₀ log₀ base t log
  | .ok value => ∃ u before, Passed P value u before t log

theorem stepStatus_triple
    (steps : ∀ t log, P t log → Stepping t₀ log₀ base t log) :
    Triple (On P) stepStatus fun result => On (StepRead t₀ log₀ base P result) := by
  refine .get_ite (.pure fun w ⟨start, _⟩ => steps _ _ start) ?_
  refine Triple.strengthen (readDHCSR_observed.bind ?_)
    (show ∀ w, _ → On (fun t log => P t log ∧ t.Polling) w from
      fun w ⟨start, known⟩ => ⟨start, ?_⟩)
  · rintro (err | value)
    · exact .pure (Observed.on fun t log ⟨start, polling⟩ =>
        (steps t log start).polled polling (show t.polled (.error err) = t.confirmed (.error err)
          from rfl))
    · refine .get_bind fun w ⟨u, before, ⟨start, polling⟩, target, entries⟩ => ?_
      have stepping := steps u before start
      rw [target]
      have noted : Triple (· = w) (modifyTarget fun t => t.observeStepState value) fun _ =>
          On fun t log => t = u.confirmed (.ok value) ∧ log = w.log := by
        rintro _ rfl
        exact ⟨congrArg (Target.observeStepState · value) target, rfl⟩
      refine noted.bind fun _ => .ite (fun invalid => ?_) fun sound => ?_
      · refine .pure fun w' ⟨target', entries'⟩ => ?_
        rw [On, target', entries', entries]
        exact stepping.polled polling (by simp [Target.polled, invalid])
      · refine (validateArchitectureControl_triple value ?_).bind ?_
        · rintro t log ⟨rfl, -⟩
          exact (u.confirmed_architecture value).2
        · rintro (_ | err) w' ⟨⟨target', entries'⟩, checked⟩
          · rw [target', (u.confirmed_architecture value).1] at checked
            exact ⟨u, before, start, polling, target', entries'.trans entries, by simpa using sound,
              checked.symm⟩
          · rw [target', (u.confirmed_architecture value).1] at checked
            show StepRead t₀ log₀ base P (.error err) w'.target w'.log
            rw [target', entries', entries]
            exact stepping.polled polling (by simp [Target.polled, ← checked])
  · have busy := (steps _ _ start).busy
    unfold Target.Polling
    cases phase : w.target.step <;> simp_all

/-- Stopped, or on the way back from stepping. -/
structure Finishing (t₀ : Target) (log₀ : List Entry) (base t : Target) (log : List Entry) :
    Prop where
  live : Live t₀ log₀ base t log
  pending : t.registerPending = false
  phase : t.step = .stopped ∨ t.step = .restoring

/-- On the way back from stepping. -/
structure Restoring (t₀ : Target) (log₀ : List Entry) (base t : Target) (log : List Entry) :
    Prop where
  live : Live t₀ log₀ base t log
  pending : t.registerPending = false
  phase : t.step = .restoring

theorem Finishing.stepping
    (finishing : Finishing t₀ log₀ base t log) : Stepping t₀ log₀ base t log :=
  ⟨finishing.live, finishing.pending, by rcases finishing.phase with phase | phase <;> simp [phase]⟩

theorem Restoring.stepping
    (restoring : Restoring t₀ log₀ base t log) : Stepping t₀ log₀ base t log :=
  ⟨restoring.live, restoring.pending, by simp [restoring.phase]⟩

theorem Target.reasoned_restoring (t : Target) (reason : Word) :
    Soft t (t.reasoned (.ok reason)) ∧
      (t.reasoned (.ok reason)).registerPending = t.registerPending ∧
      (t.reasoned (.ok reason)).step = .restoring := by
  unfold Target.reasoned
  simp only
  split
  · exact ⟨⟨id, rfl, id⟩, rfl, rfl⟩
  · exact ⟨⟨id, rfl, id⟩, rfl, rfl⟩

theorem stopReason_triple :
    Triple (On (Finishing t₀ log₀ base)) stopReason fun err => On fun t log =>
      Stepping t₀ log₀ base t log ∧ (err = none → Restoring t₀ log₀ base t log) := by
  refine .get_ite (.pure fun w ⟨finishing, moved⟩ => ⟨finishing.stepping, fun _ => ?_⟩) ?_
  · exact ⟨finishing.live, finishing.pending, finishing.phase.resolve_left moved⟩
  · have reads : Triple (On fun t log => Finishing t₀ log₀ base t log ∧ t.step = .stopped)
        (readWord dfsrAddress) fun result => On fun t log => ∃ before,
          Finishing t₀ log₀ base t before ∧ t.step = .stopped ∧
            log = before ++ [⟨t, .read dfsrAddress result⟩] :=
      readWord_triple fun t log result ⟨finishing, stopped⟩ => ⟨log, finishing, stopped, rfl⟩
    refine Triple.strengthen (reads.bind ?_) fun w ⟨finishing, stopped⟩ =>
      ⟨finishing, by simpa using stopped⟩
    rintro (err | reason) w ⟨before, finishing, stopped, entries⟩
    · have live := finishing.live.move
        (.reason (.error err) finishing.pending stopped) (.refl w.target)
      rw [← entries] at live
      exact ⟨⟨live, finishing.pending, stopped ▸ nofun⟩, nofun⟩
    · obtain ⟨soft, pending, restoring⟩ := w.target.reasoned_restoring reason
      have live := finishing.live.move (.reason (.ok reason) finishing.pending stopped) soft
      rw [← entries] at live
      have restoring : Restoring t₀ log₀ base (w.target.reasoned (.ok reason)) w.log :=
        ⟨live, pending.trans finishing.pending, restoring⟩
      exact ⟨restoring.stepping, fun _ => restoring⟩

/-- A value that has passed leaves the phase, but for a step that has stopped. -/
theorem Passed.phase {u : Target}
    {before : List Entry} (passed : Passed P value u before t log) :
    t = u.observed (.ok value) ∧
        ¬(u.step = .running ∧ value &&& (cHalt ||| sHalt) = cHalt ||| sHalt) ∨
      u.step = .running ∧ value &&& (cHalt ||| sHalt) = cHalt ||| sHalt ∧
        t = { u.observed (.ok value) with step := .stopped } := by
  have step := (u.observed_softer (.ok value)).step
  rw [passed.target, Target.confirmed, Target.observeStepState,
    if_neg (by simp [passed.sound]), step]
  split
  · next stops => exact .inr ⟨stops.1, stops.2, rfl⟩
  · next runs => exact .inl ⟨rfl, runs⟩

theorem confirmStop_triple :
    Triple (On (Restoring t₀ log₀ base)) confirmStop fun err => On fun t log =>
      Stepping t₀ log₀ base t log ∧ (err = none → Restoring t₀ log₀ base t log) := by
  refine .get_ite (.pure fun w ⟨restoring, _⟩ => ⟨restoring.stepping, fun _ => restoring⟩) ?_
  refine Triple.bind (Triple.strengthen (stepStatus_triple fun _ _ => Restoring.stepping)
    fun w holds => holds.1) ?_
  rintro (err | value)
  · exact .pure fun w stepping => ⟨stepping, nofun⟩
  · refine .pure fun w ⟨u, before, passed⟩ => ?_
    have restoring := passed.start
    have same : w.target = u.observed (.ok value) :=
      (passed.phase.resolve_right fun stops => nomatch stops.1.symm.trans restoring.phase).1
    have observed := u.observed_softer (.ok value)
    have live := restoring.live.move
      (.confirm (.ok value) restoring.pending restoring.phase) (u.confirmed_soft _).1
    rw [← passed.target, ← passed.entries] at live
    have restoring : Restoring t₀ log₀ base w.target w.log := by
      refine ⟨live, ?_, ?_⟩
      · rw [same, observed.registerPending, restoring.pending]
      · rw [same, observed.step, restoring.phase]
    exact ⟨restoring.stepping, fun _ => restoring⟩

theorem finishStep_triple :
    Triple (On (Finishing t₀ log₀ base)) (finishStep ctx) fun _ =>
      On (Stepping t₀ log₀ base) := by
  refine stopReason_triple.check (fun _ => .pure fun w holds => holds.1) ?_
  refine Triple.strengthen ((ctxErr_triple ctx).bind ?_)
    (show ∀ w, _ → On (Restoring t₀ log₀ base) w from fun w holds => holds.2 rfl)
  rintro (_ | err)
  · refine confirmStop_triple.check (fun _ => .pure fun w holds => holds.1) ?_
    refine Triple.strengthen (writeAfter_triple fun t log err restoring => ?_)
      (show ∀ w, _ → On (Restoring t₀ log₀ base) w from fun w holds => holds.2 rfl)
    refine Restoring.stepping ⟨restoring.live.move ?_ (.refl t), restoring.pending,
      restoring.phase⟩
    exact .finish err restoring.pending restoring.phase
  · exact .pure fun w restoring => Restoring.stepping restoring

/-- How `settleStep` ends. -/
def StepEnded (t₀ : Target) (log₀ : List Entry) (base : Target) (err : Option Err) (t : Target)
    (log : List Entry) : Prop :=
  Live t₀ log₀ base t log ∧ t.registerPending = false ∧ (err = none → t.step = .idle)

theorem Stepping.ended (stepping : Stepping t₀ log₀ base t log)
    (err : Err) : StepEnded t₀ log₀ base (some err) t log :=
  ⟨stepping.live, stepping.pending, nofun⟩

/-- What `settleStep` goes on with after a value. -/
def Settling (t₀ : Target) (log₀ : List Entry) (base : Target) (outcome : Option (Option Err))
    (t : Target) (log : List Entry) : Prop :=
  match outcome with
  | none => Stepping t₀ log₀ base t log
  | some err => StepEnded t₀ log₀ base err t log

theorem settleValue_triple (value : Word) :
    Triple (On fun t log => ∃ u before, Passed (Stepping t₀ log₀ base) value u before t log)
      (settleValue ctx value) fun outcome => On (Settling t₀ log₀ base outcome) := by
  refine .get_ite ?_ ?_
  · rintro w ⟨⟨u, before, passed⟩, restoring, controls, shown⟩
    have stepping := passed.start
    have observed := u.observed_softer (.ok value)
    have same : w.target = u.observed (.ok value) :=
      (passed.phase.resolve_right fun stops => by simp [stops.2.2] at restoring).1
    have settles : (u.observed (.ok value)).settles value = true := by
      rw [← same]
      exact (Target.settles_iff _ _).2 ⟨restoring, controls, shown⟩
    have ends : u.polled (.ok value) = { u.observed (.ok value) with step := .idle } := by
      simp [Target.polled, passed.sound, passed.permitted, settles]
    have reach := Reach.move stepping.live.reach
      (.poll (.ok value) stepping.pending passed.polling)
    rw [ends, ← same, ← passed.entries] at reach
    refine ⟨⟨reach, ?_⟩, ?_, fun _ => rfl⟩
    · have soft := stepping.live.soft.trans observed.soft
      rw [← same] at soft
      exact ⟨soft.closing, soft.halt, soft.resume⟩
    · show w.target.registerPending = false
      rw [same, observed.registerPending, stepping.pending]
  · have goes : ∀ w, (On (fun t log =>
      ∃ u before, Passed (Stepping t₀ log₀ base) value u before t log)
        w ∧ ¬(w.target.step = .restoring ∧ value &&& 15 = cDebugEnable ||| cHalt ∧
          value &&& sHalt ≠ 0)) → On (Stepping t₀ log₀ base) w := by
      rintro w ⟨⟨u, before, passed⟩, unsettled⟩
      have stays : u.polled (.ok value) = u.confirmed (.ok value) := by
        refine if_neg fun ⟨_, _, settles⟩ => unsettled ?_
        have settles := (Target.settles_iff _ _).1 settles
        rcases passed.phase with ⟨same, -⟩ | ⟨running, -, -⟩
        · exact same ▸ settles
        · exact absurd (running.symm.trans ((u.observed_softer _).step.symm.trans settles.1)) nofun
      rw [On, passed.target, passed.entries]
      exact passed.start.polled passed.polling stays
    refine .ite (fun _ => .pure goes) fun stopped => ?_
    refine Triple.bind ((finishStep_triple ctx).strengthen
      (show ∀ w, _ → On (Finishing t₀ log₀ base) w from fun w holds => ?_)) ?_
    · have stepping := goes w holds
      obtain ⟨⟨u, before, passed⟩, -⟩ := holds
      refine ⟨stepping.live, stepping.pending, ?_⟩
      rcases passed.phase with ⟨same, runs⟩ | ⟨-, -, same⟩
      · rw [same, (u.observed_softer _).step]
        exact passed.polling.resolve_left fun running => runs ⟨running, by simpa using stopped⟩
      · exact .inl (by rw [same])
    · rintro (_ | err)
      · exact .pure fun w stepping => stepping
      · exact .pure fun w stepping => Stepping.ended stepping err

theorem settleStepLoop_triple (turns : Nat) :
    Triple (On (Stepping t₀ log₀ base)) (settleStepLoop ctx turns) fun err =>
      On (StepEnded t₀ log₀ base err) := by
  induction turns with
  | zero => exact .pure fun w stepping => Stepping.ended stepping _
  | succ turns ih =>
    refine (ctxErr_triple ctx).check (fun _ => .pure fun w stepping => Stepping.ended stepping _) ?_
    refine (stepStatus_triple fun _ _ => id).checkOk
      (fun _ => .pure fun w stepping => Stepping.ended stepping _) fun value => ?_
    refine (settleValue_triple ctx value).check (fun _ => .pure fun w ended => ended) ?_
    refine (ctxErr_triple ctx).check
      (fun _ => .pure fun w stepping => Stepping.ended stepping _) ?_
    exact ih

theorem settleStep_triple :
    Triple (On (Stepping t₀ log₀ base)) (settleStep ctx) fun err =>
      On (StepEnded t₀ log₀ base err) :=
  fun w stepping => settleStepLoop_triple ctx (ctx.turns w.clock + 1) w stepping

/-- A launch was attempted from `t₁`, and moves followed it. -/
structure Launched (t₀ : Target) (log₀ : List Entry) (err : Option Err) (t₁ : Target)
    (log₁ : List Entry) (write : Option Err) (t : Target) (log : List Entry) : Prop where
  reach : Reach t₀ log₀ t₁ log₁
  settled : t₁.Settled
  owned : t₁.haltOwned = true
  ended : Ended (t₁.launched write) (log₁ ++ [⟨t₁, .write dhcsrAddress launchValue write⟩]) err t
    log

theorem StepEnded.calm
    (ended : StepEnded t₀ log₀ base none t log) : Calm t₀ log₀ base t log :=
  ⟨ended.1, ended.2.1, ended.2.2 rfl⟩

theorem settleLaunched_triple :
    Triple (On (Stepping t₀ log₀ t₀.cleared)) (settleLaunched ctx) fun err =>
      On (Ended t₀ log₀ err) := by
  refine (settleStep_triple ctx).bind ?_
  rintro (_ | err)
  · refine .get_ite ?_ (.pure fun w ⟨ended, _⟩ => (StepEnded.calm ended).ended _)
    exact (closeOn_ended _).strengthen fun w ⟨ended, _⟩ => ⟨ended.1.reach, nofun⟩
  · exact (closeOn_ended _).strengthen fun w ended => ⟨ended.1.reach, nofun⟩

theorem launchStep_triple (t₁ : Target) (log₁ : List Entry) (settled : t₁.Settled) :
    Triple (On fun t log => t = t₁ ∧ log = log₁) (launchStep ctx) fun err => On fun t log =>
      ∃ write, Ended (t₁.launched write)
        (log₁ ++ [⟨t₁, .write dhcsrAddress launchValue write⟩]) err t log := by
  refine writeAfter_wrote.bind ?_
  rintro (_ | err)
  · refine Triple.weaken (Triple.bind (modifyTarget_triple ?_) fun _ => settleLaunched_triple ctx)
      fun _ _ ended => ⟨none, ended⟩
    rintro _ _ ⟨t, log, ⟨rfl, rfl⟩, rfl, rfl⟩
    refine ⟨⟨.refl, nofun, settled.halt, fun unconfirmed => ?_⟩, settled.quiet.pending, nofun⟩
    exact absurd (settled.resume.symm.trans unconfirmed) nofun
  · refine Triple.weaken (Triple.strengthen (closeOn_ended (some err)) (Wrote.on ?_))
      fun _ _ ended => ⟨some err, ended⟩
    rintro t log ⟨rfl, rfl⟩
    exact ⟨.refl, nofun⟩

theorem checkStep_triple :
    Triple (On (Calm t₀ log₀ base)) (checkStep ctx) fun err => On fun t log =>
      Calm t₀ log₀ base t log ∧ (err = none → t.haltOwned = true) := by
  refine .get_ite (.pure fun w ⟨calm, _⟩ => ⟨calm, nofun⟩) ?_
  refine Triple.strengthen ((ctxErr_triple ctx).bind ?_)
    (show ∀ w, _ → On (fun t log => Calm t₀ log₀ base t log ∧ t.haltOwned = true) w from
      fun w ⟨calm, owned⟩ => ⟨calm, by simpa using owned⟩)
  rintro (_ | err)
  · have reads : Triple (On fun t log => Calm t₀ log₀ base t log ∧ t.haltOwned = true)
        (readWord dfsrAddress) fun _ => On fun t log =>
          Calm t₀ log₀ base t log ∧ t.haltOwned = true :=
      readWord_triple fun t log result ⟨calm, owned⟩ =>
        ⟨⟨calm.1.move (.look result calm.2 (.inl rfl)) (.refl t), calm.2⟩, owned⟩
    refine reads.bind ?_
    rintro (err | reason)
    · have closes : Triple (On (Calm t₀ log₀ base)) (do return some (← readError err)) fun err =>
          On fun t log => Calm t₀ log₀ base t log ∧ (err = none → t.haltOwned = true) :=
        (readError_triple err fun _ _ calm => Calm.close calm).bind fun _ =>
          .pure fun _ calm => ⟨calm, nofun⟩
      exact closes.strengthen fun w holds => holds.1
    · refine .ite (fun _ => .pure fun w ⟨calm, _⟩ => ⟨calm, nofun⟩) fun _ => ?_
      exact (ctxErr_triple ctx).weaken fun _ _ ⟨calm, owned⟩ => ⟨calm, fun _ => owned⟩
  · exact .pure fun w ⟨calm, _⟩ => ⟨calm, nofun⟩

theorem step_triple :
    Triple (On (Ready t₀ log₀)) (step ctx) fun err => On fun t log =>
      Ended t₀ log₀ err t log ∨ ∃ t₁ log₁ write, Launched t₀ log₀ err t₁ log₁ write t log := by
  refine (active_triple ctx).check (fun err => .pure fun w ⟨ready, _⟩ => .inl (ready.refused err))
    ?_
  refine .get_ite (.pure fun w ⟨⟨ready, _⟩, _⟩ => .inl (ready.refused _)) ?_
  refine Triple.bind (Triple.strengthen (waitRegister_triple ctx)
    (show ∀ w, _ → On (Idle t₀ log₀ t₀.cleared) w from
      fun w ⟨⟨_, calm⟩, _⟩ => (calm rfl).idle)) ?_
  rintro (_ | err)
  · refine Triple.bind (Triple.strengthen (checkStep_triple ctx)
      (show ∀ w, _ → On (Calm t₀ log₀ t₀.cleared) w from fun w waited => Waited.calm waited)) ?_
    rintro (_ | err)
    · intro w ⟨calm, owned⟩
      obtain ⟨write, ended⟩ :=
        launchStep_triple ctx w.target w.log calm.settled w ⟨rfl, rfl⟩
      exact .inr ⟨w.target, w.log, write, calm.1.reach, calm.settled, owned rfl, ended⟩
    · exact .pure fun w ⟨calm, _⟩ => .inl (calm.ended _)
  · exact .pure fun w waited => .inl (Waited.ended waited)

end Stepping

/-! ## Restoration -/

section Restoration

variable {t₀ : Target} {log₀ : List Entry}

/-- Nothing is open, and no claim is held or in doubt. -/
structure Bare (t₀ : Target) (log₀ : List Entry) (t : Target) (log : List Entry) : Prop where
  reach : Reach t₀ log₀ t log
  quiet : t.Quiet
  free : t.Free

/-- Nothing is left to restore: either the record says so or the last reading
does. -/
def Restored (t : Target) (log : List Entry) : Prop :=
  t.changed = false ∨ t.saved = 0 ∧ ∃ value, LastRead value log ∧ value &&& cDebugEnable = 0

theorem Bare.writtenBack (bare : Bare t₀ log₀ t log)
    (result : Except Err Word) :
    Bare t₀ log₀ (t.writtenBack result) (log ++ [⟨t, .read dhcsrAddress result⟩]) := by
  have observed := t.observed_softer result
  have quiet := observed.quiet bare.quiet
  have free := observed.free bare.free
  suffices kept : (t.writtenBack result).Quiet ∧ (t.writtenBack result).Free from
    ⟨.move bare.reach (.back result bare.quiet bare.free), kept.1, kept.2⟩
  cases result with
  | error err => exact ⟨quiet, free⟩
  | ok value =>
    unfold Target.writtenBack
    simp only
    split
    · exact ⟨⟨quiet.pending, quiet.step⟩, free.owned, free.halt, free.resume⟩
    · exact ⟨quiet, free⟩

/-- A value read back, taken in. -/
structure ReadBack (t₀ : Target) (log₀ : List Entry) (value : Word) (t : Target)
    (log : List Entry) : Prop where
  bare : Bare t₀ log₀ t log
  noted : t.noteSnapStall value = t
  gone : value &&& cDebugEnable = 0 → t.saved = 0 → t.changed = false

theorem Observed.readBack
    (observed : Observed (Bare t₀ log₀) (.ok value) t log) :
    ReadBack t₀ log₀ value (if value &&& cDebugEnable = 0 ∧ t.saved = 0 then
      { t with changed := false } else t) log := by
  obtain ⟨u, before, bare, rfl, rfl⟩ := observed
  have saved := (u.observed_softer (.ok value)).saved
  have back := bare.writtenBack (.ok value)
  rw [Target.writtenBack, ← saved] at back
  refine ⟨back, ?_, fun clear => ?_⟩
  · split
    · refine Target.noteSnapStall_again (show _ = (u.observed (.ok value)).m33 from rfl) ?_
      rw [u.noteSnapStall_observed value]
    · exact u.noteSnapStall_observed value
  · split
    · exact fun _ => rfl
    · next held => exact fun zero => absurd ⟨clear, zero⟩ held

theorem checkEnabled_triple (control value : Word) :
    Triple (On (ReadBack t₀ log₀ value)) (checkEnabled control value) fun _ =>
      On (ReadBack t₀ log₀ value) :=
  .ite (fun _ => .pure fun _ => id) fun _ =>
    (validateArchitectureControl_triple value fun _ _ back => ReadBack.noted back).weaken
      fun _ _ => And.left

theorem checkWritten_triple (control value : Word) :
    Triple (On (Observed (Bare t₀ log₀) (.ok value))) (checkWritten control value) fun err =>
      On fun t log => Bare t₀ log₀ t log ∧ (err = none → control = 0 → t.saved = 0 →
        t.changed = false) := by
  refine Triple.bind (modifyTarget_triple fun _ _ => Observed.readBack) fun _ => ?_
  refine (checkEnabled_triple control value).check (fun _ => .pure fun w back => ⟨back.bare, nofun⟩)
    ?_
  refine .ite (fun _ => .pure fun w back => ⟨back.bare, nofun⟩) fun agrees => ?_
  refine .pure fun w back => ⟨back.bare, fun _ zero => back.gone ?_⟩
  subst zero
  simpa using agrees

theorem readBack_triple (control : Word) :
    Triple (On (Bare t₀ log₀)) (readBack control) fun err => On fun t log =>
      Bare t₀ log₀ t log ∧ (err = none → control = 0 → t.saved = 0 → t.changed = false) := by
  refine readDHCSR_observed.bind ?_
  rintro (err | value)
  · exact .pure fun w observed =>
      ⟨Observed.on (fun t log bare => Bare.writtenBack bare (.error err)) w observed, nofun⟩
  · exact checkWritten_triple control value

theorem Bare.saved (kept : Kept t₀) (bare : Bare t₀ log₀ t log)
    (changed : t.changed = true) : t.saved = 0 := by
  have kept := bare.reach.kept kept
  refine kept.saved.resolve_right fun enabled => ?_
  have owed := kept.owed (by simpa [Target.disabled] using enabled) changed
  simp [bare.free.owned, bare.free.halt, bare.free.resume, bare.quiet.step] at owed

/-- A new reading of a target on which nothing is held. -/
theorem Bare.observed (bare : Bare t₀ log₀ t log)
    (result : Except Err Word) :
    Bare t₀ log₀ (t.observed result) (log ++ [⟨t, .read dhcsrAddress result⟩]) :=
  have softer := t.observed_softer result
  ⟨.move bare.reach (.second result bare.quiet bare.free), softer.quiet bare.quiet,
    softer.free bare.free⟩

/-- The reading that lets debug be disabled has been made. -/
structure Disabling (t₀ : Target) (log₀ : List Entry) (value : Word) (t : Target)
    (log : List Entry) : Prop where
  bare : Bare t₀ log₀ t log
  saved : t.saved = 0
  noted : t.noteSnapStall value = t
  last : LastRead value log

theorem disable_triple (releasing : Releasing log₀)
    (running : value &&& (cHalt ||| sHalt) = 0 ∨ value &&& cDebugEnable = 0) :
    Triple (On (Disabling t₀ log₀ value)) (do writeControl ctx (← get).target.saved) fun err =>
      On fun t log => Bare t₀ log₀ t log ∧ (err = none → t.changed = false) := by
  refine .get_bind fun w disabling => ?_
  rw [disabling.saved]
  have zero : t₀.saved = 0 := disabling.bare.reach.fixed.saved.symm.trans disabling.saved
  have writes : ∀ err t log, Disabling t₀ log₀ value t log → Bare t₀ log₀ { t with changed := true }
      (log ++ [⟨t, .write dhcsrAddress (debugKey ||| 0) err⟩]) := by
    intro err t log holds
    have ⟨bare, saved, _, earlier, seen, last⟩ := holds
    have release := fun call found => releasing call (bare.reach.lastCall.symm.trans found)
    exact ⟨.move bare.reach (.enable err bare.quiet bare.free saved release running last),
      ⟨bare.quiet.pending, bare.quiet.step⟩, bare.free.owned, bare.free.halt, bare.free.resume⟩
  refine Triple.strengthen ((ctxErr_triple ctx).bind ?_)
    (show ∀ w', w' = w → On (Disabling t₀ log₀ value) w' from fun _ same => same ▸ disabling)
  rintro (_ | err)
  · refine writeAfter_wrote.check
      (fun err => .pure fun w' wrote => ⟨Wrote.on (writes (some err)) w' wrote, nofun⟩) ?_
    refine Triple.weaken (Triple.strengthen (readBack_triple 0) (Wrote.on (writes none))) ?_
    exact fun err w' ⟨bare, gone⟩ =>
      ⟨bare, fun done => gone done rfl (bare.reach.fixed.saved.trans zero)⟩
  · exact .pure fun w' holds => ⟨holds.bare, nofun⟩

theorem restoreEnable_triple (kept : Kept t₀) (releasing : Releasing log₀) :
    Triple (On (Bare t₀ log₀)) (restoreEnable ctx) fun err => On fun t log =>
      Bare t₀ log₀ t log ∧ (err = none → t.changed = false) := by
  refine .get_ite (.pure fun w ⟨bare, same⟩ => ⟨bare, fun _ => by simpa using same⟩) ?_
  refine Triple.strengthen (readDHCSR_observed.bind ?_)
    (show ∀ w, _ → On (fun t log => Bare t₀ log₀ t log ∧ t.saved = 0) w from
      fun w ⟨bare, changed⟩ => ⟨bare, bare.saved kept (by simpa using changed)⟩)
  rintro (err | value)
  · exact .pure fun w observed =>
      ⟨Observed.on (fun t log ⟨bare, _⟩ => bare.observed (.error err)) w observed, nofun⟩
  · refine Triple.strengthen ((validateArchitectureControl_triple value ?_).bind ?_)
      (show ∀ w, _ → On (Disabling t₀ log₀ value) w from Observed.on fun t log ⟨bare, saved⟩ =>
        ⟨bare.observed (.ok value), (t.observed_softer _).saved.trans saved,
          t.noteSnapStall_observed value, log, t, rfl⟩)
    · exact fun _ _ => Disabling.noted
    · rintro (_ | err)
      · refine .ite (fun _ => .pure fun w ⟨holds, _⟩ => ⟨holds.bare, nofun⟩) fun running => ?_
        refine (disable_triple ctx releasing ?_).strengthen fun w holds => holds.1
        rwa [Decidable.not_and_iff_not_or_not, not_not, not_not] at running
      · exact .pure fun w ⟨holds, _⟩ => ⟨holds.bare, nofun⟩

theorem settleUncertain_triple (value : Word) :
    Triple (On P) (settleUncertain value) fun err => On fun t log =>
      (∃ u, P u log ∧ t = u.clearUncertain value) ∧
        (err = none → t.haltUncertain = false ∧ t.resumeUncertain = false) := by
  have stays : ∀ t : Target, ¬((t.resumeUncertain ∨ t.haltUncertain) ∧
      value &&& (cHalt ||| sHalt) = 0) → t = t.clearUncertain value :=
    fun t closed => (if_neg closed).symm
  refine .get_ite (.pure fun w ⟨holds, certain⟩ => ⟨⟨w.target, holds, stays _ ?_⟩, fun _ => ?_⟩) ?_
  · rintro ⟨doubt, -⟩
    have ⟨resume, halt⟩ : w.target.resumeUncertain = false ∧ w.target.haltUncertain = false := by
      simpa using certain
    rw [resume, halt] at doubt
    exact doubt.elim nofun nofun
  · simpa [and_comm] using certain
  · refine .ite (fun stopped => .pure fun w ⟨holds, _⟩ => ⟨⟨w.target, holds, stays _ ?_⟩, nofun⟩)
      fun running => ?_
    · exact fun cleared => stopped cleared.2
    · refine fun w ⟨holds, doubt⟩ => ⟨⟨w.target, holds, (if_pos ⟨?_, by simpa using running⟩).symm⟩,
        fun _ => ⟨rfl, rfl⟩⟩
      by_contra certain
      exact doubt (by simpa using certain)

/-- The first reading of a restoration, taken in. -/
theorem Observed.considered
    (observed : Observed (fun t log => Reach t₀ log₀ t log ∧ t.Quiet) (.ok value) t log) :
    Reach t₀ log₀ (t.considered value) log ∧ t.Quiet := by
  obtain ⟨u, before, ⟨reach, quiet⟩, rfl, rfl⟩ := observed
  exact ⟨.move reach (.first (.ok value) quiet), (u.observed_softer _).quiet quiet⟩

theorem Target.clearUncertain_quiet (quiet : t.Quiet) (value : Word) :
    (t.clearUncertain value).Quiet := by
  unfold Target.clearUncertain
  split
  · exact ⟨quiet.pending, quiet.step⟩
  · exact quiet

theorem checkRestoreState_triple (value : Word) :
    Triple (On fun t log => Observed (fun t log => Reach t₀ log₀ t log ∧
      t.Quiet) (.ok value) t log ∧
        ¬(t.saved = 0 ∧ value &&& cDebugEnable = 0))
      (checkRestoreState value) fun err => On fun t log =>
        Reach t₀ log₀ t log ∧ (err = none → t.Settled) := by
  refine (validateArchitectureControl_triple value fun _ _ holds => Observed.noted holds.1).bind ?_
  rintro (_ | err)
  · refine .ite (fun changed => .pure fun w ⟨⟨observed, _⟩, _⟩ => ⟨?_, nofun⟩) fun plain => ?_
    · have reach := observed.considered.1
      rwa [Target.considered, if_pos (.inr (.inr changed))] at reach
    · have settles := settleUncertain_triple
        (P := fun t log => t.Quiet ∧ Reach t₀ log₀ (t.clearUncertain value) log) value
      refine Triple.weaken (Triple.bind (modifyTarget_triple ?_) fun _ => settles) ?_
      · rintro t log ⟨⟨observed, enabled⟩, permitted⟩
        obtain ⟨reach, quiet⟩ := observed.considered
        have passes : ¬(t.saved = 0 ∧ value &&& cDebugEnable = 0 ∨
            (t.architectureError value).isSome ∨
            value &&& cDebugEnable ≠ 0 ∧ value &&& (cStep ||| cMaskInts) ≠ 0) := by
          rw [← permitted]
          exact fun refused => refused.elim enabled fun refused => refused.elim nofun plain
        rw [Target.considered, if_neg passes] at reach
        refine ⟨?_, by rwa [apply_ite (Target.clearUncertain · value)]⟩
        split
        · exact quiet
        · exact (t.observeHaltRequest_softer value).quiet quiet
      · rintro err w ⟨⟨u, ⟨quiet, reach⟩, target⟩, certain⟩
        rw [← target] at reach
        refine ⟨reach, fun done => ⟨?_, (certain done).1, (certain done).2⟩⟩
        exact target ▸ Target.clearUncertain_quiet quiet value
  · refine .pure fun w ⟨⟨observed, _⟩, failed⟩ => ⟨?_, nofun⟩
    have reach := observed.considered.1
    rwa [Target.considered, if_pos (.inr (.inl (by rw [← failed]; rfl)))] at reach

theorem releaseClaim_triple :
    Triple (On fun t log => Reach t₀ log₀ t log ∧ t.Settled) (releaseClaim ctx) fun err =>
      On fun t log => Reach t₀ log₀ t log ∧ (err = none → Bare t₀ log₀ t log) := by
  refine .get_ite (.pure fun w ⟨⟨reach, settled⟩, free⟩ => ⟨reach, fun _ => ?_⟩) ?_
  · exact ⟨reach, settled.quiet, by simpa using free, settled.halt, settled.resume⟩
  · refine Triple.weaken (Triple.strengthen (resume_triple ctx)
      (show ∀ w, _ → On (fun t log => Calm t₀ log₀ t₀.cleared t log ∧ t.haltOwned = true) w from
        fun w ⟨⟨reach, settled⟩, owned⟩ => ⟨settled.calm reach, by simpa using owned⟩)) ?_
    refine fun err w ⟨ended, released⟩ => ⟨ended.1, fun done => ?_⟩
    obtain ⟨settled, given⟩ := released done
    exact ⟨ended.1, settled.quiet, given, settled.halt, settled.resume⟩

/-- How a restoration ends. -/
def Restores (t₀ : Target) (log₀ : List Entry) (err : Option Err) (t : Target)
    (log : List Entry) : Prop :=
  Reach t₀ log₀ t log ∧ (err = none → t.Quiet ∧ Restored t log)

theorem restoreHalt_triple (kept : Kept t₀) (releasing : Releasing log₀) :
    Triple (On fun t log => Reach t₀ log₀ t log ∧ t.Settled) (restoreHalt ctx) fun err =>
      On (Restores t₀ log₀ err) := by
  refine (releaseClaim_triple ctx).check (fun _ => .pure fun w ⟨reach, _⟩ => ⟨reach, nofun⟩) ?_
  refine Triple.weaken (Triple.strengthen (restoreEnable_triple ctx kept releasing)
    fun w holds => holds.2 rfl) ?_
  exact fun err w ⟨bare, gone⟩ => ⟨bare.reach, fun done => ⟨bare.quiet, .inl (gone done)⟩⟩

theorem restore_triple (kept : Kept t₀) (releasing : Releasing log₀) :
    Triple (On fun t log => Reach t₀ log₀ t log ∧ t.Quiet) (restore ctx) fun err =>
      On (Restores t₀ log₀ err) := by
  refine readDHCSR_observed.bind ?_
  rintro (err | value)
  · exact .pure fun w observed => ⟨Observed.on (fun t log ⟨reach, quiet⟩ =>
      .move reach (.first (.error err) quiet)) w observed, nofun⟩
  · refine .get_ite (.pure fun w ⟨observed, saved, clear⟩ => ?_) ?_
    · obtain ⟨reach, quiet⟩ := observed.considered
      rw [Target.considered, if_pos (.inl ⟨saved, clear⟩)] at reach
      obtain ⟨u, before, -, -, entries⟩ := observed
      exact ⟨reach, fun _ => ⟨quiet, .inr ⟨saved, value, ⟨before, u, entries⟩, clear⟩⟩⟩
    · refine (checkRestoreState_triple value).check
        (fun _ => .pure fun w ⟨reach, _⟩ => ⟨reach, nofun⟩) ?_
      exact (restoreHalt_triple ctx kept releasing).strengthen fun w ⟨reach, settled⟩ =>
        ⟨reach, settled rfl⟩

theorem settleTransfer_triple (kept : Kept t₀) :
    Triple (On (Reach t₀ log₀)) (settleTransfer ctx) fun err => On fun t log =>
      Reach t₀ log₀ t log ∧ (err = none → t.registerPending = false) := by
  refine .get_ite (.pure fun w ⟨reach, ready⟩ => ⟨reach, fun _ => by simpa using ready⟩) ?_
  intro w ⟨reach, pending⟩
  have idle := (reach.kept kept).pending (by simpa using pending)
  have waited := waitRegister_triple ctx w
    (show Idle t₀ log₀ w.target w.target w.log from ⟨⟨reach, .refl _⟩, idle⟩)
  exact ⟨waited.1.1.reach, fun done => waited.2.elim id fun failed => by simp [done] at failed⟩

theorem settleOpenStep_triple :
    Triple (On fun t log => Reach t₀ log₀ t log ∧ t.registerPending = false) (settleOpenStep ctx)
      fun err => On fun t log => Reach t₀ log₀ t log ∧ (err = none → t.Quiet) := by
  refine .get_ite (.pure fun w ⟨⟨reach, ready⟩, idle⟩ => ⟨reach, fun _ => ⟨ready, idle⟩⟩) ?_
  intro w ⟨⟨reach, ready⟩, busy⟩
  have ended := settleStep_triple ctx w
    (show Stepping t₀ log₀ w.target w.target w.log from ⟨⟨reach, .refl _⟩, ready, busy⟩)
  exact ⟨ended.1.reach, fun done => ⟨ended.2.1, ended.2.2 done⟩⟩

theorem restoreChanged_triple (kept : Kept t₀) (releasing : Releasing log₀) :
    Triple (On fun t log => Reach t₀ log₀ t log ∧ t.Quiet) (restoreChanged ctx) fun err =>
      On (Restores t₀ log₀ err) := by
  refine .get_ite (.pure fun w ⟨⟨reach, quiet⟩, same⟩ =>
    ⟨reach, fun _ => ⟨quiet, .inl (by simpa using same)⟩⟩) ?_
  refine Triple.check (Triple.strengthen (restore_triple ctx kept releasing) fun w holds => holds.1)
    (fun _ => .pure fun w ⟨reach, _⟩ => ⟨reach, nofun⟩) ?_
  exact .pure fun w restores => restores

/-- How `Release` ends: having given its memory up with nothing left to restore,
or with an error. -/
def Releases (t₀ : Target) (log₀ : List Entry) (err : Option Err) (t : Target)
    (log : List Entry) : Prop :=
  ∃ t', Reach t₀ log₀ t' log ∧ (err = none ∧ t'.Quiet ∧ Restored t' log ∧
    t = { t' with memory := false } ∨ err.isSome = true ∧ t = t')

theorem releaseHeld_triple (kept : Kept t₀) (releasing : Releasing log₀) :
    Triple (On fun t log => Reach t₀ log₀ { t with closing := true } log) (releaseHeld ctx)
      fun err => On (Releases t₀ log₀ err) := by
  have fails : ∀ (err : Err) t log, Reach t₀ log₀ t log → Releases t₀ log₀ (some err) t log :=
    fun err t log reach => ⟨t, reach, .inr ⟨rfl, rfl⟩⟩
  refine Triple.bind (modifyTarget_triple fun _ _ => id) fun _ => ?_
  refine (ctxErr_triple ctx).check (fun err => .pure fun w reach => fails err _ _ reach) ?_
  refine (settleTransfer_triple ctx kept).check
    (fun err => .pure fun w ⟨reach, _⟩ => fails err _ _ reach) ?_
  refine Triple.bind (Triple.strengthen (settleOpenStep_triple ctx)
    (show ∀ w, _ → On (fun t log => Reach t₀ log₀ t log ∧ t.registerPending = false) w from
      fun w ⟨reach, ready⟩ => ⟨reach, ready rfl⟩)) ?_
  rintro (_ | err)
  · refine Triple.bind (Triple.strengthen (restoreChanged_triple ctx kept releasing)
      fun w ⟨reach, quiet⟩ => ⟨reach, quiet rfl⟩) ?_
    rintro (_ | err)
    · exact fun w ⟨reach, done⟩ =>
        ⟨w.target, reach, .inl ⟨rfl, (done rfl).1, (done rfl).2, rfl⟩⟩
    · exact .pure fun w ⟨reach, _⟩ => fails err _ _ reach
  · exact .pure fun w ⟨reach, _⟩ => fails err _ _ reach

end Restoration

end Ostiole.Cortexm
