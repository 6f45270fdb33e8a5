import Ostiole.Cortexm.Run
import Ostiole.Logic.Trace

/-!
# Transfers and steps are exclusive

A register transfer that has been attempted holds back every write until a reading
shows it complete; a step that has been launched holds back every other control
write until readings show it stopped and stepping disabled. Both obligations
outlive the call that took them on.
-/

namespace Ostiole.Cortexm

open Ostiole Logic

variable {log : List Entry} {t : Target}

/-! ## What the log shows -/

namespace Entry

/-- An attempt to select a register. -/
def Selects (entry : Entry) : Prop :=
  ∃ value err, entry.event = .write dcrsrAddress value err

/-- A write that a transfer holds back. -/
def Disturbs (entry : Entry) : Prop :=
  ∃ address value err, entry.event = .write address value err ∧
    (address = dhcsrAddress ∨ address = dcrsrAddress ∨ address = dcrdrAddress)

/-- A reading that shows a transfer complete. -/
def ShowsReady (entry : Entry) : Prop :=
  ∃ value, entry.event = .read dhcsrAddress (.ok value) ∧ value &&& cDebugEnable ≠ 0 ∧
    value &&& sHalt ≠ 0 ∧ value &&& sRegReady ≠ 0 ∧ value &&& sReset = 0 ∧
    (entry.before.m33 = true → value &&& sRestart = 0)

/-- A control write other than the one that ends stepping. -/
def Controls (entry : Entry) : Prop :=
  ∃ value err, entry.event = .write dhcsrAddress value err ∧
    value ≠ debugKey ||| cDebugEnable ||| cHalt

/-- The control write that ends stepping. -/
def Finishes (entry : Entry) : Prop :=
  ∃ err, entry.event = .write dhcsrAddress (debugKey ||| cDebugEnable ||| cHalt) err

/-- A reading that shows a step stopped, with stepping still enabled. -/
def ShowsStep (entry : Entry) : Prop :=
  ∃ value, entry.event = .read dhcsrAddress (.ok value) ∧ value &&& cDebugEnable ≠ 0 ∧
    value &&& cStep ≠ 0 ∧ value &&& cHalt ≠ 0 ∧ value &&& sHalt ≠ 0 ∧
    value &&& sReset = 0 ∧ value &&& cMaskInts = 0

/-- A reading that shows the processor halted with stepping disabled. -/
def ShowsStopped (entry : Entry) : Prop :=
  ∃ value, entry.event = .read dhcsrAddress (.ok value) ∧ value &&& sHalt ≠ 0 ∧
    value &&& cStep = 0

end Entry

/-! ## What a move does to a transfer and to a step -/

/-- Part of a masked value. -/
theorem and_part {value mask part shown : Word} (within : mask &&& part = part)
    (whole : value &&& mask = shown) : value &&& part = shown &&& part := by
  rw [← whole, BitVec.and_assoc, within]

theorem Target.considered_open (t : Target) (value : Word) :
    (t.considered value).registerPending = t.registerPending ∧
      (t.considered value).step = t.step := by
  have request := t.observeHaltRequest_softer value
  unfold Target.considered Target.clearUncertain
  split
  · exact ⟨rfl, rfl⟩
  · split
    · split <;> exact ⟨rfl, rfl⟩
    · split <;> exact ⟨request.registerPending, request.step⟩

theorem Target.writtenBack_open (t : Target) (result : Except Err Word) :
    (t.writtenBack result).registerPending = t.registerPending ∧
      (t.writtenBack result).step = t.step := by
  have observed := t.observed_softer result
  cases result with
  | error err => exact ⟨observed.registerPending, observed.step⟩
  | ok value =>
    unfold Target.writtenBack
    simp only
    split <;> exact ⟨observed.registerPending, observed.step⟩

/-- A transfer that a reading ends is shown complete. -/
theorem Target.transferred_ready {result : Except Err Word}
    (pending : t.registerPending = true)
    (done : (t.transferred result).registerPending = false) :
    Entry.ShowsReady ⟨t, .read dhcsrAddress result⟩ := by
  have observed := t.observed_softer result
  have still := observed.registerPending.trans pending
  cases result with
  | error err => exact absurd (still.symm.trans done) nofun
  | ok value =>
    have request := observed.trans (Target.observeHaltRequest_softer _ value)
    unfold Target.transferred at done
    simp only at done
    split at done
    · exact absurd (still.symm.trans done) nofun
    · next kept =>
        split at done
        · exact absurd (still.symm.trans done) nofun
        · split at done
          · exact absurd ((request.registerPending.trans pending).symm.trans done) nofun
          · next shown =>
              simp only [Target.transferLost, still, Bool.true_and, Bool.or_eq_true, not_or,
                Bool.and_eq_true, bne_iff_ne, not_and, not_not, observed.m33] at kept
              have shown : value &&& (cDebugEnable ||| sHalt) = cDebugEnable ||| sHalt := by
                simpa [showsHalted] using shown
              refine ⟨value, rfl, ?_, ?_, by simpa using done, kept.1.2, kept.2⟩
              · rw [and_part (by decide) shown]
                decide
              · rw [and_part (by decide) shown]
                decide

section Moves

variable {log : List Entry} {t t' : Target} {event : Event}

/-- Whatever a transfer holds back is done with none open. -/
theorem Move.disturbs (move : Move log t event t') (disturbs : Entry.Disturbs ⟨t, event⟩) :
    t.registerPending = false := by
  obtain ⟨address, value, err, writes, -⟩ := disturbs
  cases move with
  | halt _ quiet | resume _ quiet | enable _ quiet | select _ _ quiet | stage _ _ quiet =>
    exact quiet.pending
  | finish _ pending => exact pending
  | control | transfer | poll | confirm | reason | look | first | second | back =>
    exact nomatch writes

theorem Move.controls (move : Move log t event t') (controls : Entry.Controls ⟨t, event⟩) :
    t.step = .idle := by
  obtain ⟨value, err, writes, other⟩ := controls
  cases move with
  | halt _ quiet | resume _ quiet | enable _ quiet | select _ _ quiet | stage _ _ quiet =>
    exact quiet.step
  | finish =>
    injection writes with _ same
    exact absurd same.symm other
  | control | transfer | poll | confirm | reason | look | first | second | back =>
    exact nomatch writes

theorem Move.finishes (move : Move log t event t') (finishes : Entry.Finishes ⟨t, event⟩) :
    t.step = .idle ∨ t.step = .restoring := by
  obtain ⟨err, writes⟩ := finishes
  cases move with
  | halt _ quiet | resume _ quiet | enable _ quiet | select _ _ quiet | stage _ _ quiet =>
    exact .inl quiet.step
  | finish _ _ restoring => exact .inr restoring
  | control | transfer | poll | confirm | reason | look | first | second | back =>
    exact nomatch writes

theorem Move.selects (move : Move log t event t') (selects : Entry.Selects ⟨t, event⟩) :
    t'.registerPending = true := by
  obtain ⟨value, err, writes⟩ := selects
  have address : ∀ {address value err'}, event = .write address value err' →
      address = dcrsrAddress := by
    rintro _ _ _ rfl
    injection writes
  cases move with
  | select => rfl
  | halt | resume | finish | enable | stage => exact absurd (address rfl) (by decide)
  | control | transfer | poll | confirm | reason | look | first | second | back =>
    exact nomatch writes

/-- A transfer is over only when a reading has shown it so. -/
theorem Move.pending (move : Move log t event t') (done : t'.registerPending = false) :
    t.registerPending = false ∨ Entry.ShowsReady ⟨t, event⟩ := by
  cases pending : t.registerPending with
  | false => exact .inl rfl
  | true =>
    cases move with
    | transfer => exact .inr (Target.transferred_ready pending done)
    | control _ quiet | first _ quiet | second _ quiet | back _ quiet | look _ quiet
    | halt _ quiet | resume _ quiet | enable _ quiet | select _ _ quiet | stage _ _ quiet =>
      exact absurd (quiet.pending.symm.trans pending) nofun
    | poll _ ready | confirm _ ready | reason _ ready | finish _ ready =>
      exact absurd (ready.symm.trans pending) nofun

/-- What a move may do to the phase of a step. -/
inductive PhaseChange (t : Target) (event : Event) : StepPhase → Prop where
  | same {phase : StepPhase} (same : phase = t.step) : PhaseChange t event phase
  | lost (busy : t.step ≠ .idle) : PhaseChange t event .lost
  | stopped (running : t.step = .running) (shown : Entry.ShowsStep ⟨t, event⟩) :
      PhaseChange t event .stopped
  | restoring (stopped : t.step = .stopped) (reads : ∃ result, event = .read dfsrAddress result) :
      PhaseChange t event .restoring
  | idle (restoring : t.step = .restoring) (shown : Entry.ShowsStopped ⟨t, event⟩) :
      PhaseChange t event .idle

/-- No move begins a step. -/
theorem PhaseChange.stays_idle {event : Event} {phase : StepPhase}
    (change : PhaseChange t event phase) (idle : t.step = .idle) : phase = .idle := by
  cases change with
  | same same => exact same.trans idle
  | lost busy => exact absurd idle busy
  | stopped before | restoring before | idle before => exact absurd (idle.symm.trans before) nofun

theorem Target.confirmed_phase (busy : t.step ≠ .idle) (result : Except Err Word) :
    PhaseChange t (.read dhcsrAddress result) (t.confirmed result).step := by
  have step := (t.observed_softer result).step
  cases result with
  | error err => exact .same step
  | ok value =>
    unfold Target.confirmed Target.observeStepState
    simp only
    split
    · exact .lost busy
    · next sound =>
        rw [step]
        split
        · next stops =>
            obtain ⟨running, shown⟩ := stops
            simp only [Target.stepInvalid, step, Bool.or_eq_true, not_or, running,
              Bool.and_eq_true, beq_iff_eq, bne_iff_ne, not_and, not_not] at sound
            obtain ⟨⟨⟨enabled, plain⟩, stepping⟩, -⟩ := sound
            refine .stopped running ⟨value, rfl, enabled, stepping nofun, ?_, ?_, ?_, ?_⟩
            · rw [and_part (by decide) shown]
              decide
            · rw [and_part (by decide) shown]
              decide
            · rw [and_part (by decide) plain]
              decide
            · rw [and_part (by decide) plain]
              decide
        · exact .same step

theorem Target.polled_phase (busy : t.step ≠ .idle) (result : Except Err Word) :
    PhaseChange t (.read dhcsrAddress result) (t.polled result).step := by
  cases result with
  | error err => exact Target.confirmed_phase busy (.error err)
  | ok value =>
    unfold Target.polled
    simp only
    split
    · next settled =>
        obtain ⟨restoring, controls, shown⟩ := (Target.settles_iff _ _).1 settled.2.2
        refine .idle ((t.observed_softer _).step.symm.trans restoring) ⟨value, rfl, shown, ?_⟩
        rw [and_part (by decide) controls]
        decide
    · exact Target.confirmed_phase busy (.ok value)

theorem Move.phase (move : Move log t event t') : PhaseChange t event t'.step := by
  have observed := fun result => (t.observed_softer result).step
  cases move with
  | control result => exact .same (t.controlled_softer result).step
  | transfer result => exact .same (t.transferred_soft result).2
  | poll result _ busy =>
    refine Target.polled_phase ?_ result
    rcases busy with busy | busy | busy <;> simp [busy]
  | confirm result _ restoring => exact Target.confirmed_phase (by simp [restoring]) result
  | reason result _ stopped =>
    cases result with
    | error err => exact .same rfl
    | ok reason =>
      rw [(t.reasoned_restoring reason).2.2]
      exact .restoring stopped ⟨_, rfl⟩
  | first result =>
    cases result with
    | error err => exact .same (observed (.error err))
    | ok value => exact .same ((Target.considered_open _ value).2.trans (observed _))
  | second result => exact .same (observed result)
  | back result => exact .same (t.writtenBack_open result).2
  | halt err => exact .same (by split <;> rfl)
  | look | resume | finish | enable | select | stage => exact .same rfl

/-- Stepping is disabled again only when a reading has shown it so. -/
theorem Move.idle (move : Move log t event t') (idle : t'.step = .idle) :
    t.step = .idle ∨ Entry.ShowsStopped ⟨t, event⟩ := by
  have phase := move.phase
  rw [idle] at phase
  cases phase with
  | same same => exact .inl same.symm
  | idle _ shown => exact .inr shown

/-- A step has stopped only when a reading has shown it so. -/
theorem Move.stops (move : Move log t event t')
    (stopped : t'.step = .stopped ∨ t'.step = .restoring) :
    (t.step = .stopped ∨ t.step = .restoring) ∨ Entry.ShowsStep ⟨t, event⟩ := by
  have phase := move.phase
  generalize t'.step = phase' at phase stopped
  cases phase with
  | same same => exact .inl (same ▸ stopped)
  | stopped _ shown => exact .inr shown
  | restoring before => exact .inl (.inl before)
  | lost | idle => simp at stopped

end Moves

/-! ## Whole runs -/

/-- What a run keeps: a target with no transfer open owes the log none, and so on
for each phase of a step. -/
structure Exclusive (t : Target) (log : List Entry) : Prop where
  ready : t.registerPending = false → Discharged Entry.Selects Entry.ShowsReady log
  stopped : t.step = .idle → Discharged Entry.Launches Entry.ShowsStopped log
  stepped : t.step = .stopped ∨ t.step = .restoring →
    Discharged Entry.Launches (fun entry => entry.ShowsStep ∨ entry.ShowsStopped) log
  transfers : Until Entry.Selects Entry.Disturbs Entry.ShowsReady log
  controls : Until Entry.Launches Entry.Controls Entry.ShowsStopped log
  finishes : Until Entry.Launches Entry.Finishes
    (fun entry => entry.ShowsStep ∨ entry.ShowsStopped) log
  launches : Always (fun before entry => entry.Launches → Unlaunched before) log

theorem Exclusive.nil (t : Target) : Exclusive t [] :=
  ⟨fun _ => .nil, fun _ => .nil, fun _ => .nil, .nil, .nil, .nil, .nil⟩

/-- Whatever the phase, the weaker of the two readings has been made. -/
theorem Exclusive.either (exclusive : Exclusive t log)
    (phase : t.step = .idle ∨ t.step = .restoring) :
    Discharged Entry.Launches (fun entry => entry.ShowsStep ∨ entry.ShowsStopped) log :=
  phase.elim (fun idle => (exclusive.stopped idle).mono fun _ => .inr)
    fun restoring => exclusive.stepped (.inr restoring)

theorem Exclusive.move {t' : Target} {event : Event}
    (exclusive : Exclusive t log) (move : Move log t event t') :
    Exclusive t' (log ++ [⟨t, event⟩]) := by
  have unlaunched : ¬Entry.Launches ⟨t, event⟩ := move.not_launches.1
  refine ⟨fun done => ?_, fun idle => ?_, fun stops => ?_, exclusive.transfers.snoc ?_,
    exclusive.controls.snoc ?_, exclusive.finishes.snoc ?_, exclusive.launches.snoc ?_⟩
  · have unselected : ¬Entry.Selects ⟨t, event⟩ := fun selects =>
      absurd (done.symm.trans (move.selects selects)) nofun
    rcases move.pending done with before | shown
    · exact (exclusive.ready before).snoc unselected
    · exact .close shown unselected
  · rcases move.idle idle with before | shown
    · exact (exclusive.stopped before).snoc unlaunched
    · exact .close shown unlaunched
  · rcases move.stops stops with before | shown
    · exact (exclusive.stepped before).snoc unlaunched
    · exact .close (.inl shown) unlaunched
  · exact fun disturbs => exclusive.ready (move.disturbs disturbs)
  · exact fun controls => exclusive.stopped (move.controls controls)
  · exact fun finishes => exclusive.either (move.finishes finishes)
  · exact fun launches => absurd launches unlaunched

theorem Exclusive.launch (exclusive : Exclusive t log)
    (quiet : t.Quiet) (fresh : Unlaunched log) (write : Option Err) :
    Exclusive (t.launched write) (log ++ [⟨t, .write dhcsrAddress launchValue write⟩]) := by
  have unselected : ¬Entry.Selects ⟨t, .write dhcsrAddress launchValue write⟩ := by
    rintro ⟨value, err, writes⟩
    injection writes with address
    exact absurd address (by decide)
  refine ⟨fun _ => (exclusive.ready quiet.pending).snoc unselected, fun idle => ?_, fun stops => ?_,
    exclusive.transfers.snoc fun _ => exclusive.ready quiet.pending,
    exclusive.controls.snoc fun _ => exclusive.stopped quiet.step,
    exclusive.finishes.snoc fun _ => exclusive.either (.inl quiet.step),
    exclusive.launches.snoc fun _ => fresh⟩
  · cases write <;> exact nomatch idle
  · cases write <;> simp [Target.launched] at stops

theorem Exclusive.call (exclusive : Exclusive t log) (call : Call) :
    Exclusive t (log ++ [⟨t, .call call⟩]) := by
  have unlaunched : ¬Entry.Launches ⟨t, .call call⟩ := fun ⟨_, launches⟩ => nomatch launches
  have unselected : ¬Entry.Selects ⟨t, .call call⟩ := fun ⟨_, _, selects⟩ => nomatch selects
  exact ⟨fun done => (exclusive.ready done).snoc unselected,
    fun idle => (exclusive.stopped idle).snoc unlaunched,
    fun stops => (exclusive.stepped stops).snoc unlaunched,
    exclusive.transfers.snoc fun ⟨_, _, _, disturbs, _⟩ => (nomatch disturbs),
    exclusive.controls.snoc fun ⟨_, _, controls, _⟩ => (nomatch controls),
    exclusive.finishes.snoc fun ⟨_, finishes⟩ => (nomatch finishes),
    exclusive.launches.snoc fun launches => absurd launches unlaunched⟩

theorem Run.exclusive {t₀ : Target} (run : Run t₀ [] t log) :
    Exclusive t log := by
  induction run with
  | start => exact .nil t₀
  | call call _ ih => exact ih.call call
  | close _ exclusive | drop _ _ _ exclusive =>
    exact ⟨exclusive.ready, exclusive.stopped, exclusive.stepped, exclusive.transfers,
      exclusive.controls, exclusive.finishes, exclusive.launches⟩
  | move _ _ move ih => exact ih.move move
  | launch write _ _ settled _ fresh ih =>
    exact ih.launch settled.quiet fresh write

/-- After a DCRSR write is attempted nothing is written to DHCSR, DCRSR or DCRDR
until a reading shows the transfer complete. After a launch is attempted the only
DHCSR value written is the one that ends stepping, and only once the step has been
seen to stop, until a reading shows the processor halted with stepping disabled.
Every launch is the first one of a `Step` call that is under way. -/
theorem transfers_and_steps_exclusive (w : World) (ctx : Ctx)
    (returned : (acquire ctx w.fresh).1.1 = true) (calls : List Call) :
    Until Entry.Selects Entry.Disturbs Entry.ShowsReady (perform (w.acquired ctx) calls).log ∧
      Until Entry.Launches Entry.Controls Entry.ShowsStopped (perform (w.acquired ctx) calls).log ∧
      Until Entry.Launches Entry.Finishes (fun entry => entry.ShowsStep ∨ entry.ShowsStopped)
        (perform (w.acquired ctx) calls).log ∧
      Always (fun before entry => entry.Launches → Unlaunched before)
        (perform (w.acquired ctx) calls).log := by
  have exclusive := (acquired_run returned calls).2.2.exclusive
  exact ⟨exclusive.transfers, exclusive.controls, exclusive.finishes, exclusive.launches⟩

/-- A register is read from a halted core, which is then halted again and released. -/
theorem transfers_and_steps_exclusive_session :
    Until Entry.Selects Entry.Disturbs Entry.ShowsReady
      (perform (Session.world.acquired Session.ctx)
        [.readRegister Session.ctx regPC, .halt Session.ctx, .release Session.ctx]).log :=
  (transfers_and_steps_exclusive Session.world Session.ctx Session.returned _).1

end Ostiole.Cortexm
