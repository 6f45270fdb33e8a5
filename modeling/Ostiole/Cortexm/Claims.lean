import Ostiole.Cortexm.Ownership

/-!
# Halts that are owed a release

Every halt the driver asked for is settled by a reading that shows no halt
requested, or its claim is given up. The record a target keeps is enough to tell:
a log is owed nothing once no claim is held, and nothing once no change is left.
-/

namespace Ostiole.Cortexm

open Ostiole Logic

variable {result : Except Err Word} {phase : StepPhase}

/-! ## What the log shows -/

namespace Entry

/-- The driver asks for a halt, or finds a halt at the end of its own step. -/
def Requests (entry : Entry) : Prop :=
  (∃ err, entry.event = .write dhcsrAddress (debugKey ||| cDebugEnable ||| cHalt) err ∧
      entry.before.step = .idle) ∨
    ∃ reason, entry.event = .read dfsrAddress (.ok reason) ∧ reason &&& 0x1f = 1 ∧
      entry.before.step = .stopped

/-- A claim is given up: to a competing debug event at the end of a step, to a
restart, or to a reading that failed on a Cortex-M33. -/
def Relinquishes (entry : Entry) : Prop :=
  (∃ reason, entry.event = .read dfsrAddress (.ok reason) ∧ reason &&& 0x1f ≠ 1 ∧
      entry.before.step = .stopped) ∨
    (∃ value, entry.event = .read dhcsrAddress (.ok value) ∧ entry.before.Restarted value ∧
      (entry.before.haltOwned = true ∨ entry.before.resumeUncertain = true)) ∨
    ∃ err, entry.event = .read dhcsrAddress (.error err) ∧ entry.before.m33 = true ∧
      entry.before.haltOwned = true

/-- A reading confirms that no halt is requested, or the claim is given up. -/
def Settles (entry : Entry) : Prop :=
  (∃ value, entry.event = .read dhcsrAddress (.ok value) ∧ value &&& cHalt = 0) ∨
    entry.Relinquishes

end Entry

/-- What settles a halt is not itself a request. -/
theorem Entry.Settles.not_requests {entry : Entry} (settles : entry.Settles) :
    ¬entry.Requests := by
  have reads : ∀ {result}, entry.event = .read dhcsrAddress result → ¬entry.Requests := by
    rintro result reads (⟨err, writes, -⟩ | ⟨reason, again, -⟩)
    · exact nomatch reads.symm.trans writes
    · injection reads.symm.trans again with address
      exact absurd address (by decide)
  rcases settles with ⟨value, shown, -⟩ | ⟨reason, shown, other, -⟩ | ⟨value, shown, -⟩ |
    ⟨err, shown, -⟩
  · exact reads shown
  · rintro (⟨err, writes, -⟩ | ⟨reason', again, halted, -⟩)
    · exact nomatch shown.symm.trans writes
    · injection shown.symm.trans again with _ result
      injection result with same
      exact other (same ▸ halted)
  · exact reads shown
  · exact reads shown

/-- Every halt the driver asked for has been settled. -/
abbrev Settled : List Entry → Prop := Discharged Entry.Requests Entry.Settles

/-! ## How a claim changes -/

/-- The record of a claim is untouched. -/
structure SameClaim (t t' : Target) : Prop where
  owned : t'.haltOwned = t.haltOwned
  halt : t'.haltUncertain = t.haltUncertain
  resume : t'.resumeUncertain = t.resumeUncertain
  changed : t'.changed = t.changed

/-- A claim ends, and the log shows why. -/
structure Given (t : Target) (event : Event) (t' : Target) : Prop where
  settles : Entry.Settles ⟨t, event⟩
  owned : t'.haltOwned = false
  changed : t'.changed = t.disabled
  source : t.haltOwned = true ∨ t.resumeUncertain = true ∨ t.step = .idle

theorem SameClaim.refl (t : Target) : SameClaim t t := ⟨rfl, rfl, rfl, rfl⟩

theorem SameClaim.trans {t t₁ t₂ : Target} (first : SameClaim t t₁) (second : SameClaim t₁ t₂) :
    SameClaim t t₂ :=
  ⟨second.owned.trans first.owned, second.halt.trans first.halt,
    second.resume.trans first.resume, second.changed.trans first.changed⟩

section Claims

variable {t t₁ t' : Target} {log : List Entry} {event : Event}

/-- A claim that is gone stays so. -/
theorem Given.same (given : Given t event t₁) (same : SameClaim t₁ t') : Given t event t' :=
  ⟨given.settles, same.owned.trans given.owned, same.changed.trans given.changed, given.source⟩

theorem Target.observed_claim (t : Target) (result : Except Err Word) :
    SameClaim t (t.observed result) ∨
      Given t (.read dhcsrAddress result) (t.observed result) := by
  have noted : ∀ value, SameClaim t (t.noteSnapStall value) := by
    intro value
    unfold Target.noteSnapStall
    split <;> exact ⟨rfl, rfl, rfl, rfl⟩
  cases result with
  | error err =>
    unfold Target.observed
    simp only
    split
    · next given =>
        exact .inr ⟨.inr (.inr (.inr ⟨err, rfl, given.1, given.2⟩)), rfl, rfl, .inl given.2⟩
    · exact .inl (.refl t)
  | ok value =>
    unfold Target.observed
    simp only
    split
    · next part =>
        split
        · next given =>
            rw [(noted value).owned, (noted value).resume] at given
            refine .inr ⟨.inr (.inr (.inl ⟨value, rfl, ⟨part, given.1⟩, given.2⟩)), rfl, ?_,
              given.2.imp id .inl⟩
            exact (t.noteSnapStall_softer value).disabled
        · exact .inl (noted value)
    · exact .inl (.refl t)

/-- What taking in a reading that has been observed makes of a claim. -/
def Target.Goes (t : Target) (value : Word) (t' : Target) : Prop :=
  SameClaim (t.observed (.ok value)) t' ∨ Given t (.read dhcsrAddress (.ok value)) t'

theorem Target.Goes.same {value : Word} (goes : t.Goes value t₁) (same : SameClaim t₁ t') :
    t.Goes value t' :=
  Or.imp (fun first => first.trans same) (fun given => given.same same) goes

theorem Target.observeHaltRequest_goes (t : Target) (value : Word) :
    t.Goes value ((t.observed (.ok value)).observeHaltRequest value) := by
  have observed := t.observed_softer (.ok value)
  unfold Target.observeHaltRequest
  split
  · next given =>
      exact .inr ⟨.inl ⟨value, rfl, given.2.2⟩, rfl, observed.disabled,
        given.1.imp observed.owned fun resume => .inl (observed.resume resume)⟩
  · exact .inl (.refl _)

theorem Target.clearUncertain_goes {value : Word} (idle : t.step = .idle)
    (softer : Softer t t₁) (goes : t.Goes value t₁) : t.Goes value (t₁.clearUncertain value) := by
  unfold Target.clearUncertain
  split
  · next cleared =>
      refine .inr ⟨.inl ⟨value, rfl, ?_⟩, rfl, softer.disabled, .inr (.inr idle)⟩
      rw [and_part (by decide) cleared.2]
      decide
  · exact goes

theorem Target.considered_goes (idle : t.step = .idle) (value : Word) :
    t.Goes value ((t.observed (.ok value)).considered value) := by
  have observed := t.observed_softer (.ok value)
  unfold Target.considered
  split
  · exact .inl (.refl _)
  · split
    · exact Target.clearUncertain_goes idle observed (.inl (.refl _))
    · exact Target.clearUncertain_goes idle
        (observed.trans (Target.observeHaltRequest_softer _ value))
          (t.observeHaltRequest_goes value)

theorem Target.controlled_goes (t : Target) (value : Word) :
    t.Goes value (t.controlled (.ok value)) := by
  unfold Target.controlled
  simp only
  split
  · exact t.observeHaltRequest_goes value
  · exact .inl (.refl _)

theorem Target.transferred_goes (t : Target) (value : Word) :
    t.Goes value (t.transferred (.ok value)) := by
  have request := t.observeHaltRequest_goes value
  unfold Target.transferred
  simp only
  split
  · exact .inl ⟨rfl, rfl, rfl, rfl⟩
  · split
    · exact .inl (.refl _)
    · split
      · exact request
      · exact request.same ⟨rfl, rfl, rfl, rfl⟩

theorem Target.confirmed_goes (t : Target) (value : Word) :
    t.Goes value (t.confirmed (.ok value)) := by
  obtain ⟨phase, same, -⟩ := (t.observed (.ok value)).observeStepState_phase value
  rw [Target.confirmed, same]
  exact .inl ⟨rfl, rfl, rfl, rfl⟩

theorem Target.polled_goes (t : Target) (value : Word) : t.Goes value (t.polled (.ok value)) := by
  unfold Target.polled
  simp only
  split
  · exact .inl ⟨rfl, rfl, rfl, rfl⟩
  · exact t.confirmed_goes value

/-- What a move makes of a claim. -/
inductive ClaimChange (t : Target) (event : Event) (t' : Target) : Prop where
  | same (same : SameClaim t t') (unasked : ¬Entry.Requests ⟨t, event⟩)
      (phase : t'.step = .restoring → t.step = .restoring)
      (writes : ∀ value err, event = .write dhcsrAddress value err → t.step = .restoring)
  | given (given : Given t event t')
  | competed (settles : Entry.Settles ⟨t, event⟩) (owned : t'.haltOwned = false)
      (changed : t'.changed = t.disabled) (restoring : t'.step = .restoring)
  | stepped {reason : Word} (reads : event = .read dfsrAddress (.ok reason))
      (stopped : t.step = .stopped) (owned : t'.haltOwned = true) (changed : t'.changed = t.changed)
      (restoring : t'.step = .restoring)
  | returned {value : Word} (reads : event = .read dhcsrAddress (.ok value))
      (disabled : value &&& cDebugEnable = 0) (quiet : t.Quiet) (free : t.Free)
      (saved : t.saved = 0) (free' : t'.Free) (idle : t'.step = .idle)
  | halted {err : Option Err}
      (writes : event = .write dhcsrAddress (debugKey ||| cDebugEnable ||| cHalt) err)
      (loose : t'.haltOwned = true ∨ t'.haltUncertain = true) (changed : t'.changed = true)
      (idle : t'.step = .idle)
  | resumed {err : Option Err} (writes : event = .write dhcsrAddress (debugKey ||| cDebugEnable)
      err)
      (owned : t.haltOwned = true) (resume : t'.resumeUncertain = true)
      (changed : t'.changed = t.changed) (idle : t'.step = .idle)
  | disabled {err : Option Err} (writes : event = .write dhcsrAddress (debugKey ||| 0) err)
      (quiet : t.Quiet) (free : t.Free) (saved : t.saved = 0) (free' : t'.Free)
      (changed : t'.changed = true) (idle : t'.step = .idle)

/-- Taking in a DHCSR reading does not ask for a halt. -/
theorem Entry.reads_not_requests :
    ¬Entry.Requests ⟨t, .read dhcsrAddress result⟩ := by
  rintro (⟨err, writes, -⟩ | ⟨reason, reads, -⟩)
  · exact nomatch writes
  · injection reads with address
    exact absurd address (by decide)

theorem ClaimChange.read
    (step : t'.step = .restoring → t.step = .restoring)
    (change : SameClaim (t.observed result) t' ∨ Given t (.read dhcsrAddress result) t') :
    ClaimChange t (.read dhcsrAddress result) t' := by
  rcases change with same | given
  · rcases t.observed_claim result with before | given
    · exact .same (before.trans same) Entry.reads_not_requests step nofun
    · exact .given (given.same same)
  · exact .given given

theorem PhaseChange.restoring_read
    (change : PhaseChange t (.read dhcsrAddress result) phase) (restoring : phase = .restoring) :
    t.step = .restoring := by
  subst restoring
  cases change with
  | same same => exact same.symm
  | restoring _ reads =>
    obtain ⟨_, reads⟩ := reads
    injection reads with address
    exact absurd address (by decide)

theorem Move.claim (move : Move log t event t') : ClaimChange t event t' := by
  have phase := move.phase
  cases move with
  | control result =>
    refine .read phase.restoring_read ?_
    cases result with
    | error err => exact .inl (.refl _)
    | ok value => exact t.controlled_goes value
  | transfer result =>
    refine .read phase.restoring_read ?_
    cases result with
    | error err => exact .inl (.refl _)
    | ok value => exact t.transferred_goes value
  | poll result =>
    refine .read phase.restoring_read ?_
    cases result with
    | error err => exact .inl (.refl _)
    | ok value => exact t.polled_goes value
  | confirm result =>
    refine .read phase.restoring_read ?_
    cases result with
    | error err => exact .inl (.refl _)
    | ok value => exact t.confirmed_goes value
  | first result quiet =>
    refine .read phase.restoring_read ?_
    cases result with
    | error err => exact .inl (.refl _)
    | ok value => exact Target.considered_goes quiet.step value
  | second result => exact .read phase.restoring_read (.inl (.refl _))
  | back result quiet free =>
    cases result with
    | error err => exact .read phase.restoring_read (.inl (.refl _))
    | ok value =>
      have observed := t.observed_softer (.ok value)
      unfold Target.writtenBack at phase ⊢
      simp only at phase ⊢
      split
      · next undone =>
          have free' := observed.free free
          exact .returned rfl undone.1 quiet free undone.2
            ⟨free'.owned, free'.halt, free'.resume⟩ (observed.step.trans quiet.step)
      · next kept =>
          simp only [kept, if_false] at phase
          exact .read phase.restoring_read (.inl (.refl _))
  | reason result pending stopped =>
    have unasked : ∀ err, ¬Entry.Requests ⟨t, .read dfsrAddress (.error err)⟩ := by
      rintro err (⟨_, writes, -⟩ | ⟨_, reads, -⟩)
      · exact nomatch writes
      · exact nomatch reads
    cases result with
    | error err => exact .same (.refl t) (unasked err) id nofun
    | ok reason =>
      unfold Target.reasoned
      simp only
      split
      · exact .stepped rfl stopped rfl rfl rfl
      · next other => exact .competed (.inr (.inl ⟨reason, rfl, other, stopped⟩)) rfl rfl rfl
  | look result quiet other =>
    refine .same (.refl t) ?_ id nofun
    rintro (⟨_, writes, -⟩ | ⟨_, _, _, stopped⟩)
    · exact nomatch writes
    · exact absurd (quiet.step.symm.trans stopped) nofun
  | halt err quiet =>
    cases err with
    | none => exact .halted rfl (.inl rfl) rfl quiet.step
    | some err => exact .halted rfl (.inr rfl) rfl quiet.step
  | resume err quiet owned => exact .resumed rfl owned rfl rfl quiet.step
  | finish err _ restoring =>
    refine .same (.refl t) ?_ id fun _ _ _ => restoring
    rintro (⟨_, _, idle⟩ | ⟨_, reads, -⟩)
    · exact absurd (restoring.symm.trans idle) nofun
    · exact nomatch reads
  | enable err quiet free saved =>
    exact .disabled rfl quiet free saved ⟨free.owned, free.halt, free.resume⟩ rfl quiet.step
  | select selector err | stage value err =>
    refine .same ⟨rfl, rfl, rfl, rfl⟩ ?_ id fun _ _ writes => ?_
    · rintro (⟨_, writes, -⟩ | ⟨_, reads, -⟩)
      · injection writes with address
        exact absurd address (by decide)
      · exact nomatch reads
    · injection writes with address
      exact absurd address (by decide)

end Claims

/-! ## The bookkeeping -/

/-- A step that may still be running on the processor. -/
def StepPhase.Busy : StepPhase → Prop
  | .uncertain | .running | .stopped => True
  | .idle | .restoring | .lost => False

/-- Whatever the driver has taken hold of counts as a change. -/
structure Booked (t : Target) : Prop where
  owned : t.haltOwned = true → t.changed = true
  busy : t.step.Busy → t.changed = true ∧ t.resumeUncertain = false
  stepped : t.disabled = true → t.step ≠ .idle → t.changed = true

/-- Something the driver did may still hold the processor. -/
def Target.Loose (t : Target) : Prop :=
  t.haltOwned = true ∨ t.haltUncertain = true ∨ t.resumeUncertain = true ∨ t.step.Busy ∨
    t.step = .lost

/-- What the log owes: nothing is left to settle once no claim is held, and nothing
once no change is left. -/
structure Owing (t : Target) (log : List Entry) : Prop where
  free : ¬t.Loose → Settled log
  unchanged : t.changed = false → t.step = .idle ∨ t.step = .restoring → Settled log

section Bookkeeping

variable {t t' : Target} {log : List Entry} {event : Event}

theorem PhaseChange.busy (change : PhaseChange t event phase)
    (busy : phase.Busy) : t.step.Busy := by
  cases change with
  | same same => exact same ▸ busy
  | stopped running =>
    rw [running]
    trivial
  | lost | restoring | idle => exact busy.elim

theorem Target.not_loose (quiet : t.Quiet) (free : t.Free) : ¬t.Loose := by
  simp [Target.Loose, free.owned, free.halt, free.resume, quiet.step, StepPhase.Busy]

theorem Booked.move (booked : Booked t) (kept : Kept t) (move : Move log t event t') :
    Booked t' := by
  have phase := move.phase
  have disabled : t'.disabled = t.disabled := by
    rw [Target.disabled, move.fixed.saved, Target.disabled]
  have idle : ∀ {P : Prop}, t'.step = .idle → t'.step.Busy → P := fun idle busy => by
    rw [idle] at busy
    exact busy.elim
  cases move.claim with
  | same same =>
    refine ⟨fun owned => ?_, fun busy => ?_, fun off active => ?_⟩
    · exact same.changed.trans (booked.owned (same.owned.symm.trans owned))
    · obtain ⟨changed, resume⟩ := booked.busy (phase.busy busy)
      exact ⟨same.changed.trans changed, same.resume.trans resume⟩
    · refine same.changed.trans (booked.stepped (disabled.symm.trans off) fun idle => ?_)
      exact active (phase.stays_idle idle)
  | given given =>
    refine ⟨fun owned => absurd (given.owned.symm.trans owned) Bool.false_ne_true, fun busy => ?_,
      fun off _ => given.changed.trans (disabled.symm.trans off)⟩
    have before := phase.busy busy
    have claimed : t.haltOwned = false := kept.stepping (by
      revert before
      cases t.step <;> simp [StepPhase.Busy])
    rcases given.source with owned | resume | idle
    · exact absurd (claimed.symm.trans owned) Bool.false_ne_true
    · exact absurd ((booked.busy before).2.symm.trans resume) (by decide)
    · rw [idle] at before
      exact before.elim
  | competed _ owned changed restoring =>
    refine ⟨fun held => absurd (owned.symm.trans held) Bool.false_ne_true, fun busy => ?_,
      fun off _ => changed.trans (disabled.symm.trans off)⟩
    rw [restoring] at busy
    exact busy.elim
  | stepped _ stopped _ changed restoring =>
    have before := booked.busy (by rw [stopped]; trivial)
    refine ⟨fun _ => changed.trans before.1, fun busy => ?_, fun _ _ => changed.trans before.1⟩
    rw [restoring] at busy
    exact busy.elim
  | returned _ _ _ _ _ free still =>
    exact ⟨fun owned => absurd (free.owned.symm.trans owned) Bool.false_ne_true, idle still,
      fun _ active => absurd still active⟩
  | halted _ _ changed still => exact ⟨fun _ => changed, idle still, fun _ _ => changed⟩
  | resumed _ owned _ changed still =>
    have changed := changed.trans (booked.owned owned)
    exact ⟨fun _ => changed, idle still, fun _ _ => changed⟩
  | disabled _ _ _ _ _ changed still => exact ⟨fun _ => changed, idle still, fun _ _ => changed⟩

theorem Booked.launched (booked : Booked t) (settled : t.Settled) (owned : t.haltOwned = true)
    (write : Option Err) : Booked (t.launched write) :=
  ⟨nofun, fun _ => ⟨booked.owned owned, settled.resume⟩, fun _ _ => booked.owned owned⟩

/-- A step that is open stays so, unless its reason is read. -/
theorem PhaseChange.stays_open (change : PhaseChange t event phase)
    (opened : t.step.Busy ∨ t.step = .lost) (steps : phase = .restoring → t.step = .restoring) :
    phase.Busy ∨ phase = .lost := by
  cases change with
  | same same => exact same ▸ opened
  | lost => exact .inr rfl
  | stopped => exact .inl trivial
  | restoring stopped => exact absurd (stopped.symm.trans (steps rfl)) nofun
  | idle restoring =>
    rw [restoring] at opened
    exact absurd opened (by simp [StepPhase.Busy])

theorem Target.Loose.same (loose : t.Loose) (same : SameClaim t t')
    (change : PhaseChange t event t'.step) (steps : t'.step = .restoring → t.step = .restoring) :
    t'.Loose := by
  rcases loose with owned | halt | resume | opened
  · exact .inl (same.owned.trans owned)
  · exact .inr (.inl (same.halt.trans halt))
  · exact .inr (.inr (.inl (same.resume.trans resume)))
  · exact .inr (.inr (.inr (change.stays_open opened steps)))

theorem Owing.move (owing : Owing t log) (booked : Booked t) (move : Move log t event t') :
    Owing t' (log ++ [⟨t, event⟩]) := by
  have phase := move.phase
  cases move.claim with
  | same same unasked steps =>
    refine ⟨fun free => ?_, fun unchanged still => ?_⟩
    · exact (owing.free fun loose => free (loose.same same phase steps)).snoc unasked
    · refine (owing.unchanged (same.changed.symm.trans unchanged) ?_).snoc unasked
      rcases still with idle | restoring
      · rw [idle] at phase
        cases phase with
        | same same => exact .inl same.symm
        | idle restoring => exact .inr restoring
      · exact .inr (steps restoring)
  | given given =>
    exact ⟨fun _ => .close given.settles given.settles.not_requests,
      fun _ _ => .close given.settles given.settles.not_requests⟩
  | competed settles =>
    exact ⟨fun _ => .close settles settles.not_requests, fun _ _ =>
      .close settles settles.not_requests⟩
  | stepped _ stopped owned changed =>
    refine ⟨fun free => absurd (.inl owned) free, fun unchanged _ => ?_⟩
    have before := booked.busy (by rw [stopped]; trivial)
    exact absurd (before.1.symm.trans (changed.symm.trans unchanged)) nofun
  | returned reads _ quiet free =>
    have settled := owing.free (Target.not_loose quiet free)
    subst reads
    exact ⟨fun _ => settled.snoc Entry.reads_not_requests,
      fun _ _ => settled.snoc Entry.reads_not_requests⟩
  | halted _ loose changed =>
    refine ⟨fun free => ?_, fun unchanged _ => absurd (changed.symm.trans unchanged) nofun⟩
    exact absurd (loose.imp id .inl) free
  | resumed _ owned resume changed =>
    refine ⟨fun free => absurd (.inr (.inr (.inl resume))) free, fun unchanged _ => ?_⟩
    exact absurd ((booked.owned owned).symm.trans (changed.symm.trans unchanged)) nofun
  | disabled writes quiet free _ _ changed =>
    have settled := owing.free (Target.not_loose quiet free)
    refine ⟨fun _ => settled.snoc ?_, fun unchanged => absurd (changed.symm.trans unchanged) nofun⟩
    subst writes
    rintro (⟨_, writes, -⟩ | ⟨_, reads, -⟩)
    · injection writes with _ value
      exact absurd value (by decide)
    · exact nomatch reads

theorem Owing.launched (write : Option Err) :
    Owing (t.launched write) (log ++ [⟨t, .write dhcsrAddress launchValue write⟩]) := by
  have busy : (t.launched write).step.Busy := by cases write <;> trivial
  refine ⟨fun free => absurd (.inr (.inr (.inr (.inl busy)))) free, fun _ still => ?_⟩
  rcases still with idle | restoring
  · rw [idle] at busy
    exact busy.elim
  · rw [restoring] at busy
    exact busy.elim

theorem Entry.calls_not_requests {call : Call} : ¬Entry.Requests ⟨t, .call call⟩ := by
  rintro (⟨_, writes, -⟩ | ⟨_, reads, -⟩)
  · exact nomatch writes
  · exact nomatch reads

theorem Run.booked {t₀ : Target} {log₀ : List Entry} (run : Run t₀ log₀ t log) (kept : Kept t₀)
    (booked : Booked t₀) : Booked t := by
  induction run with
  | start => exact booked
  | call _ _ ih => exact ih
  | close _ before | drop _ _ _ before => exact ⟨before.owned, before.busy, before.stepped⟩
  | move before _ move ih =>
    exact ih.move (before.kept kept) move
  | launch write _ _ settled owned _ ih =>
    exact ih.launched settled owned write

theorem Run.owing {t₀ : Target} {log₀ : List Entry} (run : Run t₀ log₀ t log) (kept : Kept t₀)
    (booked : Booked t₀) (owing : Owing t₀ log₀) : Owing t log := by
  induction run with
  | start => exact owing
  | call _ _ ih =>
    exact ⟨fun free => (ih.free free).snoc Entry.calls_not_requests,
      fun unchanged still =>
        (ih.unchanged unchanged still).snoc Entry.calls_not_requests⟩
  | close _ before | drop _ _ _ before => exact ⟨before.free, before.unchanged⟩
  | move before _ move ih =>
    exact ih.move (before.booked kept booked) move
  | launch write => exact .launched write

end Bookkeeping

end Ostiole.Cortexm
