import Ostiole.Cortexm.Exclusive

/-!
# Who owns a halt

A claim to a halt is created by a halt request of the driver's own, or by a step it
launched under a claim, and by nothing else; every reading that shows the request
gone destroys it. The processor is resumed only under a claim, and debug is
disabled only when the same `Release` has just seen the processor running.
-/

namespace Ostiole.Cortexm

open Ostiole Logic

variable {result : Except Err Word} {value : Word}

/-! ## Claims and readings -/

section Readings

variable {t : Target}

/-- A value accepted as control state: halting debug is enabled without stepping
or masking, the architecture permits it, no transfer is lost by it, no step is
open, and it does not leave an unconfirmed halt in doubt. -/
structure Target.Accepts (t : Target) (value : Word) : Prop where
  valid : (t.observed (.ok value)).valid value = true
  idle : t.step = .idle
  kept : (t.observed (.ok value)).transferLost value = false
  certain : t.haltUncertain = true → value &&& sHalt = 0

/-- A value shows a Cortex-M33 restarted. -/
def Target.Restarted (t : Target) (value : Word) : Prop :=
  t.m33 = true ∧ value &&& (cDebugEnable ||| sRestart) = cDebugEnable ||| sRestart

theorem Target.observed_restarted (restarted : t.Restarted value) :
    (t.observed (.ok value)).haltOwned = false := by
  obtain ⟨part, shown⟩ := restarted
  cases owned : (t.observed (.ok value)).haltOwned with
  | false => rfl
  | true =>
    unfold Target.observed at owned
    simp only [part, if_true, shown, true_and] at owned
    split at owned
    · exact absurd owned nofun
    · next free =>
        push Not at free
        exact absurd owned free.1

theorem Target.observed_failed (part : t.m33 = true) (err : Err) :
    (t.observed (.error err)).haltOwned = false := by
  cases owned : t.haltOwned with
  | false => simp [Target.observed, owned]
  | true => simp [Target.observed, part, owned]

/-- What an observation alone can end a claim with. -/
theorem Target.observed_dropped (owned : t.haltOwned = true)
    (dropped : (t.observed result).haltOwned = false) :
    (∃ err, result = .error err ∧ t.m33 = true) ∨ ∃ value, result = .ok value ∧
      t.Restarted value := by
  have noted : ∀ value, (t.noteSnapStall value).haltOwned = true := by
    intro value
    unfold Target.noteSnapStall
    split <;> exact owned
  cases result with
  | error err =>
    unfold Target.observed at dropped
    simp only at dropped
    split at dropped
    · next given => exact .inl ⟨err, rfl, given.1⟩
    · exact absurd (owned.symm.trans dropped) nofun
  | ok value =>
    unfold Target.observed at dropped
    simp only at dropped
    split at dropped
    · next part =>
        split at dropped
        · next given => exact .inr ⟨value, rfl, part, given.1⟩
        · exact absurd ((noted value).symm.trans dropped) nofun
    · exact absurd (owned.symm.trans dropped) nofun

theorem Target.observeHaltRequest_clear (enabled : value &&& cDebugEnable ≠ 0)
    (clear : value &&& cHalt = 0) : (t.observeHaltRequest value).haltOwned = false := by
  unfold Target.observeHaltRequest
  split
  · rfl
  · next free =>
      simp only [enabled, clear, ne_eq, not_false_eq_true, and_self, and_true, not_or] at free
      simpa using free.1

/-- A claim is as it was, or it is gone and the value shows no halt request. -/
def Target.Follows (t : Target) (value : Word) (t' : Target) : Prop :=
  t'.haltOwned = t.haltOwned ∨ t'.haltOwned = false ∧ value &&& cHalt = 0

theorem Target.observeHaltRequest_follows (t : Target) (value : Word) :
    t.Follows value (t.observeHaltRequest value) := by
  unfold Target.observeHaltRequest
  split
  · next given => exact .inr ⟨rfl, given.2.2⟩
  · exact .inl rfl

theorem Target.clearUncertain_follows (t : Target) (value : Word) :
    t.Follows value (t.clearUncertain value) := by
  unfold Target.clearUncertain
  split
  · next cleared =>
      refine .inr ⟨rfl, ?_⟩
      rw [and_part (by decide) cleared.2]
      decide
  · exact .inl rfl

theorem Target.Follows.trans {t t₁ t₂ : Target} (first : t.Follows value t₁)
    (second : t₁.Follows value t₂) : t.Follows value t₂ := by
  rcases second with same | gone
  · exact first.imp same.trans fun given => ⟨same.trans given.1, given.2⟩
  · exact .inr gone

theorem Target.considered_follows (t : Target) (value : Word) :
    t.Follows value (t.considered value) := by
  unfold Target.considered
  split
  · exact .inl rfl
  · split
    · exact t.clearUncertain_follows value
    · exact (t.observeHaltRequest_follows value).trans (Target.clearUncertain_follows _ value)

end Readings

section Moves

variable {log : List Entry} {t t' : Target} {event : Event}

/-- The ways a DHCSR reading is taken in. -/
inductive Taken (t : Target) (result : Except Err Word) : Target → Prop where
  | control (quiet : t.Quiet) : Taken t result (t.controlled result)
  | transfer (idle : t.step = .idle) : Taken t result (t.transferred result)
  | poll (busy : t.step ≠ .idle) : Taken t result (t.polled result)
  | confirm (busy : t.step ≠ .idle) : Taken t result (t.confirmed result)
  | first (quiet : t.Quiet) : Taken t result (t.checked result)
  | second (free : t.Free) : Taken t result (t.observed result)
  | back (free : t.Free) : Taken t result (t.writtenBack result)

theorem Move.taken (move : Move log t event t')
    (reads : event = .read dhcsrAddress result) : Taken t result t' := by
  cases move with
  | control _ quiet => cases reads; exact .control quiet
  | transfer _ idle => cases reads; exact .transfer idle
  | poll _ _ busy =>
    cases reads
    exact .poll (by rcases busy with busy | busy | busy <;> simp [busy])
  | confirm _ _ restoring => cases reads; exact .confirm (by simp [restoring])
  | first _ quiet => cases reads; exact .first quiet
  | second _ _ free => cases reads; exact .second free
  | back _ _ free => cases reads; exact .back free
  | reason =>
    injection reads with address
    exact absurd address (by decide)
  | look _ _ other =>
    injection reads with address
    rcases other with rfl | rfl <;> exact absurd address (by decide)
  | halt | resume | finish | enable | select | stage => exact nomatch reads

/-- What a DHCSR reading does to a claim once it has been observed. -/
theorem Taken.follows (taken : Taken t (.ok value) t') :
    (t.observed (.ok value)).Follows value t' := by
  have request := (t.observed (.ok value)).observeHaltRequest_follows value
  have confirmed : (t.observed (.ok value)).Follows value (t.confirmed (.ok value)) := by
    obtain ⟨phase, same, -⟩ := (t.observed (.ok value)).observeStepState_phase value
    exact .inl (by rw [Target.confirmed, same])
  cases taken with
  | control =>
    unfold Target.controlled
    simp only
    split
    · exact request
    · exact .inl rfl
  | transfer =>
    unfold Target.transferred
    simp only
    split
    · exact .inl rfl
    · split
      · exact .inl rfl
      · split <;> exact request
  | poll =>
    unfold Target.polled
    simp only
    split
    · exact .inl rfl
    · exact confirmed
  | confirm => exact confirmed
  | first => exact Target.considered_follows _ value
  | second => exact .inl rfl
  | back =>
    unfold Target.writtenBack
    simp only
    split <;> exact .inl rfl

theorem Taken.failed {err : Err} (taken : Taken t (.error err) t') :
    t' = t.observed (.error err) := by
  cases taken <;> rfl

/-- Taking a DHCSR reading in never makes a claim. -/
theorem Taken.owned (taken : Taken t result t')
    (owned : t'.haltOwned = true) : (t.observed result).haltOwned = true := by
  cases result with
  | error err => exact taken.failed ▸ owned
  | ok value =>
    rcases taken.follows with same | gone
    · exact same.symm.trans owned
    · exact absurd (gone.1.symm.trans owned) nofun

/-- A value accepted as control state that shows no halt request ends the claim. -/
theorem Taken.accepts (taken : Taken t (.ok value) t') (accepts : t.Accepts value)
    (clear : value &&& cHalt = 0) : t'.haltOwned = false := by
  obtain ⟨enabled, plain, permitted⟩ := (Target.valid_iff _ _).1 accepts.valid
  have request : ((t.observed (.ok value)).observeHaltRequest value).haltOwned = false :=
    Target.observeHaltRequest_clear enabled clear
  have held : t.Free → ∀ {t'}, Taken t (.ok value) t' → t'.haltOwned = false := by
    intro free t' taken
    by_contra owned
    have before := (t.observed_softer _).owned (taken.owned (by simpa using owned))
    exact absurd (free.owned.symm.trans before) nofun
  cases taken with
  | control =>
    unfold Target.controlled
    simp only [accepts.valid, if_true]
    exact request
  | transfer =>
    unfold Target.transferred
    simp only [accepts.valid, accepts.kept, Bool.false_eq_true, if_false, Bool.not_true]
    split <;> exact request
  | poll busy | confirm busy => exact absurd accepts.idle busy
  | first =>
    have softer := t.observed_softer (.ok value)
    unfold Target.checked Target.considered
    simp only [enabled, plain, permitted, ne_eq, and_false, not_true_eq_false, Option.isSome_none,
      Bool.false_eq_true, or_self, if_false, softer.haltUncertain]
    split
    · next doubt =>
        have running : value &&& (cHalt ||| sHalt) = 0 := by
          rw [BitVec.and_or_distrib_left, clear, accepts.certain doubt]
          rfl
        unfold Target.clearUncertain
        rw [if_pos ⟨.inr (softer.haltUncertain.trans doubt), running⟩]
    · rcases Target.clearUncertain_follows ((t.observed (.ok value)).observeHaltRequest value) value
        with same | gone
      · exact same.trans request
      · exact gone.1
  | second free => exact held free (.second free)
  | back free => exact held free (.back free)

/-- A claim is made by a completed halt request, or by the reason of a stop. -/
theorem Move.created (move : Move log t event t') (before : t.haltOwned = false)
    (owned : t'.haltOwned = true) :
    (event = .write dhcsrAddress (debugKey ||| cDebugEnable ||| cHalt) none ∧
        ∃ value, LastRead value log ∧ value &&& sHalt = 0) ∨
      ∃ reason, event = .read dfsrAddress (.ok reason) ∧ reason &&& 0x1f = 1 ∧
        t.step = .stopped := by
  have unread : ∀ {result}, event = .read dhcsrAddress result → False := fun reads =>
    absurd (before.symm.trans ((t.observed_softer _).owned ((move.taken reads).owned owned))) nofun
  cases move with
  | control | transfer | poll | confirm | first | second | back => exact (unread rfl).elim
  | halt err _ _ running last =>
    cases err with
    | none => exact .inl ⟨rfl, _, ⟨_, _, last⟩, running⟩
    | some err => exact absurd (before.symm.trans owned) nofun
  | reason result _ stopped =>
    cases result with
    | error err => exact absurd (before.symm.trans owned) nofun
    | ok reason =>
      unfold Target.reasoned at owned
      simp only at owned
      split at owned
      · next halted => exact .inr ⟨reason, rfl, halted, stopped⟩
      · exact absurd owned nofun
  | resume _ _ already => exact absurd (before.symm.trans already) nofun
  | look | finish | enable | select | stage => exact absurd (before.symm.trans owned) nofun

/-- A claim is ended by a completed resume, or by a reading. -/
theorem Move.ended (move : Move log t event t') (kept : Kept t) (owned : t.haltOwned = true)
    (gone : t'.haltOwned = false) :
    event = .write dhcsrAddress (debugKey ||| cDebugEnable) none ∨
      (∃ value, event = .read dhcsrAddress (.ok value) ∧
        (value &&& cHalt = 0 ∨ t.Restarted value)) ∨
      ∃ err, event = .read dhcsrAddress (.error err) ∧ t.m33 = true := by
  have read : ∀ {result}, event = .read dhcsrAddress result → (∃ value,
      event = .read dhcsrAddress (.ok value) ∧ (value &&& cHalt = 0 ∨ t.Restarted value)) ∨
        ∃ err, event = .read dhcsrAddress (.error err) ∧ t.m33 = true := by
    rintro result rfl
    have dropped : (t.observed result).haltOwned = false → _ := Target.observed_dropped owned
    cases result with
    | error err =>
      rcases dropped ((move.taken rfl).failed ▸ gone) with ⟨_, ⟨⟩, part⟩ | ⟨_, ⟨⟩, _⟩
      exact .inr ⟨err, rfl, part⟩
    | ok value =>
      rcases (move.taken rfl).follows with same | clear
      · rcases dropped (same.symm.trans gone) with ⟨_, ⟨⟩, _⟩ | ⟨_, ⟨⟩, restarted⟩
        exact .inl ⟨value, rfl, .inr restarted⟩
      · exact .inl ⟨value, rfl, .inl clear.2⟩
  cases move with
  | control | transfer | poll | confirm | first | second | back => exact .inr (read rfl)
  | halt err => split at gone <;> exact absurd gone (by simp [owned])
  | reason _ _ stopped =>
    exact absurd (owned.symm.trans (kept.stepping (.inr (.inr stopped)))) nofun
  | resume err =>
    cases err with
    | none => exact .inl rfl
    | some err => exact absurd gone nofun
  | look | finish | enable | select | stage => exact absurd (owned.symm.trans gone) nofun

end Moves

/-! ## What the log shows -/

/-- The log since the last launch, which was made under a claim. -/
def SinceLaunch (later : List Entry → Prop) (log : List Entry) : Prop :=
  ∃ earlier launch rest, log = earlier ++ launch :: rest ∧ launch.Launches ∧
    launch.before.haltOwned = true ∧ (∀ entry ∈ rest, ¬entry.Launches) ∧ later rest

/-- A step launched under a claim has been observed stopped. -/
def SteppedUnderClaim : List Entry → Prop :=
  SinceLaunch fun rest => ∃ entry ∈ rest, entry.ShowsStep

namespace Entry

/-- The halt request completes after a reading that showed the processor running,
or a step launched under a claim has stopped for no reason but the halt. -/
def Creates (before : List Entry) (entry : Entry) : Prop :=
  (entry.event = .write dhcsrAddress (debugKey ||| cDebugEnable ||| cHalt) none ∧
      ∃ value, LastRead value before ∧ value &&& sHalt = 0) ∨
    ∃ reason, entry.event = .read dfsrAddress (.ok reason) ∧ reason &&& 0x1f = 1 ∧
      SteppedUnderClaim before

/-- An event that ends a claim: a completed resume, a launch, a reading that meets
`shows`, or on a Cortex-M33 a failed reading. -/
def Ends (shows : Target → Word → Prop) (entry : Entry) : Prop :=
  entry.event = .write dhcsrAddress (debugKey ||| cDebugEnable) none ∨ entry.Launches ∨
    (∃ value, entry.event = .read dhcsrAddress (.ok value) ∧
      (shows entry.before value ∧ value &&& cHalt = 0 ∨ entry.before.Restarted value)) ∨
    ∃ err, entry.event = .read dhcsrAddress (.error err) ∧ entry.before.m33 = true

/-- A control write that enables debug without a halt request. -/
def Resumes (entry : Entry) : Prop :=
  ∃ value err, entry.event = .write dhcsrAddress value err ∧ value &&& cDebugEnable ≠ 0 ∧
    value &&& cHalt = 0

/-- A control write that disables debug. -/
def Disables (entry : Entry) : Prop :=
  ∃ value err, entry.event = .write dhcsrAddress value err ∧ value &&& cDebugEnable = 0

end Entry

/-- The log is within a `Release`, whose last access showed debug disabled or no
halt. -/
def MayDisable (log : List Entry) : Prop :=
  (∃ ctx, lastCall log = some (.release ctx)) ∧ ∃ value, LastRead value log ∧
    (value &&& (cHalt ||| sHalt) = 0 ∨ value &&& cDebugEnable = 0)

/-- What becomes of a claim at one event: `next` says whether it is held after. -/
structure ClaimStep (before : List Entry) (entry : Entry) (next : Bool) : Prop where
  created : entry.before.haltOwned = false → next = true → entry.Creates before
  destroyed : entry.Ends Target.Accepts → next = false
  ended : entry.before.haltOwned = true → next = false → entry.Ends fun _ _ => True

theorem SinceLaunch.snoc {later later' : List Entry → Prop} {log : List Entry} {entry : Entry}
    (since : SinceLaunch later log) (plain : ¬entry.Launches)
    (imp : ∀ rest, later rest → later' (rest ++ [entry])) :
    SinceLaunch later' (log ++ [entry]) := by
  obtain ⟨earlier, launch, rest, rfl, launches, owned, unlaunched, holds⟩ := since
  refine ⟨earlier, launch, rest ++ [entry], by simp, launches, owned, fun e member => ?_,
    imp rest holds⟩
  rcases List.mem_append.1 member with earlier | last
  · exact unlaunched e earlier
  · exact List.mem_singleton.1 last ▸ plain

/-- What a run keeps. -/
structure Owned (t : Target) (log : List Entry) : Prop where
  running : t.step = .running → SinceLaunch (fun _ => True) log
  stopped : t.step = .stopped → SteppedUnderClaim log
  claims : Successive ClaimStep (fun entry => entry.before.haltOwned) log t.haltOwned
  resumes : Always (fun _ entry => entry.Resumes → entry.before.haltOwned = true) log
  disables : Always (fun before entry => entry.Disables →
    (∀ call, lastCall before = some call → ∃ ctx, call = .release ctx) ∧
      ∃ value, LastRead value before ∧
        (value &&& (cHalt ||| sHalt) = 0 ∨ value &&& cDebugEnable = 0)) log

section Runs

variable {log : List Entry} {t t' : Target} {event : Event}

/-- The control writes that moves make. -/
theorem Move.control_write {err : Option Err} (move : Move log t event t')
    (writes : event = .write dhcsrAddress value err) :
    value = debugKey ||| cDebugEnable ||| cHalt ∨
      value = debugKey ||| cDebugEnable ∧ t.haltOwned = true ∧ t'.haltOwned = err.isSome ∨
      value = debugKey ||| 0 ∧
        (∀ call, Cortexm.lastCall log = some call → ∃ ctx, call = .release ctx) ∧
        ∃ value, LastRead value log ∧
          (value &&& (cHalt ||| sHalt) = 0 ∨ value &&& cDebugEnable = 0) := by
  cases move with
  | halt | finish =>
    injection writes with _ same
    exact .inl same.symm
  | resume _ _ owned =>
    injection writes with _ same result
    exact .inr (.inl ⟨same.symm, owned, by rw [result]⟩)
  | enable _ _ _ _ release running last =>
    injection writes with _ same
    exact .inr (.inr ⟨same.symm, release, _, ⟨_, _, last⟩, running⟩)
  | select | stage =>
    injection writes with address
    exact absurd address (by decide)
  | control | transfer | poll | confirm | reason | look | first | second | back =>
    exact nomatch writes

theorem Move.resumed (move : Move log t event t')
    (resumed : event = .write dhcsrAddress (debugKey ||| cDebugEnable) none) :
    t'.haltOwned = false := by
  rcases move.control_write resumed with same | ⟨-, -, gone⟩ | ⟨same, -⟩
  · exact absurd same (by decide)
  · exact gone
  · exact absurd same (by decide)

theorem Move.resumes (move : Move log t event t') (resumes : Entry.Resumes ⟨t, event⟩) :
    t.haltOwned = true := by
  obtain ⟨value, err, writes, enabled, clear⟩ := resumes
  rcases move.control_write writes with rfl | ⟨-, owned, -⟩ | ⟨rfl, -⟩
  · exact absurd clear (by decide)
  · exact owned
  · exact absurd enabled (by decide)

theorem Move.claims (move : Move log t event t') (kept : Kept t) (owned : Owned t log) :
    ClaimStep log ⟨t, event⟩ t'.haltOwned where
  created before after := by
    rcases move.created before after with requested | ⟨reason, reads, halted, stopped⟩
    · exact .inl requested
    · exact .inr ⟨reason, reads, halted, owned.stopped stopped⟩
  destroyed := by
    have dropped : ∀ {result}, event = .read dhcsrAddress result →
        (t.observed result).haltOwned = false → t'.haltOwned = false := by
      intro result reads gone
      by_contra held
      exact absurd (gone.symm.trans ((move.taken reads).owned (by simpa using held))) nofun
    rintro (resumed | launched | ⟨value, reads, ⟨accepts, clear⟩ | restarted⟩ | ⟨err, reads, part⟩)
    · exact move.resumed resumed
    · exact absurd launched move.not_launches.1
    · exact (move.taken reads).accepts accepts clear
    · exact dropped reads (Target.observed_restarted restarted)
    · exact dropped reads (Target.observed_failed part err)
  ended before after := by
    rcases move.ended kept before after with resumed | ⟨value, reads, clear | restarted⟩ | failed
    · exact .inl resumed
    · exact .inr (.inr (.inl ⟨value, reads, .inl ⟨trivial, clear⟩⟩))
    · exact .inr (.inr (.inl ⟨value, reads, .inr restarted⟩))
    · exact .inr (.inr (.inr failed))

theorem Owned.move (owned : Owned t log) (kept : Kept t) (move : Move log t event t') :
    Owned t' (log ++ [⟨t, event⟩]) := by
  have plain : ¬Entry.Launches ⟨t, event⟩ := move.not_launches.1
  have phase := move.phase
  refine ⟨fun running => ?_, fun stopped => ?_, owned.claims.snoc (move.claims kept owned),
    owned.resumes.snoc move.resumes, owned.disables.snoc ?_⟩
  · rw [running] at phase
    cases phase with
    | same same => exact (owned.running same.symm).snoc plain fun _ _ => trivial
  · rw [stopped] at phase
    cases phase with
    | same same =>
      refine (owned.stopped same.symm).snoc plain fun rest ⟨entry, member, shown⟩ => ?_
      exact ⟨entry, List.mem_append_left _ member, shown⟩
    | stopped running shown =>
      exact (owned.running running).snoc plain fun rest _ =>
        ⟨_, List.mem_append_right _ (by simp), shown⟩
  · rintro ⟨value, err, writes, disabled⟩
    rcases move.control_write writes with rfl | ⟨rfl, -⟩ | ⟨-, release, last⟩
    · exact absurd disabled (by decide)
    · exact absurd disabled (by decide)
    · exact ⟨release, last⟩

theorem Owned.launch (owned : Owned t log) (held : t.haltOwned = true) (write : Option Err) :
    Owned (t.launched write) (log ++ [⟨t, .write dhcsrAddress launchValue write⟩]) := by
  have launches : Entry.Launches ⟨t, .write dhcsrAddress launchValue write⟩ := ⟨write, rfl⟩
  refine ⟨fun _ => ?_, fun stopped => ?_, owned.claims.snoc ?_, owned.resumes.snoc fun _ => held,
    owned.disables.snoc ?_⟩
  · exact ⟨log, _, [], rfl, launches, held, by simp, trivial⟩
  · cases write <;> simp [Target.launched] at stopped
  · exact ⟨fun free => absurd (held.symm.trans free) (by decide), fun _ => rfl, fun _ _ =>
      .inr (.inl launches)⟩
  · rintro ⟨value, err, writes, disabled⟩
    injection writes with _ same
    exact absurd (same ▸ disabled) (by decide)

theorem Owned.call (owned : Owned t log) (call : Call) : Owned t (log ++ [⟨t, .call call⟩]) := by
  have plain : ¬Entry.Launches ⟨t, .call call⟩ := fun ⟨_, launches⟩ => nomatch launches
  refine ⟨fun running => (owned.running running).snoc plain fun _ _ => trivial, fun stopped => ?_,
    owned.claims.snoc ?_, owned.resumes.snoc fun ⟨_, _, writes, _⟩ => (nomatch writes),
    owned.disables.snoc fun ⟨_, _, writes, _⟩ => nomatch writes⟩
  · refine (owned.stopped stopped).snoc plain fun rest ⟨entry, member, shown⟩ => ?_
    exact ⟨entry, List.mem_append_left _ member, shown⟩
  · refine ⟨fun free held => absurd (free.symm.trans held) nofun, ?_,
      fun held free => absurd (held.symm.trans free) nofun⟩
    rintro (resumed | launched | ⟨_, reads, _⟩ | ⟨_, reads, _⟩)
    · exact nomatch resumed
    · exact absurd launched plain
    · exact nomatch reads
    · exact nomatch reads

theorem Run.owned {t₀ : Target} (kept : Kept t₀) (idle : t₀.step = .idle) (run : Run t₀ [] t log) :
    Owned t log := by
  induction run with
  | start =>
    exact ⟨fun running => absurd (idle.symm.trans running) nofun,
      fun stopped => absurd (idle.symm.trans stopped) nofun, .nil, .nil, .nil⟩
  | call call _ ih => exact ih.call call
  | close _ owned | drop _ _ _ owned =>
    exact ⟨owned.running, owned.stopped, owned.claims, owned.resumes, owned.disables⟩
  | move before _ move ih => exact ih.move (before.kept kept) move
  | launch write _ _ _ held _ ih => exact ih.launch held write

theorem Reach.idle {log' : List Entry} (reach : Reach t log t' log') (idle : t.step = .idle) :
    t'.step = .idle := by
  induction reach with
  | refl => exact idle
  | close _ ih => exact ih
  | move _ move ih => exact move.phase.stays_idle ih

end Runs

/-- On every run of calls on an acquired target, whatever the memory answers: a
claim is created only as `Entry.Creates` says, every event of `Entry.Ends` on an
accepted reading destroys it and nothing else does; the processor is resumed only
under a claim; and debug is disabled only by a `Release` that has just seen it
disabled or the processor not halted. -/
theorem halts_released_under_claim (w : World) (ctx : Ctx)
    (returned : (acquire ctx w.fresh).1.1 = true) (calls : List Call) :
    Successive ClaimStep (fun entry => entry.before.haltOwned)
        (perform (w.acquired ctx) calls).log (perform (w.acquired ctx) calls).target.haltOwned ∧
      Always (fun _ entry => entry.Resumes → entry.before.haltOwned = true)
        (perform (w.acquired ctx) calls).log ∧
      Always (fun before entry => entry.Disables → MayDisable before)
        (perform (w.acquired ctx) calls).log := by
  obtain ⟨identity, saved, log, t₁, log₁, -, opening, reach, between⟩ := acquired_returned returned
  obtain ⟨kept, -, run⟩ := acquired_run returned calls
  have owned := run.owned kept (reach.idle opening.settled.1.quiet.step)
  refine ⟨owned.claims, owned.resumes, ?_⟩
  intro before entry after split disables
  obtain ⟨release, value, last, shown⟩ := owned.disables before entry after split disables
  refine ⟨?_, value, last, shown⟩
  -- the last call is a release, and there is one: the log begins with a call
  rcases perform_called (w := w.acquired ctx) kept between rfl calls with
    empty | ⟨call, later, entries⟩
  · simp [empty] at split
  · obtain ⟨earlier, seen, rfl⟩ := last
    rw [entries] at split
    cases earlier with
    | nil => simp at split
    | cons first earlier =>
      obtain rfl := (List.cons.inj split).1
      obtain ⟨found, called⟩ := lastCall_called _ call (earlier ++ [_])
      obtain ⟨ctx, rfl⟩ := release found called
      exact ⟨ctx, called⟩

/-- `Halt` claims the halt of a processor that ran, `Resume` releases it under the
claim, and `Release` disables debug again. -/
theorem halts_released_under_claim_session :
    let final := perform (Session.running.acquired Session.ctx)
      [.halt Session.ctx, .resume Session.ctx, .release Session.ctx]
    final.target.memory = false ∧
      final.log.map (·.before.haltOwned) =
        [false, false, false, true, true, true, false, false, false, false, false, false] ∧
      Always (fun _ entry => entry.Resumes → entry.before.haltOwned = true) final.log ∧
      Always (fun before entry => entry.Disables → MayDisable before) final.log :=
  ⟨by decide +kernel, by decide +kernel,
    (halts_released_under_claim Session.running Session.ctx (by decide +kernel) _).2⟩

end Ostiole.Cortexm
