import Ostiole.Cortexm.Moves

/-!
# Methods are sequences of moves

Each method from the lowest up, with what a caller may rely on when it returns.
A public call that starts on a target with nothing open leaves it so or leaves it
closing.
-/

namespace Ostiole.Cortexm

open Ostiole Logic

/-- An assertion about the target and the log. -/
abbrev Assertion := Target → List Entry → Prop

variable {result : Except Err Word} {log : List Entry} {t t' : Target}
    {P : Assertion} {f : Target → Target} {value address : Word} (ctx : Ctx)

/-! ## Rules for the accesses -/

/-- What a world says of its target and its log. -/
def On (assertion : Assertion) (w : World) : Prop := assertion w.target w.log

section Rules

variable {α : Type} {P : Assertion} {Q : α → Assertion}

/-- A context check touches neither the target nor the log. -/
theorem ctxErr_triple : Triple (On P) (ctxErr ctx) fun _ => On P :=
  fun _ holds => holds

theorem modifyTarget_triple {R : Assertion} (imp : ∀ t log, P t log → R (f t) log) :
    Triple (On P) (modifyTarget f) fun _ => On R :=
  fun w holds => imp w.target w.log holds

/-- A read is logged whatever it returns. -/
theorem readWord_triple {Q : Except Err Word → Assertion}
    (imp : ∀ t log result, P t log → Q result t (log ++ [⟨t, .read address result⟩])) :
    Triple (On P) (readWord address) fun result => On (Q result) :=
  fun w holds => imp w.target w.log _ holds

/-- The target changes before the write is logged, whether or not it arrives. -/
theorem writeAfter_triple {Q : Option Err → Assertion}
    (imp : ∀ t log err, P t log → Q err (f t) (log ++ [⟨t, .write address value err⟩])) :
    Triple (On P) (writeAfter f address value) fun err => On (Q err) :=
  fun w holds => imp w.target w.log _ holds

/-- A read of DHCSR is observed as it is logged. -/
theorem readDHCSR_triple {Q : Except Err Word → Assertion}
    (imp : ∀ t log result, P t log →
      Q result (t.observed result) (log ++ [⟨t, .read dhcsrAddress result⟩])) :
    Triple (On P) readDHCSR fun result => On (Q result) :=
  fun w holds => imp w.target w.log _ holds

end Rules

/-- A value that has been remembered once is remembered. -/
theorem Target.noteSnapStall_again {u : Target} (part : u.m33 = t.m33)
    (noted : u.snapStalled = (t.noteSnapStall value).snapStalled) : u.noteSnapStall value = u := by
  unfold Target.noteSnapStall at noted ⊢
  rw [part]
  split
  · next stalled =>
      rw [if_pos stalled] at noted
      cases u
      simp_all
  · rfl

/-- An observed value has been remembered. -/
theorem Target.noteSnapStall_observed (t : Target) (value : Word) :
    (t.observed (.ok value)).noteSnapStall value = t.observed (.ok value) := by
  have part := (t.noteSnapStall_softer value).m33
  unfold Target.observed
  simp only
  split
  · split
    · exact noteSnapStall_again ((Target.relinquish_softer _).m33.trans part) rfl
    · exact noteSnapStall_again part rfl
  · next plain => simp [Target.noteSnapStall, plain]

/-! ## What a method keeps -/

/-- What readings leave of a target: it closes at most, no write becomes
unconfirmed, and whether a halt is unconfirmed stays as it was. -/
structure Soft (base t : Target) : Prop where
  closing : base.closing = true → t.closing = true
  halt : t.haltUncertain = base.haltUncertain
  resume : t.resumeUncertain = true → base.resumeUncertain = true

theorem Soft.refl (t : Target) : Soft t t := ⟨id, rfl, id⟩

theorem Soft.trans {base : Target} (first : Soft base t) (second : Soft t t') :
    Soft base t' :=
  ⟨second.closing ∘ first.closing, second.halt.trans first.halt, first.resume ∘ second.resume⟩

theorem Softer.soft (softer : Softer t t') : Soft t t' :=
  ⟨fun closing => softer.closing.trans closing, softer.haltUncertain, softer.resume⟩

/-- Reached from `t₀` by moves, and from `base` by readings. -/
structure Live (t₀ : Target) (log₀ : List Entry) (base t : Target) (log : List Entry) : Prop where
  reach : Reach t₀ log₀ t log
  soft : Soft base t

namespace Live

variable {t₀ base t t' : Target} {log₀ log : List Entry} {event : Event}

/-- A move that leaves the target soft. -/
theorem move (live : Live t₀ log₀ base t log) (move : Move log t event t') (soft : Soft t t') :
    Live t₀ log₀ base t' (log ++ [⟨t, event⟩]) :=
  ⟨.move live.reach move, live.soft.trans soft⟩

/-- Closing is no access. -/
theorem close (live : Live t₀ log₀ base t log) :
    Live t₀ log₀ base { t with closing := true } log :=
  ⟨.close live.reach, ⟨fun _ => rfl, live.soft.halt, live.soft.resume⟩⟩

end Live

section Control

variable {t₀ base : Target} {log₀ : List Entry}

/-- The log ends with a DHCSR reading of a value. -/
def LastRead (value : Word) (log : List Entry) : Prop :=
  ∃ earlier seen, log = earlier ++ [⟨seen, .read dhcsrAddress (.ok value)⟩]

/-- On a remembered value the check only computes. -/
theorem validateArchitectureControl_triple (value : Word)
    (noted : ∀ t log, P t log → t.noteSnapStall value = t) :
    Triple (On P) (validateArchitectureControl value) fun err => On fun t log =>
      P t log ∧ err = t.architectureError value := by
  intro w holds
  refine ⟨?_, rfl⟩
  show P (w.target.noteSnapStall value) w.log
  rw [noted _ _ holds]
  exact holds

/-- A value passes exactly if it is valid for the target. -/
theorem checkControl_triple (value : Word)
    (noted : ∀ t log, P t log → t.noteSnapStall value = t) :
    Triple (On P) (checkControl value) fun err => On fun t log =>
      P t log ∧ (err = none ↔ t.valid value = true) := by
  refine .ite (fun refused => .pure fun w holds => ⟨holds, ?_⟩) fun accepted => ?_
  · rw [Target.valid_iff]
    refine ⟨nofun, fun ⟨enabled, plain, _⟩ => ?_⟩
    exact (refused.elim enabled fun changed => changed plain).elim
  · refine (validateArchitectureControl_triple value noted).weaken fun err w ⟨holds, same⟩ =>
      ⟨holds, ?_⟩
    push Not at accepted
    rw [same, Target.valid_iff]
    exact ⟨fun passed => ⟨accepted.1, accepted.2, passed⟩, fun valid => valid.2.2⟩

/-- A read error closes the target at most. -/
theorem readError_triple (err : Err)
    (close : ∀ t log, P t log → P { t with closing := true } log) :
    Triple (On P) (readError err) fun _ => On P := by
  intro w holds
  show P (w.target.readErrorClose err) w.log
  unfold Target.readErrorClose
  split
  · exact close _ _ holds
  · exact holds

/-- A reading has been observed and nothing more has been done with it. -/
def Observed (P : Assertion) (result : Except Err Word) (t : Target)
    (log : List Entry) : Prop :=
  ∃ t' log', P t' log' ∧ t = t'.observed result ∧ log = log' ++ [⟨t', .read dhcsrAddress result⟩]

theorem readDHCSR_observed :
    Triple (On P) readDHCSR fun result => On (Observed P result) :=
  readDHCSR_triple fun t log _ holds => ⟨t, log, holds, rfl, rfl⟩

/-- What follows from the state before the reading. -/
theorem Observed.on {Q : Assertion}
    (imp : ∀ t log, P t log → Q (t.observed result) (log ++ [⟨t, .read dhcsrAddress result⟩]))
    (w : World) (observed : On (Observed P result) w) : On Q w := by
  obtain ⟨t', log', holds, target, entries⟩ := observed
  rw [On, target, entries]
  exact imp t' log' holds

theorem Observed.noted (observed : Observed P (.ok value) t log) : t.noteSnapStall value = t := by
  obtain ⟨t', log', -, rfl, -⟩ := observed
  exact t'.noteSnapStall_observed value

/-- Quiet, and reached by readings. -/
def Calm (t₀ : Target) (log₀ : List Entry) (base t : Target) (log : List Entry) : Prop :=
  Live t₀ log₀ base t log ∧ t.Quiet

theorem Calm.close (calm : Calm t₀ log₀ base t log) :
    Calm t₀ log₀ base { t with closing := true } log :=
  ⟨calm.1.close, calm.2.pending, calm.2.step⟩

/-- A control reading keeps a target calm, accepted or not. -/
theorem Calm.controlled (calm : Calm t₀ log₀ base t log)
    (result : Except Err Word) :
    Calm t₀ log₀ base (t.controlled result) (log ++ [⟨t, .read dhcsrAddress result⟩]) := by
  have softer := t.controlled_softer result
  exact ⟨calm.1.move (.control result calm.2) softer.soft, softer.quiet calm.2⟩

/-- What an accepted value says about the claim. -/
structure Accepted (value : Word) (t : Target) (log : List Entry) : Prop where
  last : LastRead value log
  enabled : value &&& cDebugEnable ≠ 0
  clear : value &&& cHalt = 0 → t.haltOwned = false ∧ t.resumeUncertain = false

/-- A value that is refused has no effect beyond its observation. -/
theorem Observed.calm_refused
    (observed : Observed (Calm t₀ log₀ base) result t log)
    (refused : ∀ value, result = .ok value → t.valid value = false) :
    Calm t₀ log₀ base t log := by
  obtain ⟨t', log', calm, rfl, rfl⟩ := observed
  have same : t'.controlled result = t'.observed result := by
    cases result with
    | error err => rfl
    | ok value => simp [Target.controlled, refused value rfl]
  exact same ▸ calm.controlled result

/-- A value that is accepted also settles what it shows of the halt request. -/
theorem Observed.calm_accepted
    (observed : Observed (Calm t₀ log₀ base) (.ok value) t log) (valid : t.valid value = true) :
    Calm t₀ log₀ base (t.observeHaltRequest value) log ∧
      Accepted value (t.observeHaltRequest value) log := by
  obtain ⟨t', log', calm, rfl, rfl⟩ := observed
  have enabled := ((Target.valid_iff _ _).1 valid).1
  have same : t'.controlled (.ok value) = (t'.observed (.ok value)).observeHaltRequest value := by
    simp [Target.controlled, valid]
  refine ⟨same ▸ calm.controlled (.ok value), ⟨log', t', rfl⟩, enabled, fun clear => ?_⟩
  unfold Target.observeHaltRequest
  split
  · exact ⟨rfl, rfl⟩
  · next kept =>
      simp only [enabled, clear, ne_eq, not_false_eq_true, and_self, and_true, not_or] at kept
      simpa using kept

/-- The failing branches of `readControl`. -/
theorem readControl_fails (err : Err) :
    Triple (On (Calm t₀ log₀ base))
      (do return .error (← readError err) : TargetM (Except Err Word)) fun result => On fun t log =>
      Calm t₀ log₀ base t log ∧ ∀ value, result = .ok value → Accepted value t log :=
  (readError_triple err fun _ _ calm => Calm.close calm).bind fun _ => .pure fun _ calm =>
    ⟨calm, nofun⟩

/-- `readControl` keeps a target calm, and a value it returns has been accepted. -/
theorem readControl_triple :
    Triple (On (Calm t₀ log₀ base)) readControl fun result => On fun t log =>
      Calm t₀ log₀ base t log ∧ ∀ value, result = .ok value → Accepted value t log := by
  refine readDHCSR_observed.bind ?_
  rintro (err | value)
  · exact (readControl_fails err).strengthen fun w observed => Observed.calm_refused observed nofun
  · refine (checkControl_triple value fun _ _ => Observed.noted).bind ?_
    rintro (_ | err)
    · intro w ⟨observed, valid⟩
      obtain ⟨calm, accepted⟩ := observed.calm_accepted (valid.1 rfl)
      refine ⟨calm, ?_⟩
      rintro _ ⟨⟩
      exact accepted
    · refine (readControl_fails err).strengthen fun w ⟨observed, refused⟩ =>
        observed.calm_refused ?_
      rintro _ ⟨⟩
      simpa using refused

/-- By induction on the polls left: a wait for a running processor ends with the claim
given up. -/
theorem waitHaltLoop_triple (halted : Bool) (turns : Nat) :
    Triple (On (Calm t₀ log₀ base)) (waitHaltLoop ctx halted turns) fun err => On fun t log =>
      Calm t₀ log₀ base t log ∧ (err = none → halted = false →
        t.haltOwned = false ∧ t.resumeUncertain = false) := by
  induction turns with
  | zero => exact .pure fun w calm => ⟨calm, nofun⟩
  | succ turns ih =>
    refine (ctxErr_triple ctx).check (fun _ => .pure fun w calm => ⟨calm, nofun⟩) ?_
    refine readControl_triple.checkOk (fun _ => .pure fun w ⟨calm, _⟩ => ⟨calm, nofun⟩)
      fun value => ?_
    refine .ite (fun _ => .pure fun w ⟨calm, _⟩ => ⟨calm, nofun⟩) fun _ => ?_
    refine .ite (fun _ => .pure fun w ⟨calm, _⟩ => ⟨calm, nofun⟩) fun released => ?_
    refine .ite (fun _ => .pure fun w ⟨calm, accepted⟩ => ⟨calm, fun _ running => ?_⟩)
      fun _ => ?_
    · exact (accepted value rfl).clear (by simpa [running] using released)
    · refine (ctxErr_triple ctx).check (fun _ => .pure fun w ⟨calm, _⟩ => ⟨calm, nofun⟩) ?_
      exact ih.strengthen fun w holds => holds.1

theorem waitHalt_triple (halted : Bool) :
    Triple (On (Calm t₀ log₀ base)) (waitHalt ctx halted) fun err => On fun t log =>
      Calm t₀ log₀ base t log ∧ (err = none → halted = false →
        t.haltOwned = false ∧ t.resumeUncertain = false) :=
  fun w calm => waitHaltLoop_triple ctx halted (ctx.turns w.clock + 1) w calm

/-- A write has been made and nothing more has been noted of it. -/
def Wrote (P : Assertion) (f : Target → Target) (address value : Word)
    (err : Option Err) (t : Target) (log : List Entry) : Prop :=
  ∃ t' log', P t' log' ∧ t = f t' ∧ log = log' ++ [⟨t', .write address value err⟩]

theorem writeAfter_wrote :
    Triple (On P) (writeAfter f address value) fun err => On (Wrote P f address value err) :=
  writeAfter_triple fun t log _ holds => ⟨t, log, holds, rfl, rfl⟩

/-- What follows from the state before the write. -/
theorem Wrote.on {Q : Assertion}
    {err : Option Err} (imp : ∀ t log, P t log → Q (f t) (log ++ [⟨t, .write address value err⟩]))
    (w : World) (wrote : On (Wrote P f address value err) w) : On Q w := by
  obtain ⟨t', log', holds, target, entries⟩ := wrote
  rw [On, target, entries]
  exact imp t' log' holds

/-! ## Public calls -/

/-- Nothing is open and nothing is unconfirmed. -/
structure Target.Settled (t : Target) : Prop where
  quiet : t.Quiet
  halt : t.haltUncertain = false
  resume : t.resumeUncertain = false

/-- A target with nothing unconfirmed. -/
def Target.cleared (t : Target) : Target :=
  { t with closing := false, haltUncertain := false, resumeUncertain := false }

/-- From a target with nothing unconfirmed, a calm one is settled. -/
theorem Calm.settled (calm : Calm t₀ log₀ base.cleared t log) :
    t.Settled where
  quiet := calm.2
  halt := calm.1.soft.halt
  resume := by
    by_contra unconfirmed
    exact absurd (calm.1.soft.resume (by simpa using unconfirmed)) nofun

theorem Target.Settled.calm (settled : t.Settled)
    (reach : Reach t₀ log₀ t log) : Calm t₀ log₀ base.cleared t log := by
  refine ⟨⟨reach, nofun, settled.halt, fun unconfirmed => ?_⟩, settled.quiet⟩
  exact absurd (settled.resume.symm.trans unconfirmed) nofun

/-- What holds before a public call. -/
def Ready (t₀ : Target) (log₀ : List Entry) (t : Target) (log : List Entry) : Prop :=
  Reach t₀ log₀ t log ∧ (t.closing = true ∨ t.Settled)

/-- How a call other than `Release` ends: with nothing open, or with an error
after which only `Release` is left. -/
def Ended (t₀ : Target) (log₀ : List Entry) (err : Option Err) (t : Target)
    (log : List Entry) : Prop :=
  Reach t₀ log₀ t log ∧ (t.Settled ∨ t.closing = true ∧ err.isSome = true)

theorem Calm.ended (calm : Calm t₀ log₀ base.cleared t log)
    (err : Option Err) : Ended t₀ log₀ err t log :=
  ⟨calm.1.reach, .inl calm.settled⟩

/-- A call that is refused leaves everything as it was. -/
theorem Ready.refused (ready : Ready t₀ log₀ t log) (err : Err) :
    Ended t₀ log₀ (some err) t log :=
  ⟨ready.1, ready.2.elim (fun closing => .inr ⟨closing, rfl⟩) .inl⟩

/-- A call that ends in an error closes its target. -/
theorem closeOn_ended (err : Option Err) :
    Triple (On fun t log => Reach t₀ log₀ t log ∧ (err = none → t.Settled)) (closeOn err)
      fun result => On (Ended t₀ log₀ result) := by
  intro w ⟨reach, settled⟩
  show Ended t₀ log₀ err (if err.isSome then { w.target with closing := true } else w.target) w.log
  cases err with
  | none => exact ⟨reach, .inl (settled rfl)⟩
  | some err => exact ⟨.close reach, .inr ⟨rfl, rfl⟩⟩

/-- A call goes on only with a target that is not closing. -/
theorem active_triple :
    Triple (On (Ready t₀ log₀)) (active ctx) fun err => On fun t log =>
      Ready t₀ log₀ t log ∧ (err = none → Calm t₀ log₀ t₀.cleared t log) := by
  refine .get_ite (.pure fun w ⟨ready, _⟩ => ⟨ready, nofun⟩) ?_
  intro w ⟨ready, unlocked⟩
  refine ⟨ready, fun _ => ready.2.elim (fun closing => ?_) fun settled => settled.calm ready.1⟩
  exact absurd (.inr closing) unlocked

/-- The halt request of a processor seen running: it is written and then waited for. -/
theorem requestHalt_triple :
    Triple (On fun t log => Calm t₀ log₀ t₀.cleared t log ∧ ∃ value, LastRead value log ∧
        value &&& cDebugEnable ≠ 0 ∧ value &&& sHalt = 0)
      (requestHalt ctx) fun err => On (Ended t₀ log₀ err) := by
  refine (ctxErr_triple ctx).check (fun _ => .pure fun w holds => holds.1.ended _) ?_
  refine writeAfter_wrote.bind ?_
  rintro (_ | err)
  · have waits : Triple (On (Calm t₀ log₀ t₀.cleared)) (do closeOn (← waitHalt ctx true))
        fun err => On (Ended t₀ log₀ err) :=
      (waitHalt_triple ctx true).bind fun err => (closeOn_ended err).strengthen
        fun w ⟨calm, _⟩ => ⟨calm.1.reach, fun _ => calm.settled⟩
    refine Triple.bind (modifyTarget_triple ?_) fun _ => waits
    rintro _ _ ⟨t, log, ⟨calm, value, ⟨earlier, seen, last⟩, enabled, running⟩, rfl, rfl⟩
    have reach := Reach.move calm.1.reach (.halt none calm.2 enabled running last)
    exact Target.Settled.calm ⟨⟨calm.2.pending, calm.2.step⟩, rfl, calm.settled.resume⟩ reach
  · refine (closeOn_ended (some err)).strengthen (Wrote.on ?_)
    rintro t log ⟨calm, value, ⟨earlier, seen, last⟩, enabled, running⟩
    exact ⟨.move calm.1.reach (.halt (some err) calm.2 enabled running last), nofun⟩

/-- `Halt`, and every call below, ends in one of the two ways. -/
theorem halt_triple :
    Triple (On (Ready t₀ log₀)) (halt ctx) fun err => On (Ended t₀ log₀ err) := by
  refine (active_triple ctx).check (fun err => .pure fun w ⟨ready, _⟩ => ready.refused err) ?_
  refine Triple.checkOk (readControl_triple.strengthen fun w ⟨_, calm⟩ => calm rfl)
    (fun _ => .pure fun w holds => holds.1.ended _) fun value => ?_
  refine .ite (fun _ => .pure fun w holds => holds.1.ended _) fun running => ?_
  refine (requestHalt_triple ctx).strengthen fun w ⟨calm, accepted⟩ => ?_
  have accepted := accepted value rfl
  exact ⟨calm, value, accepted.last, accepted.enabled, by simpa using running⟩

/-- The error of a result. -/
def failure {α : Type} : Except Err α → Option Err
  | .error err => some err
  | .ok _ => none

theorem halted_triple :
    Triple (On (Ready t₀ log₀)) (halted ctx) fun result =>
      On (Ended t₀ log₀ (failure result)) := by
  refine (active_triple ctx).check (fun err => .pure fun w ⟨ready, _⟩ => ready.refused err) ?_
  refine Triple.checkOk (readControl_triple.strengthen fun w ⟨_, calm⟩ => calm rfl)
    (fun _ => .pure fun w holds => holds.1.ended _) fun _ => ?_
  exact .pure fun w holds => holds.1.ended _

/-- A claim that is not confirmed is given up with an error. -/
theorem confirmClaim_triple :
    Triple (On fun t log => Calm t₀ log₀ base t log ∧ t.haltOwned = true) confirmClaim
      fun err => On fun t log => Calm t₀ log₀ base t log ∧ (err = none → t.haltOwned = true) := by
  refine .get_ite (.pure fun w ⟨⟨calm, owned⟩, _⟩ => ⟨calm, fun _ => owned⟩) ?_
  refine Triple.checkOk (readControl_triple.strengthen fun w ⟨⟨calm, _⟩, _⟩ => calm)
    (fun _ => .pure fun w ⟨calm, _⟩ => ⟨calm, nofun⟩) fun _ => ?_
  refine .get_ite (.pure fun w ⟨⟨calm, _⟩, _⟩ => ⟨calm, nofun⟩) ?_
  exact .pure fun w ⟨⟨calm, _⟩, owned⟩ => ⟨calm, fun _ => by simpa using owned⟩

/-- A resume that succeeds has given the claim up. -/
theorem resumeWrite_triple :
    Triple (On fun t log => Calm t₀ log₀ t₀.cleared t log ∧ t.haltOwned = true) (resumeWrite ctx)
      fun err => On fun t log => Ended t₀ log₀ err t log ∧
        (err = none → t.Settled ∧ t.haltOwned = false) := by
  refine (ctxErr_triple ctx).check (fun _ => .pure fun w ⟨calm, _⟩ => ⟨calm.ended _, nofun⟩) ?_
  refine writeAfter_wrote.bind ?_
  rintro (_ | err)
  · -- the resume stays unconfirmed until a reading shows the request gone
    have waits : Triple (On (Calm t₀ log₀ { t₀.cleared with resumeUncertain := true }))
        (do closeOn (← waitHalt ctx false)) fun err => On fun t log => Ended t₀ log₀ err t log ∧
          (err = none → t.Settled ∧ t.haltOwned = false) := by
      refine (waitHalt_triple ctx false).bind ?_
      rintro (_ | err) w ⟨calm, released⟩
      · obtain ⟨given, confirmed⟩ := released rfl rfl
        have settled : w.target.Settled := ⟨calm.2, calm.1.soft.halt, confirmed⟩
        exact ⟨⟨calm.1.reach, .inl settled⟩, fun _ => ⟨settled, given⟩⟩
      · exact ⟨⟨.close calm.1.reach, .inr ⟨rfl, rfl⟩⟩, nofun⟩
    refine Triple.bind (modifyTarget_triple ?_) fun _ => waits
    rintro _ _ ⟨t, log, ⟨calm, owned⟩, rfl, rfl⟩
    exact ⟨⟨.move calm.1.reach (.resume none calm.2 owned), nofun, calm.settled.halt,
      fun _ => rfl⟩, calm.2.pending, calm.2.step⟩
  · rintro w ⟨t, log, ⟨calm, owned⟩, target, entries⟩
    refine ⟨⟨?_, .inr ⟨rfl, rfl⟩⟩, nofun⟩
    have reach : Reach t₀ log₀ w.target w.log := by
      rw [show w.target = { t with resumeUncertain := true, haltOwned := true } by
        rw [target, ← owned], entries]
      exact .move calm.1.reach (.resume (some err) calm.2 owned)
    exact .close reach

/-- `resume` writes only under a claim. -/
theorem resume_triple :
    Triple (On fun t log => Calm t₀ log₀ t₀.cleared t log ∧ t.haltOwned = true) (resume ctx)
      fun err => On fun t log => Ended t₀ log₀ err t log ∧
        (err = none → t.Settled ∧ t.haltOwned = false) := by
  refine confirmClaim_triple.check (fun _ => .pure fun w ⟨calm, _⟩ => ⟨calm.ended _, nofun⟩) ?_
  exact (resumeWrite_triple ctx).strengthen fun w ⟨calm, owned⟩ => ⟨calm, owned rfl⟩

theorem targetResume_triple :
    Triple (On (Ready t₀ log₀)) (targetResume ctx) fun err => On (Ended t₀ log₀ err) := by
  refine (active_triple ctx).check (fun err => .pure fun w ⟨ready, _⟩ => ready.refused err) ?_
  refine .get_ite (.pure fun w ⟨⟨ready, _⟩, _⟩ => ready.refused _) ?_
  refine ((resume_triple ctx).weaken fun _ _ => And.left).strengthen ?_
  exact fun w ⟨⟨_, calm⟩, owned⟩ => ⟨calm rfl, by simpa using owned⟩

end Control

/-! ## Register transfers -/

section Transfers

variable {t₀ base : Target} {log₀ : List Entry}

/-- No step is open. -/
def Idle (t₀ : Target) (log₀ : List Entry) (base t : Target) (log : List Entry) : Prop :=
  Live t₀ log₀ base t log ∧ t.step = .idle

theorem Calm.idle (calm : Calm t₀ log₀ base t log) :
    Idle t₀ log₀ base t log :=
  ⟨calm.1, calm.2.step⟩

theorem Idle.close (idle : Idle t₀ log₀ base t log) :
    Idle t₀ log₀ base { t with closing := true } log :=
  ⟨idle.1.close, idle.2⟩

/-- A reading for a transfer is soft and leaves the phase of a step alone. -/
theorem Target.transferred_soft (t : Target) (result : Except Err Word) :
    Soft t (t.transferred result) ∧ (t.transferred result).step = t.step := by
  have observed := t.observed_softer result
  cases result with
  | error err => exact ⟨observed.soft, observed.step⟩
  | ok value =>
    have request := observed.trans (Target.observeHaltRequest_softer _ value)
    unfold Target.transferred
    simp only
    split
    · exact ⟨⟨observed.soft.closing, observed.soft.halt, observed.soft.resume⟩, observed.step⟩
    · split
      · exact ⟨observed.soft, observed.step⟩
      · split
        · exact ⟨request.soft, request.step⟩
        · exact ⟨⟨request.soft.closing, request.soft.halt, request.soft.resume⟩, request.step⟩

/-- A reading for a transfer that is not lost is a move. -/
theorem Idle.transferred (idle : Idle t₀ log₀ base t log)
    (known : t.registerLost = false) (result : Except Err Word) :
    Idle t₀ log₀ base (t.transferred result) (log ++ [⟨t, .read dhcsrAddress result⟩]) := by
  obtain ⟨soft, step⟩ := t.transferred_soft result
  exact ⟨idle.1.move (.transfer result idle.2 known) soft, step.trans idle.2⟩

/-- The transfer a reading may lose is known to be open. -/
def Known (t₀ : Target) (log₀ : List Entry) (base t : Target) (log : List Entry) : Prop :=
  Idle t₀ log₀ base t log ∧ t.registerLost = false

theorem Observed.transferred
    (observed : Observed (Known t₀ log₀ base) result t log)
    (same : ∀ u : Target, t = u.observed result → u.transferred result = t') :
    Idle t₀ log₀ base t' log := by
  obtain ⟨u, log', ⟨idle, known⟩, target, rfl⟩ := observed
  exact same u target ▸ idle.transferred known result

/-- A valid value settles the halt request, and the transfer if it is ready. -/
theorem acceptRegister_triple (value : Word) :
    Triple (On fun t log => (Observed (Known t₀ log₀ base) (.ok value) t log ∧
        t.transferLost value = false) ∧ t.valid value = true)
      (acceptRegister value) fun _ => On (Idle t₀ log₀ base) := by
  rintro w ⟨⟨observed, kept⟩, valid⟩
  cases shown : showsHalted value with
  | false =>
    simp only [acceptRegister, shown]
    refine observed.transferred fun u same => ?_
    show _ = w.target.observeHaltRequest value
    simp [Target.transferred, ← same, kept, valid, shown]
  | true =>
    simp only [acceptRegister, shown]
    refine observed.transferred fun u same => ?_
    show _ = { w.target.observeHaltRequest value with registerPending := value &&& sRegReady == 0 }
    simp [Target.transferred, ← same, kept, valid, shown]

/-- Every branch of `checkRegister` is the move that the reading stands for. -/
theorem checkRegister_triple (value : Word) :
    Triple (On (Observed (Known t₀ log₀ base) (.ok value))) (checkRegister value)
      fun _ => On (Idle t₀ log₀ base) := by
  refine .get_ite ?_ ?_
  · refine fun w ⟨observed, lost⟩ => observed.transferred fun u same => ?_
    show _ = { w.target with registerLost := true }
    simp [Target.transferred, ← same, lost]
  · refine .ite (fun changed => ?_) fun accepted => ?_
    · refine fun w ⟨observed, kept⟩ => (observed.transferred fun u same => ?_).close
      have refused : ¬w.target.valid value = true := fun valid =>
        have ⟨enabled, plain, _⟩ := (Target.valid_iff _ _).1 valid
        changed.elim enabled fun changed => changed plain
      simp [Target.transferred, ← same, kept, refused]
    · refine Triple.strengthen ((validateArchitectureControl_triple value ?_).bind ?_)
        (show ∀ w, _ → On (fun t log => Observed (Known t₀ log₀ base) (.ok value) t log ∧
          t.transferLost value = false) w from
        fun w ⟨observed, kept⟩ => ⟨observed, by simpa using kept⟩)
      · exact fun _ _ holds => holds.1.noted
      · push Not at accepted
        rintro (_ | err)
        · exact (acceptRegister_triple value).strengthen fun w ⟨holds, passed⟩ =>
            ⟨holds, (Target.valid_iff _ _).2 ⟨accepted.1, accepted.2, passed.symm⟩⟩
        · refine fun w ⟨⟨observed, kept⟩, failed⟩ => (observed.transferred fun u same => ?_).close
          have refused : ¬w.target.valid value = true := fun valid =>
            nomatch failed.trans ((Target.valid_iff _ _).1 valid).2.2
          simp [Target.transferred, ← same, kept, refused]

theorem registerStatus_triple :
    Triple (On (Idle t₀ log₀ base)) registerStatus fun _ => On (Idle t₀ log₀ base) := by
  refine .get_ite (.pure fun w ⟨idle, _⟩ => idle) ?_
  refine Triple.strengthen (readDHCSR_observed.bind ?_)
    (show ∀ w, _ → On (Known t₀ log₀ base) w from
      fun w ⟨idle, known⟩ => ⟨idle, by simpa using known⟩)
  rintro (err | value)
  · have closes : Triple (On (Idle t₀ log₀ base)) (do return some (← readError err))
        fun _ => On (Idle t₀ log₀ base) :=
      (readError_triple err fun _ _ idle => Idle.close idle).bind fun _ => .pure fun _ idle => idle
    exact closes.strengthen fun w observed => Observed.transferred observed fun _ same => same.symm
  · exact checkRegister_triple value

/-- How a wait for a transfer ends. -/
def Waited (t₀ : Target) (log₀ : List Entry) (base : Target) (err : Option Err) (t : Target)
    (log : List Entry) : Prop :=
  Idle t₀ log₀ base t log ∧ (t.registerPending = false ∨ t.closing = true ∧ err.isSome = true)

/-- A wait that succeeds leaves nothing open. -/
theorem Waited.calm (waited : Waited t₀ log₀ base none t log) :
    Calm t₀ log₀ base t log :=
  ⟨waited.1.1, waited.2.elim id nofun, waited.1.2⟩

theorem Calm.waited (calm : Calm t₀ log₀ base t log)
    (err : Option Err) : Waited t₀ log₀ base err t log :=
  ⟨calm.idle, .inl calm.2.pending⟩

/-- A wait that fails with the transfer open has closed the target. -/
theorem Waited.ended {err : Option Err}
    (waited : Waited t₀ log₀ base.cleared err t log) : Ended t₀ log₀ err t log := by
  refine ⟨waited.1.1.reach, waited.2.imp (fun clear => ?_) id⟩
  exact Calm.settled ⟨waited.1.1, clear, waited.1.2⟩

/-- By induction on the polls left: success means that the transfer is ready. -/
theorem waitRegisterLoop_triple (turns : Nat) :
    Triple (On (Idle t₀ log₀ base)) (waitRegisterLoop ctx turns) fun err => On fun t log =>
      Idle t₀ log₀ base t log ∧ (err = none → t.registerPending = false) := by
  induction turns with
  | zero => exact .pure fun w idle => ⟨idle, nofun⟩
  | succ turns ih =>
    refine (ctxErr_triple ctx).check (fun _ => .pure fun w idle => ⟨idle, nofun⟩) ?_
    refine registerStatus_triple.check (fun _ => .pure fun w idle => ⟨idle, nofun⟩) ?_
    refine .get_ite (.pure fun w ⟨idle, ready⟩ => ⟨idle, fun _ => by simpa using ready⟩) ?_
    refine Triple.strengthen ((ctxErr_triple ctx).bind ?_)
      (show ∀ w, _ → On (Idle t₀ log₀ base) w from fun w holds => holds.1)
    rintro (_ | err)
    · exact ih
    · exact .pure fun w idle => ⟨idle, nofun⟩

/-- A transfer that is not seen ready closes the target. -/
theorem waitRegister_triple :
    Triple (On (Idle t₀ log₀ base)) (waitRegister ctx) fun err =>
      On (Waited t₀ log₀ base err) := by
  refine .get_bind fun w idle => ?_
  refine Triple.strengthen ((waitRegisterLoop_triple ctx _).bind fun err => ?_)
    (show ∀ w', w' = w → On (Idle t₀ log₀ base) w' from fun w' same => same ▸ idle)
  rintro w' ⟨idle, ready⟩
  show Waited t₀ log₀ base err
    (if err.isSome ∧ w'.target.registerPending then { w'.target with closing := true }
      else w'.target) w'.log
  split
  · next failed => exact ⟨idle.close, .inr ⟨rfl, failed.1⟩⟩
  · next settled =>
      refine ⟨idle, .inl ?_⟩
      cases err with
      | none => exact ready rfl
      | some err => simpa using settled

/-- A selection opens a transfer and waits for it. -/
theorem selectRegister_triple (selector : Word) :
    Triple (On (Calm t₀ log₀ base)) (selectRegister ctx selector) fun err =>
      On (Waited t₀ log₀ base err) := by
  refine (ctxErr_triple ctx).check (fun _ => .pure fun w calm => Calm.waited calm _) ?_
  refine writeAfter_wrote.bind ?_
  have selected : ∀ err t log, Calm t₀ log₀ base t log →
      Idle t₀ log₀ base { t with registerPending := true }
        (log ++ [⟨t, .write dcrsrAddress selector err⟩]) :=
    fun err t log calm => ⟨calm.1.move (.select selector err calm.2) ⟨id, rfl, id⟩, calm.2.step⟩
  rintro (_ | err)
  · exact (waitRegister_triple ctx).strengthen (Wrote.on (selected none))
  · exact fun w wrote => ⟨(Wrote.on (selected (some err)) w wrote).close, .inr ⟨rfl, rfl⟩⟩

/-- Reads of DFSR and DCRDR leave a target calm. -/
theorem readWord_calm (other : address = dfsrAddress ∨ address = dcrdrAddress) :
    Triple (On (Calm t₀ log₀ base)) (readWord address) fun _ => On (Calm t₀ log₀ base) :=
  readWord_triple fun t _ result calm =>
    ⟨calm.1.move (.look result calm.2 other) (.refl t), calm.2⟩

theorem readRegister_triple (reg : Register) :
    Triple (On (Ready t₀ log₀)) (readRegister ctx reg) fun result =>
      On (Ended t₀ log₀ (failure result)) := by
  unfold readRegister
  split
  · exact .pure fun w ready => Ready.refused ready _
  · refine (active_triple ctx).check (fun err => .pure fun w ⟨ready, _⟩ => ready.refused err) ?_
    refine Triple.check ((waitRegister_triple ctx).strengthen fun w ⟨_, calm⟩ => (calm rfl).idle)
      (fun _ => .pure fun w waited => Waited.ended waited) ?_
    refine Triple.bind ((selectRegister_triple ctx (selector reg)).strengthen
      fun w waited => Waited.calm waited) ?_
    rintro (_ | err)
    · refine Triple.bind ((readWord_calm (.inr rfl)).strengthen fun w waited =>
        Waited.calm waited) ?_
      rintro (err | value)
      · exact fun w calm => ⟨(Calm.close calm).1.reach, .inr ⟨rfl, rfl⟩⟩
      · exact .pure fun w calm => Calm.ended calm _
    · exact .pure fun w waited => Waited.ended waited

/-- The value is staged before the transfer that takes it is selected. -/
theorem stageRegister_triple (reg : Register) (value : Word) :
    Triple (On (Calm t₀ log₀ t₀.cleared)) (stageRegister ctx reg value) fun err =>
      On (Ended t₀ log₀ err) := by
  have staged : ∀ err t log, Calm t₀ log₀ t₀.cleared t log →
      Calm t₀ log₀ t₀.cleared t (log ++ [⟨t, .write dcrdrAddress value err⟩]) :=
    fun err t log calm => ⟨calm.1.move (.stage value err calm.2) (.refl t), calm.2⟩
  refine (ctxErr_triple ctx).check (fun _ => .pure fun w calm => Calm.ended calm _) ?_
  refine writeAfter_wrote.bind ?_
  rintro (_ | err)
  · refine Triple.bind ((selectRegister_triple ctx _).strengthen (Wrote.on (staged none))) ?_
    rintro (_ | err)
    · exact (closeOn_ended none).strengthen fun w waited =>
        have calm := Waited.calm waited
        ⟨calm.1.reach, fun _ => calm.settled⟩
    · exact (closeOn_ended (some err)).strengthen fun w waited => ⟨waited.1.1.reach, nofun⟩
  · refine (closeOn_ended (some err)).strengthen fun w wrote => ?_
    exact ⟨(Wrote.on (staged (some err)) w wrote).1.reach, nofun⟩

/-- `WriteRegister` ends as every call does. -/
theorem writeRegister_triple (reg : Register) (value : Word) :
    Triple (On (Ready t₀ log₀)) (writeRegister ctx reg value) fun err =>
      On (Ended t₀ log₀ err) := by
  unfold writeRegister
  split
  · exact .pure fun w ready => Ready.refused ready _
  · refine (active_triple ctx).check (fun err => .pure fun w ⟨ready, _⟩ => ready.refused err) ?_
    refine Triple.check ((waitRegister_triple ctx).strengthen fun w ⟨_, calm⟩ => (calm rfl).idle)
      (fun _ => .pure fun w waited => Waited.ended waited) ?_
    exact (stageRegister_triple ctx reg value).strengthen fun w waited => Waited.calm waited

end Transfers

end Ostiole.Cortexm
