import Ostiole.Cortexm.Release

/-!
# Runs of a target

What the driver may do over any sequence of calls, as one transition relation.
`perform_run` shows that the calls stay within it, so that a property of runs is
proved by induction on the relation and never by going through the methods again.
-/

namespace Ostiole.Cortexm

open Ostiole Logic

variable {identity : Identity} {log : List Entry} {t : Target} {saved : Word} {w : World}

/-- An attempt to launch a step. -/
def Entry.Launches (entry : Entry) : Prop :=
  ∃ err, entry.event = .write dhcsrAddress launchValue err

/-- A call. -/
def Entry.Calls (entry : Entry) : Prop := ∃ call, entry.event = .call call

/-- The log is within a call of `Step` that has not launched. -/
def Unlaunched (log : List Entry) : Prop :=
  ∃ before t ctx after, log = before ++ ⟨t, .call (.step ctx)⟩ :: after ∧
    ∀ entry ∈ after, ¬entry.Launches ∧ ¬entry.Calls

/-- Everything that may happen to a target from `t₀` on. -/
inductive Run (t₀ : Target) (log₀ : List Entry) : Target → List Entry → Prop where
  | start : Run t₀ log₀ t₀ log₀
  | call {t : Target} {log : List Entry} (call : Call) (before : Run t₀ log₀ t log) :
      Run t₀ log₀ t (log ++ [⟨t, .call call⟩])
  | close {t : Target} {log : List Entry} (before : Run t₀ log₀ t log) :
      Run t₀ log₀ { t with closing := true } log
  | move {t t' : Target} {log : List Entry} {event : Event} (before : Run t₀ log₀ t log)
      (held : t.memory = true) (move : Move log t event t') :
      Run t₀ log₀ t' (log ++ [⟨t, event⟩])
  | launch {t : Target} {log : List Entry} (write : Option Err) (before : Run t₀ log₀ t log)
      (held : t.memory = true) (settled : t.Settled) (owned : t.haltOwned = true)
      (fresh : Unlaunched log) :
      Run t₀ log₀ (t.launched write) (log ++ [⟨t, .write dhcsrAddress launchValue write⟩])
  | drop {t : Target} {log : List Entry} (before : Run t₀ log₀ t log) (quiet : t.Quiet)
      (restored : Restored t log) : Run t₀ log₀ { t with memory := false } log

namespace Run

variable {t₀ t t' : Target} {log₀ log log' : List Entry}

theorem reach (run : Run t₀ log₀ t log) (held : t.memory = true) (reach : Reach t log t' log') :
    Run t₀ log₀ t' log' := by
  induction reach with
  | refl => exact run
  | close _ ih => exact .close ih
  | move before move ih =>
    exact .move ih (before.fixed.memory.trans held) move

theorem kept (run : Run t₀ log₀ t log) (kept : Kept t₀) : Kept t := by
  induction run with
  | start => exact kept
  | call _ _ ih => exact ih
  | close _ ih =>
    exact ⟨ih.saved, ih.pending, ih.lost,
      ih.owed, ih.stepping⟩
  | move _ _ move ih => exact move.kept ih
  | launch write _ _ settled _ _ ih =>
    exact ih.launched settled.quiet write
  | drop _ _ _ ih =>
    exact ⟨ih.saved, ih.pending, ih.lost,
      ih.owed, ih.stepping⟩

theorem grows (run : Run t₀ log₀ t log) : ∃ later, log = log₀ ++ later := by
  induction run with
  | start => exact ⟨[], by simp⟩
  | close _ ih | drop _ _ _ ih => exact ih
  | call _ _ ih | move _ _ _ ih
  | launch _ _ _ _ _ _ ih =>
    obtain ⟨later, rfl⟩ := ih
    exact ⟨_, List.append_assoc _ _ _⟩

end Run

theorem Move.not_launches {t' before : Target} {event : Event}
    (move : Move log t event t') : ¬Entry.Launches ⟨before, event⟩ ∧
      ¬Entry.Calls ⟨before, event⟩ := by
  refine ⟨?_, ?_⟩
  · rintro ⟨err, launches⟩
    have writes : ∀ {address value err'}, event = .write address value err' →
        address = dhcsrAddress ∧ value = launchValue := by
      rintro _ _ _ rfl
      injection launches with address value
      exact ⟨address, value⟩
    cases move with
    | halt | resume | finish | enable => exact absurd (writes rfl).2 (by decide)
    | select | stage => exact absurd (writes rfl).1 (by decide)
    | control | transfer | poll | confirm | reason | look | first | second | back =>
      exact nomatch launches
  · rintro ⟨call, calls⟩
    cases move <;> injection calls

theorem Reach.unlaunched {t' : Target} {log' : List Entry} (reach : Reach t log t' log')
    (fresh : Unlaunched log) : Unlaunched log' := by
  induction reach with
  | refl => exact fresh
  | close _ ih => exact ih
  | move _ move ih =>
    obtain ⟨before, u, ctx, after, rfl, plain⟩ := ih
    refine ⟨before, u, ctx, after ++ [_], by rw [List.append_assoc, List.cons_append],
      fun entry member => ?_⟩
    rcases List.mem_append.1 member with earlier | last
    · exact plain entry earlier
    · rw [List.mem_singleton.1 last]
      exact move.not_launches

/-! ## The calls stay within it -/

/-- A target that has been given up, or that is closing, refuses. -/
def Target.Shut (t : Target) : Prop := t.memory = false ∨ t.closing = true

theorem active_refuses (ctx : Ctx) (shut : w.target.Shut) :
    ∃ err, active ctx w = (some err, w) := by
  have closed : (!w.target.memory) = true ∨ w.target.closing = true := by
    simpa [Target.Shut] using shut
  refine ⟨.text "cortexm: target is unavailable; release may be pending", ?_⟩
  rw [active, run_get_bind]
  simp only [closed, if_true]
  rfl

/-- A call other than `Release` on a shut target is refused, without traffic. -/
theorem Call.perform_refuses (call : Call) (shut : w.target.Shut)
    (other : ∀ ctx, call ≠ .release ctx) : ∃ err, call.perform w = (some err, w) := by
  have refuses := fun ctx => active_refuses ctx shut
  cases call with
  | halt ctx =>
    obtain ⟨err, refused⟩ := refuses ctx
    exact ⟨err, by rw [Call.perform, Cortexm.halt, run_bind, refused]; rfl⟩
  | resume ctx =>
    obtain ⟨err, refused⟩ := refuses ctx
    exact ⟨err, by rw [Call.perform, targetResume, run_bind, refused]; rfl⟩
  | halted ctx =>
    obtain ⟨err, refused⟩ := refuses ctx
    exact ⟨err, by rw [Call.perform, run_bind, Cortexm.halted, run_bind, refused]; rfl⟩
  | step ctx =>
    obtain ⟨err, refused⟩ := refuses ctx
    exact ⟨err, by rw [Call.perform, Cortexm.step, run_bind, refused]; rfl⟩
  | readRegister ctx reg =>
    obtain ⟨err, refused⟩ := refuses ctx
    rw [Call.perform, run_bind, Cortexm.readRegister]
    cases validateRegister reg with
    | some invalid => exact ⟨invalid, rfl⟩
    | none => exact ⟨err, by simp only; rw [run_bind, refused]; rfl⟩
  | writeRegister ctx reg value =>
    obtain ⟨err, refused⟩ := refuses ctx
    rw [Call.perform, Cortexm.writeRegister]
    cases validateRegisterWrite reg value with
    | some invalid => exact ⟨invalid, rfl⟩
    | none => exact ⟨err, by simp only; rw [run_bind, refused]; rfl⟩
  | release ctx => exact absurd rfl (other ctx)

/-- Between calls: nothing is open unless only `Release` is left. -/
def Target.Between (t : Target) : Prop := t.closing = true ∨ t.Settled

/-- A call other than `Step` and `Release`. -/
theorem Call.perform_ended (call : Call) (between : w.target.Between)
    (plain : ∀ ctx, call ≠ .step ctx ∧ call ≠ .release ctx) :
    Ended w.target w.log (call.perform w).1 (call.perform w).2.target (call.perform w).2.log := by
  have ready : On (Ready w.target w.log) w := ⟨.refl, between⟩
  cases call with
  | halt ctx => exact halt_triple ctx w ready
  | resume ctx => exact targetResume_triple ctx w ready
  | halted ctx =>
    have ended := halted_triple ctx w ready
    rw [Call.perform, run_bind]
    generalize Cortexm.halted ctx w = outcome at ended ⊢
    obtain ⟨_ | _, w'⟩ := outcome
    · exact ended
    · exact ended
  | readRegister ctx reg =>
    have ended := readRegister_triple ctx reg w ready
    rw [Call.perform, run_bind]
    generalize Cortexm.readRegister ctx reg w = outcome at ended ⊢
    obtain ⟨_ | _, w'⟩ := outcome
    · exact ended
    · exact ended
  | writeRegister ctx reg value => exact writeRegister_triple ctx reg value w ready
  | step ctx => exact absurd rfl (plain ctx).1
  | release ctx => exact absurd rfl (plain ctx).2

theorem Ended.between {t₀ : Target} {log₀ : List Entry} {err : Option Err}
    (ended : Ended t₀ log₀ err t log) : t.Between :=
  ended.2.symm.imp And.left id

section Calls

variable {t₀ : Target} {log₀ : List Entry} {w : World}

/-- The world in which a call is carried out. -/
def World.marked (w : World) (call : Call) : World :=
  { w with log := w.log ++ [⟨w.target, .call call⟩] }

theorem Call.make_eq (call : Call) (w : World) : call.make w = call.perform (w.marked call) := rfl

theorem lastCall_marked (w : World) (call : Call) : lastCall (w.marked call).log = some call := by
  simp [lastCall, World.marked]

theorem lastCall_called (t : Target) (call : Call) (log : List Entry) :
    ∃ last, lastCall (⟨t, .call call⟩ :: log) = some last := by
  rw [lastCall, List.filterMap_cons]
  exact ⟨_, List.getLast?_eq_some_getLast (List.cons_ne_nil call _)⟩

theorem step_run (ctx : Ctx) (run : Run t₀ log₀ w.target (w.marked (.step ctx)).log)
    (held : w.target.memory = true) (between : w.target.Between) :
    Run t₀ log₀ ((Call.step ctx).make w).2.target ((Call.step ctx).make w).2.log ∧
      ((Call.step ctx).make w).2.target.Between := by
  have fresh : Unlaunched (w.marked (.step ctx)).log :=
    ⟨w.log, w.target, ctx, [], rfl, fun _ member => absurd member List.not_mem_nil⟩
  have ready : On (Ready w.target (w.marked (.step ctx)).log) (w.marked (.step ctx)) :=
    ⟨.refl, between⟩
  have outcome := step_triple ctx _ ready
  rw [Call.make_eq, Call.perform]
  generalize Cortexm.step ctx (w.marked (.step ctx)) = result at outcome ⊢
  rcases outcome with ended | ⟨t₁, log₁, write, launched⟩
  · exact ⟨run.reach held ended.1, ended.between⟩
  · have memory := launched.reach.fixed.memory.trans held
    have launch := Run.launch write (run.reach held launched.reach) memory launched.settled
      launched.owned (launched.reach.unlaunched fresh)
    exact ⟨launch.reach memory launched.ended.1, launched.ended.between⟩

/-- A release marks itself. -/
theorem releasing_marked (w : World) (ctx : Ctx) : Releasing (w.marked (.release ctx)).log := by
  rintro call found
  rw [lastCall_marked] at found
  exact ⟨ctx, (Option.some.inj found).symm⟩

theorem release_held (kept : Kept w.target) (held : w.target.memory = true)
    (releasing : Releasing w.log) (ctx : Ctx) :
    Releases { w.target with closing := true } w.log (release ctx w).1 (release ctx w).2.target
      (release ctx w).2.log := by
  rw [release, run_get_bind, if_neg (by simp [held])]
  refine releaseHeld_triple ctx ?_ releasing w
    (show Reach _ _ { w.target with closing := true } _ from .refl)
  exact ⟨kept.saved, kept.pending, kept.lost, kept.owed, kept.stepping⟩

theorem release_run (ctx : Ctx) (kept : Kept t₀)
    (run : Run t₀ log₀ w.target (w.marked (.release ctx)).log) (held : w.target.memory = true) :
    Run t₀ log₀ ((Call.release ctx).make w).2.target ((Call.release ctx).make w).2.log ∧
      ((Call.release ctx).make w).2.target.closing = true := by
  have outcome := release_held (w := w.marked (.release ctx)) (run.kept kept) held
    (releasing_marked w ctx) ctx
  rw [Call.make_eq, Call.perform]
  generalize release ctx (w.marked (.release ctx)) = result at outcome ⊢
  obtain ⟨t', reach, ⟨-, quiet, restored, target⟩ | ⟨-, target⟩⟩ := outcome
  · rw [target]
    exact ⟨.drop (run.close.reach held reach) quiet restored, reach.fixed.closing rfl⟩
  · rw [target]
    exact ⟨run.close.reach held reach, reach.fixed.closing rfl⟩

/-- A target that has been given up stays as it is. -/
theorem Call.make_dropped (dropped : w.target.memory = false) (call : Call) :
    (call.make w).2 = w.marked call := by
  have shut : (w.marked call).target.Shut := .inl dropped
  by_cases other : ∀ ctx, call ≠ .release ctx
  · obtain ⟨err, refused⟩ := call.perform_refuses shut other
    rw [Call.make_eq, refused]
  · push Not at other
    obtain ⟨ctx, rfl⟩ := other
    rw [Call.make_eq, Call.perform, Cortexm.release, run_get_bind]
    rw [if_pos (show (!(w.marked (.release ctx)).target.memory) = true by simp [World.marked,
      dropped])]
    rfl

/-- Every call is part of the run, and ends between calls. -/
theorem Call.make_run (call : Call) (kept : Kept t₀)
    (run : Run t₀ log₀ w.target (w.marked call).log) (between : w.target.Between) :
    Run t₀ log₀ (call.make w).2.target (call.make w).2.log ∧ (call.make w).2.target.Between := by
  cases held : w.target.memory with
  | false =>
    rw [call.make_dropped held]
    exact ⟨run, between⟩
  | true =>
    by_cases plain : ∀ ctx, call ≠ .step ctx ∧ call ≠ .release ctx
    · have ended := call.perform_ended (show (w.marked call).target.Between from between) plain
      rw [Call.make_eq]
      exact ⟨run.reach held ended.1, ended.between⟩
    · push Not at plain
      obtain ⟨ctx, which⟩ := plain
      by_cases steps : call = .step ctx
      · subst steps
        exact step_run ctx run held between
      · obtain rfl := which steps
        obtain ⟨released, closing⟩ := release_run ctx kept run held
        exact ⟨released, .inl closing⟩

theorem perform_run (kept : Kept t₀) (run : Run t₀ log₀ w.target w.log)
    (between : w.target.Between) (calls : List Call) :
    Run t₀ log₀ (perform w calls).target (perform w calls).log ∧
      (perform w calls).target.Between := by
  induction calls generalizing w with
  | nil => exact ⟨run, between⟩
  | cons call calls ih =>
    obtain ⟨run, between⟩ := call.make_run kept (.call call run) between
    exact ih run between

/-- The log of a list of calls begins with the first of them. -/
theorem perform_called (kept : Kept w.target) (between : w.target.Between) (empty : w.log = [])
    (calls : List Call) :
    (perform w calls).log = [] ∨
      ∃ call later, (perform w calls).log = ⟨w.target, .call call⟩ :: later := by
  cases calls with
  | nil => exact .inl empty
  | cons call calls =>
    obtain ⟨run, between⟩ := call.make_run (w := w) kept .start between
    obtain ⟨later, entries⟩ := (perform_run kept run between calls).1.grows
    refine .inr ⟨call, later, entries.trans ?_⟩
    rw [World.marked, empty]
    rfl

end Calls

/-! ## Acquisition -/

theorem Target.acquired_kept (identity : Identity) (saved : Word) :
    Kept (Target.acquired identity saved) where
  saved := by
    unfold Target.acquired
    simp only
    split
    · next enabled =>
        refine .inr ?_
        rwa [BitVec.and_assoc, show (cDebugEnable ||| cHalt) &&& cDebugEnable =
          cDebugEnable by decide]
    · exact .inl rfl
  pending := nofun
  lost := nofun
  owed _ := nofun
  stepping := nofun

theorem Target.acquired_settled (identity : Identity) (saved : Word) :
    (Target.acquired identity saved).Settled :=
  ⟨⟨rfl, rfl⟩, rfl, rfl⟩

/-- Where the calls on a target that `Acquire` made take over from its own
accesses. -/
inductive Opening (identity : Identity) (saved : Word) (log : List Entry) :
    Target → List Entry → Prop where
  | untouched : Opening identity saved log (Target.acquired identity saved) log
  | written (write : Option Err) (disabled : saved &&& cDebugEnable = 0) :
      Opening identity saved log { Target.acquired identity saved with changed := true }
        (log ++ [⟨Target.acquired identity saved,
          .write dhcsrAddress (debugKey ||| cDebugEnable) write⟩])

theorem Opening.kept {log₁ : List Entry}
    (opening : Opening identity saved log t log₁) : Kept t := by
  have kept := Target.acquired_kept identity saved
  cases opening with
  | untouched => exact kept
  | written write disabled =>
    refine ⟨kept.saved, kept.pending, kept.lost, fun enabled => ?_, kept.stepping⟩
    simp [Target.disabled, Target.acquired, disabled] at enabled

theorem Opening.settled {log₁ : List Entry}
    (opening : Opening identity saved log t log₁) : t.Settled ∧ t.memory = true := by
  cases opening with
  | untouched => exact ⟨⟨⟨rfl, rfl⟩, rfl, rfl⟩, rfl⟩
  | written => exact ⟨⟨⟨rfl, rfl⟩, rfl, rfl⟩, rfl⟩

/-- What `Acquire` read before it made a target. -/
structure Probed (before : Target) (identity : Identity) (saved : Word) (log : List Entry) :
    Prop where
  reads : ∃ raw, log = [⟨before, .read cpuidAddress (.ok raw)⟩,
    ⟨before, .read dhcsrAddress (.ok saved)⟩]
  valid : validateControl saved = none

/-- A target that is handed over, or given up with nothing left to restore. -/
def Handed (t₁ : Target) (log₁ : List Entry) (returned : Bool) (t : Target) (log : List Entry) :
    Prop :=
  ∃ t', Reach t₁ log₁ t' log ∧ (returned = true ∧ t = t' ∨
    returned = false ∧ t'.Quiet ∧ Restored t' log ∧ t = { t' with memory := false })

/-- How `Acquire` ends: without a target, having read at most, or with a target
that has come so far. -/
inductive Acquires (before : Target) (returned : Bool) (t : Target) (log : List Entry) : Prop where
  | refused (absent : returned = false)
      (reads : ∀ entry ∈ log, ∃ address result, entry.event = .read address result ∧
        (address = cpuidAddress ∨ address = dhcsrAddress))
  | made {identity : Identity} {saved : Word} {log₁ log₂ : List Entry} {t₁ : Target}
      (probed : Probed before identity saved log₁)
      (opening : Opening identity saved log₁ t₁ log₂) (handed : Handed t₁ log₂ returned t log)
      (between : t.Between)

section Acquisition

variable {t₁ : Target} {log₁ : List Entry} {w : World}

theorem acquireCleanup_handed (kept : Kept t₁) (held : t₁.memory = true)
    (uncalled : lastCall log₁ = none) (reach : Reach t₁ log₁ w.target w.log) (err : Err) :
    Handed t₁ log₁ (acquireCleanup err w).1.1 (acquireCleanup err w).2.target
        (acquireCleanup err w).2.log ∧ (acquireCleanup err w).2.target.closing = true := by
  have releasing : Releasing w.log := by
    rw [Releasing, reach.lastCall, uncalled]
    exact nofun
  have outcome := release_held (w := w.tick) (reach.kept kept) (reach.fixed.memory.trans held)
    releasing (cleanupContext w).1
  rw [acquireCleanup, run_bind, run_bind]
  rw [show (cleanupContext w).2 = w.tick from rfl]
  generalize release (cleanupContext w).1 w.tick = result at outcome ⊢
  obtain ⟨released, w'⟩ := result
  obtain ⟨t', later, ⟨rfl, quiet, restored, target⟩ | ⟨failed, target⟩⟩ := outcome
  · exact ⟨⟨t', reach.close.trans later, .inr ⟨rfl, quiet, restored, target⟩⟩,
      target ▸ later.fixed.closing rfl⟩
  · obtain ⟨releaseErr, rfl⟩ := Option.isSome_iff_exists.1 failed
    exact ⟨⟨t', reach.close.trans later, .inl ⟨rfl, target⟩⟩, target ▸ later.fixed.closing rfl⟩

theorem enable_triple (ctx : Ctx)
    (disabled : saved &&& cDebugEnable = 0) (log : List Entry) :
    Triple (On fun t log' => t = Target.acquired identity saved ∧ log' = log)
      (writeControl ctx cDebugEnable) fun err => On fun t log' => ∃ t₁ log₁,
        Opening identity saved log t₁ log₁ ∧ Reach t₁ log₁ t log' ∧ (err = none → t.Settled) := by
  refine (ctxErr_triple ctx).bind ?_
  rintro (_ | err)
  · refine writeAfter_wrote.bind ?_
    rintro (_ | err)
    · rintro w ⟨_, _, ⟨rfl, rfl⟩, target, entries⟩
      have bare : On (Bare w.target w.log) w :=
        ⟨.refl, by rw [target]; exact ⟨rfl, rfl⟩, by rw [target]; exact ⟨rfl, rfl, rfl⟩⟩
      obtain ⟨back, -⟩ := readBack_triple cDebugEnable w bare
      refine ⟨w.target, w.log, ?_, back.reach, fun _ => ⟨back.quiet, back.free.halt,
        back.free.resume⟩⟩
      rw [target, entries]
      exact .written none disabled
    · rintro w ⟨_, _, ⟨rfl, rfl⟩, target, entries⟩
      refine ⟨w.target, w.log, ?_, .refl, nofun⟩
      rw [target, entries]
      exact .written (some err) disabled
  · exact .pure fun w ⟨target, entries⟩ =>
      ⟨_, _, .untouched, by rw [target, entries]; exact .refl, nofun⟩

theorem Opening.uncalled {log₂ : List Entry}
    (opening : Opening identity saved log t log₂) (uncalled : lastCall log = none) :
    lastCall log₂ = none := by
  cases opening with
  | untouched => exact uncalled
  | written => simpa [lastCall] using uncalled

theorem acquireEnable_handed
    (target : w.target = Target.acquired identity saved) (uncalled : lastCall w.log = none)
    (ctx : Ctx) : ∃ t₁ log₁, Opening identity saved w.log t₁ log₁ ∧
      Handed t₁ log₁ (acquireEnable ctx saved w).1.1 (acquireEnable ctx saved w).2.target
        (acquireEnable ctx saved w).2.log ∧ (acquireEnable ctx saved w).2.target.Between := by
  rw [acquireEnable, run_ite]
  split
  · refine ⟨w.target, w.log, target ▸ .untouched, ⟨w.target, .refl, .inl ⟨rfl, rfl⟩⟩, .inr ?_⟩
    show w.target.Settled
    exact target ▸ Target.acquired_settled identity saved
  · next enabled =>
      have disabled : saved &&& cDebugEnable = 0 := by simpa using enabled
      obtain ⟨t₁, log₁, opening, reach, settled⟩ := enable_triple ctx disabled w.log w ⟨target, rfl⟩
      refine ⟨t₁, log₁, opening, ?_⟩
      rw [run_bind]
      generalize writeControl ctx cDebugEnable w = outcome at reach settled ⊢
      obtain ⟨_ | err, w'⟩ := outcome
      · exact ⟨⟨w'.target, reach, .inl ⟨rfl, rfl⟩⟩, .inr (settled rfl)⟩
      · obtain ⟨handed, closing⟩ := acquireCleanup_handed opening.kept opening.settled.2
          (opening.uncalled uncalled) reach err
        exact ⟨handed, .inl closing⟩

/-- Nothing but the identity has been read. -/
def Identified (before : Target) (result : Except Err Identity) (t : Target) (log : List Entry) :
    Prop :=
  t = before ∧ ∃ raw, log = [⟨before, .read cpuidAddress raw⟩] ∧
    (failure result = none → ∃ value, raw = .ok value)

theorem Identified.refused {before : Target} {result : Except Err Identity}
    (identified : Identified before result t log) : Acquires before false t log := by
  obtain ⟨-, raw, rfl, -⟩ := identified
  exact .refused rfl (by simp)

theorem identify_triple (before : Target) :
    Triple (On fun t log => t = before ∧ log = []) identify fun result =>
      On (Identified before result) := by
  have reads : Triple (On fun t log => t = before ∧ log = []) (readWord cpuidAddress) fun raw =>
      On fun t log => t = before ∧ log = [⟨before, .read cpuidAddress raw⟩] :=
    readWord_triple fun t log raw ⟨same, empty⟩ => ⟨same, by rw [same, empty]; rfl⟩
  refine reads.checkOk (fun _ => .pure fun w ⟨same, entries⟩ => ⟨same, _, entries, nofun⟩)
    fun raw => ?_
  refine .ite (fun _ => .pure fun w ⟨same, entries⟩ => ⟨same, _, entries, nofun⟩) fun _ => ?_
  exact .pure fun w ⟨same, entries⟩ => ⟨same, _, entries, fun _ => ⟨raw, rfl⟩⟩

theorem acquire_triple (before : Target) (ctx : Ctx) :
    Triple (On fun t log => t = before ∧ log = []) (acquire ctx) fun result =>
      On (Acquires before result.1) := by
  refine (ctxErr_triple ctx).check
    (fun _ => .pure fun w ⟨_, empty⟩ => .refused rfl (by rw [empty]; simp)) ?_
  refine (identify_triple before).checkOk
    (fun _ => .pure fun w identified => Identified.refused identified) fun identity => ?_
  dsimp only
  split
  · exact .pure fun w identified => Identified.refused identified
  · have reads : Triple (On (Identified before (.ok identity))) (readWord dhcsrAddress)
        fun result => On fun t log => t = before ∧ ∃ raw,
          log = [⟨before, .read cpuidAddress (.ok raw)⟩,
            ⟨before, .read dhcsrAddress result⟩] := by
      refine readWord_triple fun t log result ⟨same, _, entries, known⟩ => ?_
      obtain ⟨raw, rfl⟩ := known rfl
      exact ⟨same, raw, by rw [same, entries]; rfl⟩
    refine reads.bind ?_
    rintro (err | saved)
    · exact .pure fun w ⟨_, raw, entries⟩ => .refused rfl (by rw [entries]; simp)
    · dsimp only
      split
      · exact .pure fun w ⟨_, raw, entries⟩ => .refused rfl (by rw [entries]; simp)
      · next valid =>
          split
          · exact .pure fun w ⟨_, raw, entries⟩ => .refused rfl (by rw [entries]; simp)
          · rintro w ⟨_, raw, entries⟩
            obtain ⟨t₁, log₂, opening, handed, between⟩ := acquireEnable_handed
              (w := { w with target := Target.acquired identity saved }) rfl
              (show lastCall w.log = none by rw [entries]; rfl) ctx
            exact .made ⟨⟨raw, entries⟩, Option.eq_none_iff_forall_ne_some.2 valid⟩ opening
              handed
              between

/-- A world whose log starts here. -/
def World.fresh (w : World) : World := { w with log := [] }

/-- The world once `Acquire` has run, with the log of what follows it. -/
def World.acquired (w : World) (ctx : Ctx) : World := (acquire ctx w.fresh).2.fresh

/-- A target that `Acquire` returned. -/
theorem acquired_returned {ctx : Ctx} (returned : (acquire ctx w.fresh).1.1 = true) :
    ∃ identity saved log t₁ log₁, Probed w.target identity saved log ∧
      Opening identity saved log t₁ log₁ ∧
      Reach t₁ log₁ (w.acquired ctx).target (acquire ctx w.fresh).2.log ∧
      (w.acquired ctx).target.Between := by
  rcases acquire_triple w.target ctx w.fresh ⟨rfl, rfl⟩ with
    ⟨absent, -⟩ | ⟨probed, opening, ⟨t', reach, ⟨-, same⟩ | ⟨absent, -⟩⟩, between⟩
  · exact absurd (returned.symm.trans absent) nofun
  · exact ⟨_, _, _, _, _, probed, opening, same ▸ reach, between⟩
  · exact absurd (returned.symm.trans absent) nofun

/-- Any calls on a target that `Acquire` returned are a run from it. -/
theorem acquired_run {ctx : Ctx} (returned : (acquire ctx w.fresh).1.1 = true) (calls : List Call) :
    Kept (w.acquired ctx).target ∧ (perform (w.acquired ctx) calls).target.Between ∧
      Run (w.acquired ctx).target [] (perform (w.acquired ctx) calls).target
        (perform (w.acquired ctx) calls).log := by
  obtain ⟨identity, saved, log, t₁, log₁, -, opening, reach, between⟩ := acquired_returned returned
  have kept := reach.kept opening.kept
  obtain ⟨run, between⟩ := perform_run (w := w.acquired ctx) kept .start between calls
  exact ⟨kept, between, run⟩

end Acquisition

/-! ## A session -/

namespace Session

/-- A Cortex-M0 with these readings of DHCSR, over memory that answers writes so. -/
def answering (dhcsr : Nat → Word) (write : Nat → Option Err) : World where
  env := { read := fun now => .ok (if now = 1 then 0x410cc200 else dhcsr now)
           write := write
           budget := fun _ => 100 }
  clock := 0
  target := Target.acquired (Identity.of 0) 0
  log := []

/-- A processor that is halted with debug enabled. -/
def world : World := answering (fun _ => 0x30003) fun _ => none

/-- A processor that runs with debug disabled and follows what is written: `Acquire`
enables debug, `Halt` and `Resume` stop and start it, and `Release` disables debug. -/
def running : World :=
  answering (fun now => if now ≤ 4 then 0 else if now ≤ 9 then 1 else if now ≤ 15 then 0x30003
    else if now ≤ 20 then 1 else 0) fun _ => none

def ctx : Ctx := ⟨1000, .canceled⟩

theorem returned : (acquire ctx world.fresh).1.1 = true := by decide

end Session

end Ostiole.Cortexm
