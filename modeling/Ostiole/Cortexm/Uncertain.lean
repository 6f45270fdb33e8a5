import Ostiole.Cortexm.Run

/-!
# What is uncertain is left to `Release`

A transfer that may still be pending, a write that was not seen to take effect and a
step that has not been settled all leave the processor in a state that the driver does
not know. A call that ends with one of them open has closed the target, and a closed
target does nothing but be released.
-/

namespace Ostiole.Cortexm

open Ostiole Logic

/-- Something is open: a register transfer, a halt or a resume that was not seen, or a
step. -/
def Target.Uncertain (t : Target) : Prop :=
  t.registerPending = true ∨ t.registerLost = true ∨ t.haltUncertain = true ∨
    t.resumeUncertain = true ∨ t.step ≠ .idle

section Uncertain

variable {w : World}

theorem Target.Settled.certain {t : Target} (settled : t.Settled) (kept : Kept t) :
    ¬t.Uncertain := by
  rintro (pending | lost | halt | resume | step)
  · exact absurd (settled.quiet.pending.symm.trans pending) nofun
  · exact absurd (settled.quiet.pending.symm.trans (kept.lost lost)) nofun
  · exact absurd (settled.halt.symm.trans halt) nofun
  · exact absurd (settled.resume.symm.trans resume) nofun
  · exact step settled.quiet.step

/-- A call other than `Release` that succeeds leaves nothing open. -/
theorem Call.make_settled (call : Call) (between : w.target.Between)
    (other : ∀ ctx, call ≠ .release ctx)
    (success : (call.make w).1 = none) : (call.make w).2.target.Settled := by
  have settles : ∀ {t₀ log₀}, Ended t₀ log₀ (call.make w).1 (call.make w).2.target
    (call.make w).2.log →
      (call.make w).2.target.Settled := by
    rintro t₀ log₀ ⟨-, settled | ⟨-, failed⟩⟩
    · exact settled
    · rw [success] at failed
      exact absurd failed nofun
  by_cases steps : ∃ ctx, call = .step ctx
  · obtain ⟨ctx, rfl⟩ := steps
    have ready : On (Ready w.target (w.marked (.step ctx)).log) (w.marked (.step ctx)) :=
      ⟨.refl, between⟩
    rcases step_triple ctx _ ready with ended | ⟨t₁, log₁, write, launched⟩
    · exact settles ended
    · exact settles launched.ended
  · push Not at steps
    exact settles (call.perform_ended (w := w.marked call) between fun ctx =>
      ⟨steps ctx, other ctx⟩)

/-- A closing target stays closed. -/
theorem Call.make_closing (call : Call) (kept : Kept w.target) (closing : w.target.closing = true) :
    (call.make w).2.target.closing = true := by
  by_cases other : ∀ ctx, call ≠ .release ctx
  · obtain ⟨err, refused⟩ := call.perform_refuses (w := w.marked call) (.inr closing) other
    rw [Call.make_eq, refused]
    exact closing
  · push Not at other
    obtain ⟨ctx, rfl⟩ := other
    cases held : w.target.memory with
    | false =>
      rw [Call.make_dropped held]
      exact closing
    | true => exact (release_run ctx kept (.call _ .start) held).2

theorem perform_closing (kept : Kept w.target) (closing : w.target.closing = true)
    (calls : List Call) :
    (perform w calls).target.closing = true := by
  induction calls generalizing w with
  | nil => exact closing
  | cons call calls ih =>
    have between : w.target.Between := .inl closing
    obtain ⟨run, -⟩ := call.make_run kept (.call call .start) between
    exact ih (run.kept kept) (call.make_closing kept closing)

end Uncertain

/-- After any calls on a target that `Acquire` returned, whatever every access and every
context check answered: if something is uncertain then the target is closing, and
whatever is called later, a call other than `Release` is refused and does nothing; and a
call other than `Release` that succeeds leaves nothing uncertain. -/
theorem uncertainty_forces_cleanup (w : World) (ctx : Ctx)
    (returned : (acquire ctx w.fresh).1.1 = true)
    (calls : List Call) :
    let final := perform (w.acquired ctx) calls
    (final.target.Uncertain → final.target.closing = true ∧
        ∀ (later : List Call) (call : Call), (∀ ctx, call ≠ .release ctx) →
          ∃ err, call.make (perform final later) = (some err, (perform final later).marked call)) ∧
      ∀ call : Call, (∀ ctx, call ≠ .release ctx) → (call.make final).1 = none →
        ¬(call.make final).2.target.Uncertain := by
  intro final
  obtain ⟨kept, between, run⟩ := acquired_run returned calls
  have keptFinal : Kept final.target := run.kept kept
  refine ⟨fun uncertain => ?_, fun call other success => ?_⟩
  · have closing : final.target.closing = true :=
      between.resolve_right fun settled => settled.certain keptFinal uncertain
    refine ⟨closing, fun later call other => ?_⟩
    exact call.perform_refuses (.inr (perform_closing keptFinal closing later)) other
  · obtain ⟨run, -⟩ := call.make_run kept (.call call run) between
    exact (call.make_settled between other success).certain (run.kept kept)

/-- A halted processor whose memory fails every write. -/
def Session.failing : World := answering (fun _ => 0x30003) fun _ => some (.text "bus error")

/-- A register transfer whose selection failed is uncertain. The target is closing, and
a later call is refused; before it, a call that succeeded left nothing uncertain. -/
theorem uncertainty_forces_cleanup_session :
    let final := perform (Session.failing.acquired Session.ctx) [.readRegister Session.ctx regPC]
    final.target.registerPending = true ∧ final.target.closing = true ∧
      (∃ err, (Call.halted Session.ctx).make final = (some err,
        final.marked (.halted Session.ctx))) ∧
      ((Call.halted Session.ctx).make (Session.failing.acquired Session.ctx)).1 = none ∧
      ¬((Call.halted Session.ctx).make
        (Session.failing.acquired Session.ctx)).2.target.Uncertain := by
  intro final
  have returned : (acquire Session.ctx Session.failing.fresh).1.1 = true := by decide +kernel
  have pending : final.target.registerPending = true := by decide +kernel
  obtain ⟨closing, refused⟩ := (uncertainty_forces_cleanup Session.failing Session.ctx returned
    [.readRegister Session.ctx regPC]).1 (.inl pending)
  have succeeds : ((Call.halted Session.ctx).make (Session.failing.acquired Session.ctx)).1 =
      none := by
    decide +kernel
  exact ⟨pending, closing, refused [] (.halted Session.ctx) nofun, succeeds,
    (uncertainty_forces_cleanup Session.failing Session.ctx returned []).2
      (.halted Session.ctx) nofun
      succeeds⟩

end Ostiole.Cortexm
