import Ostiole.Logic.Program

/-!
# Runs within a deadline

Programs over an explicit state that are handed a context with a deadline. `Lasts` says how
a program ends when its context is still live at the end; the context has no other part in
the run. Nothing here depends on what the state or the context is.
-/

namespace Ostiole.Logic

variable {σ γ α β : Type} {now : σ → Nat} {deadline : γ → Nat}

/-- From `state`, a program ends with `value` in `after`, in every context that lasts until
then. -/
structure Lasts (now : σ → Nat) (deadline : γ → Nat) (program : γ → StateM σ α) (state : σ)
    (value : α)
    (after : σ) : Prop where
  later : now state ≤ now after
  run : ∀ context, now after ≤ deadline context → program context state = (value, after)

namespace Lasts

variable {state middle after : σ} {value : α} {result : β}

theorem pure (value : α) (state : σ) :
    Lasts now deadline (fun _ => Pure.pure value) state value state :=
  ⟨Nat.le_refl _, fun _ _ => rfl⟩

theorem bind {program : γ → StateM σ α} {next : γ → α → StateM σ β}
    (first : Lasts now deadline program state value middle)
    (second : Lasts now deadline (fun context => next context value) middle result after) :
    Lasts now deadline (fun context => program context >>= next context) state result after := by
  refine ⟨Nat.le_trans first.later second.later, fun context live => ?_⟩
  rw [run_bind, first.run context (Nat.le_trans second.later live)]
  exact second.run context live

end Lasts

end Ostiole.Logic
