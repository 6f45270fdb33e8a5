import Ostiole.Cortexm.Release

/-!
# A call that succeeds leaves its target open

A target is left to `Release` alone only by a call that reports an error. The rules
follow the text of the methods: a program either keeps an open target open whatever
it returns, or does so unless it returns an error.
-/

namespace Ostiole.Cortexm

open Ostiole Logic

variable (ctx : Ctx)

/-- The target may still be used. -/
def Open (w : World) : Prop := w.target.closing = false

/-- An open target stays open. -/
def Keeps {α : Type} (program : TargetM α) : Prop := Triple Open program fun _ => Open

/-- An open target stays open unless an error is returned. -/
def Candid {α : Type} (failed : α → Option Err) (program : TargetM α) : Prop :=
  Triple Open program fun result w => failed result = none → Open w

section Rules

variable {α β : Type} {failed : α → Option Err} {failed' : β → Option Err} {program : TargetM α}

/-- A reported error leaves the target free to close. -/
theorem Candid.fails {result : α} (error : failed result ≠ none) : Candid failed (pure result) :=
  fun _ _ success => absurd success error

/-- A result without a change. -/
theorem Candid.done {result : α} : Candid failed (pure result) := fun _ opened _ => opened

/-- What stays open is open on success. -/
theorem Keeps.candid (keeps : Keeps program) : Candid failed program :=
  fun w opened _ => keeps w opened

/-- An error that is passed on. -/
theorem Candid.guard {program : TargetM (Option Err)} {next : Option Err → TargetM β}
    (first : Candid id program) (rest : Candid failed' (next none))
    (passed : ∀ err w, failed' (next (some err) w).1 ≠ none) :
    Candid failed' (program >>= next) := by
  intro w opened
  rw [run_bind]
  have kept := first w opened
  generalize program w = outcome at kept ⊢
  obtain ⟨_ | err, w'⟩ := outcome
  · exact rest w' (kept rfl)
  · exact fun success => absurd success (passed err w')

/-- An error that is passed on in place of a value. -/
theorem Candid.value {program : TargetM (Except Err α)} {next : Except Err α → TargetM β}
    (first : Candid failure program) (rest : ∀ value, Candid failed' (next (.ok value)))
    (passed : ∀ err w, failed' (next (.error err) w).1 ≠ none) :
    Candid failed' (program >>= next) := by
  intro w opened
  rw [run_bind]
  have kept := first w opened
  generalize program w = outcome at kept ⊢
  obtain ⟨err | value, w'⟩ := outcome
  · exact fun success => absurd success (passed err w')
  · exact rest value w' (kept rfl)

/-- An outcome that is returned, or that says to go on. -/
theorem Candid.outcome {program : TargetM (Option (Option Err))}
    {next : Option (Option Err) → TargetM β} (first : Candid Option.join program)
    (rest : Candid failed' (next none)) (done : Candid failed' (next (some none)))
    (passed : ∀ err w, failed' (next (some (some err)) w).1 ≠ none) :
    Candid failed' (program >>= next) := by
  intro w opened
  rw [run_bind]
  have kept := first w opened
  generalize program w = outcome at kept ⊢
  obtain ⟨_ | _ | err, w'⟩ := outcome
  · exact rest w' (kept rfl)
  · exact done w' (kept rfl)
  · exact fun success => absurd success (passed err w')

theorem Candid.ite {condition : Prop} [Decidable condition] {first second : TargetM α}
    (onTrue : condition → Candid failed first) (onFalse : ¬condition → Candid failed second) :
    Candid failed (if condition then first else second) :=
  Triple.ite onTrue onFalse

theorem Candid.get_ite {condition : World → Prop} [∀ w, Decidable (condition w)]
    {first second : TargetM α} (onTrue : Candid failed first) (onFalse : Candid failed second) :
    Candid failed (get >>= fun w => if condition w then first else second) :=
  Triple.get_ite (onTrue.strengthen fun _ => And.left) (onFalse.strengthen fun _ => And.left)

theorem Candid.get_bind {next : World → TargetM α} (rest : ∀ w, Candid failed (next w)) :
    Candid failed (get >>= next) :=
  fun w opened => rest w w opened

theorem ctxErr_keeps : Keeps (ctxErr ctx) := fun _ opened => opened

end Rules

/-! ## The methods -/

/-- `closeOn` closes only with the error it returns. -/
theorem closeOn_candid (err : Option Err) : Candid id (closeOn err) := by
  cases err with
  | none => exact fun w opened _ => opened
  | some err => exact fun _ _ => nofun

/-- A wait whose error closes the target. -/
theorem Candid.closeOn {program : TargetM (Option Err)} (candid : Candid id program) :
    Candid id (program >>= Cortexm.closeOn) :=
  candid.guard (closeOn_candid none) fun _ _ => nofun

end Ostiole.Cortexm
