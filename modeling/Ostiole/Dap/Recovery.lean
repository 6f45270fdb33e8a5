import Ostiole.Dap.Port
import Ostiole.Logic.Program

/-!
# What recovery sends

Over a register transport, a FAULT is handled by reads of CTRL/STAT and writes of
ABORT. The recovery from WAIT sends the same and writes zero to SELECT. `Sends`
bounds the calls of a routine by their content, the identities of the requests
left aside.
-/

namespace Ostiole.Dap

open Ostiole Logic

/-! ## Calls -/

/-- The requests a FAULT is handled with. -/
def handlesFault (req : Request) : Bool := req.isCTRLSTATRead || req.isABORTWrite

/-- The requests of a recovery from WAIT, which also restores SELECT. -/
def recoversWAIT (req : Request) (data : Word) : Bool :=
  handlesFault req || (req.isSELECTWrite && data == 0)

/-- Every call between two states is `allowed`. -/
def Called (allowed : Request → Word → Prop) (w w' : World) : Prop :=
  ∃ events, w'.register.log = w.register.log ++ events ∧ ∀ e ∈ events, allowed e.req e.data

namespace Called

variable {allowed : Request → Word → Prop} {w w' : World}

/-- Nothing is called. -/
theorem quiet (log : w'.register.log = w.register.log) : Called allowed w w' :=
  ⟨[], by simp [log], by simp⟩

theorem trans {w'' : World} (first : Called allowed w w') (second : Called allowed w' w'') :
    Called allowed w w'' := by
  obtain ⟨events, log, sent⟩ := first
  obtain ⟨more, log', sent'⟩ := second
  refine ⟨events ++ more, by rw [log', log, List.append_assoc], ?_⟩
  intro e member
  exact (List.mem_append.mp member).elim (sent e) (sent' e)

instance : Std.Refl (Called allowed) := ⟨fun _ => quiet rfl⟩

instance : IsTrans World (Called allowed) := ⟨fun _ _ _ => trans⟩

end Called

/-- A routine of a port bound to a register transport makes no other calls. -/
def Sends {α : Type} (allowed : Request → Word → Prop) (program : PortM α) : Prop :=
  Preserves (·.dp.binding = .register) (Called allowed) program

section Routines

variable {α : Type} {allowed : Request → Word → Prop}

/-! ### State and clock -/

/-- The world after one call. -/
def World.called (w : World) (e : RegisterEvent) : World :=
  { w with
    link := w.link.tick.tick
    register := { w.register with log := w.register.log ++ [e] } }

section Faults

variable (faults : ∀ req data, handlesFault req = true → allowed req data)

include faults

end Faults

/-! ### WAIT -/

section Recovery

variable {recover : Err → PortM Err} (recovers : ∀ cause, Sends allowed (recover cause))

include recovers

end Recovery

/-! ## Recovery from WAIT -/

/-- The calls of a recovery. -/
abbrev Recovers (req : Request) (data : Word) : Prop := recoversWAIT req data = true

theorem recovers_fault (req : Request) (data : Word) (handles : handlesFault req = true) :
    Recovers req data := by
  simp [Recovers, recoversWAIT, handles]

end Routines

end Ostiole.Dap
