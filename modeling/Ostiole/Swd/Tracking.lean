import Ostiole.Swd.Frame
import Ostiole.Swd.Lifecycle

/-!
# The tracked bank and the response grammar

`Tracked` relates the DP bank a connection believes to be selected to the bank
of the target, `Framed` its response mode to ORUNDETECT. Both survive every
frame: an accepted one is observed by the connection, a refused one moves
nothing. A write at offset 4 which passed `validateTransfer` leaves the framing
fields alone, because it reaches the bank it was validated for.
-/

namespace Ostiole.Swd

open Ostiole

/-- The tracked bank is the selected one. A pending selection has either taken
effect or left WDATAERR behind, with the prior bank still selected. -/
structure Tracked (c : Conn) (t : Target) : Prop where
  settled : c.bank.valid = true → c.selectPending = false → t.dpBank = c.bank.bank
  pending : c.selectPending = true → c.bank.valid = true ∧
    (t.dpBank = c.bank.bank ∨ (t.ctrlStat.has writeDataError = true ∧
      (c.priorBank.valid = true → t.dpBank = c.priorBank.bank)))

/-- The response mode is the target's, with a turnaround of one clock. -/
structure Framed (mode : ResponseMode) (t : Target) : Prop where
  overrun : mode = .overrun ↔ t.overrun = true
  turnaround : t.turnaround = 0

theorem Framed.mode_eq {mode : ResponseMode} {t : Target} (framed : Framed mode t) :
    (mode == .overrun) = t.overrun := by
  cases set : t.overrun with
  | true => simpa using framed.overrun.mpr set
  | false => simpa [set] using framed.overrun

/-! ## Bank tracking -/

section Bank

variable {world : PortWorld} {c : Conn} {t t' : Target} {e : Event}

/-- Frames that leave SELECT and a recorded WDATAERR alone. -/
theorem Tracked.kept (tracked : Tracked c t) (select : t'.select = t.select)
    (recorded : t.ctrlStat.has writeDataError = true → t'.ctrlStat.has writeDataError = true) :
    Tracked c t' := by
  have bank : t'.dpBank = t.dpBank := by simp [Target.dpBank, select]
  refine ⟨fun valid settled => ?_, fun pending => ?_⟩
  · rw [bank]
    exact tracked.settled valid settled
  · rw [bank]
    obtain ⟨valid, holds⟩ := tracked.pending pending
    exact ⟨valid, holds.imp_right fun ⟨set, prior⟩ => ⟨recorded set, prior⟩⟩

theorem Tracked.invalid (invalid : c.bank.valid = false) (settled : c.selectPending = false) :
    Tracked c t :=
  ⟨fun valid => by simp [invalid] at valid, fun pending => by simp [settled] at pending⟩

theorem Tracked.invalidateBank (c : Conn) (t : Target) : Tracked c.invalidateBank t :=
  .invalid rfl rfl

/-- Confirming a selection that is in effect. -/
theorem Tracked.confirmBank (bank : c.bank.valid = true → t.dpBank = c.bank.bank) :
    Tracked c.confirmBank t :=
  ⟨fun valid _ => bank valid, fun pending => by simp [Conn.confirmBank] at pending⟩

/-- A selection just written, in effect or abandoned. -/
theorem Tracked.selectBank {data : Word}
    (holds : t.dpBank = data.setWidth 4 ∨ (t.ctrlStat.has writeDataError = true ∧
      (c.bank.valid = true → t.dpBank = c.bank.bank))) : Tracked (c.selectBank data) t :=
  ⟨fun _ settled => by simp [Conn.selectBank] at settled, fun _ => ⟨rfl, holds⟩⟩

/-- A step that is no effective SELECT or ABORT write keeps what is tracked. -/
theorem Step.select_kept (transition : Step world t e t')
    (other : e.effective = true → e.req.isSELECTWrite = false) : t'.select = t.select := by
  rw [transition.effect.select_eq]
  split_ifs with moved
  · simp [other moved.1] at moved
  · rfl

theorem Tracked.refused (tracked : Tracked c t) (transition : Step world t e t')
    (refused : e.accepted = false) : Tracked c t' := by
  have ineffective : e.effective ≠ true := fun effective => by
    simp [transition.accepted_of_effective effective] at refused
  exact tracked.kept (transition.select_kept fun effective => absurd effective ineffective)
    (transition.effect.writeDataError_mono fun effective => absurd effective ineffective)

/-- A frame after which the connection keeps its view. -/
private theorem Tracked.unobserved (tracked : Tracked c t) (transition : Step world t e t')
    (select : e.req.isSELECTWrite = false) (abort : e.req.isABORTWrite = false) : Tracked c t' :=
  tracked.kept (transition.select_kept fun _ => select)
    (transition.effect.writeDataError_mono fun _ isAbort => by simp [abort] at isAbort)

/-- A request which is answered while a sticky flag is set. -/
theorem exempt_kinds {t : Target} {req : Request} (exempt : t.exempt req = true) :
    req.isDPIDRRead = true ∨ req.isABORTWrite = true ∨
      (req.isCTRLSTATRead = true ∧ t.dpBank = 0) := by
  simpa [Target.exempt, or_assoc] using exempt

/-- An accepted request that is not exempt shows a pending selection in effect. -/
private theorem Tracked.confirmed (tracked : Tracked c t) (transition : Step world t e t')
    (accepted : e.accepted = true) (pending : c.selectPending = true)
    (abort : e.req.isABORTWrite = false) (dpidr : e.req.isDPIDRRead = false)
    (possible : isPossibleCTRLSTATRead e.req c.priorBank = false) : t.dpBank = c.bank.bank := by
  obtain ⟨_, inEffect | ⟨set, prior⟩⟩ := tracked.pending pending
  · exact inEffect
  · have exempt := transition.exempt_of_accepted accepted (Target.writeDataError_sticky set)
    obtain isDPIDR | isAbort | ⟨isRead, bankZero⟩ := exempt_kinds exempt
    · simp [dpidr] at isDPIDR
    · simp [abort] at isAbort
    · -- The prior bank is known not to be zero, so the target would have refused the read.
      have nonzero : c.priorBank.valid = true ∧ c.priorBank.bank ≠ 0 := by
        simpa [isPossibleCTRLSTATRead, isRead] using possible
      exact absurd ((prior nonzero.1).symm.trans bankZero) nonzero.2

/-- The error of an accepted frame: none, or wrong parity of read data. -/
def AcceptedErr (req : Request) (err : Option Err) : Prop :=
  err = none ∨ (err = some errParity ∧ req.read = true)

theorem AcceptedErr.complete {req : Request} {err : Option Err} (kind : AcceptedErr req err) :
    completeTransfer err = true := by
  obtain rfl | ⟨rfl, _⟩ := kind <;> rfl

/-- What `observePendingSelection` makes of an accepted frame. -/
private theorem Tracked.observePending (tracked : Tracked c t) (transition : Step world t e t')
    (accepted : e.accepted = true) (pending : c.selectPending = true) (result : Word)
    {err : Option Err} (kind : AcceptedErr e.req err) (select : e.req.isSELECTWrite = false) :
    Tracked (c.observePendingSelection e.req result err) t' := by
  have unmoved : t'.dpBank = t.dpBank := by
    simp [Target.dpBank, transition.select_kept fun _ => select]
  unfold Conn.observePendingSelection
  split_ifs with abort done dpidr zero possible known
  · exact .invalidateBank c t'
  · obtain rfl | ⟨_, read⟩ := kind
    · simp at done
    · simp [Request.isABORTWrite, read] at abort
  · exact tracked.unobserved transition select (by simpa using abort)
  · have banks : c.bank.valid = true ∧ c.bank.bank = 0 ∧ c.priorBank.valid = true ∧
        c.priorBank.bank = 0 := by
      simp only [isBankZeroCTRLSTATRead, Bool.and_eq_true, beq_iff_eq] at zero
      obtain ⟨⟨⟨⟨_, valid⟩, bank⟩, priorValid⟩, prior⟩ := zero
      exact ⟨valid, bank, priorValid, prior⟩
    obtain ⟨valid, bank, priorValid, prior⟩ := banks
    have bankZero : t'.dpBank = c.bank.bank := by
      rw [unmoved]
      obtain ⟨_, inEffect | ⟨_, atPrior⟩⟩ := tracked.pending pending
      · exact inEffect
      · rw [atPrior priorValid, prior, bank]
    unfold Conn.resolveBankZeroCTRLSTAT
    split_ifs
    · exact tracked.unobserved transition select (by simpa using abort)
    · exact .invalidateBank c t'
    · exact .confirmBank fun _ => bankZero
  · exact tracked.unobserved transition select (by simpa using abort)
  · exact .confirmBank fun _ => unmoved.trans (tracked.confirmed transition accepted pending
      (by simpa using abort) (by simpa using dpidr) (by simpa using possible))
  · exact absurd known (by obtain rfl | ⟨rfl, _⟩ := kind <;> simp [isExactly, errParity])

/-- An accepted SELECT write is tracked as pending. -/
private theorem Tracked.observeSelect (tracked : Tracked c t) (transition : Step world t e t')
    (accepted : e.accepted = true) (select : e.req.isSELECTWrite = true) (result : Word) :
    Tracked (c.observeTransfer e.req result e.data none) t' := by
  obtain ⟨⟨dp, write⟩, addr⟩ : (e.req.ap = false ∧ e.req.read = false) ∧ e.req.addr = 0x08 := by
    simpa [Request.isSELECTWrite] using select
  have abort : e.req.isABORTWrite = false := by simp [Request.isABORTWrite, addr]
  have dpidr : e.req.isDPIDRRead = false := by simp [Request.isDPIDRRead, write]
  have read : e.req.isCTRLSTATRead = false := by simp [Request.isCTRLSTATRead, write]
  -- Whichever bank was tracked before, the connection now takes it for the prior one.
  have prior : c.bank.valid = true → t.dpBank = c.bank.bank := by
    intro valid
    cases pending : c.selectPending with
    | false => exact tracked.settled valid pending
    | true =>
      exact tracked.confirmed transition accepted pending abort dpidr
        (by simp [isPossibleCTRLSTATRead, read])
  have holds : t'.dpBank = e.data.setWidth 4 ∨ (t'.ctrlStat.has writeDataError = true ∧
      (c.bank.valid = true → t'.dpBank = c.bank.bank)) := by
    cases effective : e.effective with
    | true =>
      left
      simp [Target.dpBank, transition.effect.select_eq, effective, select]
    | false =>
      right
      refine ⟨(transition.dropped accepted effective).2, fun valid => ?_⟩
      rw [← prior valid]
      simp [Target.dpBank, transition.effect.select_eq, effective]
  have observed : c.observeTransfer e.req result e.data none =
      (if c.selectPending then c.confirmBank else c).selectBank e.data := by
    simp [Conn.observeTransfer, completeTransfer, select, Conn.observePendingSelection, abort,
      dpidr, isBankZeroCTRLSTATRead, isPossibleCTRLSTATRead, read]
  rw [observed]
  cases c.selectPending <;> exact .selectBank holds

/-- An accepted frame, observed by the connection whatever data it returned. -/
theorem Tracked.accepted (tracked : Tracked c t) (transition : Step world t e t')
    (accepted : e.accepted = true) (result : Word) {err : Option Err}
    (kind : AcceptedErr e.req err) : Tracked (c.observeTransfer e.req result e.data err) t' := by
  cases select : e.req.isSELECTWrite with
  | true =>
    obtain rfl | ⟨_, read⟩ := kind
    · exact tracked.observeSelect transition accepted select result
    · simp [Request.isSELECTWrite, read] at select
  | false =>
    cases pending : c.selectPending with
    | true =>
      have same : c.observeTransfer e.req result e.data err =
          c.observePendingSelection e.req result err := by
        simp [Conn.observeTransfer, kind.complete, pending, select]
      rw [same]
      exact tracked.observePending transition accepted pending result kind select
    | false =>
      have same : c.observeTransfer e.req result e.data err = c := by
        simp [Conn.observeTransfer, kind.complete, pending, select]
      rw [same]
      have bank : t'.dpBank = t.dpBank := by
        simp [Target.dpBank, transition.select_kept fun _ => select]
      exact ⟨fun valid settled => bank.trans (tracked.settled valid settled),
        fun waits => by simp [pending] at waits⟩

end Bank

/-! ## Fields which observation keeps -/

section Observed

variable (c : Conn) (req : Request) (result data : Word) (err : Option Err)

@[simp] theorem requireRepair_response : c.requireRepair.response = c.response := by
  unfold Conn.requireRepair
  split_ifs <;> rfl

@[simp] theorem requireRepair_ready : c.requireRepair.state ≠ .ready ∨ c.requireRepair = c := by
  unfold Conn.requireRepair
  split_ifs with idle
  · exact .inr rfl
  · exact .inl (by simp [Conn.invalidateBank, Conn.confirmBank])

private theorem observePendingSelection_fields :
    (c.observePendingSelection req result err).response = c.response ∧
      (c.observePendingSelection req result err).state = c.state := by
  unfold Conn.observePendingSelection Conn.resolveBankZeroCTRLSTAT
  split_ifs <;> exact ⟨rfl, rfl⟩

@[simp] theorem observeTransfer_response :
    (c.observeTransfer req result data err).response = c.response := by
  unfold Conn.observeTransfer
  split_ifs <;> simp [Conn.selectBank, (observePendingSelection_fields c req result err).1]

theorem observeTransfer_state (complete : completeTransfer err = true) :
    (c.observeTransfer req result data err).state = c.state := by
  have pending := (observePendingSelection_fields c req result err).2
  unfold Conn.observeTransfer
  split_ifs with lost
  · simp [complete] at lost
  all_goals first | rfl | exact pending

/-- Observation never makes a connection ready. -/
theorem observeTransfer_ready (ready : (c.observeTransfer req result data err).state = .ready) :
    c.state = .ready ∧ completeTransfer err = true := by
  unfold Conn.observeTransfer at ready
  split_ifs at ready with lost pending select select
  · obtain repaired | same := requireRepair_ready c
    · exact absurd ready repaired
    · rw [same] at ready
      unfold Conn.requireRepair at same
      split_ifs at same with idle
      · simp [idle] at ready
      · have := congrArg Conn.state same
        simp [Conn.invalidateBank, Conn.confirmBank, ready] at this
  all_goals
    refine ⟨?_, by simpa using lost⟩
    simpa [Conn.selectBank, (observePendingSelection_fields c req result err).2] using ready

end Observed

end Ostiole.Swd
