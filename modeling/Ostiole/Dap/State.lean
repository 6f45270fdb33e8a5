import Ostiole.Dap.Types

/-!
# Logical debug-port state

`state.go`: the session, the response grammar and the SELECT cache with the one
write that may still be abandoned.
-/

namespace Ostiole.Dap

open Ostiole

/-- `debugPortSession`. -/
inductive Session where
  | idle | connected | repairRequired
deriving DecidableEq, Repr

/-- `swdResponseState`. -/
inductive ResponseState where
  | unchecked | simple | overrun | lost
deriving DecidableEq, Repr

/-- `selectState`. -/
structure SelectState where
  value : Word
  valid : Bool
deriving DecidableEq, Repr

/-- Go's zero value. -/
def SelectState.zero : SelectState := ⟨0, false⟩

/-- `debugPortState`. The generation is unbounded. -/
structure State where
  session : Session
  response : ResponseState
  selectDP : SelectState
  priorSELECT : SelectState
  selectPending : Bool
  dpWritePending : Bool
  apGeneration : Nat
deriving DecidableEq, Repr

/-- The state of a new debug port. -/
def State.initial : State where
  session := .idle
  response := .unchecked
  selectDP := .zero
  priorSELECT := .zero
  selectPending := false
  dpWritePending := false
  apGeneration := 0

namespace State

/-- The value before the write stays known until the write has settled. -/
def recordSELECT (s : State) (value : Word) : State :=
  { s with priorSELECT := s.selectDP, selectDP := ⟨value, true⟩, selectPending := true }

def confirmSELECT (s : State) : State :=
  { s with priorSELECT := .zero, selectPending := false }

def invalidateSELECT (s : State) : State :=
  { s with selectDP := .zero }.confirmSELECT

def beginDPWrite (s : State) : State := { s with dpWritePending := true }

def settleDPWrite (s : State) : State := { s with dpWritePending := false }

def dpBank (s : State) : BitVec 4 := s.selectDP.value.setWidth 4

/-- Whether CTRL/STAT is banked in whether or not a pending write of SELECT was done. -/
def faultBankZero (s : State) : Bool :=
  if !s.selectDP.valid || s.dpBank != 0 then false
  else !s.selectPending || (s.priorSELECT.valid && s.priorSELECT.value.setWidth 4 == 0#4)

/-- WDATAERR says that a pending write of SELECT was dropped. -/
def resolveSELECTFromCTRLSTAT (s : State) (ctrlStat : Word) : State :=
  if !s.selectPending then s
  else if ctrlStat.has writeDataError then s.invalidateSELECT
  else s.confirmSELECT

def confirmResponse (s : State) (ctrlStat : Word) : State :=
  { s with response := if ctrlStat.has overrunDetect then .overrun else .simple }

def responseKnown (s : State) : Bool := s.response == .simple || s.response == .overrun

def invalidateAP (s : State) : State := { s with apGeneration := s.apGeneration + 1 }

/-- Requests and responses may be out of step. -/
def loseFraming (s : State) : State :=
  let s := if s.response ≠ .lost then s.invalidateAP else s
  { s with session := .repairRequired, response := .lost }.invalidateSELECT

def beginRepair (s : State) : State := { s with session := .repairRequired }

end State

end Ostiole.Dap
