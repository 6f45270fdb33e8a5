import Ostiole.Go.Context

/-!
# Cortex-M targets

The record `target/cortexm` keeps for one processor, the bits of DHCSR it reads,
and the decisions it takes on a value it has read. Nothing here does traffic.
-/

namespace Ostiole.Cortexm

open Ostiole

/-! ## Registers -/

def cpuidAddress : Word := 0xe000ed00
def dhcsrAddress : Word := 0xe000edf0
def dcrsrAddress : Word := 0xe000edf4
def dcrdrAddress : Word := 0xe000edf8
def dfsrAddress : Word := 0xe000ed30

/-- The key every DHCSR write carries. -/
def debugKey : Word := 0xa05f0000

def cDebugEnable : Word := 1
def cHalt : Word := 2
def cStep : Word := 4
def cMaskInts : Word := 8
def cSnapStall : Word := 0x20
def sRegReady : Word := 0x10000
def sHalt : Word := 0x20000
def sSecureDebug : Word := 0x100000
def sReset : Word := 0x2000000
def sRestart : Word := 0x4000000

/-- `Identity`. -/
structure Identity where
  raw : Word
  implementer : BitVec 8
  variant : BitVec 8
  architecture : BitVec 8
  part : BitVec 16
  revision : BitVec 8
deriving DecidableEq, Repr

/-- The fields of a CPUID value. -/
def Identity.of (raw : Word) : Identity where
  raw := raw
  implementer := (raw >>> 24).setWidth 8
  variant := (raw >>> 20 &&& 0x0f).setWidth 8
  architecture := (raw >>> 16 &&& 0x0f).setWidth 8
  part := (raw >>> 4 &&& 0x0fff).setWidth 16
  revision := (raw &&& 0x0f).setWidth 8

/-- `controlIdentity`. -/
def controlIdentity (identity : Identity) : Option Err :=
  if identity.part = 0xc20 ∧ identity.architecture = 0xc ∨
      identity.part = 0xd21 ∧ identity.architecture = 0xf then none
  else some (.text ("cortexm: control requires Cortex-M0 or Cortex-M33, got CPUID " ++
    hex 8 identity.raw.toNat))

/-- `stepPhase`. -/
inductive StepPhase where
  | idle | uncertain | running | stopped | restoring | lost
deriving DecidableEq, Repr

/-- `Target`. `memory` is false once the borrowed memory has been given up. -/
structure Target where
  memory : Bool
  identity : Identity
  saved : Word
  closing : Bool
  changed : Bool
  haltOwned : Bool
  haltUncertain : Bool
  resumeUncertain : Bool
  registerPending : Bool
  registerLost : Bool
  snapStalled : Bool
  step : StepPhase
deriving DecidableEq, Repr

/-- `validateControl`. -/
def validateControl (value : Word) : Option Err :=
  if value &&& cDebugEnable = 0 then none
  else if value &&& (cStep ||| cMaskInts) ≠ 0 then
    some (.text "cortexm: inherited stepping or interrupt masking is unsupported")
  else if value &&& cHalt ≠ 0 ∧ value &&& sHalt = 0 then
    some (.text "cortexm: halt transition is incomplete")
  else none

/-- `onlyContextError`. -/
def onlyContextError : Err → Bool
  | .sentinel name => name == .canceled || name == .deadlineExceeded
  | .text _ | .canceledWAIT _ => false
  | .join first second => onlyContextError first && onlyContextError second
  | .fault _ _ cause _ => cause == some .canceled || cause == some .deadlineExceeded
  | .wrap _ cause | .joinOne cause | .requestNotSent cause | .rejectedRequest cause
  | .portError cause | .completedRegister cause | .completedRelease cause => onlyContextError cause

namespace Target

/-- The processor is a Cortex-M33. -/
def m33 (t : Target) : Bool := t.identity.part == 0xd21

/-- Whether debug was disabled when the target was acquired. -/
def disabled (t : Target) : Bool := t.saved &&& cDebugEnable == 0

/-- What `validateArchitectureControl` remembers of a value. -/
def noteSnapStall (t : Target) (value : Word) : Target :=
  if t.m33 ∧ value &&& cSnapStall ≠ 0 then { t with snapStalled := true } else t

/-- What `validateArchitectureControl` returns. -/
def architectureError (t : Target) (value : Word) : Option Err :=
  if !t.m33 then none
  else if t.snapStalled ∨ value &&& cSnapStall ≠ 0 then
    some (.text "cortexm: snap-stall state requires system reset before resuming")
  else if value &&& sSecureDebug = 0 then
    some (.text "cortexm: Cortex-M33 control requires Secure invasive debug permission")
  else none

/-- Give up a claim: the debug enable is all that is left to restore. -/
def relinquish (t : Target) : Target :=
  { t with haltOwned := false, resumeUncertain := false, changed := t.disabled }

/-- What `readDHCSR` does with a result. -/
def observed (t : Target) : Except Err Word → Target
  | .error _ =>
    if t.m33 ∧ t.haltOwned then { t with haltOwned := false, changed := t.disabled } else t
  | .ok value =>
    if t.m33 then
      let t := t.noteSnapStall value
      if value &&& (cDebugEnable ||| sRestart) = cDebugEnable ||| sRestart ∧
          (t.haltOwned ∨ t.resumeUncertain) then t.relinquish
      else t
    else t

/-- `observeHaltRequest`. -/
def observeHaltRequest (t : Target) (value : Word) : Target :=
  if (t.haltOwned ∨ t.resumeUncertain) ∧ value &&& cDebugEnable ≠ 0 ∧ value &&& cHalt = 0 then
    t.relinquish
  else t

/-- What `readError` does. -/
def readErrorClose (t : Target) (err : Err) : Target :=
  if !onlyContextError err ∨ t.registerPending ∨ t.haltUncertain ∨ t.resumeUncertain ∨
      t.step ≠ .idle then { t with closing := true }
  else t

/-- `stepHaltLost`. -/
def stepHaltLost (t : Target) (value : Word) : Bool :=
  value &&& (cHalt ||| sHalt) != cHalt ||| sHalt || t.m33 && value &&& sRestart != 0

/-- The condition of `observeStepState` that loses a step. -/
def stepInvalid (t : Target) (value : Word) : Bool :=
  value &&& cDebugEnable == 0 || value &&& (cMaskInts ||| sReset) != 0 ||
    t.step != .restoring && value &&& cStep == 0 ||
    (t.step == .stopped || t.step == .restoring) && t.stepHaltLost value

/-- What `observeStepState` does. -/
def observeStepState (t : Target) (value : Word) : Target :=
  if t.stepInvalid value then { t with step := .lost }
  else if t.step = .running ∧ value &&& (cHalt ||| sHalt) = cHalt ||| sHalt then
    { t with step := .stopped }
  else t

end Target

/-! ## Core registers -/

/-- `Register`. Values outside `R0` to `PSP` are representable and refused. -/
abbrev Register := BitVec 8

def regR0 : Register := 1
def regSP : Register := 14
def regPC : Register := 16
def regXPSR : Register := 17
def regMSP : Register := 18
def regPSP : Register := 19

/-- The check of `ReadRegister`. -/
def validateRegister (reg : Register) : Option Err :=
  if reg < regR0 ∨ reg > regPSP then some (.text "cortexm: invalid register") else none

/-- `validateRegisterWrite`. -/
def validateRegisterWrite (reg : Register) (value : Word) : Option Err :=
  if reg < regR0 ∨ reg > regPSP then some (.text "cortexm: invalid register")
  else if reg = regXPSR then some (.text "cortexm: XPSR writes are unsupported")
  else if (reg = regSP ∨ reg = regMSP ∨ reg = regPSP) ∧ value &&& 3 ≠ 0 then
    some (.text "cortexm: stack pointer must be word-aligned")
  else if reg = regPC ∧ value &&& 1 ≠ 0 then
    some (.text "cortexm: PC must have bit zero clear")
  else none

/-- The selector of a register. -/
def selector (reg : Register) : Word := (reg - 1).setWidth 32

end Ostiole.Cortexm
