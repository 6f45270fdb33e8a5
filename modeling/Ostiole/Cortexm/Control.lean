import Ostiole.Cortexm.Target

/-!
# Control of one processor

The methods of `Target` and `Acquire`, over memory whose every result is fixed by
a schedule. Each access is logged with the target as it was when the access was
decided on, and each public call with the target it was made on. A turn of a
polling loop reads the context at least twice, so a loop that may turn once for
every instant before its deadline never runs out of turns first.
-/

namespace Ostiole.Cortexm

open Ostiole

/-! ## The world -/

/-- The public methods of `Target`. -/
inductive Call where
  | halt (ctx : Ctx)
  | resume (ctx : Ctx)
  | halted (ctx : Ctx)
  | step (ctx : Ctx)
  | readRegister (ctx : Ctx) (reg : Register)
  | writeRegister (ctx : Ctx) (reg : Register) (value : Word)
  | release (ctx : Ctx)
deriving DecidableEq, Repr

inductive Event where
  | call (call : Call)
  | read (address : Word) (result : Except Err Word)
  | write (address value : Word) (err : Option Err)

/-- An event and the target when it was decided on. -/
structure Entry where
  before : Target
  event : Event

/-- What the memory answers at each instant, and how long a cleanup context
lasts. -/
structure Env where
  read : Nat → Except Err Word
  write : Nat → Option Err
  budget : Nat → Nat

structure World where
  env : Env
  clock : Nat
  target : Target
  log : List Entry

abbrev TargetM := StateM World

def World.tick (w : World) : World := { w with clock := w.clock + 1 }

/-- `ctx.Err()`, and the wait of one millisecond that a context can end. -/
def ctxErr (ctx : Ctx) : TargetM (Option Err) := fun w => (ctx.err w.clock, w.tick)

/-- The context `Acquire` makes for its cleanup. -/
def cleanupContext : TargetM Ctx := fun w =>
  (⟨w.clock + w.env.budget w.clock, .deadlineExceeded⟩, w.tick)

def modifyTarget (f : Target → Target) : TargetM Unit := modify fun w =>
  { w with target := f w.target }

def record (event : Event) : TargetM Unit := modify fun w =>
  { w with log := w.log ++ [⟨w.target, event⟩] }

/-- `ReadWord`. -/
def readWord (address : Word) : TargetM (Except Err Word) := fun w =>
  let result := w.env.read w.clock
  (result, { w.tick with log := w.log ++ [⟨w.target, .read address result⟩] })

/-- `WriteWord`, decided on when the target was `before`. -/
def writeWordAs (before : Target) (address value : Word) : TargetM (Option Err) := fun w =>
  let err := w.env.write w.clock
  (err, { w.tick with log := w.log ++ [⟨before, .write address value err⟩] })

/-- `WriteWord` after the bookkeeping `f`. -/
def writeAfter (f : Target → Target) (address value : Word) : TargetM (Option Err) := do
  let before := (← get).target
  modifyTarget f
  writeWordAs before address value

def writeWord (address value : Word) : TargetM (Option Err) := writeAfter id address value

/-- `readError`. -/
def readError (err : Err) : TargetM Err := do
  modifyTarget fun t => t.readErrorClose err
  return err

/-- `readDHCSR`. -/
def readDHCSR : TargetM (Except Err Word) := do
  let result ← readWord dhcsrAddress
  modifyTarget fun t => t.observed result
  return result

/-- `validateArchitectureControl`. -/
def validateArchitectureControl (value : Word) : TargetM (Option Err) := do
  modifyTarget fun t => t.noteSnapStall value
  return (← get).target.architectureError value

/-! ## Halting and resuming -/

/-- `active`. -/
def active (ctx : Ctx) : TargetM (Option Err) := do
  let t := (← get).target
  if !t.memory ∨ t.closing then
    return some (.text "cortexm: target is unavailable; release may be pending")
  ctxErr ctx

/-- The checks of `readControl` on a value. -/
def checkControl (value : Word) : TargetM (Option Err) := do
  if value &&& cDebugEnable = 0 ∨ value &&& (cStep ||| cMaskInts) ≠ 0 then
    return some (.text "cortexm: halting debug control changed outside the target")
  validateArchitectureControl value

/-- `readControl`. -/
def readControl : TargetM (Except Err Word) := do
  match ← readDHCSR with
  | .error err => return .error (← readError err)
  | .ok value =>
    match ← checkControl value with
    | some err => return .error (← readError err)
    | none =>
      modifyTarget fun t => t.observeHaltRequest value
      return .ok value

/-- The loop of `waitHalt`. -/
def waitHaltLoop (ctx : Ctx) (halted : Bool) : Nat → TargetM (Option Err)
  | 0 => return some ctx.cause.err
  | turns + 1 => do
    if let some err ← ctxErr ctx then return some err
    match ← readControl with
    | .error err => return some err
    | .ok value =>
      if value &&& cHalt = 0 ∧ halted then
        return some (.text "cortexm: halt request was not retained")
      if value &&& cHalt ≠ 0 ∧ !halted then
        return some (.text "cortexm: halt request remains set after resume")
      if (value &&& sHalt ≠ 0) = halted then return none
      if let some err ← ctxErr ctx then return some err
      waitHaltLoop ctx halted turns

/-- `waitHalt`. -/
def waitHalt (ctx : Ctx) (halted : Bool) : TargetM (Option Err) := do
  waitHaltLoop ctx halted (ctx.turns (← get).clock + 1)

/-- A failure after traffic leaves only `Release`. -/
def closeOn (err : Option Err) : TargetM (Option Err) := do
  modifyTarget fun t => if err.isSome then { t with closing := true } else t
  return err

/-- `requestHalt`. -/
def requestHalt (ctx : Ctx) : TargetM (Option Err) := do
  if let some err ← ctxErr ctx then return some err
  let write ← writeAfter (fun t => { t with changed := true, haltUncertain := true }) dhcsrAddress
    (debugKey ||| cDebugEnable ||| cHalt)
  if let some err := write then
    closeOn (some err)
  else
    modifyTarget fun t => { t with haltUncertain := false, haltOwned := true }
    closeOn (← waitHalt ctx true)

/-- `Target.Halt`. -/
def halt (ctx : Ctx) : TargetM (Option Err) := do
  if let some err ← active ctx then return some err
  match ← readControl with
  | .error err => return some err
  | .ok value => if value &&& sHalt ≠ 0 then return none else requestHalt ctx

/-- The write of `resume` and the wait after it. -/
def resumeWrite (ctx : Ctx) : TargetM (Option Err) := do
  if let some err ← ctxErr ctx then return some err
  let write ← writeAfter (fun t => { t with resumeUncertain := true }) dhcsrAddress
    (debugKey ||| cDebugEnable)
  if let some err := write then
    closeOn (some err)
  else
    modifyTarget fun t => { t with haltOwned := false }
    closeOn (← waitHalt ctx false)

/-- The check of `resume` that a Cortex-M33 claim still stands. -/
def confirmClaim : TargetM (Option Err) := do
  if !(← get).target.m33 then return none
  match ← readControl with
  | .error err => return some err
  | .ok _ =>
    if !(← get).target.haltOwned then return some (.text "cortexm: halt ownership was lost")
    return none

/-- `resume`. -/
def resume (ctx : Ctx) : TargetM (Option Err) := do
  if let some err ← confirmClaim then return some err
  resumeWrite ctx

/-- `Target.Resume`. -/
def targetResume (ctx : Ctx) : TargetM (Option Err) := do
  if let some err ← active ctx then return some err
  if !(← get).target.haltOwned then return some (.text "cortexm: no owned halt to resume")
  resume ctx

/-- `Target.Halted`. -/
def halted (ctx : Ctx) : TargetM (Except Err Bool) := do
  if let some err ← active ctx then return .error err
  match ← readControl with
  | .error err => return .error err
  | .ok value => return .ok (value &&& sHalt != 0)

/-! ## Register transfers -/

/-- A value shows the processor in Debug state. -/
def showsHalted (value : Word) : Bool :=
  value &&& (cDebugEnable ||| sHalt) == cDebugEnable ||| sHalt

/-- The condition of `registerStatus` that loses a transfer. -/
def Target.transferLost (t : Target) (value : Word) : Bool :=
  t.registerPending && (!showsHalted value || value &&& sReset != 0 ||
    t.m33 && value &&& sRestart != 0)

/-- The end of `registerStatus`, on a value it accepts. -/
def acceptRegister (value : Word) : TargetM (Option Err) := do
  modifyTarget fun t => t.observeHaltRequest value
  if !showsHalted value then
    return some (.text "cortexm: register access requires a halted processor")
  modifyTarget fun t => { t with registerPending := value &&& sRegReady == 0 }
  return none

/-- The checks of `registerStatus` on a value. -/
def checkRegister (value : Word) : TargetM (Option Err) := do
  if (← get).target.transferLost value then
    modifyTarget fun t => { t with registerLost := true }
    return some (.text "cortexm: debug state changed during register transfer")
  if value &&& cDebugEnable = 0 ∨ value &&& (cStep ||| cMaskInts) ≠ 0 then
    closeOn (some (.text "cortexm: debug mode changed during register access"))
  else
    match ← validateArchitectureControl value with
    | some err => closeOn (some err)
    | none => acceptRegister value

/-- `registerStatus`. -/
def registerStatus : TargetM (Option Err) := do
  if (← get).target.registerLost then
    return some (.text
      "cortexm: register transfer lost its debug state; cleanup cannot continue")
  match ← readDHCSR with
  | .error err => return some (← readError err)
  | .ok value => checkRegister value

/-- The loop of `waitRegister`. -/
def waitRegisterLoop (ctx : Ctx) : Nat → TargetM (Option Err)
  | 0 => return some ctx.cause.err
  | turns + 1 => do
    if let some err ← ctxErr ctx then return some err
    if let some err ← registerStatus then return some err
    if !(← get).target.registerPending then return none
    if let some err ← ctxErr ctx then return some err
    waitRegisterLoop ctx turns

/-- `waitRegister`. -/
def waitRegister (ctx : Ctx) : TargetM (Option Err) := do
  let err ← waitRegisterLoop ctx (ctx.turns (← get).clock + 1)
  modifyTarget fun t => if err.isSome ∧ t.registerPending then { t with closing := true } else t
  return err

/-- `selectRegister`. -/
def selectRegister (ctx : Ctx) (selector : Word) : TargetM (Option Err) := do
  if let some err ← ctxErr ctx then return some err
  let write ← writeAfter (fun t => { t with registerPending := true }) dcrsrAddress selector
  if let some err := write then closeOn (some err) else waitRegister ctx

/-- `Target.ReadRegister`. -/
def readRegister (ctx : Ctx) (reg : Register) : TargetM (Except Err Word) := do
  if let some err := validateRegister reg then return .error err
  if let some err ← active ctx then return .error err
  if let some err ← waitRegister ctx then return .error err
  if let some err ← selectRegister ctx (selector reg) then return .error err
  match ← readWord dcrdrAddress with
  | .error err =>
    modifyTarget fun t => { t with closing := true }
    return .error err
  | .ok value => return .ok value

/-- The transfer of `WriteRegister`: stage the data, then select. -/
def stageRegister (ctx : Ctx) (reg : Register) (value : Word) : TargetM (Option Err) := do
  if let some err ← ctxErr ctx then return some err
  let write ← writeWord dcrdrAddress value
  if let some err := write then closeOn (some err)
  else closeOn (← selectRegister ctx (selector reg ||| 0x10000))

/-- `Target.WriteRegister`. -/
def writeRegister (ctx : Ctx) (reg : Register) (value : Word) : TargetM (Option Err) := do
  if let some err := validateRegisterWrite reg value then return some err
  if let some err ← active ctx then return some err
  if let some err ← waitRegister ctx then return some err
  stageRegister ctx reg value

/-! ## Stepping -/

/-- `stepStatus`. -/
def stepStatus : TargetM (Except Err Word) := do
  let phase := (← get).target.step
  if phase = .uncertain ∨ phase = .lost then
    return .error (.text "cortexm: step completion is unknown; cleanup cannot continue")
  match ← readDHCSR with
  | .error err => return .error err
  | .ok value =>
    let invalid := (← get).target.stepInvalid value
    modifyTarget fun t => t.observeStepState value
    if invalid then return .error (.text "cortexm: debug control changed during step")
    match ← validateArchitectureControl value with
    | some err => return .error err
    | none => return .ok value

/-- The reading of the reason a step stopped. -/
def stopReason : TargetM (Option Err) := do
  if (← get).target.step ≠ .stopped then return none
  match ← readWord dfsrAddress with
  | .error err => return some err
  | .ok reason =>
    modifyTarget fun t =>
      if reason &&& 0x1f = 1 then { t with haltOwned := true, step := .restoring }
      else { t with haltOwned := false, changed := t.disabled, step := .restoring }
    return none

/-- The check of `finishStep` that a Cortex-M33 is still halted. -/
def confirmStop : TargetM (Option Err) := do
  if !(← get).target.m33 then return none
  match ← stepStatus with
  | .error err => return some err
  | .ok _ => return none

/-- The write of `finishStep` that disables stepping. -/
def endStep (ctx : Ctx) : TargetM (Option Err) := do
  if let some err ← ctxErr ctx then return some err
  if let some err ← confirmStop then return some err
  writeWord dhcsrAddress (debugKey ||| cDebugEnable ||| cHalt)

/-- `finishStep`. -/
def finishStep (ctx : Ctx) : TargetM (Option Err) := do
  if let some err ← stopReason then return some err
  endStep ctx

/-- What a turn of `settleStep` does with a valid value; `none` goes on polling. -/
def settleValue (ctx : Ctx) (value : Word) : TargetM (Option (Option Err)) := do
  if (← get).target.step = .restoring ∧ value &&& 15 = cDebugEnable ||| cHalt ∧
      value &&& sHalt ≠ 0 then
    modifyTarget fun t => { t with step := .idle }
    return some none
  if value &&& (cHalt ||| sHalt) ≠ cHalt ||| sHalt then return none
  match ← finishStep ctx with
  | some err => return some (some err)
  | none => return none

/-- The loop of `settleStep`. -/
def settleStepLoop (ctx : Ctx) : Nat → TargetM (Option Err)
  | 0 => return some ctx.cause.err
  | turns + 1 => do
    if let some err ← ctxErr ctx then return some err
    match ← stepStatus with
    | .error err => return some err
    | .ok value =>
      if let some outcome ← settleValue ctx value then return outcome
      if let some err ← ctxErr ctx then return some err
      settleStepLoop ctx turns

/-- `settleStep`. -/
def settleStep (ctx : Ctx) : TargetM (Option Err) := do
  settleStepLoop ctx (ctx.turns (← get).clock + 1)

/-- The end of `Step`, once its launch has completed. -/
def settleLaunched (ctx : Ctx) : TargetM (Option Err) := do
  match ← settleStep ctx with
  | some err => closeOn (some err)
  | none =>
    if !(← get).target.haltOwned then
      closeOn (some (.text "cortexm: step stopped on an unowned debug event"))
    else return none

/-- The launch of `Step` and what follows it. -/
def launchStep (ctx : Ctx) : TargetM (Option Err) := do
  let write ← writeAfter (fun t => { t with step := .uncertain, haltOwned := false }) dhcsrAddress
    (debugKey ||| cDebugEnable ||| cStep)
  if let some err := write then
    closeOn (some err)
  else
    modifyTarget fun t => { t with step := .running }
    settleLaunched ctx

/-- The checks of `Step` on the halted processor. -/
def checkStep (ctx : Ctx) : TargetM (Option Err) := do
  if !(← get).target.haltOwned then return some (.text "cortexm: halt ownership was lost")
  if let some err ← ctxErr ctx then return some err
  match ← readWord dfsrAddress with
  | .error err => return some (← readError err)
  | .ok reason =>
    if reason &&& 0x1e ≠ 0 then
      return some (.text "cortexm: competing debug event flags prevent stepping")
    ctxErr ctx

/-- `Target.Step`. -/
def step (ctx : Ctx) : TargetM (Option Err) := do
  if let some err ← active ctx then return some err
  if !(← get).target.haltOwned then return some (.text "cortexm: no owned halt to step")
  if let some err ← waitRegister ctx then return some err
  if let some err ← checkStep ctx then return some err
  launchStep ctx

/-! ## Restoration -/

/-- The architecture check of `writeControl`, for an enabling write only. -/
def checkEnabled (control value : Word) : TargetM (Option Err) := do
  if control &&& cDebugEnable = 0 then return none
  validateArchitectureControl value

/-- What `writeControl` makes of the value it reads back. -/
def checkWritten (control value : Word) : TargetM (Option Err) := do
  modifyTarget fun t =>
    if value &&& cDebugEnable = 0 ∧ t.saved = 0 then { t with changed := false } else t
  if let some err ← checkEnabled control value then return some err
  let mask := if control &&& cDebugEnable ≠ 0 then
    cDebugEnable ||| (cHalt ||| cStep ||| cMaskInts) else cDebugEnable
  if value &&& mask ≠ control &&& mask then
    return some (.text ("cortexm: DHCSR control " ++ hex 0 (value &&& mask).toNat ++ ", want " ++
      hex 0 (control &&& mask).toNat))
  return none

/-- The reading back of `writeControl`. -/
def readBack (control : Word) : TargetM (Option Err) := do
  match ← readDHCSR with
  | .error err => return some err
  | .ok value => checkWritten control value

/-- `writeControl`. -/
def writeControl (ctx : Ctx) (control : Word) : TargetM (Option Err) := do
  if let some err ← ctxErr ctx then return some err
  let write ← writeAfter (fun t => { t with changed := true }) dhcsrAddress (debugKey ||| control)
  if let some err := write then return some err
  readBack control

/-- The uncertain writes of `checkRestoreState`. -/
def settleUncertain (value : Word) : TargetM (Option Err) := do
  let t := (← get).target
  if !t.resumeUncertain ∧ !t.haltUncertain then return none
  if value &&& (cHalt ||| sHalt) ≠ 0 then
    return some (.text
      "cortexm: control write completion is unknown; refusing to resume this halt")
  modifyTarget fun t => { t with
    resumeUncertain := false
    haltUncertain := false
    haltOwned := false
    changed := t.disabled }
  return none

/-- `checkRestoreState`. -/
def checkRestoreState (value : Word) : TargetM (Option Err) := do
  if let some err ← validateArchitectureControl value then return some err
  if value &&& cDebugEnable ≠ 0 ∧ value &&& (cStep ||| cMaskInts) ≠ 0 then
    return some (.text
      "cortexm: cannot restore externally changed stepping or interrupt masking")
  modifyTarget fun t => if t.haltUncertain then t else t.observeHaltRequest value
  settleUncertain value

/-- The rest of `restore` once no claim is left. -/
def restoreEnable (ctx : Ctx) : TargetM (Option Err) := do
  if !(← get).target.changed then return none
  match ← readDHCSR with
  | .error err => return some err
  | .ok value =>
    if let some err ← validateArchitectureControl value then return some err
    if value &&& (cHalt ||| sHalt) ≠ 0 ∧ value &&& cDebugEnable ≠ 0 then
      return some (.text "cortexm: new halt prevents restoring disabled debug")
    writeControl ctx (← get).target.saved

/-- The resume of `restore`. -/
def releaseClaim (ctx : Ctx) : TargetM (Option Err) := do
  if !(← get).target.haltOwned then return none
  resume ctx

/-- The rest of `restore` once its first reading passed. -/
def restoreHalt (ctx : Ctx) : TargetM (Option Err) := do
  if let some err ← releaseClaim ctx then return some err
  restoreEnable ctx

/-- `restore`. -/
def restore (ctx : Ctx) : TargetM (Option Err) := do
  match ← readDHCSR with
  | .error err => return some err
  | .ok value =>
    if (← get).target.saved = 0 ∧ value &&& cDebugEnable = 0 then return none
    if let some err ← checkRestoreState value then return some err
    restoreHalt ctx

/-- The transfer `Release` settles first. -/
def settleTransfer (ctx : Ctx) : TargetM (Option Err) := do
  if !(← get).target.registerPending then return none
  waitRegister ctx

/-- The step `Release` settles next. -/
def settleOpenStep (ctx : Ctx) : TargetM (Option Err) := do
  if (← get).target.step = .idle then return none
  settleStep ctx

/-- The restoration of `Release`. -/
def restoreChanged (ctx : Ctx) : TargetM (Option Err) := do
  if !(← get).target.changed then return none
  match ← restore ctx with
  | some err => return some (.wrap "cortexm: restore debug control: " err)
  | none => return none

/-- The steps of `Release` on a target that is not yet released. -/
def releaseHeld (ctx : Ctx) : TargetM (Option Err) := do
  modifyTarget fun t => { t with closing := true }
  if let some err ← ctxErr ctx then return some err
  if let some err ← settleTransfer ctx then return some err
  if let some err ← settleOpenStep ctx then return some err
  if let some err ← restoreChanged ctx then return some err
  modifyTarget fun t => { t with memory := false }
  return none

/-- `Target.Release`. -/
def release (ctx : Ctx) : TargetM (Option Err) := do
  if !(← get).target.memory then return none
  releaseHeld ctx

/-! ## Acquisition -/

/-- `Identify`. -/
def identify : TargetM (Except Err Identity) := do
  match ← readWord cpuidAddress with
  | .error err => return .error (.wrap "cortexm: read CPUID: " err)
  | .ok raw =>
    let info := Identity.of raw
    if info.implementer ≠ 0x41 ∨ info.part = 0 then
      return .error (.text ("cortexm: CPUID " ++ hex 8 raw.toNat ++
        " is not a plausible Cortex-M identity"))
    return .ok info

/-- The target `Acquire` makes from what it has read. -/
def Target.acquired (identity : Identity) (saved : Word) : Target where
  memory := true
  identity := identity
  saved := if saved &&& cDebugEnable ≠ 0 then saved &&& (cDebugEnable ||| cHalt) else 0
  closing := false
  changed := false
  haltOwned := false
  haltUncertain := false
  resumeUncertain := false
  registerPending := false
  registerLost := false
  snapStalled := false
  step := .idle

/-- The cleanup of `Acquire` after its write failed. The result says whether the
target is returned. -/
def acquireCleanup (err : Err) : TargetM (Bool × Option Err) := do
  let cleanup ← cleanupContext
  match ← release cleanup with
  | some releaseErr => return (true, some (.join err releaseErr))
  | none => return (false, some err)

/-- The enabling of debug by `Acquire`. -/
def acquireEnable (ctx : Ctx) (saved : Word) : TargetM (Bool × Option Err) := do
  if saved &&& cDebugEnable ≠ 0 then return (true, none)
  match ← writeControl ctx cDebugEnable with
  | some err => acquireCleanup err
  | none => return (true, none)

/-- `Acquire`. The result says whether a target is returned; it replaces the one
in the world. -/
def acquire (ctx : Ctx) : TargetM (Bool × Option Err) := do
  if let some err ← ctxErr ctx then return (false, some err)
  match ← identify with
  | .error err => return (false, some err)
  | .ok identity =>
    if let some err := controlIdentity identity then return (false, some err)
    match ← readWord dhcsrAddress with
    | .error err => return (false, some err)
    | .ok saved =>
      if let some err := validateControl saved then return (false, some err)
      if let some err := (Target.acquired identity saved).architectureError saved then
        return (false, some err)
      modifyTarget fun _ => Target.acquired identity saved
      acquireEnable ctx saved

/-! ## Runs -/

/-- Carry out a call. -/
def Call.perform : Call → TargetM (Option Err)
  | .halt ctx => Cortexm.halt ctx
  | .resume ctx => targetResume ctx
  | .halted ctx => do
    match ← Cortexm.halted ctx with
    | .error err => return some err
    | .ok _ => return none
  | .step ctx => Cortexm.step ctx
  | .readRegister ctx reg => do
    match ← Cortexm.readRegister ctx reg with
    | .error err => return some err
    | .ok _ => return none
  | .writeRegister ctx reg value => Cortexm.writeRegister ctx reg value
  | .release ctx => Cortexm.release ctx

/-- Log a call and carry it out. -/
def Call.make (call : Call) : TargetM (Option Err) := do
  record (.call call)
  call.perform

/-- The world after a list of calls. -/
def perform (w : World) (calls : List Call) : World :=
  calls.foldl (fun w call => (call.make w).2) w

end Ostiole.Cortexm
