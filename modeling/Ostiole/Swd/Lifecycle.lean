import Ostiole.Swd.Batch

/-!
# Connecting and releasing

`lifecycle.go`, `dormant.go` and `sequences.go`: protocol entry, the bootstrap
that clears sticky state and selects bank zero, and the ORUNDETECT transition
that `Connect` makes and `Release` undoes.
-/

namespace Ostiole.Swd

open Ostiole

/-- `connectWaitLimit`. -/
def connectWaitLimit : Nat := 100

/-- `requireRepair` on the connection of the link. -/
def repair : LinkM Unit := modifyConn (·.requireRepair)

def setResponse (overrun : Bool) : LinkM Unit :=
  modifyConn fun c => { c with response := if overrun then .overrun else .simple }

def enterSWD : LinkM (Option Err) := exchangeEntry true

def enterThroughDormant : LinkM (Option Err) := do
  if let some err ← exchangeEntry false then return some err
  if let some err ← exchangeEntry false then return some err
  exchangeEntry true

def readEntryIdentity (ctx : Ctx) : LinkM Result := do
  let (dpidr, err) ← readRaw ctx 0x00
  -- A joined error is a transport failure and does not trigger activation.
  if !isExactly err .swdProtocol then return (dpidr, err)
  if let some err ← ctxErr ctx then return (0, some err)
  if let some err ← enterThroughDormant then
    return (0, some (.join errProtocol (.wrap "swd: dormant activation" err)))
  readRaw ctx 0x00

/-- The ABORT value of a bootstrap attempt. -/
def bootstrapClear (dpidr : Word) (abort : Bool) : Word :=
  let clear := clearStickyError ||| clearWriteDataError ||| clearStickyOverrun
  let clear := if abort then clear ||| 1 else clear
  if (dpidr >>> 16) &&& 1 = 0 then clear ||| clearStickyCompare else clear

/-- The writes of a bootstrap attempt, once the identity is accepted. -/
def bootstrapSelect (ctx : Ctx) (dpidr : Word) (abort : Bool) : LinkM Result := do
  if let some err ← writeRaw ctx 0x00 (bootstrapClear dpidr abort) then
    repair
    return (0, some (.wrap "swd: clear sticky state" err))
  if let some err ← writeRaw ctx 0x08 0 then
    repair
    return (0, some (.wrap "swd: select DP bank zero" err))
  let (_, err) ← readRaw ctx 0x0c
  if let some err := err then
    repair
    return (0, some (.wrap "swd: settle DP bank zero" err))
  modifyConn fun c => { c with bank := ⟨0, true⟩ }
  return (dpidr, none)

def bootstrapAttempt (ctx : Ctx) (abort : Bool) : LinkM Result := do
  let (dpidr, err) ← readEntryIdentity ctx
  if let some err := err then
    repair
    return (0, some (.wrap "swd: read DPIDR" err))
  let conn := (← get).conn
  if dpidr &&& 1 = 0 then
    if conn.identityKnown then repair
    else modifyConn fun c => { c with state := .idle, response := .simple }.invalidateBank
    return (0, some (.text ("swd: invalid DPIDR " ++ hex 8 dpidr.toNat ++
      ": constant bit is clear")))
  if conn.identityKnown ∧ dpidr ≠ conn.identity then
    repair
    return (0, some (.text ("swd: DPIDR changed from " ++ hex 8 conn.identity.toNat ++ " to " ++
      hex 8 dpidr.toNat)))
  modifyConn fun c => { c with identity := dpidr, identityKnown := true }
  bootstrapSelect ctx dpidr abort

def bootstrap (ctx : Ctx) : LinkM Result := do
  let (dpidr, err) ← bootstrapAttempt ctx false
  match err with
  | none => return (dpidr, none)
  | some err =>
    if !err.is .swdWait then return (dpidr, some err)
    modifyConn fun c => { c with response := .simple }.invalidateBank
    if let some retryErr ← enterSWD then
      return (0, some (.join err (.wrap "swd: re-enter after bootstrap WAIT" retryErr)))
    let (dpidr, retryErr) ← bootstrapAttempt ctx true
    if let some retryErr := retryErr then return (0, some (.join err retryErr))
    return (dpidr, none)

/-! ## The ORUNDETECT transition -/

/-- The ABORT value that clears the observed sticky flags before the write. -/
def overrunWriteClear (state identity : Word) : Word :=
  (if state.has stickyOverrun then clearStickyOverrun else 0) |||
  (if state.has stickyError then clearStickyError else 0) |||
  (if state.has writeDataError then clearWriteDataError else 0) |||
  (if state.has stickyCompare ∧ (identity >>> 16) &&& 1 = 0 then clearStickyCompare else 0)

def prepareOverrunWrite (ctx : Ctx) (state : Word) : LinkM Result := do
  let clear := overrunWriteClear state (← get).conn.identity
  if clear = 0 then return (state, none)
  if let some err ← writeRaw ctx 0x00 clear then
    repair
    return (0, some err)
  let state := if clear.has clearStickyCompare then state &&& ~~~stickyCompare else state
  return (state &&& ~~~(stickyOverrun ||| stickyError ||| writeDataError), none)

/-- Outcome of settling one ORUNDETECT write: applied, to be retried, the state
observed for the retry, and the error. -/
structure Settled where
  applied : Bool
  retry : Bool
  observed : Word
  err : Option Err

def verifyOverrunChange (ctx : Ctx) (enabled allowFallback : Bool) :
    LinkM (Bool × Option Err) := do
  setResponse enabled
  let (state, err) ← readRaw ctx 0x04
  if let some err := err then
    repair
    return (false, some err)
  if state.has overrunDetect = enabled then return (true, none)
  setResponse false
  if allowFallback then return (false, none)
  repair
  return (false, some (.text "CTRL/STAT.ORUNDETECT did not change"))

def recoverAbandonedOverrunWrite (ctx : Ctx) : LinkM Result := do
  let (state, err) ← readRaw ctx 0x04
  if let some err := err then
    repair
    return (0, some err)
  if !state.has writeDataError then return (state, none)
  if let some err ← writeRaw ctx 0x00 clearWriteDataError then
    repair
    return (0, some err)
  return (state &&& ~~~writeDataError, none)

/-- The ABORT value of `clearOverrunTransitionFault`. -/
def transitionFaultClear (state : Word) : Word :=
  (if state.has writeDataError then clearWriteDataError else 0) |||
  (if state.has stickyOverrun then clearStickyOverrun else 0)

def clearOverrunTransitionFault (ctx : Ctx) (state : Word) : LinkM (Option Err) := do
  let clear := transitionFaultClear state
  if clear = 0 then return none
  if let some err ← writeRaw ctx 0x00 clear then
    repair
    return some err
  return none

def resolveOverrunFault (ctx : Ctx) (enabled allowFallback : Bool) : LinkM Settled := do
  let (state, err) ← readRaw ctx 0x04
  if let some err := err then
    repair
    return ⟨false, false, 0, some (.join errFault err)⟩
  setResponse (state.has overrunDetect)
  if let some err ← clearOverrunTransitionFault ctx state then
    return ⟨false, false, 0, some (.join errFault err)⟩
  if state.has overrunDetect = enabled ∨ allowFallback then
    return ⟨state.has overrunDetect = enabled, false, 0, none⟩
  return ⟨false, true, state &&& ~~~(writeDataError ||| stickyOverrun), none⟩

def resolveOverrunBarrier (ctx : Ctx) (barrierErr : Option Err) (enabled allowFallback : Bool) :
    LinkM Settled := do
  if barrierErr.isNone ∨ isExactly barrierErr .swdParity then
    let (applied, err) ← verifyOverrunChange ctx enabled allowFallback
    return ⟨applied, false, 0, err⟩
  if isExactly barrierErr .swdWait then
    let (state, err) ← recoverAbandonedOverrunWrite ctx
    return ⟨false, true, state, err⟩
  if isExactly barrierErr .swdFault then resolveOverrunFault ctx enabled allowFallback
  else
    repair
    return ⟨false, false, 0, barrierErr⟩

def settleOverrunWrite (ctx : Ctx) (enabled allowFallback : Bool) : Nat → LinkM Settled
  | 0 => do
    repair
    return ⟨false, false, 0, some (.text "ORUNDETECT barrier retry limit exceeded")⟩
  | attempts + 1 => do
    let (_, err) ← readRaw ctx 0x0c
    if isExactly err .swdWait ∧ (← get).conn.response = .simple then
      settleOverrunWrite ctx enabled allowFallback attempts
    else resolveOverrunBarrier ctx err enabled allowFallback

/-- The CTRL/STAT value of an ORUNDETECT write. -/
def overrunValue (state : Word) (enabled : Bool) : Word :=
  if enabled then state ||| overrunDetect else state &&& ~~~overrunDetect

def changeOverrun (ctx : Ctx) (enabled allowFallback : Bool) :
    Nat → Word → LinkM (Bool × Option Err)
  | 0, _ => do
    repair
    return (false, some (.text "ORUNDETECT transition retry limit exceeded"))
  | attempts + 1, state => do
    let (state, err) ← prepareOverrunWrite ctx state
    if let some err := err then return (false, some err)
    if let some err ← writeRaw ctx 0x04 (overrunValue state enabled) then
      repair
      return (false, some err)
    let settled ← settleOverrunWrite ctx enabled allowFallback (connectWaitLimit + 1)
    if settled.err.isSome ∨ !settled.retry then return (settled.applied, settled.err)
    changeOverrun ctx enabled allowFallback attempts settled.observed

/-! ## Release -/

def finishRelease : LinkM Unit := modifyConn fun c =>
  { c with
    state := .idle
    response := .simple
    identity := 0
    identityKnown := false
    originalOverrun := false
    originalKnown := false }.invalidateBank

def reenterForRelease (ctx : Ctx) : LinkM (Option Err) := do
  modifyConn fun c => { c with response := .simple }.invalidateBank
  if let some err ← enterSWD then
    repair
    return some (.wrap "swd: re-enter protocol for release" err)
  let (_, err) ← bootstrap ctx
  if let some err := err then return some (.wrap "swd: bootstrap release" err)
  let (state, err) ← readRaw ctx 0x04
  if let some err := err then
    repair
    return some (.wrap "swd: read CTRL/STAT for release" err)
  if state.has overrunDetect then setResponse true
  return none

/-- The bank-zero selection of `prepareRelease`. -/
def selectBankZero (ctx : Ctx) : LinkM (Option Err) := do
  if (← get).conn.bank.bank = 0 then return none
  if let some err ← writeRaw ctx 0x08 0 then
    repair
    return some (.wrap "swd: select DP bank zero for release" err)
  let (_, err) ← readRaw ctx 0x0c
  if let some err := err then
    repair
    return some (.wrap "swd: settle DP bank zero for release" err)
  modifyConn fun c => { c with bank := ⟨0, true⟩ }
  return none

def prepareRelease (ctx : Ctx) : LinkM (Option Err) := do
  let conn := (← get).conn
  if conn.state ≠ .ready ∨ !conn.bank.valid ∨ conn.selectPending then
    if let some err ← reenterForRelease ctx then return some err
    selectBankZero ctx
  else selectBankZero ctx

def restoreOverrun (ctx : Ctx) : LinkM (Option Err) := do
  let (state, err) ← readRaw ctx 0x04
  if let some err := err then
    repair
    return some (.wrap "swd: read CTRL/STAT for release" err)
  let conn := (← get).conn
  let want := if conn.originalKnown then conn.originalOverrun else state.has overrunDetect
  if state.has overrunDetect = want then return none
  let (_, err) ← changeOverrun ctx want false (connectWaitLimit + 1) state
  if let some err := err then return some (.wrap "swd: restore overrun detection" err)
  return none

/-- `Conn.Release`. -/
def release (ctx : Ctx) : LinkM (Option Err) := do
  if (← get).conn.state = .idle then return none
  if let some err ← ctxErr ctx then return some (notExecuted err)
  match ← prepareRelease ctx with
  | some err => completionError ctx (some err)
  | none =>
    match ← restoreOverrun ctx with
    | some err => completionError ctx (some err)
    | none =>
      finishRelease
      completionError ctx none

/-! ## Connect -/

def prepareConnection (ctx : Ctx) : LinkM (Word × Word × Option Err) := do
  modifyConn fun c => { c with state := .repair, response := .simple }.invalidateBank
  if let some err ← enterSWD then return (0, 0, some (.wrap "swd: enter protocol" err))
  let (dpidr, err) ← bootstrap ctx
  if let some err := err then return (0, 0, some err)
  let (state, err) ← readRaw ctx 0x04
  if let some err := err then
    repair
    return (0, 0, some (.wrap "swd: read CTRL/STAT" err))
  return (dpidr, state, none)

/-- The response mode chosen by `Connect`, inherited or newly enabled. -/
def chooseResponse (ctx : Ctx) (state : Word) : LinkM (Option Err) := do
  if state.has overrunDetect then
    setResponse true
    return none
  let (_, err) ← changeOverrun ctx true true (connectWaitLimit + 1) state
  return err.map (.wrap "swd: enable overrun detection")

/-- Remember the inherited mode for `Release`, then choose. -/
def establishResponse (ctx : Ctx) (state : Word) : LinkM (Option Err) := do
  if !(← get).conn.originalKnown then
    modifyConn fun c => { c with originalOverrun := state.has overrunDetect, originalKnown := true }
  chooseResponse ctx state

/-- The body of `Connect`, before its deferred cleanup. -/
def connectBody (ctx : Ctx) : LinkM Result := do
  let (dpidr, state, err) ← prepareConnection ctx
  if let some err := err then return (0, some err)
  if let some err ← establishResponse ctx state then return (0, some err)
  modifyConn fun c => { c with state := .ready }
  return (dpidr, none)

def cleanupFailedConnect (connectErr : Err) : LinkM Err := do
  let conn := (← get).conn
  if !conn.originalKnown then
    finishRelease
    return connectErr
  if conn.state = .idle then return connectErr
  let cleanupCtx ← cleanupContext
  match ← release cleanupCtx with
  | some err => return .join connectErr (.wrap "swd: clean up failed Connect" err)
  | none => return connectErr

/-- `Conn.Connect`. -/
def connect (ctx : Ctx) (cleanupTimeout : Int) : LinkM Result := do
  if let some err ← ctxErr ctx then return (0, some err)
  if cleanupTimeout ≤ 0 then return (0, some (.text "swd: cleanup timeout must be positive"))
  let (dpidr, err) ← connectBody ctx
  match ← completionError ctx err with
  | none => return (dpidr, none)
  | some err => return (dpidr, some (← cleanupFailedConnect err))

end Ostiole.Swd
