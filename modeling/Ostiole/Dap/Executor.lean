import Ostiole.Dap.Errors

/-!
# The serial-wire executor

`swd_executor.go`, `wait.go` and `register_executor.go`: one transfer with WAIT
retry, FAULT inspection and the rules for giving up.

`abortWait` recovers from an unfinished WAIT by sending further requests, and a
WAIT of those is not recovered again. The routines here therefore take the
recovery as an argument: `abortWait` itself at the top, no recovery inside one.
-/

namespace Ostiole.Dap

open Ostiole

/-- `transferOutcome`. -/
inductive TransferOutcome where
  | unsent | rejected | inFlight | confirmed | indeterminate
deriving DecidableEq, Repr

/-- `transferResult`. -/
structure TransferResult where
  data : Word
  cause : Option Err
  outcome : TransferOutcome
deriving DecidableEq, Repr

/-! ## Exchanges -/

/-- `registerOperation`: one call of the transport. A write returns no value. -/
def registerOperation (req : Request) (data : Word) : PortM RegisterReply := fun w =>
  let reply := w.register.operation w.link.clock
  ({ reply with value := if req.read then reply.value else 0 }, { w with
    link := w.link.tick
    register := { w.register with
      log := w.register.log ++ [⟨req, data, reply.status, reply.err⟩] } })

/-- `registerStatusConsistent`. -/
def registerStatusConsistent (status : RegisterStatus) (err : Option Err) : Bool :=
  if err.isNone then status == .completed
  else
    let rejectedOrUnknown := status == .rejected || status == .indeterminate
    let completedOrUnknown := status == .completed || status == .indeterminate
    (!(isErr err .dapIndeterminate || isErr err .swdIndeterminate) || status == .indeterminate) &&
    (!(isErr err .dapNotExecuted || isErr err .swdNotExecuted) || status == .unsent) &&
    (!isErr err .dapWait || rejectedOrUnknown) &&
    (!isErr err .dapFault || status != .unsent) &&
    (!isErr err .swdParity || completedOrUnknown)

/-- The outcome a status stands for. -/
def RegisterStatus.outcome : RegisterStatus → TransferOutcome
  | .completed => .confirmed
  | .unsent => .unsent
  | .rejected => .rejected
  | .indeterminate | .invalid .. => .indeterminate

/-- The end of `registerExchange`: the verdict on an answer whose error is classified. -/
def judge (value : Word) (status : RegisterStatus) (err : Option Err) : TransferResult :=
  let err := match status with
    | .invalid code _ => joinErrs (err.toList ++
        [errProtocol, .text s!"dap: invalid register status {code.toNat}"])
    | _ => err
  if !registerStatusConsistent status err then
    ⟨value, joinErrs (err.toList ++ [errProtocol, .text "dap: contradictory register status"]),
      .indeterminate⟩
  else ⟨value, err, status.outcome⟩

/-- `registerExchange`. -/
def registerExchange (ctx : Ctx) (req : Request) (data : Word) : PortM TransferResult := do
  if let some err ← ctxErr ctx then return ⟨0, some err, .unsent⟩
  let reply ← registerOperation req data
  return judge reply.value reply.status (classifyPortError reply.err)

/-- `exchange` over a wire: a batch of one operation. -/
def swdExchange (ctx : Ctx) (req : Request) (data : Word) : PortM Swd.Result := do
  let (results, commitErr) ← onLink (Swd.commit ctx [⟨req, data⟩])
  let result := results.headD ⟨0, none⟩
  let err := if isErr result.err .swdNotExecuted then Err.joined result.err commitErr
    else result.err
  return (result.value, err)

/-- `exchange`, behind `transferOnce`. -/
def transferOnce (ctx : Ctx) (req : Request) (data : Word) : PortM Swd.Result := do
  if (← getDP).binding = .register then
    let result ← registerExchange ctx req data
    return (result.data, result.cause)
  else swdExchange ctx req data

/-- A request of the recovery routines, sent once under its own identity. -/
def sendOnce (ctx : Ctx) (req : Request) (data : Word) : PortM Swd.Result := do
  transferOnce ctx (← stamp req) data

/-! ## FAULT -/

/-- `supportedStickyState`. -/
def supportedStickyState (minimal : Bool) : Word :=
  let state := stickyError ||| writeDataError ||| stickyOverrun
  if minimal then state else state ||| stickyCompare

/-- `stickyClearForState`. -/
def stickyClearForState (state : Word) (minimal : Bool) : Word :=
  (if state.has stickyError then clearStickyError else 0) |||
  (if state.has writeDataError then clearWriteDataError else 0) |||
  (if state.has stickyOverrun then clearStickyOverrun else 0) |||
  (if !minimal ∧ state.has stickyCompare then clearStickyCompare else 0)

/-- `faultIdentityMinimal`. -/
def DebugPort.faultIdentityMinimal (dp : DebugPort) (state : Word) : Bool :=
  if dp.reentryKnown then dp.reentryID.dpidr.minimal
  else if dp.identified then dp.identity.dpidr.minimal
  else !state.has stickyCompare

/-- `faultMayAffectAP`. -/
def faultMayAffectAP (req : Request) (apWork : Bool) (state : Word) : Bool :=
  if !apWork || (req.ap && !req.read) then false
  else req.ap || !state.has writeDataError

/-- The `FaultError` of a physical FAULT response. -/
def faultError (ctrlStat : Word) (stateValid cleared : Bool) : Err :=
  .fault ctrlStat stateValid (some .swdFault) cleared

/-- `clearFaultState`. -/
def clearFaultState (ctx : Ctx) (state : Word) (minimal apWork : Bool) : PortM (Option Err) := do
  let fault := faultError state true false
  let clear := stickyClearForState state minimal
  let (_, err) ← sendOnce ctx (dpTransferRequest .abort false) clear
  if let some err := err then
    modifyState (·.loseFraming)
    return some (.join fault (.wrap "dap: clear sticky state after FAULT" err))
  let (verified, err) ← sendOnce ctx (dpTransferRequest .ctrlStat true) 0
  if let some err := err then
    modifyState (·.loseFraming)
    return some (.join fault (.wrap "dap: verify sticky state after FAULT" err))
  if verified &&& supportedStickyState minimal ≠ 0 then
    if apWork then modifyState (·.invalidateAP)
    modifyState (·.beginRepair)
    return some (.join fault (.text
      ("dap: sticky state remains after FAULT cleanup: CTRL/STAT=" ++ hex 8 verified.toNat)))
  return none

/-- The rest of `handleFault` once CTRL/STAT has been captured. -/
def settleFault (ctx : Ctx) (req : Request) (apWork preserveAP : Bool) (state : Word) :
    PortM Err := do
  let apAffected := faultMayAffectAP req apWork state
  modifyState (·.settleDPWrite)
  modifyState (·.resolveSELECTFromCTRLSTAT state)
  let minimal := (← getDP).faultIdentityMinimal state
  let failed ← if stickyClearForState state minimal ≠ 0 then
      clearFaultState ctx state minimal apAffected
    else pure none
  if let some err := failed then return err
  let fault := faultError state true true
  if apAffected ∧ (!preserveAP ∨ !ordinaryFaultCleared (some fault)) then
    modifyState (·.invalidateAP)
  return fault

/-- `handleFault`. -/
def handleFault (req : Request) (apWork preserveAP : Bool) : PortM Err := do
  let fault := faultError 0 false false
  let s ← getState
  if !s.responseKnown || !s.faultBankZero then
    modifyState (·.loseFraming)
    return .join fault (.text ("dap: cannot read CTRL/STAT after FAULT without a known response " ++
      "grammar and bank-zero selection"))
  let ctx ← cleanupContext
  let (state, err) ← sendOnce ctx (dpTransferRequest .ctrlStat true) 0
  if let some err := err then
    modifyState (·.loseFraming)
    return .join fault (.wrap "dap: read CTRL/STAT after FAULT" err)
  settleFault ctx req apWork preserveAP state

/-! ## SELECT and DP-write tracking -/

/-- `responseSettlesPreviousDPWrite`. -/
def responseSettlesPreviousDPWrite (req : Request) (err : Option Err) : Bool :=
  if err.isSome && !isExactly err .swdWait && !isExactly err .swdParity then false
  else req.ap || (req.read && req.addr != dpRegisterOffset .dpidr &&
    req.addr != dpRegisterOffset .ctrlStat)

/-- `resolveSELECT`, on the state. -/
def State.resolveSELECT (s : State) (req : Request) (value : Word) (err : Option Err) : State :=
  if !s.selectPending then s
  else if isErr err .swdWait then
    if s.response = .overrun then s.loseFraming else s
  else if req.isABORTWrite then
    if err.isNone then s.invalidateSELECT else s
  else if req.isDPIDRRead then s
  else if req.isCTRLSTATRead && s.selectDP.valid && s.dpBank == 0 then
    if err.isNone then s.resolveSELECTFromCTRLSTAT value else s
  else if err.isNone || isExactly err .swdParity then s.confirmSELECT
  else s

/-- `resolveSELECT`. -/
def resolveSELECT (req : Request) (value : Word) (err : Option Err) : PortM Unit :=
  modifyState (·.resolveSELECT req value err)

/-! ## WAIT -/

/-- `waitForbidden`. -/
def State.waitForbidden (s : State) (req : Request) : Bool :=
  if req.ap then false
  else (req.read && (req.addr == dpRegisterOffset .dpidr ||
      (req.addr == dpRegisterOffset .ctrlStat && s.selectDP.valid && s.dpBank == 0))) ||
    (!req.read && req.addr == dpRegisterOffset .abort)

/-- `invalidateTransfer`. -/
def invalidateTransfer (cause : Err) : PortM Err := do
  modifyState (·.loseFraming)
  return .wrap "dap: SWD framing is unknown after transfer failure" cause

/-- `invalidateWait`. -/
def invalidateWait (cause : Err) : PortM Err := do
  modifyState (·.loseFraming)
  return .wrap "dap: AP state is unknown after incomplete WAIT recovery" cause

/-- `validateWait`. -/
def validateWait (req : Request) (err : Err) : PortM (Option Err) := do
  let s ← getState
  if s.waitForbidden req then
    let cause := Err.wrap "dap: non-stallable request returned WAIT" err
    if err ≠ .sentinel .swdWait then return some (← invalidateWait cause)
    return some cause
  if err = .sentinel .swdWait then
    if s.responseKnown then return none
    return some (← invalidateWait
      (.wrap "dap: cannot retry WAIT with unknown response framing" err))
  return some (← invalidateWait (.wrap "dap: complete WAIT response" err))

/-- `waitMayAffectAP`. -/
def waitMayAffectAP (req : Request) : Bool :=
  req.ap || (req.read && req.addr == dpRegisterOffset .rdbuff)

/-- `lostPostedRead`. -/
def lostPostedRead (ctx : Ctx) : PortM Err := do
  let cause := (← ctxErr ctx).getD (.sentinel .swdWait)
  return .join (.join cause errIndeterminate)
    (.text "dap: WAIT recovery discarded a posted AP read result")

/-- `soleRegisterWAIT`. -/
def soleRegisterWAIT : Err → Bool
  | .sentinel name => name == .dapWait || name == .swdWait
  | .join first second => soleRegisterWAIT first && soleRegisterWAIT second
  | .joinOne cause | .wrap _ cause | .requestNotSent cause | .rejectedRequest cause
  | .portError cause | .completedRegister cause | .completedRelease cause => soleRegisterWAIT cause
  | .fault _ _ cause _ => cause == some .dapWait || cause == some .swdWait
  | .text _ | .canceledWAIT _ => false

section Recovery

variable (recover : Err → PortM Err)

/-- `finishWait`. -/
def finishWait (cause : Err) : PortM Err := recover (.rejectedRequest cause)

/-- `stopWaiting`. -/
def stopWaiting (waits : Nat) (cause : Err) : PortM Err := do
  if waits = 0 then return .requestNotSent cause
  finishWait recover cause

/-- `stopAfterWAIT`. -/
def stopAfterWAIT (ctx : Ctx) (waits : Nat) : PortM (Option Err) := do
  if let some err ← ctxErr ctx then return some (← stopWaiting recover waits err)
  let maxWaits := (← getDP).maxWaits
  if maxWaits ≠ 0 ∧ waits ≥ maxWaits then
    return some (← finishWait recover (.sentinel .swdWait))
  return none

/-- `prepareWaitRetry`. -/
def prepareWaitRetry (ctx : Ctx) (req : Request) (err : Err) (waits : Nat) :
    PortM (Option Err) := do
  let cause ← canceledWAITCause ctx err
  if let some err ← validateWait req cause then
    if (← getDP).pendingRead then return some (indeterminate err)
    return some err
  let dp ← getDP
  if dp.pendingRead ∧ dp.state.response = .overrun then
    modifyState (·.invalidateAP)
    return some (← lostPostedRead ctx)
  stopAfterWAIT recover ctx waits

/-- `finishRetryError`. -/
def finishRetryError (req : Request) (value : Word) (err : Err) (waits : Nat) (apWork : Bool) :
    PortM Swd.Result := do
  if err = .sentinel .swdFault then return (0, some (← handleFault req apWork false))
  if err = .sentinel .swdParity then return (value, some err)
  if waits = 0 then return (0, some (← invalidateTransfer err))
  let cause := Err.wrap "dap: WAIT retry failed" err
  if err.is .canceled || err.is .deadlineExceeded then
    return (0, some (← invalidateWait cause))
  return (0, some (← invalidateWait (.join (.sentinel .swdWait) cause)))

/-- The loop of `transferWithAPRecovery`. The context ends no later than the turns do. -/
def transferLoop (ctx : Ctx) (req : Request) (data : Word) (apWork settlePrevious : Bool) :
    Nat → Nat → PortM Swd.Result
  | 0, waits => return (0, some (← stopWaiting recover waits ctx.cause.err))
  | turns + 1, waits => do
    if let some err ← ctxErr ctx then return (0, some (← stopWaiting recover waits err))
    let (value, err) ← transferOnce ctx req data
    resolveSELECT req value err
    if settlePrevious && responseSettlesPreviousDPWrite req err then
      modifyState (·.settleDPWrite)
    match err with
    | none => return (value, none)
    | some err =>
      if waits = 0 ∧ err.is .swdNotExecuted then return (0, some (.requestNotSent err))
      if !err.is .swdWait then finishRetryError req value err waits apWork
      else
        match ← prepareWaitRetry recover ctx req err (waits + 1) with
        | some err => return (0, some err)
        | none => transferLoop ctx req data apWork settlePrevious turns (waits + 1)

/-- `transferWithAPRecovery`. -/
def transferWithAPRecovery (ctx : Ctx) (req : Request) (data : Word)
    (apWork settlePrevious : Bool) : PortM Swd.Result := do
  if (← getState).response = .lost then return (0, some errFramingUnknown)
  let req ← stamp req
  transferLoop recover ctx req data apWork settlePrevious (← turns ctx) 0

/-! ### The register transport -/

/-- `finishRegisterFault`. -/
def finishRegisterFault (req : Request) (result : TransferResult) (cause : Err)
    (preserveAP : Bool) : PortM Swd.Result := do
  if req.isSELECTWrite ∧ result.outcome ≠ .rejected then modifyState (·.invalidateSELECT)
  let err := Err.join cause (← handleFault req (waitMayAffectAP req) preserveAP)
  if result.outcome = .rejected then return (0, some (.rejectedRequest err))
  if result.outcome = .indeterminate ∨ !req.read then return (0, some (indeterminate err))
  return (0, some err)

/-- `finishRegister`. -/
def finishRegister (req : Request) (result : TransferResult) (cause : Err) (preserveAP : Bool) :
    PortM Swd.Result := do
  if cause.is .dapProtocol then
    modifyState (·.loseFraming)
    return (0, some (indeterminate cause))
  if result.outcome = .unsent then return (0, some (notSent cause))
  if cause.is .dapFault then finishRegisterFault req result cause preserveAP
  else if result.outcome = .confirmed then
    if req.read ∧ cause.is .swdParity then return (0, some (indeterminate cause))
    else return (result.data, some (.completedRegister cause))
  else if result.outcome = .rejected then return (0, some (.rejectedRequest cause))
  else
    modifyState (·.loseFraming)
    return (0, some (indeterminate cause))

/-- `registerWait`. -/
def registerWait (ctx : Ctx) (req : Request) (cause : Err) (waits : Nat) :
    PortM (Option Err) := do
  if (← getState).waitForbidden req then
    modifyState (·.loseFraming)
    return some (.join (.join cause errProtocol)
      (.text "dap: non-stallable register request returned WAIT"))
  let cause ← canceledWAITCause ctx cause
  if !soleRegisterWAIT cause then return some (← finishWait recover cause)
  let maxWaits := (← getDP).maxWaits
  if maxWaits ≠ 0 ∧ waits ≥ maxWaits then return some (← finishWait recover cause)
  return none

/-- The loop of `transferRegister`. -/
def registerLoop (ctx : Ctx) (req : Request) (data : Word) (preserveAP : Bool) :
    Nat → Nat → PortM Swd.Result
  | 0, waits => return (0, some (← stopWaiting recover waits ctx.cause.err))
  | turns + 1, waits => do
    let result ← registerExchange ctx req data
    match result.cause with
    | none => return (result.data, none)
    | some cause =>
      if result.outcome = .rejected ∧ cause.is .dapWait then
        match ← registerWait recover ctx req cause (waits + 1) with
        | some err => return (0, some err)
        | none => registerLoop ctx req data preserveAP turns (waits + 1)
      else finishRegister req result cause preserveAP

/-- `transferRegister`. -/
def transferRegister (ctx : Ctx) (req : Request) (data : Word) (preserveAP : Bool) :
    PortM Swd.Result := do
  if (← getState).response = .lost then return (0, some errFramingUnknown)
  let req ← stamp req
  registerLoop recover ctx req data preserveAP (← turns ctx) 0

/-- `transfer`. -/
def transfer (ctx : Ctx) (req : Request) (data : Word) : PortM Swd.Result := do
  if (← getDP).binding = .register then transferRegister recover ctx req data false
  else
    let (value, err) ← transferWithAPRecovery recover ctx req data (waitMayAffectAP req) true
    return (value, classifyPortError err)

/-- `transferDPWriteBarrier`. -/
def transferDPWriteBarrier (ctx : Ctx) : PortM Swd.Result := do
  let (value, err) ← transferWithAPRecovery recover ctx (dpTransferRequest .rdbuff true) 0 false
    false
  if err.isNone || isErr err .swdParity || faultHasValidState err then
    modifyState (·.settleDPWrite)
  return (value, classifyPortError err)

end Recovery

end Ostiole.Dap
