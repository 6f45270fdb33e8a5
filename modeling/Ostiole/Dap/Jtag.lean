import Ostiole.Dap.Executor

/-!
# The JTAG executor

`jtag_executor.go`, `jtag_registers.go`, `jtag_ap.go`, `jtag_fault.go` and
`jtag_lifecycle.go`. A scan returns the result of the previously accepted
request; WAIT discards the request it carried.
-/

namespace Ostiole.Dap

open Ostiole

/-- `jtagSticky`. -/
def jtagSticky : Word := stickyOverrun ||| stickyCompare ||| stickyError

/-! ## The target -/

namespace JtagTarget

/-- A CTRL/STAT write clears the sticky flags it names. -/
def writeCTRLSTAT (t : JtagTarget) (value : Word) : JtagTarget :=
  let sticky := t.ctrlStat &&& jtagSticky &&& ~~~value
  { t with ctrlStat := sticky ||| (value &&& ~~~(jtagSticky ||| powerAckFlags)) }

def readCTRLSTAT (t : JtagTarget) (c : ScanChoice) : Word :=
  (t.ctrlStat &&& ~~~powerAckFlags) |||
    ((c.powerAcks.getD (powerAcks t.ctrlStat)) &&& powerAckFlags)

/-- Carry out an accepted request. A sticky flag discards AP accesses. -/
def accept (t : JtagTarget) (world : PortWorld) (c : ScanChoice) (req : Request) (data : Word) :
    JtagTarget :=
  if req.ap then
    if t.ctrlStat.has jtagSticky then { t with result := c.noise }
    else
      let history := t.apLog ++
        [⟨t.select, 0, req.addr, if req.read then none else some data⟩]
      { t with apLog := history, result := if req.read then world.apRead history else 0 }
  else if req.read then
    if req.addr = 0x04 then { t with result := t.readCTRLSTAT c }
    else if req.addr = 0x08 then { t with result := t.select }
    else { t with result := 0 }
  else if req.addr = 0x04 then { t.writeCTRLSTAT data with result := 0 }
  else if req.addr = 0x08 then { t with select := data, result := 0 }
  else { t with result := 0 }

end JtagTarget

/-! ## Scans -/

/-- The instruction scan that precedes every data scan. -/
def scanIR : PortM (Option Err) := fun w =>
  ((w.chain.scanIR w.link.clock).map (·.err), { w with link := w.link.tick })

/-- The data scan of DPACC or APACC: captured value and acknowledgement. -/
def scanAccess (req : Request) (data : Word) : PortM (Except Err (Word × BitVec 3)) := fun w =>
  let c := w.chain.scanDR w.link.clock
  let target := { w.chain.target with
    ctrlStat := w.chain.target.ctrlStat ||| (c.raise &&& jtagSticky) }
  let accepted := match c.failure with
    | some _ => c.heard
    | none => c.ack == 2 || (c.ack != 1 && c.heard)
  let seen := if c.failure.isNone then some c.ack else none
  let next := if accepted then target.accept w.chain.world c req data else target
  let log := w.chain.log ++ [⟨req, data, target.select, seen, accepted, next.result⟩]
  let captured := if c.ack = 2 then target.result else c.noise
  (match c.failure with
    | some fault => .error fault.err
    | none => .ok (captured, c.ack),
    { w with link := w.link.tick, chain := { w.chain with target := next, log := log } })

/-- The log entry of a request whose instruction scan failed. -/
def recordUnshifted (req : Request) (data : Word) : PortM Unit := fun w =>
  ((), { w with chain := { w.chain with
    log := w.chain.log ++ [⟨req, data, w.chain.target.select, none, false, w.chain.target.result⟩] }
      })

/-- The data scan of ABORT. Whatever its outcome, the abort may have happened. -/
def scanAbort : PortM (Option Err) := fun w =>
  let c := w.chain.scanDR w.link.clock
  let seen := if c.failure.isNone then some c.ack else none
  let log := w.chain.log ++
    [⟨{ dpTransferRequest .abort false with tag := none }, dapAbort, w.chain.target.select, seen,
      true, w.chain.target.result⟩]
  (c.failure.map (·.err),
    { w with link := w.link.tick, chain := { w.chain with log := log } })

/-- The data scan of IDCODE. -/
def scanIDCODE : PortM (Except Err Word) := fun w =>
  let c := w.chain.scanDR w.link.clock
  (match c.failure with
    | some fault => .error fault.err
    | none => .ok (if c.heard then c.noise else w.chain.target.idcode),
    { w with link := w.link.tick })

/-- `exchange`: a failed scan loses the framing. -/
def jtagExchange (req : Request) (data : Word) : PortM (Except Err (Word × BitVec 3)) := do
  if let some err ← scanIR then
    recordUnshifted req data
    modifyState (·.loseFraming)
    return .error err
  match ← scanAccess req data with
  | .error err =>
    modifyState (·.loseFraming)
    return .error err
  | .ok captured => return .ok captured

/-- The loop of `poll`. -/
def pollLoop (ctx : Ctx) (next : Request) (data : Word) : Nat → Nat → PortM Swd.Result
  | 0, _ => return (0, some ctx.cause.err)
  | turns + 1, waits => do
    if let some err ← ctxErr ctx then return (0, some err)
    match ← jtagExchange next data with
    | .error err => return (0, some err)
    | .ok (value, ack) =>
      if ack = 2 then return (value, none)
      if ack = 1 then
        if let some err ← ctxErr ctx then return (0, some err)
        let maxWaits := (← getDP).maxWaits
        if maxWaits ≠ 0 ∧ waits + 1 ≥ maxWaits then return (0, some errWait)
        pollLoop ctx next data turns (waits + 1)
      else
        modifyState (·.loseFraming)
        return (0, some (.wrap ("dap: JTAG acknowledgement " ++ hex 0 ack.toNat) errProtocol))

/-- `poll`: shift a request until it is accepted. -/
def poll (ctx : Ctx) (next : Request) (data : Word) : PortM Swd.Result := do
  let next ← stamp next
  pollLoop ctx next data (← turns ctx) 0

/-- `jtagExecutor.transfer`. -/
def jtagTransfer (ctx : Ctx) (req : Request) (data : Word) : PortM TransferResult := do
  if let some err ← ctxErr ctx then return ⟨0, some err, .unsent⟩
  let (_, err) ← poll ctx req data
  if let some err := err then
    let lost := (← getState).response == .lost
    return ⟨0, some err, if lost then .indeterminate else .unsent⟩
  let (value, err) ← poll ctx (dpTransferRequest .rdbuff true) 0
  if let some err := err then
    let lost := (← getState).response == .lost
    return ⟨0, some err, if lost then .indeterminate else .inFlight⟩
  return ⟨value, none, .confirmed⟩

/-- Whether the request may have started without confirmed completion. -/
def TransferOutcome.uncertain (outcome : TransferOutcome) : Bool :=
  outcome == .inFlight || outcome == .indeterminate

/-- `jtagResultError`. -/
def jtagResultError (result : TransferResult) : Option Err :=
  result.cause.map fun cause => if result.outcome.uncertain then indeterminate cause else cause

def modifyJtag (f : JtagExecutor → JtagExecutor) : PortM Unit :=
  modifyDP fun dp => { dp with jtag := f dp.jtag }

/-- `abort`: a DAPABORT scan. -/
def jtagAbort : PortM (Option Err) := do
  if let some err ← scanIR then
    modifyState (·.loseFraming)
    return some err
  if let some err ← scanAbort then
    modifyState (·.loseFraming)
    return some err
  return none

/-- `idcode`. -/
def jtagIdcode : PortM Swd.Result := do
  if let some err ← scanIR then
    modifyState (·.loseFraming)
    return (0, some err)
  match ← scanIDCODE with
  | .error err =>
    modifyState (·.loseFraming)
    return (0, some err)
  | .ok value => return (value, none)

/-- `prime`. -/
def prime (ctx : Ctx) : PortM (Option Err) := do
  let (_, err) ← poll ctx (dpTransferRequest .rdbuff true) 0
  if err.isSome then return err
  return (← poll ctx (dpTransferRequest .rdbuff true) 0).2

/-- `abortPending`. -/
def abortPending : PortM (Option Err) := do
  if !(← getDP).jtag.abortRequired then return none
  if let some err ← jtagAbort then return some err
  modifyJtag fun e => { e with abortRequired := false }
  return none

/-! ## Registers -/

/-- `jtagExecutor.register`. -/
def jtagRegister (reg : DPRegister) (write : Bool) : Except Err RegisterInfo :=
  let info := describeDPRegister reg
  if reg = .idcode ∨ reg = .ctrlStat ∨ reg = .select ∨ reg = .rdbuff ∨ reg = .abort then
    let info := { info with
      bankIndependent := true
      readable := info.readable || reg == .select }
    if (write ∧ !info.writable) ∨ (!write ∧ !info.readable) then
      .error (.text ("dap: unsupported " ++ info.name ++ " access direction"))
    else .ok info
  else .error (.text ("dap: " ++ info.name ++ " is unavailable on baseline JTAG-DP"))

/-- `jtagExecutor.validateWrite`. -/
def jtagValidateWrite (reg : DPRegister) (value : Word) : Option Err :=
  if reg = .abort ∧ value ≠ dapAbort then
    some (.text "dap: baseline JTAG ABORT permits only DAPABORT")
  else if reg = .ctrlStat ∧ value.has (transactionModes ||| overrunDetect) then
    some (.text ("dap: CTRL/STAT cannot enable ORUNDETECT, pushed operations, " ++
      "or transaction counting"))
  else if reg = .select ∧ value.has 0x00ffff0f then
    some (.text "dap: baseline JTAG SELECT has no DP register banks")
  else none

/-- `jtagExecutor.readDP`. -/
def jtagReadDP (ctx : Ctx) (reg : DPRegister) : PortM Swd.Result := do
  if reg = .idcode then jtagIdcode
  else
    let result ← jtagTransfer ctx (dpTransferRequest reg true) 0
    return (result.data, jtagResultError result)

/-- `jtagExecutor.writeDP`. -/
def jtagWriteDP (ctx : Ctx) (reg : DPRegister) (value : Word) : PortM (Option Err) := do
  if let some err ← ctxErr ctx then return some err
  if reg = .abort then
    modifyState (·.invalidateAP)
    modifyJtag fun e => { e with abortRequired := true }
    if let some err ← abortPending then return some err
    prime ctx
  else
    let result ← jtagTransfer ctx (dpTransferRequest reg false) value
    match jtagResultError result with
    | some err =>
      if result.outcome.uncertain then modifyState (·.loseFraming)
      return some err
    | none =>
      if reg = .select then modifyState fun s => (s.recordSELECT value).confirmSELECT
      return none

/-! ## Entry -/

end Ostiole.Dap
