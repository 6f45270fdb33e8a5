import Ostiole.Swd.Link

/-!
# Register transfers

`transfer.go` and the parts of `connection.go` and `options.go` it uses: one
register request without retry, the framing rules checked before it, and the
tracking of the selected DP bank after it.
-/

namespace Ostiole.Swd

open Ostiole

def errWait : Err := .sentinel .swdWait
def errFault : Err := .sentinel .swdFault
def errParity : Err := .sentinel .swdParity
def errProtocol : Err := .sentinel .swdProtocol
def errNotExecuted : Err := .sentinel .swdNotExecuted
def errIndeterminate : Err := .sentinel .swdIndeterminate

/-- Reports why `newRequest` refuses an address. -/
def newRequestErr (addr : BitVec 8) : Option Err :=
  if addr = 0x00 ∨ addr = 0x04 ∨ addr = 0x08 ∨ addr = 0x0c then none
  else some (.text ("swd: invalid register address " ++ hex 2 addr.toNat))

def notExecuted (cause : Err) : Err := .join errNotExecuted cause

def ackError : Ack → Option Err
  | .ok => none
  | .wait => some errWait
  | .fault => some errFault
  | .undefined => some errProtocol

/-- `decodeFixedFrame`, applied to the reply at its offset. -/
def decodeFixedFrame (reply : Target.Reply) (req : Request) : Result :=
  match ackError reply.ack with
  | some err => (0, some err)
  | none =>
    if !req.read then (0, none)
    else if !reply.parityOk then (0, some errParity)
    else (reply.data, none)

namespace Conn

def confirmBank (c : Conn) : Conn :=
  { c with priorBank := .zero, selectPending := false }

def invalidateBank (c : Conn) : Conn :=
  { c with bank := .zero }.confirmBank

/-- An idle connection needs no repair. -/
def requireRepair (c : Conn) : Conn :=
  if c.state = .idle then c else { c with state := .repair }.invalidateBank

def validateCompletion (c : Conn) : Option Err :=
  if c.completionTimeout ≤ 0 then some (.text "swd: completion timeout must be positive") else none

/-- A write at address 4 has to leave the framing alone. -/
def validateTransfer (c : Conn) (req : Request) (value : Word) : Option Err :=
  if req.ap ∨ req.read ∨ req.addr ≠ 0x04 then none
  else if c.selectPending ∨ !c.bank.valid then
    some (.text "swd: DP bank is unknown before write at address 0x04")
  else if c.bank.bank = 0 ∧ value.has 1 ≠ (c.response == .overrun) then
    some (.text "swd: CTRL/STAT.ORUNDETECT is owned by the connection")
  else if c.bank.bank = 1 ∧ value.has dlcrTurnaroundMask then
    some (.text "swd: DLCR turnaround changes are not supported")
  else none

end Conn

def isBankZeroCTRLSTATRead (req : Request) (bank prior : BankSelection) : Bool :=
  req.isCTRLSTATRead && bank.valid && bank.bank == 0 && prior.valid && prior.bank == 0

def isPossibleCTRLSTATRead (req : Request) (prior : BankSelection) : Bool :=
  req.isCTRLSTATRead && (!prior.valid || prior.bank == 0)

/-- Outcomes after which the connection still knows the framing. -/
def completeTransfer (err : Option Err) : Bool :=
  err.isNone || isExactly err .swdWait || isExactly err .swdFault || isExactly err .swdParity

namespace Conn

/-- WDATAERR says that the pending SELECT write was dropped. -/
def resolveBankZeroCTRLSTAT (c : Conn) (result : Word) (err : Option Err) : Conn :=
  if err.isSome then c
  else if result.has writeDataError then c.invalidateBank
  else c.confirmBank

/-- What a response says of a SELECT write before it. -/
def observePendingSelection (c : Conn) (req : Request) (result : Word) (err : Option Err) : Conn :=
  if req.isABORTWrite then
    if err.isNone then c.invalidateBank else c
  else if req.isDPIDRRead then c
  else if isBankZeroCTRLSTATRead req c.bank c.priorBank then c.resolveBankZeroCTRLSTAT result err
  else if isPossibleCTRLSTATRead req c.priorBank then c
  else if err.isNone || isExactly err .swdParity then c.confirmBank
  else c

/-- The bank a SELECT write asks for, pending until a later response confirms it. -/
def selectBank (c : Conn) (data : Word) : Conn :=
  { c with priorBank := c.bank, bank := ⟨data.setWidth 4, true⟩, selectPending := true }

/-- What is tracked after a transfer; repair is due where the framing is in doubt. -/
def observeTransfer (c : Conn) (req : Request) (result data : Word) (err : Option Err) : Conn :=
  if !completeTransfer err then c.requireRepair
  else
    let c := if c.selectPending then c.observePendingSelection req result err else c
    if req.isSELECTWrite && err.isNone then c.selectBank data else c

/-- Requests which the tracked bank shows to be exempt from sticky faults. -/
def stickyExempt (c : Conn) (req : Request) : Bool :=
  let bankZero := c.bank.valid && c.bank.bank == 0
  let bankZero := if c.selectPending then bankZero && c.priorBank.valid && c.priorBank.bank == 0
    else bankZero
  req.isDPIDRRead || req.isABORTWrite || (req.isCTRLSTATRead && bankZero)

end Conn

/-- `readData` after an OK acknowledgement; `value` only labels the log entry. -/
def readData (req : Request) (value : Word) (served : Target.Served) : LinkM Result := do
  match ← exchangeData req value served with
  | some err => return (0, some err)
  | none =>
    if !served.reply.parityOk then return (0, some errParity)
    return (served.reply.data, none)

/-- `writeData` after an OK acknowledgement. -/
def writeData (req : Request) (value : Word) (served : Target.Served) : LinkM Result := do
  return (0, ← exchangeData req value served)

/-- `finishFailed`: clock the turnaround and idle cycles after another acknowledgement. -/
def finishFailed (req : Request) (value : Word) (served : Target.Served) (ackErr : Err) :
    LinkM Result := do
  match ← exchangeData req value served with
  | some err => return (0, some (.join ackErr err))
  | none => return (0, some ackErr)

/-- A frame of fixed length, whatever the acknowledgement. -/
def transferOverrun (req : Request) (value : Word) : LinkM Result := do
  match ← exchangeFixed [(req, value)] with
  | .error err => return (0, some err)
  | .ok replies =>
    match replies with
    | reply :: _ => return decodeFixedFrame reply req
    | [] => return (0, none)

/-- Data follows an OK acknowledgement only. -/
def transferSimple (req : Request) (value : Word) : LinkM Result := do
  match ← exchangeHeader req value with
  | .error err => return (0, some err)
  | .ok served =>
    match ackError served.reply.ack with
    | some ackErr => finishFailed req value served ackErr
    | none => if req.read then readData req value served else writeData req value served

def transferFrame (req : Request) (value : Word) : LinkM Result := do
  if (← get).conn.response = .overrun then transferOverrun req value
  else transferSimple req value

/-- A DP request the connection makes for itself. -/
def rawRequest (read : Bool) (addr : BitVec 8) : Request := ⟨false, read, addr, none⟩

def clearOverrunAfterWAIT : LinkM (Option Err) := do
  let (_, err) ← transferFrame (rawRequest false 0x00) (1#32 <<< 4)
  match err with
  | some err =>
    modifyConn (·.requireRepair)
    return some (.wrap "swd: clear STICKYORUN after WAIT" err)
  | none => return none

def abortWAITErr : Err :=
  .text "swd: ABORT returned WAIT; STICKYORUN cleanup is unavailable"

/-- A frame, and with overrun detection the cleanup after WAIT. -/
def executeFrame (req : Request) (value : Word) : LinkM Result := do
  let (result, err) ← transferFrame req value
  if (← get).conn.response ≠ .overrun ∨ !isExactly err .swdWait then return (result, err)
  if req.isABORTWrite then
    modifyConn (·.requireRepair)
    return (result, some (.join errWait abortWAITErr))
  match ← clearOverrunAfterWAIT with
  | some cleanupErr => return (0, some (.join errWait cleanupErr))
  | none =>
    if (← get).conn.selectPending then modifyConn (·.requireRepair)
    return (result, err)

/-- The checks of `completionContext`; the derived context itself is part of the
schedule of the exchanges it covers. -/
def completionContext (ctx : Ctx) : LinkM (Option Err) := do
  match ← ctxErr ctx with
  | some err => return some err
  | none => return (← get).conn.validateCompletion

/-- `Conn.transfer`; no context stands for `context.WithoutCancel`. -/
def transfer (ctx : Option Ctx) (req : Request) (value : Word) : LinkM Result := do
  if (← get).conn.state ≠ .ready then
    return (0, some (notExecuted (.text "swd: connection is not ready; call Connect")))
  if let some ctx := ctx then
    if let some err ← ctxErr ctx then return (0, some (notExecuted err))
  if let some err := (← get).conn.validateTransfer req value then
    return (0, some (notExecuted err))
  if let some ctx := ctx then
    if let some err ← ctxErr ctx then return (0, some (notExecuted err))
  if let some err := (← get).conn.validateCompletion then return (0, some (notExecuted err))
  let (result, err) ← executeFrame req value
  modifyConn (·.observeTransfer req result value err)
  match ctx with
  | some ctx => return (result, ← completionError ctx err)
  | none => return (result, err)

/-- `Conn.read` and `Conn.write`, behind `ReadDP`, `WriteDP`, `ReadAP` and `WriteAP`. -/
def access (ctx : Ctx) (req : Request) (value : Word) : LinkM Result := do
  match newRequestErr req.addr with
  | some err => return (0, some (notExecuted err))
  | none => transfer (some ctx) req value

def readDP (ctx : Ctx) (addr : BitVec 8) : LinkM Result :=
  access ctx ⟨false, true, addr, none⟩ 0

def writeDP (ctx : Ctx) (addr : BitVec 8) (value : Word) : LinkM (Option Err) := do
  return (← access ctx ⟨false, false, addr, none⟩ value).2

def readAP (ctx : Ctx) (addr : BitVec 8) : LinkM Result :=
  access ctx ⟨true, true, addr, none⟩ 0

def writeAP (ctx : Ctx) (addr : BitVec 8) (value : Word) : LinkM (Option Err) := do
  return (← access ctx ⟨true, false, addr, none⟩ value).2

/-- `Conn.execute`: one frame outside the tracked register methods. -/
def execute (ctx : Ctx) (req : Request) (value : Word) : LinkM Result := do
  match ← completionContext ctx with
  | some err => return (0, some (notExecuted err))
  | none => executeFrame req value

def readRaw (ctx : Ctx) (addr : BitVec 8) : LinkM Result :=
  execute ctx (rawRequest true addr) 0

def writeRaw (ctx : Ctx) (addr : BitVec 8) (value : Word) : LinkM (Option Err) := do
  return (← execute ctx (rawRequest false addr) value).2

end Ostiole.Swd
