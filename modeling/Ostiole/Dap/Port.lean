import Ostiole.Dap.Jtag

/-!
# Debug-port and access-port operations

`swddp.go`, `ap.go`, `apv2.go` and `swd_ap.go`, with the protocol re-entry of
`lifecycle.go` and the WAIT recovery of `wait.go` that uses it.
-/

namespace Ostiole.Dap

open Ostiole

/-! ## Validation -/

namespace DebugPort

/-- The version field of the identity in use. -/
def version (dp : DebugPort) : Nat := dp.reentryID.dpidr.version

/-- `describeRegister`. -/
def describeRegister (dp : DebugPort) (reg : DPRegister) : RegisterInfo :=
  let info := describeDPRegister reg
  if reg = .dpidr ∧ dp.version = 3 then { info with bankIndependent := false } else info

/-- `validateBankedDPRegister`. -/
def validateBankedDPRegister (dp : DebugPort) (info : RegisterInfo) : Option Err :=
  if dp.state.session = .idle ∨ !dp.reentryKnown then
    some (.text "dap: banked DP access requires an active connection")
  else if dp.version > 3 then
    some (.text s!"dap: banked DP access does not support DPv{dp.version}")
  else if dp.version < info.minVersion then
    some (.text ("dap: " ++ info.name ++ s!" requires DPv{info.minVersion} or later"))
  else none

/-- `validateDPRegister`. -/
def validateDPRegister (dp : DebugPort) (reg : DPRegister) (write : Bool) :
    Except Err RegisterInfo :=
  if dp.binding = .jtag then jtagRegister reg write
  else if reg = .idcode then .error (.text "dap: IDCODE is unavailable on SW-DP")
  else
    let info := dp.describeRegister reg
    if write ∧ !info.writable then .error (.text ("dap: " ++ info.name ++ " is read-only"))
    else if !write ∧ !info.readable then .error (.text ("dap: " ++ info.name ++ " is write-only"))
    else if !info.bankIndependent ∧ info.bank ≠ 0 then
      match dp.validateBankedDPRegister info with
      | some err => .error err
      | none => .ok info
    else .ok info

/-- `validateSelectionAddress`. -/
def validateSelectionAddress (dp : DebugPort) (reg : DPRegister) (value : Word) : Option Err :=
  let address : BitVec 64 :=
    if reg = .select1 then value.setWidth 64 <<< 32 else (value &&& ~~~15#32).setWidth 64
  if dp.version = 3 ∧ (reg = .select ∨ reg = .select1) ∧ address >>> dp.addressBits ≠ 0 then
    some (.text ("dap: " ++ (describeDPRegister reg).name ++
      s!" address exceeds {dp.addressBits} bits"))
  else none

/-- `validateSWDControl`. -/
def validateSWDControl (dp : DebugPort) (value : Word) : Option Err :=
  if value.has transactionModes then
    some (.text "dap: CTRL/STAT transaction modes are not supported")
  else if !dp.state.responseKnown then
    some (.text "dap: write CTRL/STAT requires a known SWD response grammar")
  else if value.has overrunDetect ≠ (dp.state.response == .overrun) then
    some (.text "dap: write CTRL/STAT: ORUNDETECT is owned by the SWD connection")
  else if dp.version = 3 ∧ value.has errorMode then
    some (.text "dap: DP ERRMODE is not supported")
  else none

/-- `validateDPWrite`. -/
def validateDPWrite (dp : DebugPort) (reg : DPRegister) (value : Word) : Except Err RegisterInfo :=
  match dp.validateDPRegister reg true with
  | .error err => .error err
  | .ok info =>
    if dp.binding = .jtag then
      match jtagValidateWrite reg value with
      | some err => .error err
      | none => .ok info
    else
      let control := if reg = .ctrlStat then dp.validateSWDControl value else none
      match control with
      | some err => .error err
      | none =>
        if reg = .dlcr ∧ value.has dlcrTurnaroundMask then
          .error (.text
            "dap: write DLCR: variable turnaround requires unsupported SWD framing")
        else
          match dp.validateSelectionAddress reg value with
          | some err => .error err
          | none => .ok info

/-- `repairPendingError`. -/
def repairPendingError (dp : DebugPort) : Err :=
  let err := Err.text "dap: debug-port cleanup is pending"
  if dp.state.response = .lost then .join err errFramingUnknown else err

/-- `requireOperational`. -/
def requireOperational (dp : DebugPort) : Option Err :=
  if dp.state.session = .repairRequired then some dp.repairPendingError
  else if dp.state.session ≠ .connected then some (.text "dap: debug port is not connected")
  else none

/-- `requireConnected`. -/
def requireConnected (dp : DebugPort) : Option Err :=
  if dp.state.session = .idle then some (.text "dap: debug port is not connected")
  else if dp.state.session = .repairRequired then some dp.repairPendingError
  else none

end DebugPort

/-! ## Recording accesses -/

/-- `recordDPWriteState`. -/
def DebugPort.recordDPWriteState (dp : DebugPort) (reg : DPRegister) (value : Word) : DebugPort :=
  let s := dp.state.beginDPWrite
  let s := if reg = .select then s.recordSELECT value else s
  let s := if dp.binding = .register then s.confirmSELECT.settleDPWrite else s
  { dp with state := s }

/-- `recordDPWrite`. -/
def DebugPort.recordDPWrite (dp : DebugPort) (reg : DPRegister) (value : Word) : DebugPort :=
  let dp := dp.recordDPWriteState reg value
  if reg = .abort ∧ value.has dapAbort then { dp with state := dp.state.invalidateAP } else dp

/-- `recordFailedDPWrite`. -/
def DebugPort.recordFailedDPWrite (dp : DebugPort) (reg : DPRegister) (value : Word)
    (err : Option Err) : DebugPort :=
  if registerCompletionKnown err then dp.recordDPWrite reg value
  else if dp.binding = .register ∧ reg = .abort ∧ value.has dapAbort ∧
      !requestWasNotSent err ∧ !requestWasRejected err then
    { dp with state := dp.state.invalidateAP }
  else dp

/-- `recordDPRead`. -/
def State.recordDPRead (s : State) (reg : DPRegister) (value : Word) : State :=
  let s := if reg ≠ .dpidr ∧ reg ≠ .ctrlStat then s.settleDPWrite else s
  if reg = .ctrlStat ∧ s.selectDP.valid ∧ s.dpBank = 0 then s.confirmResponse value else s

/-- The request of a DP access, naming the bank it is described with. -/
def dpRequest (reg : DPRegister) (info : RegisterInfo) (read : Bool) : Request :=
  { dpTransferRequest reg read with tag := some ⟨0, info.named, none⟩ }

section Recovery

variable (recover : Err → PortM Err)

/-! ## DP reads and writes -/

/-- `readDPRegister`. -/
def readDPRegister (ctx : Ctx) (reg : DPRegister) (info : RegisterInfo) : PortM Swd.Result := do
  let (value, err) ←
    if reg = .rdbuff ∧ (← getState).dpWritePending then transferDPWriteBarrier recover ctx
    else transfer recover ctx (dpRequest reg info true) 0
  if err.isSome ∧ !registerCompletionKnown err then
    return (0, err.map (.wrap ("dap: read " ++ info.name)))
  modifyState (·.recordDPRead reg value)
  return (value, err)

/-- `readDP` of RDBUFF, which needs no bank. -/
def readRDBUFF (ctx : Ctx) : PortM Swd.Result := do
  if (← getDP).binding = .jtag then jtagReadDP ctx .rdbuff
  else readDPRegister recover ctx .rdbuff (describeDPRegister .rdbuff)

/-- `settlePreviousDPWrite`. -/
def settlePreviousDPWrite (ctx : Ctx) : PortM (Option Err) := do
  if !(← getState).dpWritePending then return none
  let (_, err) ← transferDPWriteBarrier recover ctx
  return err.map (.wrap "dap: settle previous DP write")

/-- `confirmPendingSELECT`. -/
def confirmPendingSELECT (ctx : Ctx) : PortM (Option Err) := do
  if !(← getState).selectPending then return none
  let (_, err) ← readRDBUFF recover ctx
  return err.map (.wrap "dap: confirm SELECT before banked DP access")

/-- The end of `writeDP`: the transfer and its record. -/
def sendDPWrite (ctx : Ctx) (reg : DPRegister) (info : RegisterInfo) (value : Word) :
    PortM (Option Err) := do
  let (_, err) ← transfer recover ctx (dpRequest reg info false) value
  if err.isSome then
    modifyDP (·.recordFailedDPWrite reg value err)
    return err.map (.wrap ("dap: write " ++ info.name))
  modifyDP (·.recordDPWrite reg value)
  return none

/-- `writeDP` of SELECT, which needs no bank. -/
def writeSELECT (ctx : Ctx) (value : Word) : PortM (Option Err) := do
  match (← getDP).validateDPWrite .select value with
  | .error err => return some err
  | .ok info =>
    if (← getDP).binding = .jtag then jtagWriteDP ctx .select value
    else sendDPWrite recover ctx .select info value

/-- `selectDPBank`. -/
def selectDPBank (ctx : Ctx) (bank : BitVec 4) : PortM (Option Err) := do
  let s ← getState
  if s.selectDP.valid ∧ s.dpBank = bank then confirmPendingSELECT recover ctx
  else
    let value : Word := bank.setWidth 32 |||
      (if s.selectDP.valid then s.selectDP.value &&& ~~~0x0f#32 else 0)
    if let some err ← writeSELECT recover ctx value then return some err
    confirmPendingSELECT recover ctx

/-- `prepareDPWrite`. -/
def prepareDPWrite (ctx : Ctx) (info : RegisterInfo) : PortM (Option Err) := do
  if info.bankIndependent then return none
  if let some err ← confirmPendingSELECT recover ctx then return some err
  selectDPBank recover ctx info.bank

/-- The bank selection of `readDP`. Only a failure to select is marked as not sent. -/
def prepareDPRead (ctx : Ctx) (info : RegisterInfo) : PortM (Option Err) := do
  if info.bankIndependent then return none
  if let some err ← confirmPendingSELECT recover ctx then return some err
  return (← selectDPBank recover ctx info.bank).map notSent

/-- `readDP`. -/
def readDP (ctx : Ctx) (reg : DPRegister) : PortM Swd.Result := do
  match (← getDP).validateDPRegister reg false with
  | .error err => return (0, some err)
  | .ok info =>
    if (← getDP).binding = .jtag then jtagReadDP ctx reg
    else
      if (reg = .ctrlStat ∨ reg = .dpidr) ∧ (← getState).dpWritePending then
        if let some err ← settlePreviousDPWrite recover ctx then return (0, some err)
      if let some err ← prepareDPRead recover ctx info then return (0, some err)
      readDPRegister recover ctx reg info

/-- `writeDP`. -/
def writeDP (ctx : Ctx) (reg : DPRegister) (value : Word) : PortM (Option Err) := do
  match (← getDP).validateDPWrite reg value with
  | .error err => return some err
  | .ok info =>
    if (← getDP).binding = .jtag then jtagWriteDP ctx reg value
    else
      if let some err ← prepareDPWrite recover ctx info then return some (notSent err)
      sendDPWrite recover ctx reg info value

/-! ## Protocol re-entry -/

end Recovery

/-! ## WAIT recovery -/

end Ostiole.Dap
