import Ostiole.Dap.State
import Ostiole.Swd.Lifecycle

/-!
# A debug port and what it is bound to

`World` holds a `DebugPort` together with its three possible bindings: a serial
wire, a transport of completed register operations, and a JTAG chain. Only the
binding named by the port is used. The register transport and the chain answer
from a schedule of their own, again an arbitrary function of time.
-/

namespace Ostiole.Dap

open Ostiole

/-- What `Port` binds. -/
inductive Binding where
  | swd | register | jtag
deriving DecidableEq, Repr

/-! ## The register transport -/

/-- `RegisterStatus`; `invalid` is every number but those of the declared constants. -/
inductive RegisterStatus where
  | completed | rejected | unsent | indeterminate
  | invalid (code : BitVec 8) (undeclared : code = 0 ∨ 4 < code)
deriving DecidableEq, Repr

/-- The answer to one register operation. -/
structure RegisterReply where
  value : Word
  status : RegisterStatus
  err : Option Err

/-- One register operation and its outcome. -/
structure RegisterEvent where
  req : Request
  data : Word
  status : RegisterStatus
  err : Option Err
deriving DecidableEq, Repr

/-- The transport may answer anything at any time. -/
structure RegisterTransport where
  connect : Nat → Word × Option Err
  operation : Nat → RegisterReply
  log : List RegisterEvent

/-! ## The JTAG chain -/

/-- Schedule of one data-register scan. -/
structure ScanChoice where
  failure : Option Swd.WireFault
  /-- Whether the request of a failed scan or of an undefined acknowledgement took effect. -/
  heard : Bool
  ack : BitVec 3
  /-- Sticky flags raised before the scan. -/
  raise : Word
  /-- The value captured when it is not the previous result. -/
  noise : Word
  powerAcks : Option Word

/-- The JTAG debug port: an accepted request leaves its result for the next scan. -/
structure JtagTarget where
  idcode : Word
  select : Word
  ctrlStat : Word
  apLog : List APAccess
  result : Word

/-- One scan of DPACC, APACC or ABORT. `seen` is absent when the scan failed,
its instruction scan included. `result` is what it left for the next scan. -/
structure Scan where
  req : Request
  data : Word
  select : Word
  seen : Option (BitVec 3)
  accepted : Bool
  result : Word
deriving DecidableEq, Repr

/-- The chain with its layout entry for the debug port. -/
structure Chain where
  expected : Word
  connect : Nat → Option Swd.WireFault
  tap : Nat → Option Swd.WireFault
  scanIR : Nat → Option Swd.WireFault
  scanDR : Nat → ScanChoice
  world : PortWorld
  target : JtagTarget
  log : List Scan

/-- The fields of `jtagExecutor` that outlive a call. -/
structure JtagExecutor where
  abortRequired : Bool
deriving DecidableEq, Repr

/-! ## The debug port -/

/-- `DebugPort`, with the fields of its executors. `recovering` is not a field:
routines that may run inside a recovery take the recovery as an argument. -/
structure DebugPort where
  binding : Binding
  maxWaits : Nat
  cleanupTimeout : Int
  identity : Identity
  identified : Bool
  addressBits : Nat
  reentryID : Identity
  reentryKnown : Bool
  state : State
  pendingRead : Bool
  jtag : JtagExecutor
deriving DecidableEq

/-- `NewDebugPort`. -/
def DebugPort.new (binding : Binding) (maxWaits : Nat) (cleanupTimeout : Int) : DebugPort where
  binding := binding
  maxWaits := maxWaits
  cleanupTimeout := cleanupTimeout
  identity := .zero
  identified := false
  addressBits := 0
  reentryID := .zero
  reentryKnown := false
  state := .initial
  pendingRead := false
  jtag := ⟨false⟩

structure World where
  /-- The wire; its clock is the clock of every binding. -/
  link : Swd.Link
  register : RegisterTransport
  chain : Chain
  dp : DebugPort
  /-- The next unused request identity. -/
  nextId : Nat

abbrev PortM := StateM World

/-- Run a routine of the wire. -/
def onLink {α : Type} (program : Swd.LinkM α) : PortM α := fun w =>
  let (value, link) := program w.link
  (value, { w with link := link })

def modifyDP (f : DebugPort → DebugPort) : PortM Unit := fun w => ((), { w with dp := f w.dp })

def modifyState (f : State → State) : PortM Unit :=
  modifyDP fun dp => { dp with state := f dp.state }

def getDP : PortM DebugPort := fun w => (w.dp, w)

def getState : PortM State := fun w => (w.dp.state, w)

/-- `ctx.Err()`. -/
def ctxErr (ctx : Ctx) : PortM (Option Err) := onLink (Swd.ctxErr ctx)

/-- `DebugPort.cleanupContext`. -/
def cleanupContext : PortM Ctx := onLink Swd.cleanupContext

/-- Turns left to a loop that reads the context. -/
def turns (ctx : Ctx) : PortM Nat := fun w => (ctx.turns w.link.clock + 1, w)

/-- Give a request an identity of its own. -/
def stamp (req : Request) : PortM Request := fun w =>
  ({ req with tag := req.tag.map fun tag => { tag with id := w.nextId } },
    { w with nextId := w.nextId + 1 })

end Ostiole.Dap
