import Ostiole.Go.Context
import Ostiole.Jtag.Buffer

/-!
# J-Link sessions

`jlink.Session` sends commands over a bulk OUT endpoint and reads their responses from
a bulk IN endpoint. The probe parses the bytes it receives by the command grammar and
emits a response for every complete command. How bulk transfers end, how many bytes
they move and what the probe answers is fixed by a schedule. A log keeps the commands,
the submissions and the answers.
-/

namespace Ostiole.Jlink

open Ostiole

abbrev Byte := Jtag.Byte

abbrev Bytes := Jtag.Buffer

/-- A little-endian number. -/
def littleEndian : Bytes → Nat
  | [] => 0
  | byte :: rest => byte.toNat + 256 * littleEndian rest

/-! ## Commands -/

def commandVersion : Byte := 0x01
def commandClockSet : Byte := 0x05
def commandClockDescribe : Byte := 0xc0
def commandInterface : Byte := 0xc7
def commandScanV3 : Byte := 0xcf
def commandWorkspace : Byte := 0xd4
def commandCapabilitiesShort : Byte := 0xe8
def commandCapabilitiesLong : Byte := 0xed
def commandHardwareVersion : Byte := 0xf0

def capabilityHardwareVersion : Nat := 1
def capabilityClock : Nat := 9
def capabilityWorkspace : Nat := 11
def capabilityInterface : Nat := 17
def capabilityLong : Nat := 31

def interfaceSWD : Nat := 1
def interfaceJTAG : Nat := 0
def defaultTransferBits : Nat := 504
def minimumSWDFrameBits : Nat := 136

/-- The bytes of a stream of bits. -/
def streamBytes (bits : Nat) : Nat := (bits + 7) / 8

/-- The size of the command that begins with these bytes, once they show it. -/
def requestSize : Bytes → Option Nat
  | [] => none
  | command :: rest =>
    if command = commandInterface then some 2
    else if command = commandClockSet then some 3
    else if command = commandScanV3 then
      match rest with
      | _ :: low :: high :: _ => some (4 + 2 * streamBytes (littleEndian [low, high]))
      | _ => none
    else some 1

/-- The documented size of a response. The version response begins with its length. -/
def responseSize (request response : Bytes) : Nat :=
  match request with
  | [] => 0
  | command :: rest =>
    if command = commandVersion then 2 + littleEndian (response.take 2)
    else if command = commandClockSet then 0
    else if command = commandClockDescribe then 6
    else if command = commandScanV3 then streamBytes (littleEndian ((rest.drop 1).take 2)) + 1
    else if command = commandCapabilitiesLong then 32
    else 4

/-- A response has the documented size. -/
def Documented (request response : Bytes) : Prop := response.length = responseSize request response

/-! ## State -/

/-- `Info`, without the fields only callers read. -/
structure Info where
  firmwareRecord : Bytes
  hardware : Nat
  hardwareKnown : Bool
  capabilities : Bytes
  workspace : Nat
  workspaceKnown : Bool
  availableInterfaces : Nat
  selectedInterface : Nat
  selectedInterfaceKnown : Bool
deriving DecidableEq, Repr

/-- `Session`. `device` and `claim` say whether they are still held. -/
structure Session where
  device : Bool
  claim : Bool
  maxPacketSize : Nat
  input : Bytes
  info : Info
  poisoned : Bool
  configured : Bool
  clockHz : Nat
  transferBits : Nat
  delayInput : Bool
  inputCarry : Bool
  probeOwned : Bool
  scanFailed : Bool
  gone : Bool
  closing : Bool
deriving DecidableEq, Repr

/-- The probe's side: the part of a command it has received, and what it has emitted
and not delivered. -/
structure Probe where
  received : Bytes
  outgoing : Bytes
deriving DecidableEq, Repr

inductive Event where
  | begins (request : Bytes)
  | submitted (output : Bool) (err : Option Err)
  | answered (request response : Bytes)
  | returned (result : Except Err Bytes)

/-- An event, with the session and the probe when it happened. -/
structure Entry where
  session : Session
  probe : Probe
  event : Event

/-- How the bulk transfers end at each instant, and what the probe answers. `moved` is
what a transfer that fails has moved. Package `usb` does not know the sentinel of this
one. -/
structure Env where
  submit : Nat → Option Err
  foreign : ∀ now err, submit now = some err → err.is .jlinkPoisoned = false
  wait : Nat → Int × Option Err
  abort : Nat → Option Err
  completion : Nat → Option Err
  moved : Nat → Nat
  respond : Nat → Bytes → Bytes
  closeClaim : Nat → Option Err
  claimPending : Nat → Bool
  closeDevice : Nat → Option Err
  devicePending : Nat → Bool

structure World where
  env : Env
  clock : Nat
  session : Session
  probe : Probe
  log : List Entry

/-- A probe that emits the documented number of bytes for every command. -/
def World.Conforms (w : World) : Prop :=
  ∀ now request, Documented request (w.env.respond now request)

abbrev JlinkS := StateM World

abbrev JlinkM := ExceptT Err JlinkS

def modifySession (f : Session → Session) : JlinkS Unit := modify fun w =>
  { w with session := f w.session }

def modifyProbe (f : Probe → Probe) : JlinkS Unit := modify fun w => { w with probe := f w.probe }

def record (event : Event) : JlinkS Unit := modify fun w =>
  { w with log := w.log ++ [⟨w.session, w.probe, event⟩] }

def ask {α : Type} (question : Env → Nat → α) : JlinkS α := fun w =>
  (question w.env w.clock, { w with clock := w.clock + 1 })

def ctxErr (ctx : Ctx) : JlinkS (Option Err) := fun w =>
  (ctx.err w.clock, { w with clock := w.clock + 1 })

/-! ## Bulk transfers -/

/-- The probe takes one byte, and answers a command it completes. -/
def receiveByte (byte : Byte) : JlinkS Unit := do
  let w ← get
  let request := w.probe.received ++ [byte]
  if requestSize request = some request.length then
    let response := w.env.respond w.clock request
    record (.answered request response)
    modifyProbe fun p => ⟨[], p.outgoing ++ response⟩
  else modifyProbe fun p => { p with received := request }

def receive : Bytes → JlinkS Unit
  | [] => return ()
  | byte :: rest => do
    receiveByte byte
    receive rest

/-- A bulk transfer: bytes to send, or a buffer to fill. -/
inductive Transfer where
  | output (data : Bytes)
  | input (size : Nat)

def Transfer.size : Transfer → Nat
  | .output data => data.length
  | .input size => size

def Transfer.isOutput : Transfer → Bool
  | .output _ => true
  | .input _ => false

/-- `SubmitBulk`. -/
def submitBulk (transfer : Transfer) : JlinkS (Option Err) := do
  let err ← ask Env.submit
  record (.submitted transfer.isOutput err)
  return err

/-- What a transfer moves: as many bytes as it reports, if it reports a number it may. -/
def transferred (transfer : Transfer) (count : Int) (err : Option Err) (moved : Nat) : Nat :=
  if err.isNone ∧ 0 ≤ count ∧ count ≤ transfer.size then count.toNat else moved

/-- What `Wait` says of a read: a packet is as long as what the probe had to send. -/
def reported (size : Nat) (packet : Bytes) (count : Int) (err : Option Err) :
    Bytes × Int × Option Err :=
  if err.isNone ∧ 0 ≤ count ∧ count ≤ size then (packet, packet.length, none) else ([], count, err)

/-- `Wait`: the bytes read, the count and the error. -/
def wait (transfer : Transfer) : JlinkS (Bytes × Int × Option Err) := do
  let moved ← ask Env.moved
  let (count, err) ← ask Env.wait
  let amount := transferred transfer count err moved
  match transfer with
  | .output data =>
    receive (data.take amount)
    return ([], count, err)
  | .input size =>
    let packet := (← get).probe.outgoing.take amount
    modifyProbe fun p => { p with outgoing := p.outgoing.drop amount }
    return reported size packet count err

/-- `recordLoss`. -/
def recordLoss (err : Option Err) : JlinkS Unit :=
  modifySession fun s => { s with gone := s.gone || isErr err .deviceGone }

/-- `poison`, of an error. -/
def poison (err : Err) : JlinkS Err := do
  modifySession fun s => { s with poisoned := true }
  return .join err (.sentinel .jlinkPoisoned)

/-- The error of a transfer that failed once the context had ended. -/
def transferError (err cause : Err) : Err :=
  match cause with
  | .sentinel name => if err.is name then err else .join err cause
  | _ => .join err cause

/-- The end of `bulkTransfer` for such a transfer. -/
def abandonTransfer (transferErr : Err) : JlinkS Err := do
  let abortErr ← ask Env.abort
  recordLoss abortErr
  match abortErr with
  | some abortErr => poison (.join transferErr abortErr)
  | none => poison ((Err.joined (some transferErr) (← ask Env.completion)).getD transferErr)

/-- `bulkTransfer`. -/
def bulkTransfer (ctx : Ctx) (transfer : Transfer) : JlinkS (Bytes × Int × Option Err) := do
  let submitted ← submitBulk transfer
  recordLoss submitted
  if submitted.isSome then return ([], 0, submitted)
  let (bytes, count, err) ← wait transfer
  recordLoss err
  match err with
  | none => return (bytes, count, none)
  | some err =>
    match ← ctxErr ctx with
    | none => return ([], count, some (← poison err))
    | some cause => return ([], 0, some (← abandonTransfer (transferError err cause)))

/-! ## Exact reads and writes -/

/-- Fail with an error that poisons the session. -/
def fatal {α : Type} (err : Err) : JlinkM α := do
  throw (← poison err)

/-- `sessionReady`. -/
def sessionReady : JlinkM Unit := do
  let s := (← get).session
  if !s.device || s.closing then throw (.text "jlink: session is closed")
  else if !s.claim then throw (.text "jlink: application interface is closed")
  else if s.gone then throw (.sentinel .deviceGone)
  else if s.poisoned then throw (.sentinel .jlinkPoisoned)
  else return ()

/-- `transportReady`. -/
def transportReady (ctx : Ctx) : JlinkM Unit := do
  sessionReady
  match ← ctxErr ctx with
  | some err => throw err
  | none => return ()

/-- What `writeExact` makes of a transfer, the first one or a later one. -/
def checkWrite (first : Bool) (data : Bytes) (count : Int) (err : Option Err) : JlinkM Unit :=
  if count < 0 ∨ count > data.length then
    fatal (.text ("jlink: invalid bulk-write count " ++ toString count ++ " for " ++
      toString data.length ++ " bytes"))
  else match err with
    | some err => if first then throw err else fatal err
    | none => if count = 0 then fatal (.sentinel .noProgress) else return ()

/-- The loop of `writeExact` on the rest of the data. Every turn writes at least one
byte, so as many turns suffice as there are bytes. -/
def writeFrom (ctx : Ctx) : Nat → Bool → Bytes → JlinkM Unit
  | 0, _, _ => return ()
  | turns + 1, first, data =>
    if data.isEmpty then return ()
    else do
      let (_, count, err) ← bulkTransfer ctx (.output data)
      checkWrite first data count err
      writeFrom ctx turns false (data.drop count.toNat)

/-- `writeExact`. -/
def writeExact (ctx : Ctx) (data : Bytes) : JlinkM Unit := do
  transportReady ctx
  writeFrom ctx data.length true data

/-- What `readBulk` makes of a transfer. -/
def checkRead (size : Nat) (bytes : Bytes) (count : Int) (err : Option Err) : JlinkM Bytes :=
  match err with
  | some err => throw err
  | none =>
    if count < 0 ∨ count > size then
      throw (.text ("jlink: invalid bulk-read count " ++ toString count ++ " for " ++
        toString size ++
        " bytes"))
    else return bytes

/-- `readBulk`. -/
def readBulk (ctx : Ctx) : JlinkM Bytes := do
  let size := (← get).session.maxPacketSize
  let (bytes, count, err) ← bulkTransfer ctx (.input size)
  checkRead size bytes count err

/-- The turns of the loop of `readExact` that find no input: one empty packet is
tolerated, the next one is not. -/
def refill (ctx : Ctx) : JlinkM Unit := do
  let packet ← readBulk ctx
  if packet.isEmpty then
    let packet ← readBulk ctx
    if packet.isEmpty then throw (.sentinel .noProgress)
    else modifySession fun s => { s with input := packet }
  else modifySession fun s => { s with input := packet }

/-- The input is filled when it is empty. -/
def fill (ctx : Ctx) : JlinkM Unit := do
  let input := (← get).session.input
  if input.isEmpty then refill ctx else return ()

def readByte (ctx : Ctx) : JlinkM Byte := do
  fill ctx
  let input := (← get).session.input
  modifySession fun s => { s with input := input.tail }
  return input.headD 0

/-- The loop of `readExact`, which takes its bytes from the input one at a time. -/
def readBytes (ctx : Ctx) : Nat → JlinkM Bytes
  | 0 => return []
  | size + 1 => do
    let byte ← readByte ctx
    let rest ← readBytes ctx size
    return byte :: rest

/-- `readExact`. A size is never negative. -/
def readExact (ctx : Ctx) (size : Nat) : JlinkM Bytes := do
  transportReady ctx
  readBytes ctx size

/-- A program whose error the caller looks at. -/
def attempt {α : Type} (program : JlinkM α) : JlinkM (Except Err α) := ExceptT.lift program.run

/-- `readResponsePart`. -/
def readResponsePart (ctx : Ctx) (size : Nat) : JlinkM Bytes := do
  match ← attempt (readExact ctx size) with
  | .ok response => return response
  | .error err => if err.is .jlinkPoisoned then throw err else fatal err

/-- `readResponse`. -/
def readResponse (ctx : Ctx) (size : Nat) : JlinkM Bytes := do
  let response ← readResponsePart ctx size
  let left := (← get).session.input.length
  if left ≠ 0 then
    fatal (.text ("jlink: response leaves an unexpected " ++ toString left ++ "-byte remainder"))
  else return response

/-- A prefix for the errors of a program. -/
def describing {α : Type} (message : String) (program : JlinkM α) : JlinkM α :=
  ExceptT.adapt (Err.wrap message) program

/-- A command and its response, bracketed in the log. -/
def command (request : Bytes) (body : JlinkM Bytes) : JlinkM Bytes := ExceptT.mk do
  record (.begins request)
  let result ← body.run
  record (.returned result)
  return result

/-- `exchange`. -/
def exchange (ctx : Ctx) (request : Bytes) (size : Nat) : JlinkM Bytes :=
  command request do
    writeExact ctx request
    readResponse ctx size

/-! ## Metadata -/

/-- `Capabilities.Has`. -/
def hasCapability (capabilities : Bytes) (bit : Nat) : Bool :=
  (capabilities.getD (bit / 8) 0).toNat.testBit (bit % 8)

/-- `readVersion`. The response is its length and the record. -/
def readVersion (ctx : Ctx) : JlinkM Unit := do
  let response ← command [commandVersion] do
    describing "jlink: read firmware length" (writeExact ctx [commandVersion])
    let length ← describing "jlink: read firmware length" (readResponsePart ctx 2)
    let rest ← describing "jlink: read firmware record" (readResponse ctx (littleEndian length))
    return length ++ rest
  modifySession fun s => { s with info := { s.info with firmwareRecord := response.drop 2 } }

/-- `readCapabilities`. -/
def readCapabilities (ctx : Ctx) : JlinkM Unit := do
  let short ← describing "jlink: read capabilities" (exchange ctx [commandCapabilitiesShort] 4)
  modifySession fun s => { s with info := { s.info with capabilities := short } }
  if hasCapability short capabilityLong then
    let long ← describing "jlink: read extended capabilities"
      (exchange ctx [commandCapabilitiesLong] 32)
    if long.take 4 ≠ short then
      throw (.text "jlink: extended capabilities do not preserve the short bitset")
    else modifySession fun s => { s with info := { s.info with capabilities := long } }
  else return ()

/-- `readInterfaces`. -/
def readInterfaces (ctx : Ctx) : JlinkM Unit := do
  let response ← describing "jlink: read available target interfaces"
    (exchange ctx [commandInterface, 0xff] 4)
  modifySession fun s => { s with
    info := { s.info with availableInterfaces := littleEndian response } }
  let response ← describing "jlink: read selected target interface"
    (exchange ctx [commandInterface, 0xfe] 4)
  let selected := littleEndian response
  if selected ≥ 32 then
    throw (.text ("jlink: invalid selected target interface " ++ toString selected))
  else modifySession fun s => { s with
    info := { s.info with selectedInterface := selected, selectedInterfaceKnown := true } }

/-- A part of `readInfo` that depends on a capability. -/
def withCapability (bit : Nat) (program : JlinkM Unit) : JlinkM Unit := do
  let info := (← get).session.info
  if hasCapability info.capabilities bit then program else return ()

/-- `readInfo`. -/
def readInfo (ctx : Ctx) : JlinkM Unit := do
  readVersion ctx
  readCapabilities ctx
  withCapability capabilityHardwareVersion do
    let response ← describing "jlink: read hardware version"
      (exchange ctx [commandHardwareVersion] 4)
    modifySession fun s => { s with
      info := { s.info with hardware := littleEndian response, hardwareKnown := true } }
  withCapability capabilityWorkspace do
    let response ← describing "jlink: read workspace" (exchange ctx [commandWorkspace] 4)
    modifySession fun s => { s with
      info := { s.info with workspace := littleEndian response, workspaceKnown := true } }
  withCapability capabilityInterface (readInterfaces ctx)

/-! ## Configuration -/

/-- `scanTransferLimit`. -/
def scanTransferLimit (info : Info) (minimumBits : Nat) : Except Err Nat :=
  let limit := defaultTransferBits / 8
  let limit := if info.workspaceKnown then min limit ((info.workspace - 4) / 2) else limit
  if limit * 8 < minimumBits then
    .error (.text ("jlink: probe transfer limit is only " ++ toString (limit * 8) ++ " bits"))
  else .ok (limit * 8)

/-- The rate of `targetClock` under a described base clock, in kHz. -/
def describedRate (rateKHz : Nat) (response : Bytes) : Except Err Nat :=
  let base := littleEndian (response.take 4)
  let minimumDivisor := littleEndian (response.drop 4)
  if base = 0 ∨ minimumDivisor = 0 then .error (.text "jlink: invalid target clock description")
  else .ok (min rateKHz (base / minimumDivisor / 1000))

/-- The part of `targetClock` that asks the probe, if the probe can tell. -/
def probeRate (ctx : Ctx) (info : Info) (rateKHz : Nat) : JlinkM Nat :=
  if hasCapability info.capabilities capabilityClock then do
    let response ← describing "jlink: describe target clock" (exchange ctx [commandClockDescribe] 6)
    ExceptT.mk (pure (describedRate rateKHz response))
  else return rateKHz

/-- `targetClock`. -/
def targetClock (ctx : Ctx) (ceiling : Nat) : JlinkM Nat := do
  let info := (← get).session.info
  let rateKHz ← probeRate ctx info (min (ceiling / 1000) 0xfffe)
  if rateKHz = 0 then throw (.text "jlink: probe cannot provide a 1 kHz target clock")
  else return rateKHz * 1000

/-- The command that sets the clock, which has no response. -/
def setClock (ctx : Ctx) (clockHz : Nat) : JlinkM Unit := do
  let rate := clockHz / 1000
  let request := [commandClockSet, BitVec.ofNat 8 rate, BitVec.ofNat 8 (rate / 256)]
  discard <| command request do
    writeExact ctx request
    return []

/-- `configureTarget`, once the request is known to be possible. -/
def selectTarget (ctx : Ctx) (maxClockHz target limit : Nat) (name : String) : JlinkM Unit := do
  modifySession fun s => { s with configured := false, scanFailed := false }
  let response ← describing ("jlink: select " ++ name ++ " interface")
    (exchange ctx [commandInterface, BitVec.ofNat 8 target] 4)
  let previous := littleEndian response
  if previous ≥ 32 then
    throw (.text ("jlink: invalid previous target interface " ++ toString previous))
  else
    modifySession fun s => { s with info := { s.info with selectedInterface := target } }
    let clockHz ← targetClock ctx maxClockHz
    describing ("jlink: set " ++ name ++ " clock") (setClock ctx clockHz)
    modifySession fun s => { s with
      clockHz := clockHz
      transferBits := limit
      delayInput := decide (target = interfaceSWD)
      inputCarry := false
      configured := true }

/-- `configureTarget`. -/
def configureTarget (ctx : Ctx) (maxClockHz target : Nat) (name : String) (minimumBits : Nat) :
    JlinkM Unit :=
  if maxClockHz < 1000 then
    throw (.text ("jlink: " ++ name ++ " clock ceiling must be at least 1 kHz"))
  else do
    transportReady ctx
    let info := (← get).session.info
    if !info.selectedInterfaceKnown || !info.availableInterfaces.testBit target then
      throw (.text ("jlink: probe does not advertise configurable " ++ name))
    else match scanTransferLimit info minimumBits with
      | .error err => throw err
      | .ok limit => selectTarget ctx maxClockHz target limit name

/-- `ConfigureSWD`. -/
def configureSWD (ctx : Ctx) (maxClockHz : Nat) : JlinkM Unit :=
  configureTarget ctx maxClockHz interfaceSWD "SWD" minimumSWDFrameBits

/-- `ConfigureJTAG`. -/
def configureJTAG (ctx : Ctx) (maxClockHz : Nat) : JlinkM Unit :=
  configureTarget ctx maxClockHz interfaceJTAG "JTAG" 8

/-! ## Scans -/

/-- `streamBit`. -/
def streamBit (stream : Bytes) (bit : Nat) : Bool := stream.get bit

/-- `setStreamBit`. -/
def setStreamBit (stream : Bytes) (bit : Nat) (value : Bool) : Bytes :=
  if value then stream.put bit true else stream.clear bit

/-- `maskUnusedBits`. -/
def maskUnusedBits (stream : Bytes) (bits : Nat) : Bytes :=
  if bits % 8 = 0 then stream
  else stream.modify (stream.length - 1) (· &&& BitVec.ofNat 8 (2 ^ (bits % 8) - 1))

/-- `scanStreams`. -/
def scanStreams (direction output : Bytes) (bits : Nat) : Bytes × Bytes :=
  let size := streamBytes bits
  let drive := (List.range bits).foldl (fun drive bit =>
    if streamBit direction bit && streamBit output bit then setStreamBit drive bit true else drive)
    (List.replicate size 0)
  (maskUnusedBits (direction.take size) bits, drive)

/-- `delayInputSamples`. -/
def delayInputSamples (direction samples : Bytes) (bits : Nat) (carry : Bool) : Bytes × Bool :=
  (List.range bits).foldl (fun (result, carry) bit =>
    if streamBit direction bit then (result, carry)
    else (setStreamBit result bit carry, streamBit samples bit)) (samples, carry)

/-- The request of a scan. -/
def scanRequest (control drive : Bytes) (bits : Nat) : Bytes :=
  [commandScanV3, 0, BitVec.ofNat 8 bits, BitVec.ofNat 8 (bits / 256)] ++ control ++ drive

/-- `ScanError`. -/
def scanError (status : Byte) : Err :=
  if status = 6 then .text "jlink: insufficient workspace for scan"
  else .text ("jlink: scan failed with status " ++ hex 2 status.toNat)

/-- `scan`. The response is the samples and the status. -/
def scan (ctx : Ctx) (control drive : Bytes) (bits : Nat) (name : String) : JlinkM Bytes := do
  let request := scanRequest control drive bits
  let response ← command request do
    describing ("jlink: write " ++ name ++ " scan command") (writeExact ctx request)
    let samples ← describing ("jlink: read " ++ name ++ " scan samples")
      (readResponsePart ctx control.length)
    let status ← describing ("jlink: read " ++ name ++ " scan status") (readResponse ctx 1)
    return samples ++ status
  let status := response.getLastD 0
  if status ≠ 0 then
    modifySession fun s => { s with configured := false, scanFailed := true, inputCarry := false }
    throw (scanError status)
  else return maskUnusedBits response.dropLast bits

/-- `RestorationPossible`. -/
def Session.restorationPossible (s : Session) : Bool :=
  s.device && !s.closing && !s.gone && !s.poisoned

/-- `recoverableScan`. -/
def Session.recoverableScan (s : Session) : Bool :=
  s.probeOwned && s.scanFailed && s.restorationPossible

/-- `recoverScan`. -/
def recoverScan (ctx : Ctx) : JlinkM Unit := do
  let s := (← get).session
  if !s.recoverableScan then return ()
  else
    match ← attempt <| if s.info.selectedInterface = interfaceSWD then configureSWD ctx s.clockHz
      else configureJTAG ctx s.clockHz with
    | .ok () => return ()
    | .error err =>
      modifySession fun s => { s with scanFailed := s.scanFailed || s.restorationPossible }
      throw err

/-- The checks `SWDIO` and `JTAGIO` make alike. -/
def scanReady (ctx : Ctx) (target bits : Nat) (name : String) : JlinkM Unit := do
  transportReady ctx
  let s := (← get).session
  if (!s.configured && !s.recoverableScan) || s.info.selectedInterface ≠ target then
    throw (.text ("jlink: " ++ name ++ " is not configured"))
  else if bits > s.transferBits then
    throw (.text ("jlink: " ++ toString bits ++ "-bit " ++ name ++ " stream exceeds " ++
      toString s.transferBits ++ "-bit transfer limit"))
  else return ()

/-- The end of `SWDIO`: samples come one input clock late. -/
def alignSamples (direction samples : Bytes) (bits : Nat) : JlinkM Bytes := do
  let s := (← get).session
  if s.delayInput then
    let (delayed, carry) := delayInputSamples direction samples bits s.inputCarry
    modifySession fun s => { s with inputCarry := carry }
    return maskUnusedBits delayed bits
  else return maskUnusedBits samples bits

/-- `SWDIO`, up to the samples of its scan. -/
def sampleSWD (ctx : Ctx) (direction output : Bytes) (bits : Int) : JlinkM Bytes :=
  if bits ≤ 0 ∨ (direction.length : Int) * 8 < bits ∨ (output.length : Int) * 8 < bits then
    throw (.text ("jlink: invalid " ++ toString bits ++ "-bit SWD stream"))
  else do
    scanReady ctx interfaceSWD bits.toNat "SWD"
    recoverScan ctx
    let (control, drive) := scanStreams direction output bits.toNat
    scan ctx control drive bits.toNat "SWD"

/-- `SWDIO`. -/
def swdio (ctx : Ctx) (direction output : Bytes) (bits : Int) : JlinkM Bytes := do
  let samples ← sampleSWD ctx direction output bits
  alignSamples direction samples bits.toNat

/-- `JTAGIO`. -/
def jtagio (ctx : Ctx) (tms tdi : Bytes) (bits : Int) : JlinkM Bytes :=
  if bits < 0 ∨ bits > defaultTransferBits ∨ (tms.length : Int) * 8 < bits ∨
      (tdi.length : Int) * 8 < bits then
    throw (.text ("jlink: invalid " ++ toString bits ++ "-bit JTAG stream"))
  else do
    scanReady ctx interfaceJTAG bits.toNat "JTAG"
    if bits = 0 then return []
    else
      recoverScan ctx
      let size := streamBytes bits.toNat
      scan ctx (maskUnusedBits (tms.take size) bits.toNat)
        (maskUnusedBits (tdi.take size) bits.toNat)
        bits.toNat "JTAG"

/-! ## Close -/

/-- The part of `Close` that releases the interface. -/
def closeClaim : JlinkS (Option Err × Bool) := do
  if !(← get).session.claim then return (none, false)
  let err ← ask Env.closeClaim
  recordLoss err
  let pending ← ask Env.claimPending
  if err.isSome && pending then return (err, true)
  modifySession fun s => { s with claim := false }
  return (err, false)

/-- The part of `Close` that closes the device. -/
def closeDevice (result : Option Err) : JlinkS (Option Err) := do
  if !(← get).session.device then return result
  let err ← ask Env.closeDevice
  recordLoss err
  let pending ← ask Env.devicePending
  modifySession fun s => { s with device := err.isSome && pending }
  return Err.joined result err

/-- `Close`. -/
def close : JlinkS (Option Err) := do
  modifySession fun s => { s with closing := true, configured := false }
  let (err, pending) ← closeClaim
  if pending then return err
  closeDevice err

/-! ## Runs -/

inductive Call where
  | readInfo (ctx : Ctx)
  | configureSWD (ctx : Ctx) (maxClockHz : Nat)
  | configureJTAG (ctx : Ctx) (maxClockHz : Nat)
  | swdio (ctx : Ctx) (direction output : Bytes) (bits : Int)
  | jtagio (ctx : Ctx) (tms tdi : Bytes) (bits : Int)
  | close

/-- A call, as far as it changes the world. -/
def Call.perform : Call → JlinkS Unit
  | .readInfo ctx => discard (Jlink.readInfo ctx).run
  | .configureSWD ctx maxClockHz => discard (Jlink.configureSWD ctx maxClockHz).run
  | .configureJTAG ctx maxClockHz => discard (Jlink.configureJTAG ctx maxClockHz).run
  | .swdio ctx direction output bits => discard (Jlink.swdio ctx direction output bits).run
  | .jtagio ctx tms tdi bits => discard (Jlink.jtagio ctx tms tdi bits).run
  | .close => discard Jlink.close

/-- The world after a list of calls. -/
def World.perform (w : World) (calls : List Call) : World :=
  calls.foldl (fun w call => (call.perform w).2) w

/-- The world once the interface is claimed and stale input is drained. -/
def World.opened (w : World) (maxPacketSize : Nat) (probeOwned : Bool) : World :=
  { w with
    session := ⟨true, true, maxPacketSize, [], ⟨[], 0, false, [], 0, false, 0, 0, false⟩, false,
      false, 0, 0, false, false, probeOwned, false, false, false⟩
    probe := ⟨[], []⟩
    log := [] }

end Ostiole.Jlink
