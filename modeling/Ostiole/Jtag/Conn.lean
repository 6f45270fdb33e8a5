import Ostiole.Go.Context
import Ostiole.Jtag.Buffer
import Ostiole.Jtag.Device
import Ostiole.Jtag.Layout

/-!
# The TAP connection

`conn.go`, `scan.go`, `measure.go` and `discover.go`. The wire follows an
arbitrary schedule: each call either clocks all its cycles or fails after any
number of them, and may answer with anything.
-/

namespace Ostiole.Jtag

open Ostiole

/-- What happens in one `JTAGIO` call. -/
structure WireCall where
  failure : Option Err
  /-- How many cycles of a failed call reached the devices. -/
  delivered : Nat
  /-- What the wire returns for so many bits, instead of those it sampled. -/
  reply : Nat → Option Buffer

/-- The schedule of a run. -/
structure Env where
  call : Nat → WireCall
  /-- Lifetime of a completion context created at this time. -/
  budget : Nat → Nat
  /-- `MaxTransferBits`, when the wire implements `TransferLimits`. -/
  maxTransferBits : Option Int

/-- `Conn`, without its wire. `serial`, a `uint64` in the source, is unbounded here:
see `Sound.valid_uint64`. -/
structure Conn where
  state : State
  serial : Nat
  completionTimeout : Int
deriving DecidableEq, Repr

/-- `New`. -/
def Conn.new (completionTimeout : Int) : Conn := ⟨.unknown, 0, completionTimeout⟩

/-- The wire, the devices behind it, the connection and everything built on it.
`calls` counts the wire calls made; nothing in the package reads it. -/
structure World where
  env : Env
  clock : Nat
  scanPath : ScanPath
  conn : Conn
  chains : List Chain
  taps : List TAP
  calls : Nat

abbrev JtagM := StateM World

/-- `ErrStateUnknown`. -/
def errStateUnknown : Err := .text "jtag: TAP state is unknown; reset required"

def modifyConn (f : Conn → Conn) : JtagM Unit := modify fun w => { w with conn := f w.conn }

def World.tick (w : World) : World := { w with clock := w.clock + 1 }

/-- `ctx.Err()`. -/
def ctxErr (ctx : Ctx) : JtagM (Option Err) := fun w => (ctx.err w.clock, w.tick)

/-- `context.WithTimeout(context.WithoutCancel(ctx), c.completionTimeout)`. -/
def completionContext : JtagM Ctx := fun w =>
  (⟨w.clock + w.env.budget w.clock, .deadlineExceeded⟩, w.tick)

/-- The cycles of a wire call. -/
def cycles (tms tdi : Buffer) (bits : Nat) : List (Bool × Bool) :=
  (List.range bits).map fun i => (tms.get i, tdi.get i)

/-- `JTAGIO`. -/
def jtagIO (tms tdi : Buffer) (bits : Nat) : JtagM (Except Err Buffer) := fun w =>
  let call := w.env.call w.clock
  let cycles := cycles tms tdi bits
  match call.failure with
  | some err =>
    (.error err, { w with
      clock := w.clock + 1
      scanPath := (w.scanPath.run (cycles.take call.delivered)).2
      calls := w.calls + 1 })
  | none =>
    (.ok ((call.reply bits).getD (Buffer.pack (w.scanPath.run cycles).1)), { w with
      clock := w.clock + 1
      scanPath := (w.scanPath.run cycles).2
      calls := w.calls + 1 })

/-- `validate`: the bound on one wire call. -/
def validate (ctx : Ctx) : JtagM (Except Err Nat) := do
  if let some err ← ctxErr ctx then return .error err
  let w ← get
  if w.conn.completionTimeout ≤ 0 then
    return .error (.text "jtag: completion timeout must be positive")
  match w.env.maxTransferBits with
  | none => return .ok 4096
  | some limit =>
    if limit ≤ 0 then return .error (.text "jtag: invalid wire transfer limit")
    return .ok limit.toNat

/-- The tracked state after the clocks of one wire call. -/
def advance (state : State) (tms : Buffer) (bits : Nat) : State :=
  (List.range bits).foldl
    (fun state i => if state ≠ .unknown then state.next (tms.get i) else state) state

/-- One wire call of `clock`. -/
def clockChunk (ms di : Buffer) (n : Nat) : JtagM (Except Err Buffer) := do
  let reply ← jtagIO ms di n
  modifyConn fun c => { c with serial := c.serial + 1 }
  match reply with
  | .error err =>
    modifyConn fun c => { c with state := .unknown }
    return .error err
  | .ok sampled =>
    if sampled.length ≠ di.length then
      modifyConn fun c => { c with state := .unknown }
      return .error (.text "jtag: invalid wire response length")
    modifyConn fun c => { c with state := advance c.state ms n }
    return .ok sampled

/-- The loop of `clock`. Each turn clocks at least one bit. -/
def clockLoop (ctx : Ctx) (tms tdi : Buffer) (bits limit : Nat) :
    Nat → Nat → Buffer → JtagM (Except Err Buffer)
  | 0, _, output => return .ok output
  | turns + 1, start, output => do
    if start ≥ bits then return .ok output
    if let some err ← ctxErr ctx then return .error err
    let n := min limit (bits - start)
    let ms := Buffer.fill n fun i => tms.get (start + i)
    let di := Buffer.fill n fun i => tdi.get (start + i)
    match ← clockChunk ms di n with
    | .error err => return .error err
    | .ok sampled =>
      clockLoop ctx tms tdi bits limit turns (start + n) (output.putAll start n sampled.get)

/-- `clock`. -/
def clock (ctx : Ctx) (tms tdi : Buffer) (bits : Nat) : JtagM (Except Err Buffer) := do
  match ← validate ctx with
  | .error err => return .error err
  | .ok limit => clockLoop ctx tms tdi bits limit bits 0 (Buffer.zeros bits)

/-- `Reset`. -/
def reset (ctx : Ctx) : JtagM (Option Err) := do
  if let .error err ← validate ctx then return some err
  if let .error err ← clock ctx [31] [0] 5 then return some err
  modifyConn fun c => { c with state := .reset }
  return none

/-- `Move`. A destination outside the table is refused like `unknown`. -/
def move (ctx : Ctx) (target : State) : JtagM (Option Err) := do
  if let .error err ← validate ctx then return some err
  if target = .unknown then return some (.text "jtag: invalid destination")
  let state := (← get).conn.state
  if state = .unknown then return some errStateUnknown
  let bits := path state target
  if let .error err ← clock ctx (.pack bits) (.zeros bits.length) bits.length then
    return some err
  return none

/-! ## Scans -/

/-- `MaxScanBits`. -/
def maxScanBits : Int := 2 ^ 20

/-- The shift state of a column. -/
def Column.shiftState : Column → State
  | .dr => .shiftDR
  | .ir => .shiftIR

/-- The caller's cancellation that `finishScan` adds to an outcome. -/
def addCause (ctx : Ctx) (err : Option Err) : JtagM (Option Err) := do
  match ← ctxErr ctx with
  | some cause =>
    match ctx.cause with
    | .canceled => return if isErr err .canceled then err else Err.joined err (some cause)
    | .deadlineExceeded =>
      return if isErr err .deadlineExceeded then err else Err.joined err (some cause)
  | none => return err

/-- `finishScan`. -/
def finishScan (ctx : Ctx) (serial : Nat) (err : Option Err) : JtagM (Option Err) := do
  if err.isSome ∧ (← get).conn.serial ≠ serial then
    modifyConn fun c => { c with state := .unknown }
  addCause ctx err

/-- The movement of `scan`, under its completion context. -/
def scanBody (ctx : Ctx) (data : Buffer) (bits : Nat) (column : Column) :
    JtagM (Option Buffer × Option Err) := do
  if let some err ← move ctx .idle then return (none, some err)
  if let some err ← move ctx column.shiftState then return (none, some err)
  match ← clock ctx ((Buffer.zeros bits).put (bits - 1) true) data bits with
  | .error err => return (none, some err)
  | .ok output =>
    if let some err ← move ctx .idle then return (none, some err)
    return (some output, none)

/-- `scan`. -/
def scan (ctx : Ctx) (data : Buffer) (bits : Int) (column : Column) :
    JtagM (Option Buffer × Option Err) := do
  if let .error err ← validate ctx then return (none, some err)
  if bits ≤ 0 ∨ bits > maxScanBits ∨ (data.length : Int) < (bits + 7) / 8 then
    return (none, some (.text "jtag: invalid scan length or buffer"))
  let serial := (← get).conn.serial
  let completion ← completionContext
  let (capture, err) ← scanBody completion data bits.toNat column
  return (capture, ← finishScan ctx serial err)

/-- `ScanIR`. -/
def scanIR (ctx : Ctx) (data : Buffer) (bits : Int) : JtagM (Option Buffer × Option Err) :=
  scan ctx data bits .ir

/-- `ScanDR`. -/
def scanDR (ctx : Ctx) (data : Buffer) (bits : Int) : JtagM (Option Buffer × Option Err) :=
  scan ctx data bits .dr

/-- `Idle`. -/
def idle (ctx : Ctx) (cycles : Int) : JtagM (Option Err) := do
  if let .error err ← validate ctx then return some err
  if cycles < 0 ∨ cycles > maxScanBits then return some (.text "jtag: invalid idle count")
  if cycles = 0 then return none
  if let some err ← move ctx .idle then return some err
  if let .error err ← clock ctx (.zeros cycles.toNat) (.zeros cycles.toNat) cycles.toNat then
    return some err
  return none

/-! ## Measurement and discovery -/

/-- The loop of `markerLength`. -/
def markerLoop (output : Buffer) : List Nat → Nat → Except Err Nat
  | [], length => .ok length
  | i :: rest, length =>
    if output.get i = false then
      if length ≠ 0 ∨ i < 2 then .error (.text "jtag: invalid IR marker response")
      else markerLoop output rest i
    else markerLoop output rest length

/-- `markerLength`. -/
def markerLength (output : Buffer) (maxBits : Nat) : Except Err Nat :=
  match markerLoop output (List.range (maxBits + 1)) 0 with
  | .error err => .error err
  | .ok 0 => .error (.text "jtag: IR marker did not return within bound")
  | .ok length => .ok length

/-- The shifting of `MeasureIR`: flush ones, then a zero marker. -/
def measureBody (ctx : Ctx) (maxBits : Nat) : JtagM (Except Err Nat) := do
  if let some err ← move ctx .idle then return .error err
  if let some err ← move ctx .shiftIR then return .error err
  if let .error err ← clock ctx (.zeros maxBits) (.ones maxBits) maxBits then return .error err
  let input := (Buffer.ones (maxBits + 1)).clear 0
  let tms := (Buffer.zeros (maxBits + 1)).put maxBits true
  match ← clock ctx tms input (maxBits + 1) with
  | .error err => return .error err
  | .ok output =>
    if let some err ← move ctx .idle then return .error err
    return markerLength output maxBits

/-- `MeasureIR`. -/
def measureIR (ctx : Ctx) (maxBits : Int) : JtagM (Except Err Nat) := do
  if let .error err ← validate ctx then return .error err
  if maxBits < 2 ∨ maxBits > 65536 then
    return .error (.text "jtag: invalid IR measurement bound")
  measureBody ctx maxBits.toNat

/-- `ErrDiscoveryLimit`. -/
def errDiscoveryLimit : Err := .text "jtag: chain did not terminate within discovery limit"

/-- `ErrNoChain`. -/
def errNoChain : Err := .text "jtag: no TAP observed"

/-- The loop of `observations`. A turn ends it or appends one TAP. -/
def observationLoop (data : Buffer) (maxTAPs : Nat) :
    Nat → Nat → List ObservedTAP → List ObservedTAP × Option Err
  | 0, _, found => (found, some errDiscoveryLimit)
  | turns + 1, offset, found =>
    let value := data.word offset
    if value = BitVec.allOnes 32 then
      if found = [] then ([], some errNoChain) else (found, none)
    else if found.length = maxTAPs then (found, some errDiscoveryLimit)
    else if value &&& 1 = 0 then
      observationLoop data maxTAPs turns (offset + 1) (found ++ [⟨0, true⟩])
    else observationLoop data maxTAPs turns (offset + 32) (found ++ [⟨value, false⟩])

/-- `observations`. -/
def observations (data : Buffer) (maxTAPs : Nat) : List ObservedTAP × Option Err :=
  observationLoop data maxTAPs (maxTAPs + 1) 0 []

/-- `Discover`. -/
def discover (ctx : Ctx) (maxTAPs : Int) : JtagM (List ObservedTAP × Option Err) := do
  if let .error err ← validate ctx then return ([], some err)
  if maxTAPs < 1 ∨ maxTAPs > 1024 then
    return ([], some (.text "jtag: invalid discovery bound"))
  if let some err ← reset ctx then return ([], some err)
  let bits := 32 * (maxTAPs.toNat + 1)
  match ← scanDR ctx (.ones bits) bits with
  | (_, some err) => return ([], some err)
  | (capture, none) => return observations (capture.getD []) maxTAPs.toNat

end Ostiole.Jtag
