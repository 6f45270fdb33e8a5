import Ostiole.Jtag.Buffer
import Ostiole.Swd.Transfer

/-!
# The simulated wire

`sim/wire.go`: a Serial Wire Debug target behind `SWDIO`. It recognises protocol entry, a
request and the data phase that follows it, and fixed frames, and hands what it decodes to
the device behind it.
-/

namespace Ostiole.Swd.Sim

open Jtag (Byte Buffer)

/-- `Request`, as it is decoded from the wire. -/
structure Request where
  ap : Bool
  read : Bool
  addr : Byte
deriving DecidableEq, Repr

/-- `Target`, and the interfaces that it may implement besides. A context that is passed
on tells a device nothing about the request. -/
structure Device (σ : Type) where
  read : Request → σ → (Word × Option Err) × σ
  write : Request → Word → σ → Option Err × σ
  acknowledge : Option (Request → σ → Option Err × σ)
  overrunDetectEnabled : Option (σ → Bool)
  observeResponse : Option (Err → σ → σ)
  observeLineReset : Option (σ → σ)

/-- `Wire`. `state` is the state of the device. -/
structure Wire (σ : Type) where
  target : Option (Device σ)
  state : σ
  active : Bool
  pending : Option Request
  pendingACK : Byte
  maxBits : Nat

abbrev WireM (σ : Type) := ExceptT Err (StateM (Wire σ))

/-! ## Bits -/

/-- `allBits`. -/
def allBits (buf : Buffer) (offset count : Nat) (want : Bool) : Bool :=
  (List.range count).all fun bit => buf.get (offset + bit) == want

/-- `byteAt`. -/
def byteAt (buf : Buffer) (offset : Nat) : Byte :=
  (List.range 8).foldl
    (fun value bit => value ||| (BitVec.ofBool (buf.get (offset + bit))).setWidth 8 <<< bit) 0

/-- `uint32At`. -/
def uint32At (buf : Buffer) (offset : Nat) : Word := buf.word offset

/-- `setUint32At`. -/
def setUint32At (buf : Buffer) (offset : Nat) (value : Word) : Buffer :=
  buf.putAll offset 32 value.getLsbD

/-- The acknowledgement, put bit by bit. -/
def setACK (buf : Buffer) (offset : Nat) (ack : Byte) : Buffer := buf.putAll offset 3 ack.getLsbD

/-- `parity32`, by folding. -/
def parity32 (value : Word) : Bool :=
  let value := value ^^^ value >>> 16
  let value := value ^^^ value >>> 8
  let value := value ^^^ value >>> 4
  let value := value ^^^ value >>> 2
  let value := value ^^^ value >>> 1
  value.getLsbD 0

/-- `decodeRequest`. -/
def decodeRequest (header : Byte) : Except Err Request :=
  let fields := header >>> 1 &&& 0x0f
  if header &&& 0xc1 ≠ 0x81 ∨ header.getLsbD 5 ≠ parity32 (fields.setWidth 32) then
    .error (.text ("swd/sim: invalid request header " ++ hex 2 header.toNat))
  else .ok ⟨fields.getLsbD 0, fields.getLsbD 1, fields >>> 2 <<< 2⟩

/-! ## The device -/

section Device

variable {σ : Type}

/-- Let the device act. -/
def act {α : Type} (change : σ → α × σ) : WireM σ α := do
  let wire ← get
  let (value, state) := change wire.state
  set { wire with state := state }
  return value

/-- `overrunEnabled`. -/
def overrunEnabled (wire : Wire σ) : Bool :=
  match wire.target with
  | none => false
  | some device =>
    match device.overrunDetectEnabled with
    | none => false
    | some enabled => enabled wire.state

/-- `observeResponse`. -/
def observeResponse (device : Device σ) (ack : Byte) : WireM σ Unit :=
  match device.observeResponse with
  | none => return ()
  | some observe =>
    if ack = 0b001 then return ()
    else if ack = 0b010 then act fun state => ((), observe errWait state)
    else if ack = 0b100 then act fun state => ((), observe errFault state)
    else act fun state => ((), observe errProtocol state)

/-- `observeLineReset`. -/
def observeLineReset (target : Option (Device σ)) : Nat → WireM σ Unit
  | 0 => return ()
  | resets + 1 => do
    match target with
    | none => return ()
    | some device =>
      match device.observeLineReset with
      | none => return ()
      | some observe =>
        act fun state => ((), observe state)
        observeLineReset target resets

/-- `acknowledge`. -/
def acknowledge (device : Device σ) (req : Request) : WireM σ Byte :=
  match device.acknowledge with
  | none => return 0b001
  | some answer => do
    match ← act (answer req) with
    | none => return 0b001
    | some err =>
      if err.is .swdFault then return 0b100
      else if err.is .swdWait then return 0b010
      else throw err

/-! ## Fixed frames -/

/-- `validateFixedDirection`. -/
def validateFixedDirection (req : Request) (direction : Buffer) (offset : Nat) : Option Err :=
  if req.read then
    if !allBits direction (offset + 12) 34 false || !allBits direction (offset + 46) 8 true then
      some (.text "swd/sim: invalid fixed read direction")
    else none
  else if !allBits direction (offset + 12) 1 false || !allBits direction (offset + 13) 41 true then
    some (.text "swd/sim: invalid fixed write direction")
  else none

/-- `fixedRead`. -/
def fixedRead (device : Device σ) (input : Buffer) (req : Request) (offset : Nat) :
    WireM σ Buffer := do
  let (value, err) ← act (device.read req)
  if err ≠ none ∧ err ≠ some errParity then throw (err.getD errParity)
  else
    let input := setUint32At input (offset + 12) value
    return input.put (offset + 44) (parity32 value != decide (err = some errParity))

/-- `fixedWrite`. -/
def fixedWrite (device : Device σ) (output : Buffer) (req : Request) (offset : Nat) :
    WireM σ Unit := do
  let value := uint32At output (offset + 13)
  if output.get (offset + 45) ≠ parity32 value then
    throw (.text "swd/sim: invalid fixed write-data parity")
  else
    match ← act (device.write req value) with
    | none => return ()
    | some err => throw err

/-- `fixedFrame`, from the acknowledgement on. -/
def answerFrame (device : Device σ) (overrun : Bool) (req : Request) (output input : Buffer)
    (offset : Nat) :
    WireM σ Buffer := do
  let ack ← acknowledge device req
  observeResponse device ack
  let input := setACK input (offset + 9) ack
  if ack ≠ 0b001 then
    if !overrun then throw (.text "swd/sim: fixed response frame requires ORUNDETECT")
    else return input
  else if req.read then fixedRead device input req offset
  else
    fixedWrite device output req offset
    return input

/-- `fixedFrame`. -/
def fixedFrame (direction output input : Buffer) (offset : Nat) : WireM σ Buffer := do
  let wire ← get
  let overrun := overrunEnabled wire
  if !allBits direction offset 8 true || !allBits direction (offset + 8) 4 false then
    throw (.text "swd/sim: invalid fixed request direction")
  else match decodeRequest (byteAt output offset) with
    | .error err => throw err
    | .ok req =>
      match wire.target with
      | none => throw (.text "swd/sim: no target is configured")
      | some device =>
        match validateFixedDirection req direction offset with
        | some err => throw err
        | none =>
          if !allBits output (offset + 46) 8 false then
            throw (.text "swd/sim: fixed frame idle cycles must be low")
          else answerFrame device overrun req output input offset

/-- The loop of `fixed`. -/
def fixedFrames (direction output : Buffer) : Nat → Nat → Buffer → WireM σ Buffer
  | 0, _, input => return input
  | frames + 1, offset, input => do
    let input ← fixedFrame direction output input offset
    fixedFrames direction output frames (offset + 54) input

/-- `fixed`. -/
def fixed (direction output : Buffer) (bits : Nat) : WireM σ Buffer :=
  fixedFrames direction output (bits / 54) 0 (.zeros bits)

/-! ## Requests and their data phases -/

/-- `request`. -/
def request (direction output : Buffer) (bits : Nat) : WireM σ Buffer := do
  if bits ≠ 12 || !allBits direction 0 8 true || !allBits direction 8 4 false then
    throw (.text "swd/sim: invalid request direction")
  else match decodeRequest (byteAt output 0) with
    | .error err => throw err
    | .ok req =>
      match (← get).target with
      | none => throw (.text "swd/sim: no target is configured")
      | some device =>
        let ack ← acknowledge device req
        modify fun wire => { wire with pending := some req, pendingACK := ack }
        observeResponse device ack
        return setACK (.zeros 16) 9 ack

/-- `failedACK`. -/
def failedACK (direction output : Buffer) (bits : Nat) : Except Err Buffer :=
  if bits ≠ 9 || direction.get 0 || !allBits direction 1 8 true || !allBits output 1 8 false then
    .error (.text "swd/sim: invalid transfer cleanup after WAIT or FAULT")
  else .ok (.zeros 16)

/-- `read`. -/
def read (device : Device σ) (direction output : Buffer) (bits : Nat) (req : Request) :
    WireM σ Buffer := do
  if bits ≠ 42 || !allBits direction 0 34 false || !allBits direction 34 8 true ||
      !allBits output 34 8 false then
    throw (.text "swd/sim: invalid read-data direction")
  else
    let (value, err) ← act (device.read req)
    if err ≠ none ∧ err ≠ some errParity then throw (err.getD errParity)
    else
      let input := setUint32At (.zeros 48) 0 value
      return input.put 32 (parity32 value != decide (err = some errParity))

/-- `write`. -/
def write (device : Device σ) (direction output : Buffer) (bits : Nat) (req : Request) :
    WireM σ Buffer := do
  if bits ≠ 42 || direction.get 0 || !allBits direction 1 41 true || !allBits output 34 8 false then
    throw (.text "swd/sim: invalid write-data direction")
  else
    let value := uint32At output 1
    if output.get 33 ≠ parity32 value then throw (.text "swd/sim: invalid write-data parity")
    else
      match ← act (device.write req value) with
      | none => return .zeros 48
      | some err => throw err

/-- `data`. A request was accepted from a device, so there is one. -/
def data (direction output : Buffer) (bits : Nat) (req : Request) : WireM σ Buffer := do
  let wire ← get
  set { wire with pending := none }
  if wire.pendingACK ≠ 0b001 then
    if overrunEnabled wire then throw (.text "swd/sim: overrun response requires a data phase")
    else ExceptT.mk (pure (failedACK direction output bits))
  else match wire.target with
    | none => throw (.text "swd/sim: no target is configured")
    | some device =>
      if req.read then read device direction output bits req
      else write device direction output bits req

/-! ## SWDIO -/

/-- `lineReset`. -/
def lineReset (direction output : Buffer) (bits : Nat) : Bool :=
  bits == 64 && allBits direction 0 bits true && allBits output 0 56 true &&
    allBits output 56 8 false

/-- `jtagToSWD`. -/
def jtagToSWD (direction output : Buffer) (bits : Nat) : Bool :=
  bits == 136 && allBits direction 0 bits true && allBits output 0 56 true &&
    byteAt output 56 == 0x9e &&
    byteAt output 64 == 0xe7 && allBits output 72 56 true && allBits output 128 8 false

/-- `protocolEntryResets`. -/
def protocolEntryResets (direction output : Buffer) (bits : Nat) : Nat :=
  if lineReset direction output bits then 1 else if jtagToSWD direction output bits then 2 else 0

/-- `MaxTransferBits`. -/
def maxTransferBits (wire : Wire σ) : Nat := if wire.maxBits = 0 then 16384 else wire.maxBits

/-- `validateSWDIO`, where `cause` is what the context says. -/
def validateSWDIO (cause : Option Err) (direction output : Buffer) (bits : Int) (wire : Wire σ) :
    Option Err :=
  match cause with
  | some err => some err
  | none =>
    if bits < 0 then some (.text ("swd/sim: negative bit count " ++ toString bits))
    else if bits > maxTransferBits wire then
      some (.text ("swd/sim: " ++ toString bits ++ "-bit stream exceeds " ++
        toString (maxTransferBits wire) ++
        "-bit transfer limit"))
    else if direction.length < (bits.toNat + 7) / 8 ∨ output.length < (bits.toNat + 7) / 8 then
      some (.text ("swd/sim: direction or output is too short for " ++ toString bits ++ " bits"))
    else none

/-- `SWDIO`. -/
def swdio (cause : Option Err) (direction output : Buffer) (count : Int) : WireM σ Buffer := do
  let wire ← get
  match validateSWDIO cause direction output count wire with
  | some err => throw err
  | none =>
    let bits := count.toNat
    if bits = 0 then return []
    else if protocolEntryResets direction output bits ≠ 0 then
      if wire.pending.isSome then throw (.text
        "swd/sim: protocol entry during a pending data phase")
      else
        set { wire with active := true, pending := none }
        observeLineReset wire.target (protocolEntryResets direction output bits)
        return .zeros bits
    else if !wire.active then throw (.text "swd/sim: protocol entry is required")
    else match wire.pending with
      | none =>
        if 54 ≤ bits ∧ bits % 54 = 0 then fixed direction output bits
        else request direction output bits
      | some req => data direction output bits req

end Device

end Ostiole.Swd.Sim
