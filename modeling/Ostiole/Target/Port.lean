import Ostiole.Go.Context

/-!
# The target side of the wire

A serial-wire debug port as the drivers may meet it. `FrameChoice` holds every
decision that is the target's: the acknowledgement it prefers, sticky bits that
become set, write data it abandons, read parity. Three rules are not a choice.
While a sticky bit is set every request faults except a DPIDR read, a bank-zero
CTRL/STAT read and an ABORT write. An accepted write takes effect or sets
WDATAERR without effect. With ORUNDETECT set a response other than OK sets
STICKYORUN.

The access ports behind the debug port are the history of accesses they carried
out: `PortWorld.apRead` maps that history to the value of the latest read.
-/

namespace Ostiole

/-! ## CTRL/STAT and ABORT fields -/

def overrunDetect : Word := 1#32 <<< 0
def stickyOverrun : Word := 1#32 <<< 1
def stickyCompare : Word := 1#32 <<< 4
def stickyError : Word := 1#32 <<< 5
def writeDataError : Word := 1#32 <<< 7

def dapAbort : Word := 1#32 <<< 0
def clearStickyCompare : Word := 1#32 <<< 1
def clearStickyError : Word := 1#32 <<< 2
def clearWriteDataError : Word := 1#32 <<< 3
def clearStickyOverrun : Word := 1#32 <<< 4

def debugPowerRequest : Word := 1#32 <<< 28
def debugPowerAck : Word := 1#32 <<< 29
def systemPowerRequest : Word := 1#32 <<< 30
def systemPowerAck : Word := 1#32 <<< 31

/-- Every sticky flag. -/
def stickyFlags : Word := stickyOverrun ||| stickyCompare ||| stickyError ||| writeDataError

/-- Power acknowledgements, which only the target drives. -/
def powerAckFlags : Word := debugPowerAck ||| systemPowerAck

/-- The DLCR turnaround field. -/
def dlcrTurnaroundMask : Word := 3#32 <<< 8

/-- Whether any bit of `mask` is set, Go's `value&mask != 0`. -/
def Word.has (value mask : Word) : Bool :=
  value &&& mask != 0

/-! ## Requests -/

/-- What the operation behind a request names: a DP register bank, an ADIv5 AP
and AP register bank, or an ADIv6 debug address. The wire does not carry it. -/
inductive Named where
  | unbanked
  | dpBank (bank : BitVec 4)
  | apBank (ap : BitVec 8) (bank : BitVec 4)
  | debugAddress (address : BitVec 64)
deriving DecidableEq, Repr

/-- The identity of one logical request. Every transmission of the same request
carries the same `id`. `owner` is the queued operation whose own request this
is; selections and completion barriers have none. -/
structure Tag where
  id : Nat
  named : Named
  owner : Option Nat
deriving DecidableEq, Repr

/-- One SWD request. `tag` is bookkeeping for the properties below; requests the
connection makes for its own purposes have none. -/
structure Request where
  ap : Bool
  read : Bool
  addr : BitVec 8
  tag : Option Tag
deriving DecidableEq, Repr

namespace Request

def isABORTWrite (req : Request) : Bool := !req.ap && !req.read && req.addr == 0x00

def isDPIDRRead (req : Request) : Bool := !req.ap && req.read && req.addr == 0x00

def isSELECTWrite (req : Request) : Bool := !req.ap && !req.read && req.addr == 0x08

/-- A read at the offset which CTRL/STAT shares with the banked registers. -/
def isCTRLSTATRead (req : Request) : Bool := !req.ap && req.read && req.addr == 0x04

/-- A write at the offset which CTRL/STAT shares with the banked registers. -/
def isBankedWrite (req : Request) : Bool := !req.ap && !req.read && req.addr == 0x04

end Request

/-- The three-bit acknowledgement, with every undefined pattern as one value. -/
inductive Ack where
  | ok | wait | fault | undefined
deriving DecidableEq, Repr

/-- One access carried out by an access port: where SELECT pointed, the request
offset, and the value of a write. -/
structure APAccess where
  select : Word
  selectHigh : Word
  addr : BitVec 8
  write : Option Word
deriving DecidableEq, Repr

/-- The target's free choices for one frame. -/
structure FrameChoice where
  /-- Sticky flags, WDATAERR excepted, that are set before the request is examined. -/
  raise : Word
  /-- The acknowledgement given when no rule fixes it. -/
  ack : Ack
  /-- With an undefined acknowledgement: whether the request was accepted all the same. -/
  heard : Bool
  /-- Whether the read-data parity is wrong. -/
  badParity : Bool
  /-- Whether an accepted write is abandoned, setting WDATAERR. -/
  drop : Bool
  /-- Power acknowledgements shown by a CTRL/STAT read, when they differ from the requests. -/
  powerAcks : Option Word
  /-- The identification value, when a different device answers. -/
  identity : Option Word
deriving DecidableEq, Repr

/-- Immediate acceptance with correct parity. -/
def FrameChoice.quiet : FrameChoice where
  raise := 0
  ack := .ok
  heard := false
  badParity := false
  drop := false
  powerAcks := none
  identity := none

/-- Registers of the debug port and the history of its access ports. -/
structure Target where
  dpidr : Word
  select : Word
  selectHigh : Word
  ctrlStat : Word
  dlcr : Word
  /-- Read-only registers at offset 4 in banks other than zero, one and five. -/
  dpBanks : BitVec 4 → Word
  /-- Registers at offset 0 in banks one to three of a DPv3. -/
  dpIDBanks : BitVec 4 → Word
  /-- The most recent AP read value, returned by RDBUFF, RESEND and the next AP read. -/
  posted : Word
  apLog : List APAccess
  /-- Set after a request header the target did not recognise, until a line reset. -/
  lockout : Bool
  overrunImplemented : Bool

/-- The value each AP read returns, as a function of all AP accesses so far. -/
structure PortWorld where
  apRead : List APAccess → Word

namespace Target

def dpBank (t : Target) : BitVec 4 := t.select.setWidth 4

def overrun (t : Target) : Bool := t.ctrlStat.has overrunDetect

def sticky (t : Target) : Bool := t.ctrlStat.has stickyFlags

def version (t : Target) : BitVec 4 := (t.dpidr >>> 12).setWidth 4

/-- Requests answered even while a sticky flag is set. -/
def exempt (t : Target) (req : Request) : Bool :=
  req.isDPIDRRead || req.isABORTWrite || (req.isCTRLSTATRead && t.dpBank == 0)

def setSticky (t : Target) (flags : Word) : Target :=
  { t with ctrlStat := t.ctrlStat ||| (flags &&& stickyFlags) }

/-- ABORT clears the sticky flags its write names. -/
def abort (t : Target) (value : Word) : Target :=
  let cleared : Word :=
    (if value.has clearStickyCompare then stickyCompare else 0) |||
    (if value.has clearStickyError then stickyError else 0) |||
    (if value.has clearWriteDataError then writeDataError else 0) |||
    (if value.has clearStickyOverrun then stickyOverrun else 0)
  { t with ctrlStat := t.ctrlStat &&& ~~~cleared }

/-- The CTRL/STAT fields a write does not reach: sticky flags, acknowledgements
and an unimplemented ORUNDETECT. -/
def readOnly (t : Target) : Word :=
  stickyFlags ||| powerAckFlags ||| (if t.overrunImplemented then 0 else overrunDetect)

/-- A bank-zero CTRL/STAT write. -/
def writeCTRLSTAT (t : Target) (value : Word) : Target :=
  { t with ctrlStat := (t.ctrlStat &&& t.readOnly) ||| (value &&& ~~~t.readOnly) }

def writeBanked (t : Target) (value : Word) : Target :=
  if t.dpBank = 0 then t.writeCTRLSTAT value
  else if t.dpBank = 1 then { t with dlcr := value }
  else if t.dpBank = 5 ∧ t.version = 3 then { t with selectHigh := value }
  else t

/-- The effect of an accepted write that is not abandoned. -/
def write (t : Target) (req : Request) (value : Word) : Target :=
  if req.ap then
    { t with apLog := t.apLog ++ [⟨t.select, t.selectHigh, req.addr, some value⟩] }
  else if req.addr = 0x00 then t.abort value
  else if req.addr = 0x04 then t.writeBanked value
  else if req.addr = 0x08 then { t with select := value }
  else t

/-- CTRL/STAT as read: acknowledgements follow the requests unless the target delays them. -/
def readCTRLSTAT (t : Target) (c : FrameChoice) : Word :=
  let acks : Word := match c.powerAcks with
    | some acks => acks
    | none =>
      (if t.ctrlStat.has debugPowerRequest then debugPowerAck else 0) |||
      (if t.ctrlStat.has systemPowerRequest then systemPowerAck else 0)
  (t.ctrlStat &&& ~~~powerAckFlags) ||| (acks &&& powerAckFlags)

def readDP (t : Target) (c : FrameChoice) (addr : BitVec 8) : Word :=
  if addr = 0x00 then
    if t.version = 3 ∧ t.dpBank ≠ 0 then t.dpIDBanks t.dpBank
    else c.identity.getD t.dpidr
  else if addr = 0x04 then
    if t.dpBank = 0 then t.readCTRLSTAT c
    else if t.dpBank = 1 then t.dlcr
    else t.dpBanks t.dpBank
  else t.posted

/-- The value and effect of an accepted read. An AP read returns the previously
posted value and posts its own. -/
def read (t : Target) (world : PortWorld) (c : FrameChoice) (req : Request) : Word × Target :=
  if req.ap then
    let history := t.apLog ++ [⟨t.select, t.selectHigh, req.addr, none⟩]
    (t.posted, { t with apLog := history, posted := world.apRead history })
  else (t.readDP c req.addr, t)

/-- A line reset ends a lockout, resets DLCR and, on DPv3, the DP bank. With
ORUNDETECT set it counts as an interrupted transfer. -/
def lineReset (t : Target) : Target :=
  let t := if t.overrun then t.setSticky stickyOverrun else t
  { t with
    lockout := false
    dlcr := 0
    select := if t.version = 3 then t.select &&& ~~~0x0f#32 else t.select }

/-- Flags the target raises on its own before it looks at a request. -/
def raised (t : Target) (c : FrameChoice) : Target :=
  t.setSticky (c.raise &&& ~~~writeDataError)

/-- The acknowledgement: FAULT takes precedence over the target's own choice. -/
def acknowledge (t : Target) (c : FrameChoice) (req : Request) : Ack :=
  if t.lockout then .undefined
  else if t.sticky && !t.exempt req then .fault
  else c.ack

/-- Whether the request reached the register behind it. -/
def accepts (t : Target) (c : FrameChoice) (req : Request) : Bool :=
  match t.acknowledge c req with
  | .ok => true
  | .undefined => !t.lockout && c.heard
  | _ => false

/-- What a response other than OK leaves behind. With overrun detection the port sets
STICKYORUN, so that it accepts no request after a WAIT but the exempt ones; a wire that
acknowledges one with OK, as in `batch_test.go`, is not one to a port of this kind. -/
def observeResponse (t : Target) (ack : Ack) (accepted : Bool) : Target :=
  let t := if ack ≠ .ok ∧ t.overrun then t.setSticky stickyOverrun else t
  if ack = .undefined ∧ !accepted then { t with lockout := true } else t

/-- The data phase of an accepted write. -/
def writePhase (t : Target) (c : FrameChoice) (req : Request) (value : Word) : Target :=
  if c.drop then t.setSticky writeDataError else t.write req value

/-- What the host decodes from one frame. -/
structure Reply where
  ack : Ack
  data : Word
  parityOk : Bool
deriving DecidableEq, Repr

/-- A frame as the target handled it. -/
structure Served where
  reply : Reply
  /-- SELECT when the request was examined. -/
  select : Word
  accepted : Bool
  /-- An accepted read, or an accepted write which was not abandoned. -/
  effective : Bool
deriving DecidableEq, Repr

/-- One complete frame: request, acknowledgement and data phase. -/
def frame (t : Target) (world : PortWorld) (c : FrameChoice) (req : Request) (data : Word) :
    Served × Target :=
  let t := t.raised c
  let ack := t.acknowledge c req
  let accepted := t.accepts c req
  let result : Word × Target :=
    if accepted then
      if req.read then t.read world c req else (0, t.writePhase c req data)
    else (0, t)
  (⟨⟨ack, result.1, !c.badParity⟩, t.select, accepted, accepted && (req.read || !c.drop)⟩,
    result.2.observeResponse ack accepted)

/-- A frame whose write data never follows the header. -/
def header (t : Target) (c : FrameChoice) (req : Request) : Served × Target :=
  let t := t.raised c
  let ack := t.acknowledge c req
  (⟨⟨ack, 0, true⟩, t.select, false, false⟩, t.observeResponse ack false)

/-- Consecutive frames of one exchange, the first with choice number `index`. -/
def frames (world : PortWorld) (choice : Nat → FrameChoice) :
    Nat → List (Request × Word) → Target → List Served × Target
  | _, [], t => ([], t)
  | index, (req, data) :: rest, t =>
    let first := t.frame world (choice index) req data
    let others := frames world choice (index + 1) rest first.2
    (first.1 :: others.1, others.2)

end Target

end Ostiole
