import Ostiole.Go.Error
import Ostiole.Jtag.Buffer
import Ostiole.Logic.Widen

/-!
# Plans of SWD sequences

How `SWDIO` cuts a stream into `DAP_SWD_Sequence` commands that fit the packets of the
probe, and how it collects the samples from their responses. A run that the target drives
is kept within one packet, since the host would take the line over between packets.
-/

namespace Ostiole.Cmsisdap

open Jtag (Byte Buffer)
open Logic (widen)

def commandSWDSequence : Byte := 0x1d

/-- `swdCapture`. -/
structure SwdCapture where
  offset : Nat
  bits : Nat
deriving DecidableEq, Repr

/-- `swdPacket`. -/
structure SwdPacket where
  request : Buffer
  captures : List SwdCapture
deriving DecidableEq, Repr

/-- `swdRun`. -/
def swdRun (direction : Buffer) (start bits : Nat) : Nat :=
  widen (fun count => decide (start + count < bits) && direction.get (start + count) ==
    direction.get start)
    bits 1

/-- `packSWDBits`. -/
def packSWDBits (data : Buffer) (start bits : Nat) : Buffer :=
  .fill bits fun bit => data.get (start + bit)

/-- `swdCaptureFits`. -/
def swdCaptureFits (bits requestBytes responseBytes sequences packetSize : Nat) : Bool :=
  let descriptors := (bits + 63) / 64
  decide (responseBytes + (bits + 7) / 8 ≤ packetSize ∧ requestBytes + descriptors ≤ packetSize ∧
    sequences + descriptors ≤ 255)

/-- The variables of `planSWDPacket`; `count` is `request[1]`, `body` the request behind
it. -/
structure Plan where
  count : Byte
  body : Buffer
  responseBytes : Nat
  captures : List SwdCapture
  position : Nat
deriving DecidableEq, Repr

namespace Plan

def start (position : Nat) : Plan := ⟨0, [], 2, [], position⟩

def request (plan : Plan) : Buffer := commandSWDSequence :: plan.count :: plan.body

/-- The bits that the packet has room for, of the kind that comes next. -/
def capacity (plan : Plan) (input : Bool) (packetSize : Nat) : Nat :=
  if input && decide (plan.request.length + 1 ≤
    packetSize) then (packetSize - plan.responseBytes) * 8
  else if !input && decide (plan.request.length + 1 < packetSize) then
    (packetSize - plan.request.length - 1) * 8
  else 0

/-- The sequence that is appended. Six bits of the descriptor count it, zero for 64. -/
def append (plan : Plan) (output : Buffer) (input : Bool) (count : Nat) : Plan where
  count := plan.count + 1
  body := plan.body ++
    (if input then [BitVec.ofNat 8 (count % 64) ||| 0x80]
    else BitVec.ofNat 8 (count % 64) :: packSWDBits output plan.position count)
  responseBytes := if input then plan.responseBytes + (count + 7) / 8 else plan.responseBytes
  captures := if input then plan.captures ++ [⟨plan.position, count⟩] else plan.captures
  position := plan.position + count

/-- A turn of the loop in `planSWDPacket`, unless it breaks. -/
def next (direction output : Buffer) (bits packetSize : Nat) (plan : Plan) : Option Plan :=
  let input := !direction.get plan.position
  let run := swdRun direction plan.position bits
  if input && !swdCaptureFits run plan.request.length plan.responseBytes plan.count.toNat
    packetSize then none
  else
    let count := min run (min 64 (plan.capacity input packetSize))
    if count = 0 then none else some (plan.append output input count)

/-- The loop of `planSWDPacket`. Every turn takes a bit at least. -/
def fill (direction output : Buffer) (bits packetSize : Nat) : Nat → Plan → Plan
  | 0, plan => plan
  | turns + 1, plan =>
    if plan.position < bits ∧ plan.count ≠ 0xff then
      match plan.next direction output bits packetSize with
      | none => plan
      | some plan => fill direction output bits packetSize turns plan
    else plan

end Plan

/-- `planSWDPacket`. -/
def planSWDPacket (direction output : Buffer) (bits start packetSize : Nat) : Plan :=
  (Plan.start start).fill direction output bits packetSize bits

/-- The loop of `planSWDStream`, from a position on. -/
def planPackets (direction output : Buffer) (bits packetSize : Nat) :
    Nat → Nat → Except Err (List SwdPacket)
  | 0, _ => .ok []
  | turns + 1, position =>
    if position < bits then
      let plan := planSWDPacket direction output bits position packetSize
      if plan.position = position then
        .error (.text ("cmsisdap: packet size " ++ toString packetSize ++
          " cannot preserve SWD direction boundary at bit " ++ toString position))
      else do
        let packets ← planPackets direction output bits packetSize turns plan.position
        .ok (⟨plan.request, plan.captures⟩ :: packets)
    else .ok []

/-- `planSWDStream`. -/
def planSWDStream (direction output : Buffer) (bits packetSize : Nat) :
    Except Err (List SwdPacket) :=
  if !direction.get (bits - 1) then .error
    (.text "cmsisdap: SWD sequence must end with host ownership")
  else planPackets direction output bits packetSize bits 0

/-- `decodeSWDResponse`, from an offset on. -/
def decodeCaptures (response : Buffer) : Buffer → List SwdCapture → Nat → Except Err Buffer
  | input, [], _ => .ok input
  | input, capture :: captures, offset =>
    let bytes := (capture.bits + 7) / 8
    if offset + bytes > response.length then
      .error (.join (.text ("short response: got " ++ toString response.length ++ " bytes, need " ++
        toString (offset + bytes))) (.sentinel .cmsisdapPoisoned))
    else
      let samples : Buffer := (response.drop offset).take bytes
      decodeCaptures response (input.putAll capture.offset capture.bits samples.get) captures
        (offset + bytes)

/-- `decodeSWDResponse`. A short response poisons the session, and its error says so. -/
def decodeSWDResponse (input response : Buffer) (captures : List SwdCapture) : Except Err Buffer :=
  decodeCaptures response input captures 2

/-- The loop of `SWDIO`, once every packet has its response. -/
def decodeSWDStream : Buffer → List (SwdPacket × Buffer) → Except Err Buffer
  | input, [] => .ok input
  | input, (packet, response) :: rest => do
    let input ← decodeSWDResponse input response packet.captures
    decodeSWDStream input rest

end Ostiole.Cmsisdap
