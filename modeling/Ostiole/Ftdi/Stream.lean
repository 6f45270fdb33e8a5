import Ostiole.Ftdi.Mpsse
import Ostiole.Logic.Widen

/-!
# Clocked streams

How `SWDIO` and `JTAGIO` turn a stream into commands, run by run, and how the responses
become a stream again.
-/

namespace Ostiole.Ftdi

open Jtag (Byte Buffer)
open Logic (widen)

def cmdSetDataLow : Byte := 0x80
def cmdClockBitsOutNegLSB : Byte := 0x1b
def cmdClockBitsInPosLSB : Byte := 0x2a
def cmdSendImmediate : Byte := 0x87
def pinClock : Byte := 1
def pinDataOut : Byte := 2
def pinTMS : Byte := 8
def maxSWDTransferBits : Nat := 16384
def maxJTAGTransferBits : Nat := maxSWDTransferBits / 2
def maxResponsePayload : Nat := maxJTAGTransferBits + 2

/-- `swdRead`: which bits of the stream a response holds. -/
structure SwdRead where
  offset : Nat
  bits : Nat
deriving DecidableEq, Repr

/-- `swdRunWidth`. -/
def swdRunWidth (direction : Buffer) (offset bits : Nat) (hostDrives : Bool) : Nat :=
  widen (fun width => decide (offset + width < bits) && direction.get (offset + width) ==
    hostDrives) 7 1

/-- `swdRunData`. -/
def swdRunData (output : Buffer) (offset bits : Nat) : Byte :=
  (List.range bits).foldl
    (fun data bit => data ||| (BitVec.ofBool (output.get (offset + bit))).setWidth 8 <<< bit) 0

/-- What the encoders append for one run: its commands, and whether they return a
response. -/
structure Run where
  width : Nat
  commands : Buffer
  reads : Bool
deriving DecidableEq, Repr

/-- The loop of the encoders, from an offset on. Every turn takes a bit at least. -/
def encodeRuns (run : Nat → Run) (bits : Nat) : Nat → Nat → Buffer × List SwdRead
  | 0, _ => ([], [])
  | turns + 1, offset =>
    if offset < bits then
      let this := run offset
      let rest := encodeRuns run bits turns (offset + this.width)
      (this.commands ++ rest.1, (if this.reads then [⟨offset, this.width⟩] else []) ++ rest.2)
    else ([], [])

/-- A turn of the loop in `swdCommands`. -/
def swdRun (direction output : Buffer) (bits offset : Nat) : Run :=
  let hostDrives := direction.get offset
  let width := swdRunWidth direction offset bits hostDrives
  if hostDrives then
    let data := swdRunData output offset width
    ⟨width, [cmdSetDataLow, (data &&& 1) <<< 1, pinClock ||| pinDataOut, cmdClockBitsOutNegLSB,
      BitVec.ofNat 8 (width - 1), data], false⟩
  else
    ⟨width, [cmdSetDataLow, 0, pinClock, cmdClockBitsInPosLSB, BitVec.ofNat 8 (width - 1)], true⟩

/-- `swdCommands`. -/
def swdCommands (direction output : Buffer) (bits : Nat) : Buffer × List SwdRead :=
  let (commands, reads) := encodeRuns (swdRun direction output bits) bits bits 0
  (commands ++ [cmdSetDataLow, 0, pinClock] ++ (if reads.length ≠ 0 then [cmdSendImmediate]
    else []), reads)

/-- A turn of the loop in `jtagCommands`: bits with TMS low go out as data, others as TMS
under one TDI level. -/
def jtagRun (tms tdi : Buffer) (bits offset : Nat) : Run :=
  let width := widen (fun width => decide (offset + width < bits) && !tms.get (offset + width)) 8 0
  if width > 0 then
    ⟨width, [cmdSetDataLow, 0, pinClock ||| pinDataOut ||| pinTMS, 0x3b, BitVec.ofNat 8 (width - 1),
      swdRunData tdi offset width], true⟩
  else
    let width := widen
      (fun width => decide (offset + width < bits) && tdi.get (offset + width) == tdi.get offset) 6
        1
    let data := swdRunData tms offset width
    let data := if tdi.get offset then data ||| 0x80 else data
    ⟨width, [0x6b, BitVec.ofNat 8 (width - 1), data], true⟩

/-- `jtagCommands`. -/
def jtagCommands (tms tdi : Buffer) (bits : Nat) : Buffer × List SwdRead :=
  let (commands, reads) := encodeRuns (jtagRun tms tdi bits) bits bits 0
  ([cmdSetDataLow, 0, pinClock ||| pinDataOut ||| pinTMS] ++ commands ++ [cmdSendImmediate], reads)

/-- A turn of the loop in `decodeSWD`. -/
def decodeRead (input : Buffer) (read : SwdRead) (response : Byte) : Buffer :=
  let samples := response >>> (8 - read.bits)
  input.putAll read.offset read.bits samples.getLsbD

/-- `decodeSWD`. Its callers have a response for each read. -/
def decodeSWD (response : Buffer) (reads : List SwdRead) (bits : Nat) : Buffer :=
  (reads.zip response).foldl (fun input pair => decodeRead input pair.1 pair.2)
    (Buffer.zeros bits)

end Ostiole.Ftdi
