import Ostiole.Target.Port

/-!
# The wire and its connection record

`Link` is everything below the register methods of `swd.Conn`: the connection's
fields, the target at the other end, the schedule of what the wire and the
target do next, and the log of every frame clocked so far. The schedule is an
arbitrary function of time, so a statement about every `Link` is a statement
about every schedule.

A fixed-frame chunk is one exchange. A simple response takes two: request and
acknowledgement, then data or cleanup.
-/

namespace Ostiole.Swd

open Ostiole

/-- Why an `SWDIO` call failed. The wire's errors are its own: none of them is a
sentinel of the `swd` or `dap` package. -/
inductive WireFault where
  | canceled
  | deadlineExceeded
  | failed (message : String)
deriving DecidableEq, Repr

def WireFault.err : WireFault → Err
  | .canceled => .sentinel .canceled
  | .deadlineExceeded => .sentinel .deadlineExceeded
  | .failed message => .text message

/-- What happens in one `SWDIO` call. -/
structure Exchange where
  failure : Option WireFault
  /-- How much of a failed call reached the target, in frames or phases. -/
  delivered : Nat
  frames : Nat → FrameChoice

/-- The schedule of a run. -/
structure Env where
  exchange : Nat → Exchange
  /-- Lifetime of an independent cleanup context created at this time. -/
  budget : Nat → Nat
  world : PortWorld
  /-- `MaxTransferBits`, when the wire implements `TransferLimits`. -/
  maxTransferBits : Option Int

/-- One clocked frame. `seen` is the acknowledgement the host decoded; it is
absent when the exchange failed and the outcome is unknown to the host.
`delivered` tells whether the whole frame reached the target. `value` is the
read data on the wire. -/
structure Event where
  req : Request
  data : Word
  time : Nat
  select : Word
  seen : Option Ack
  delivered : Bool
  value : Word
  accepted : Bool
  effective : Bool
deriving DecidableEq, Repr

inductive ResponseMode where
  | simple | overrun
deriving DecidableEq, Repr

inductive ConnectionState where
  | idle | ready | repair
deriving DecidableEq, Repr

structure BankSelection where
  bank : BitVec 4
  valid : Bool
deriving DecidableEq, Repr

/-- Go's zero value. -/
def BankSelection.zero : BankSelection := ⟨0, false⟩

/-- The fields of `swd.Conn` that outlive a call. -/
structure Conn where
  response : ResponseMode
  state : ConnectionState
  identity : Word
  identityKnown : Bool
  originalOverrun : Bool
  originalKnown : Bool
  bank : BankSelection
  priorBank : BankSelection
  selectPending : Bool
  completionTimeout : Int
deriving DecidableEq, Repr

/-- `swd.New`. -/
def Conn.new (completionTimeout : Int) : Conn where
  response := .simple
  state := .idle
  identity := 0
  identityKnown := false
  originalOverrun := false
  originalKnown := false
  bank := .zero
  priorBank := .zero
  selectPending := false
  completionTimeout := completionTimeout

structure Link where
  env : Env
  clock : Nat
  target : Target
  log : List Event
  conn : Conn

abbrev LinkM := StateM Link

/-- A value and a possibly nil error, the result of most methods. -/
abbrev Result := Word × Option Err

/-! ## Clock and contexts -/

def Link.tick (l : Link) : Link := { l with clock := l.clock + 1 }

/-- `ctx.Err()`. -/
def ctxErr (ctx : Ctx) : LinkM (Option Err) := fun l => (ctx.err l.clock, l.tick)

/-- `context.WithTimeout(context.Background(), ...)`. -/
def cleanupContext : LinkM Ctx := fun l =>
  (⟨l.clock + l.env.budget l.clock, .deadlineExceeded⟩, l.tick)

/-- `completionError`: add the caller's cancellation to an outcome. -/
def completionError (ctx : Ctx) (err : Option Err) : LinkM (Option Err) := do
  match ← ctxErr ctx with
  | some cause =>
    match ctx.cause with
    | .canceled => return if isErr err .canceled then err else Err.joined err (some cause)
    | .deadlineExceeded =>
      return if isErr err .deadlineExceeded then err else Err.joined err (some cause)
  | none => return err

def modifyConn (f : Conn → Conn) : LinkM Unit := fun l => ((), { l with conn := f l.conn })

/-! ## Exchanges -/

def eventOf (time : Nat) (req : Request) (data : Word) (served : Target.Served)
    (seen : Option Ack) (delivered : Bool) : Event :=
  ⟨req, data, time, served.select, seen, delivered, served.reply.data, served.accepted,
    served.effective⟩

/-- A frame that a failed exchange did not deliver. -/
def lostEvent (time : Nat) (t : Target) (frame : Request × Word) : Event :=
  ⟨frame.1, frame.2, time, t.select, none, false, 0, false, false⟩

/-- Clock complete fixed frames in one exchange. -/
def exchangeFixed (frames : List (Request × Word)) :
    LinkM (Except Err (List Target.Reply)) := fun l =>
  let x := l.env.exchange l.clock
  match x.failure with
  | none =>
    let served := Target.frames l.env.world x.frames 0 frames l.target
    let events := frames.zipWith (fun frame s =>
      eventOf l.clock frame.1 frame.2 s (some s.reply.ack) true) served.1
    (.ok (served.1.map (·.reply)),
      { l.tick with target := served.2, log := l.log ++ events })
  | some fault =>
    let reached := frames.take x.delivered
    let served := Target.frames l.env.world x.frames 0 reached l.target
    let events := reached.zipWith (fun frame s =>
      eventOf l.clock frame.1 frame.2 s none true) served.1
    let lost := (frames.drop x.delivered).map (lostEvent l.clock served.2)
    (.error fault.err,
      { l.tick with target := served.2, log := l.log ++ (events ++ lost) })

/-- The first exchange of a simple response. A read takes place here; a write
waits for its data phase. -/
def exchangeHeader (req : Request) (data : Word) :
    LinkM (Except Err Target.Served) := fun l =>
  let x := l.env.exchange l.clock
  let served :=
    if req.read then l.target.frame l.env.world (x.frames 0) req data
    else l.target.header (x.frames 0) req
  match x.failure with
  | none => (.ok served.1, { l.tick with target := served.2 })
  | some fault =>
    if x.delivered = 0 then
      (.error fault.err, { l.tick with log := l.log ++ [lostEvent l.clock l.target (req, data)] })
    else
      (.error fault.err, { l.tick with
        target := served.2
        log := l.log ++ [eventOf l.clock req data served.1 none req.read] })

/-- The second exchange of a simple response. The frame is logged here. -/
def exchangeData (req : Request) (data : Word) (served : Target.Served) :
    LinkM (Option Err) := fun l =>
  let x := l.env.exchange l.clock
  let writes := !req.read && served.reply.ack == .ok &&
    (x.failure.isNone || x.delivered != 0)
  let drop := (x.frames 0).drop
  let target := if writes then l.target.writePhase (x.frames 0) req data else l.target
  let served := if writes then { served with accepted := true, effective := !drop } else served
  let seen := if x.failure.isNone then some served.reply.ack else none
  (x.failure.map (·.err), { l.tick with
    target := target
    log := l.log ++ [eventOf l.clock req data served seen (req.read || seen.isSome || writes)] })

/-- Protocol entry sequences: line resets, JTAG-to-SWD, dormant activation. -/
def exchangeEntry (resets : Bool) : LinkM (Option Err) := fun l =>
  let x := l.env.exchange l.clock
  let target := if resets && (x.failure.isNone || x.delivered != 0) then l.target.lineReset
    else l.target
  (x.failure.map (·.err), { l.tick with target := target })

end Ostiole.Swd
