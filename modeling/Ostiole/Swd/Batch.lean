import Ostiole.Swd.Transfer

/-!
# Batches

`batch.go`: an ordered queue of raw register operations. Simple responses run
one frame at a time and stop at the first error. Overrun responses pack whole
frames into chunks, decode every frame of a chunk and then re-mark the results
in the light of protocol loss, abandoned suffixes and WAIT cleanup.
-/

namespace Ostiole.Swd

open Ostiole

/-- `fixedFrameBits`. -/
def fixedFrameBits : Int := 54

/-- A queued operation. -/
structure BatchOp where
  req : Request
  data : Word
deriving DecidableEq, Repr

/-- A resolved result. -/
structure BatchResult where
  value : Word
  err : Option Err
deriving DecidableEq, Repr

/-- The result of an operation that was not sent. -/
def unsent : BatchResult := ⟨0, some errNotExecuted⟩

/-- `resolveSuffix` over the remaining operations. -/
def resolveSuffix (ops : List BatchOp) : List BatchResult := ops.map fun _ => unsent

/-- `fmt.Errorf("swd: operation %d: %w", ...)`. -/
def operationErr (index : Nat) (err : Err) : Err := .wrap s!"swd: operation {index}" err

/-- The address check of every operation. -/
def requestErrs (start : Nat) (ops : List BatchOp) : List (Option Err) :=
  ops.mapIdx fun i op => (newRequestErr op.req.addr).map (operationErr (start + i))

/-- The framing check of every operation, against a connection that assumes
every earlier valid operation succeeded. -/
def shadowErrs (shadow : Conn) (start : Nat) : List BatchOp → List (Option Err)
  | [] => []
  | op :: rest =>
    match shadow.validateTransfer op.req op.data with
    | some err => some (operationErr start err) :: shadowErrs shadow (start + 1) rest
    | none => none :: shadowErrs (shadow.observeTransfer op.req 0 op.data none) (start + 1) rest

/-- `Batch.validate`: the error of each operation and the joined error. -/
def validate (ctx : Ctx) (ops : List BatchOp) : LinkM (List (Option Err) × Option Err) := do
  let errs := requestErrs 0 ops
  if let some err := joinErrs (errs.filterMap id) then return (errs, some err)
  if (← get).conn.state ≠ .ready then
    return (errs, some (.text "swd: connection is not ready; call Connect"))
  if let some err ← ctxErr ctx then return (errs, some err)
  if let some err := (← get).conn.validateCompletion then return (errs, some err)
  let errs := shadowErrs (← get).conn 0 ops
  return (errs, joinErrs (errs.filterMap id))

def resolveInvalid (errs : List (Option Err)) : List BatchResult :=
  errs.map fun err => ⟨0, some (err.getD errNotExecuted)⟩

def commitSequential (ctx : Ctx) : Nat → List BatchOp → LinkM (List BatchResult × Option Err)
  | _, [] => return ([], none)
  | index, op :: rest => do
    if let some err ← ctxErr ctx then return (resolveSuffix (op :: rest), some err)
    if let some err := (← get).conn.validateTransfer op.req op.data then
      return (⟨0, some (operationErr index err)⟩ :: resolveSuffix rest,
        some (operationErr index err))
    let (value, err) ← transfer none op.req op.data
    let err := if completeTransfer err then err else err.map (.join errIndeterminate)
    match err with
    | some err =>
      return (⟨value, some err⟩ :: resolveSuffix rest,
        ← completionError ctx (some (.wrap s!"swd: batch stopped at operation {index}" err)))
    | none =>
      if let some err ← ctxErr ctx then return (⟨value, none⟩ :: resolveSuffix rest, some err)
      let (results, err) ← commitSequential ctx (index + 1) rest
      return (⟨value, none⟩ :: results, err)

/-- How many of the given operations, already cut to the wire limit, go into
the next chunk. -/
def overrunChunkLength (shadow : Conn) : List BatchOp → Nat
  | [] => 0
  | op :: rest =>
    if (shadow.selectPending && isPossibleCTRLSTATRead op.req shadow.priorBank) ||
        op.req.isABORTWrite then 1
    else 1 + overrunChunkLength (shadow.observeTransfer op.req 0 op.data none) rest

/-- A decoded chunk: for each frame its result, its error as decoded, and
whether it was exempt from sticky faults. -/
structure Decoded where
  result : BatchResult
  decoded : Option Err
  exempt : Bool
deriving DecidableEq, Repr

/-- `decodeOverrunChunk` and `observeOverrunChunk`. -/
def observeOverrunChunk : List BatchOp → List Target.Reply → LinkM (Bool × List Decoded)
  | op :: ops, reply :: replies => do
    let (value, err) := decodeFixedFrame reply op.req
    let conn := (← get).conn
    let exempt := conn.stickyExempt op.req
    let pendingWAIT := isExactly err .swdWait && conn.selectPending
    if !pendingWAIT then modifyConn (·.observeTransfer op.req value op.data err)
    let (laterWAIT, rest) ← observeOverrunChunk ops replies
    return (pendingWAIT || laterWAIT, ⟨⟨value, err⟩, err, exempt⟩ :: rest)
  | _, _ => return (false, [])

/-- `firstFrameError`: the first frame with one of the given errors. -/
def firstFrameError (frames : List Decoded) (errs : List Sentinel) : Option Nat :=
  frames.findIdx? fun frame => errs.any (isExactly frame.decoded)

/-- The error `markIndeterminate` gives one result. -/
def Decoded.lose (cause : Err) (frame : Decoded) : Decoded :=
  let own := match frame.result.err with
    | some err => Err.join err cause
    | none => cause
  { frame with result := { frame.result with err := some (.join errIndeterminate own) } }

/-- `markIndeterminate` from `start` up to `stop`. -/
def markIndeterminate (start stop : Nat) (cause : Err) (frames : List Decoded) : List Decoded :=
  frames.take start ++ ((frames.take stop).drop start).map (·.lose cause) ++ frames.drop stop

/-- Whether a frame after a WAIT or FAULT was abandoned, or need not have been. -/
def Decoded.abandoned (frame : Decoded) : Bool :=
  isExactly frame.result.err .swdFault ||
    (frame.exempt && (frame.result.err.isNone || isExactly frame.result.err .swdParity))

/-- The first frame after `first` and before `stop` that was not abandoned. -/
def unexpectedFrame (first stop : Nat) (frames : List Decoded) : Option Nat :=
  (((frames.take stop).drop (first + 1)).findIdx? (!·.abandoned)).map (first + 1 + ·)

def notAbandonedErr : Err := .text "swd: request after WAIT or FAULT was not abandoned"

/-- `validateAbandonedSuffix`. -/
def validateAbandonedSuffix (first stop start : Nat) (frames : List Decoded) :
    LinkM (List Decoded × Option Err) := do
  match unexpectedFrame first stop frames with
  | none => return (frames, none)
  | some i =>
    modifyConn (·.requireRepair)
    return (markIndeterminate i stop notAbandonedErr frames,
      some (.text (s!"swd: operation {start + i} completed unexpectedly " ++
        s!"after operation {start + first} failed")))

/-- `cleanupPackedWAIT`: an error of the cleanup is added to the WAITed result. -/
def cleanupPackedWAIT (req : Request) (waitWithPending : Bool) : LinkM (Option Err) := do
  let err ←
    if req.isABORTWrite then do
      modifyConn (·.requireRepair)
      pure (some abortWAITErr)
    else clearOverrunAfterWAIT
  if waitWithPending then modifyConn (·.requireRepair)
  return err

/-- Add a cleanup error to the result at `index`. -/
def addResultErr (index : Nat) (err : Option Err) (frames : List Decoded) : List Decoded :=
  match err with
  | none => frames
  | some _ => frames.modify index fun frame =>
    { frame with result := { frame.result with err := Err.joined frame.result.err err } }

/-- The errors `finishOverrunChunk` joins, in queue order. -/
def chunkErrs (start : Nat) (frames : List Decoded) : List Err :=
  (frames.mapIdx fun i frame => frame.result.err.map (operationErr (start + i))).filterMap id

def chunkErr (start : Nat) (err : Err) : Err :=
  .wrap s!"swd: batch chunk at operation {start}" err

/-- The protocol stage of `finishOverrunChunk`: everything from an undefined
acknowledgement on is indeterminate. Returns where the confirmed part stops. -/
def loseProtocol (frames : List Decoded) : LinkM (List Decoded × Nat) := do
  match firstFrameError frames [.swdProtocol] with
  | none => return (frames, frames.length)
  | some lost =>
    modifyConn (·.requireRepair)
    return (markIndeterminate lost frames.length errProtocol frames, lost)

/-- The suffix stage: what followed the first WAIT or FAULT must be abandoned. -/
def checkAbandonedSuffix (start stop : Nat) (frames : List Decoded) :
    LinkM (List Decoded × Option Err) :=
  match firstFrameError frames [.swdWait, .swdFault] with
  | none => return (frames, none)
  | some failed => validateAbandonedSuffix failed stop start frames

/-- The cleanup stage: after a WAIT the connection clears STICKYORUN once. -/
def clearPackedWAIT (ops : List BatchOp) (waitWithPending : Bool) (frames : List Decoded) :
    LinkM (List Decoded) := do
  match firstFrameError frames [.swdWait], (← get).conn.state with
  | some waited, .ready =>
    match ops[waited]? with
    | some op =>
      let err ← cleanupPackedWAIT op.req waitWithPending
      return addResultErr waited err frames
    | none => return frames
  | _, _ => return frames

def finishOverrunChunk (start : Nat) (ops : List BatchOp) (frames : List Decoded)
    (waitWithPending : Bool) : LinkM (List BatchResult × Option Err) := do
  let (frames, stop) ← loseProtocol frames
  let (frames, suffixErr) ← checkAbandonedSuffix start stop frames
  let frames ← clearPackedWAIT ops waitWithPending frames
  let errs := chunkErrs start frames ++ suffixErr.toList
  return (frames.map (·.result), (joinErrs errs).map (chunkErr start))

def commitOverrunChunk (ctx : Ctx) (start : Nat) (ops : List BatchOp) :
    LinkM (List BatchResult × Option Err) := do
  if let some err ← completionContext ctx then return (resolveSuffix ops, some err)
  match ← exchangeFixed (ops.map fun op => (op.req, op.data)) with
  | .error err =>
    modifyConn (·.requireRepair)
    let results := ops.map fun _ => (⟨0, some (.join errIndeterminate err)⟩ : BatchResult)
    return (results, ← completionError ctx (some (chunkErr start err)))
  | .ok replies =>
    let (waitWithPending, frames) ← observeOverrunChunk ops replies
    let (results, err) ← finishOverrunChunk start ops frames waitWithPending
    return (results, ← completionError ctx err)

/-- `commitOverrun`, with as many turns as there are operations left. -/
def commitOverrun (ctx : Ctx) (frames : Nat) :
    Nat → Nat → List BatchOp → LinkM (List BatchResult × Option Err)
  | 0, _, ops => return (resolveSuffix ops, none)
  | turns + 1, start, ops => do
    match ops with
    | [] => return ([], none)
    | first :: rest =>
      if let some err ← ctxErr ctx then return (resolveSuffix ops, some err)
      if let some err := (← get).conn.validateTransfer first.req first.data then
        return (⟨0, some (operationErr start err)⟩ :: resolveSuffix rest,
          some (operationErr start err))
      let count := overrunChunkLength (← get).conn (ops.take frames)
      let (results, err) ← commitOverrunChunk ctx start (ops.take count)
      if err.isSome then return (results ++ resolveSuffix (ops.drop count), err)
      let (later, err) ← commitOverrun ctx frames turns (start + count) (ops.drop count)
      return (results ++ later, err)

/-- `transferLimit`, as a number of bits or the reason for refusing. -/
def transferLimit (env : Env) : Except Err Int :=
  match env.maxTransferBits with
  | none => .ok fixedFrameBits
  | some limit =>
    if limit < fixedFrameBits then
      .error (.text (s!"swd: wire transfer limit {limit} bits is smaller than one " ++
        s!"{fixedFrameBits}-bit frame"))
    else .ok (limit / fixedFrameBits * fixedFrameBits)

/-- `Batch.Commit`. -/
def commit (ctx : Ctx) (ops : List BatchOp) : LinkM (List BatchResult × Option Err) := do
  if ops = [] then return ([], none)
  let (errs, err) ← validate ctx ops
  if err.isSome then return (resolveInvalid errs, err)
  if (← get).conn.response = .simple then commitSequential ctx 0 ops
  else
    match transferLimit (← get).env with
    | .error err => return (resolveSuffix ops, some err)
    | .ok limit => commitOverrun ctx (limit / fixedFrameBits).toNat ops.length 0 ops

end Ostiole.Swd
