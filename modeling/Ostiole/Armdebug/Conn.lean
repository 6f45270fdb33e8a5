import Ostiole.Dap.Types
import Ostiole.Go.Context

/-!
# Owners of a debug connection

`armdebug.Conn` owns a probe, the debug port it carries and the MEM-APs acquired
through it. What they answer is fixed by a schedule. A log keeps every answer, with
the connection as it was when the question was asked.
-/

namespace Ostiole.Armdebug

open Ostiole Dap

/-- `ownedMemAP`. A client stands for the value `dap.OpenMemAP` returned. -/
structure OwnedMemAP where
  selection : APSel
  client : Nat
deriving DecidableEq, Repr

/-- `Conn`. `probe` and `port` say whether they are still held. -/
structure Conn where
  probe : Bool
  port : Bool
  closing : Bool
  memories : List OwnedMemAP
deriving DecidableEq, Repr

inductive Event where
  | acquired (client : Nat)
  | closing
  | possible (report : Bool)
  | portPending (report : Bool)
  | memoryReleased (client : Nat) (err : Option Err)
  | portReleased (err : Option Err)
  | probeClosed (err : Option Err)
  | closed (err : Option Err)

/-- An event and the connection when it was decided on. -/
structure Entry where
  before : Conn
  event : Event

/-- What the lower layers answer at each instant. -/
structure Env where
  openMemory : Nat → Option Err
  releaseMemory : Nat → Option Err
  releasePort : Nat → Option Err
  closeProbe : Nat → Option Err
  possible : Nat → Bool
  portPending : Nat → Bool
  probePending : Nat → Bool

structure World where
  env : Env
  clock : Nat
  client : Nat
  conn : Conn
  log : List Entry

abbrev ConnM := StateM World

/-- Ask a question of the lower layers and log the answer. -/
def ask {α : Type} (question : Env → Nat → α) (event : α → Event) : ConnM α := fun w =>
  let answer := question w.env w.clock
  (answer, { w with clock := w.clock + 1, log := w.log ++ [⟨w.conn, event answer⟩] })

def record (event : Event) : ConnM Unit := modify fun w =>
  { w with log := w.log ++ [⟨w.conn, event⟩] }

def modifyConn (f : Conn → Conn) : ConnM Unit := modify fun w => { w with conn := f w.conn }

def ctxErr (ctx : Ctx) : ConnM (Option Err) := fun w =>
  (ctx.err w.clock, { w with clock := w.clock + 1 })

/-! ## Acquisition -/

/-- The call of `dap.OpenMemAP`. -/
def acquire (ap : APSel) : ConnM (Option Err) := fun w =>
  match w.env.openMemory w.clock with
  | some err => (some err, { w with clock := w.clock + 1 })
  | none => (none, { w with
      clock := w.clock + 1
      client := w.client + 1
      conn := { w.conn with memories := w.conn.memories ++ [⟨ap, w.client⟩] }
      log := w.log ++ [⟨w.conn, .acquired w.client⟩] })

/-- `OpenMemAP`. -/
def openMemAP (ctx : Ctx) (ap : APSel) : ConnM (Option Err) := do
  let c := (← get).conn
  if c.closing ∨ !c.port then
    return some (.text "armdebug: connection is not available for MEM-AP acquisition")
  if let some err ← ctxErr ctx then return some err
  if c.memories.any (fun owned => owned.selection = ap) then
    return some (.text "armdebug: access port is already owned")
  acquire ap

/-! ## Close -/

/-- `RestorationPossible` of the probe. -/
def restorationPossible : ConnM Bool := ask Env.possible .possible

/-- `releaseMemAPs`, on the MEM-APs from the last one back. -/
def releaseMemAPsFrom : List OwnedMemAP → ConnM (Option Err)
  | [] => return none
  | last :: rest => do
    match ← ask Env.releaseMemory (.memoryReleased last.client) with
    | some err => return some err
    | none =>
      modifyConn fun c => { c with memories := rest.reverse }
      releaseMemAPsFrom rest

/-- `releaseMemAPs`. -/
def releaseMemAPs : ConnM (Option Err) := do
  releaseMemAPsFrom (← get).conn.memories.reverse

/-- `CleanupPending` of the port. -/
def portPending : ConnM Bool := do
  if !(← get).conn.port then return false
  ask Env.portPending .portPending

/-- The branch of `releaseTarget` for a probe that cannot restore. -/
def giveUp : ConnM (Option Err) := do
  if !(← get).conn.memories.isEmpty then return some (.sentinel .restorationAbandoned)
  if ← portPending then return some (.sentinel .restorationAbandoned)
  return none

/-- The branch of `releaseTarget` for a probe that can restore. -/
def restore : ConnM (Option Err) := do
  if let some err ← releaseMemAPs then return some err
  if !(← get).conn.port then return none
  ask Env.releasePort .portReleased

/-- `releaseTarget`. -/
def releaseTarget : ConnM (Option Err) := do
  if !(← get).conn.probe then restore
  else if ← restorationPossible then restore
  else giveUp

/-- The condition under which `Close` retains what it owns. -/
def retains (err : Option Err) : ConnM Bool := do
  if err.isNone then return false
  if !(← get).conn.probe then return true
  restorationPossible

/-- The error of a `Close` that gives up restoration. -/
def abandoned (err : Option Err) : Option Err :=
  if err.isSome ∧ !isErr err .restorationAbandoned then
    Err.joined err (some (.sentinel .restorationAbandoned))
  else err

/-- `closeProbe`, with the connection as it was when the probe was given up. -/
def closeProbe (before : Conn) : ConnM (Option Err) := fun w =>
  if !w.conn.probe then (none, w)
  else
    let err := w.env.closeProbe w.clock
    (err, { w with
      clock := w.clock + 1
      log := w.log ++ [⟨before, .probeClosed err⟩]
      conn := { w.conn with probe := w.env.probePending w.clock } })

/-- The end of `Close`, once nothing is left to restore. -/
def closeHost (err : Option Err) : ConnM (Option Err) := do
  let before := (← get).conn
  modifyConn fun c => { c with memories := [], port := false }
  return Err.joined (abandoned err) (← closeProbe before)

/-- The body of `Close`. -/
def closeConn : ConnM (Option Err) := do
  let err ← releaseTarget
  if ← retains err then return err
  closeHost err

/-- `Close`. -/
def close : ConnM (Option Err) := do
  record .closing
  modifyConn fun c => { c with closing := true }
  let err ← closeConn
  record (.closed err)
  return err

/-! ## Runs -/

inductive Call where
  | openMemAP (ctx : Ctx) (ap : APSel)
  | close

def Call.perform : Call → ConnM (Option Err)
  | .openMemAP ctx ap => Armdebug.openMemAP ctx ap
  | .close => Armdebug.close

/-- The world after a list of calls. -/
def World.perform (w : World) (calls : List Call) : World :=
  calls.foldl (fun w call => (call.perform w).2) w

/-- A world in which nothing has been acquired, with or without a port. -/
def World.connected (w : World) (port : Bool) : World :=
  { w with conn := ⟨true, port, false, []⟩, log := [] }

end Ostiole.Armdebug
