import Ostiole.Cortexm.Control

/-!
# Groups of processors

`Group` holds one target for each member and releases what it has acquired. Members
share the clock; each reads and writes its own memory. Every call of a target is
logged with the group as it was when the call was decided on.
-/

namespace Ostiole.Cortexm

open Ostiole

/-- `CoreID`. -/
abbrev CoreId := Word

/-- `Member`. -/
structure Member where
  id : CoreId
  memory : Option Env

/-- `ExecutionState`. -/
inductive ExecutionState where
  | unknown | running | halted
deriving DecidableEq, Repr

/-- `CoreResult`. -/
structure CoreResult where
  id : CoreId
  identity : Identity
  attempted : Bool
  skipped : Bool
  state : ExecutionState
  haltOwned : Bool
  cleanupPending : Bool
  err : Option Err
deriving DecidableEq, Repr

/-- `groupCore`. The target comes with the memory it borrows. -/
structure GroupCore where
  result : CoreResult
  target : Option (Env × Target)

/-- `Group`. -/
structure Group where
  cores : List GroupCore
  closing : Bool

/-- What a group does with its members. A member is reached only by `acquired`,
`released` and `controlled`; `expired` stands for an attempt that found its context
ended. -/
inductive GroupEvent where
  | acquired (core : Nat) (err : Option Err)
  | releasing (ctx : Ctx)
  | expired (core now : Nat)
  | released (core now : Nat) (err : Option Err)
  | controlled (core : Nat) (err : Option Err)

/-- An event and the group when it was decided on. -/
structure GroupEntry where
  before : Group
  event : GroupEvent

/-- The group, the clock its members share, and how long a context made for one of
so many attempts lasts. -/
structure GroupWorld where
  budget : Nat → Nat → Nat
  clock : Nat
  group : Group
  log : List GroupEntry

abbrev GroupM := StateM GroupWorld

namespace Group

/-! ## Members -/

def modifyGroup (f : Group → Group) : GroupM Unit := modify fun w => { w with group := f w.group }

/-- Change one member. -/
def modifyCore (core : Nat) (f : GroupCore → GroupCore) : GroupM Unit :=
  modifyGroup fun g => { g with cores := g.cores.modify core f }

def modifyResult (core : Nat) (f : CoreResult → CoreResult) : GroupM Unit :=
  modifyCore core fun c => { c with result := f c.result }

def record (before : Group) (event : GroupEvent) : GroupM Unit := modify fun w =>
  { w with log := w.log ++ [⟨before, event⟩] }

/-- `liveContext`. -/
def liveContext (ctx : Ctx) : GroupM (Option Err) := fun w =>
  (ctx.err w.clock, { w with clock := w.clock + 1 })

/-- Run a program on the target of a member. -/
def onTarget {α : Type} (core : Nat) (absent : α) (program : TargetM α) : GroupM α := fun w =>
  match w.group.cores[core]? with
  | some ⟨_, some (memory, target)⟩ =>
    let outcome := program ⟨memory, w.clock, target, []⟩
    (outcome.1, { w with
      clock := outcome.2.clock
      group := { w.group with
        cores := w.group.cores.modify core fun c =>
          { c with target := some (memory, outcome.2.target) } } })
  | _ => (absent, w)

/-- `CleanupPending` of a member. -/
def cleanupPending (g : Group) (core : Nat) : Bool :=
  match g.cores[core]? with
  | some c => c.result.cleanupPending
  | none => false

/-- The members in order. -/
def indices (g : Group) : List Nat := List.range g.cores.length

/-- `pendingCount`. -/
def pendingCount (g : Group) : Nat := g.cores.countP fun c => c.result.cleanupPending

/-- `pending`. -/
def pending (g : Group) : Bool := g.pendingCount != 0

/-- `coreError`. -/
def coreError (id : CoreId) (err : Err) : Err :=
  .wrap ("cortexm: core " ++ toString id.toNat ++ ": ") err

/-- The error of a member. -/
def memberError (g : Group) (core : Nat) (err : Err) : Err :=
  match g.cores[core]? with
  | some c => coreError c.result.id err
  | none => err

/-- `Results`. -/
def results (g : Group) : List CoreResult := g.cores.map fun c =>
  { c.result with
    haltOwned := c.result.cleanupPending && match c.target with
      | some (_, target) => target.haltOwned
      | none => false }

/-! ## Release -/

/-- `groupReleaseContext`. -/
def groupReleaseContext (ctx : Ctx) (remaining : Nat) : GroupM Ctx := fun w =>
  let deadline := w.clock + w.budget w.clock remaining
  (if deadline < ctx.deadline then ⟨deadline, .deadlineExceeded⟩ else ctx,
    { w with clock := w.clock + 1 })

/-- The release of one pending member, decided on in the world `before`. -/
def attemptRelease (before : GroupWorld) (attempt : Ctx) (core : Nat) : GroupM (Option Err) := do
  modifyResult core fun r => { r with attempted := true }
  let err ← onTarget core none (Cortexm.release attempt)
  record before.group (.released core before.clock err)
  modifyResult core fun r =>
    { r with err := Err.joined r.err err, cleanupPending := err.isSome }
  return err.map (before.group.memberError core)

/-- The turn of `release` on one pending member. -/
def releaseCore (ctx : Ctx) (remaining core : Nat) : GroupM (Option Err) := do
  let before ← get
  match ← liveContext ctx with
  | some err =>
    record before.group (.expired core before.clock)
    modifyResult core fun r => { r with err := Err.joined r.err (some err) }
    return some (before.group.memberError core err)
  | none =>
    let attempt ← groupReleaseContext ctx remaining
    attemptRelease before attempt core

/-- The loop of `release`. -/
def releaseLoop (ctx : Ctx) : List Nat → Nat → GroupM (List Err)
  | [], _ => return []
  | core :: rest, remaining => do
    if !(← get).group.cleanupPending core then releaseLoop ctx rest remaining
    else
      let err ← releaseCore ctx remaining core
      let errs ← releaseLoop ctx rest (remaining - 1)
      return err.toList ++ errs

/-- The reset of the outcomes by `release`. -/
def resetResults (preserve : Bool) : GroupM Unit :=
  if preserve then return ()
  else modifyGroup fun g => { g with cores := g.cores.map fun c => { c with
    result := { c.result with
      attempted := false, skipped := false, state := .unknown, err := none } } }

/-- The attempts of `release`. -/
def releasePending (ctx : Ctx) : GroupM (List CoreResult × Option Err) := do
  let g := (← get).group
  if !g.pending then return (g.results, none)
  let errs ← releaseLoop ctx g.indices.reverse g.pendingCount
  return ((← get).group.results, joinErrs errs)

/-- `release`. -/
def release (ctx : Ctx) (preserve : Bool) : GroupM (List CoreResult × Option Err) := do
  record (← get).group (.releasing ctx)
  modifyGroup fun g => { g with closing := true }
  resetResults preserve
  releasePending ctx

/-! ## Acquisition -/

/-- A member before its acquisition. -/
def fresh (member : Member) : GroupCore where
  result := ⟨member.id, Identity.of 0, false, false, .unknown, false, false, none⟩
  target := none

/-- The context `AcquireGroup` makes for its cleanup. -/
def cleanupContext : GroupM Ctx := fun w =>
  (⟨w.clock + w.budget w.clock 1, .deadlineExceeded⟩, { w with clock := w.clock + 1 })

/-- What an operation on one member returns. -/
structure Outcome where
  state : ExecutionState
  skipped : Bool
  err : Option Err

/-- `haltCore`. -/
def haltCore (ctx : Ctx) : TargetM Outcome := do
  if let some err ← Cortexm.halt ctx then return ⟨.unknown, false, some err⟩
  return ⟨.halted, false, none⟩

/-- `statusCore`. -/
def statusCore (ctx : Ctx) : TargetM Outcome := do
  match ← Cortexm.halted ctx with
  | .error err => return ⟨.unknown, false, some err⟩
  | .ok halted => return ⟨if halted then .halted else .running, false, none⟩

/-- The end of `resumeCore`, on a halt that is owned. -/
def resumeOwned (ctx : Ctx) : TargetM Outcome := do
  if let some err ← Cortexm.targetResume ctx then return ⟨.unknown, false, some err⟩
  return ⟨.running, false, none⟩

/-- `resumeCore`. -/
def resumeCore (ctx : Ctx) : TargetM Outcome := do
  let status ← statusCore ctx
  if status.err.isSome ∨ !(← get).target.haltOwned then
    return ⟨status.state, status.err.isNone, status.err⟩
  resumeOwned ctx

/-- The operation of `access`. -/
def accessCore (call : Call) : TargetM Outcome := do
  if let some err ← call.perform then return ⟨.unknown, false, some err⟩
  return ⟨.halted, false, none⟩

/-- The first check of `selectCores` on a selection. -/
def validSelection (wanted : List CoreId) : List CoreId → Bool
  | [] => true
  | id :: rest => id != 0 && !wanted.contains id && validSelection (id :: wanted) rest

/-- `selectCores`. -/
def selectCores (g : Group) (ids : List CoreId) : Except Err (List Nat) :=
  if g.cores.isEmpty ∨ g.closing then
    .error (.text "cortexm: group is unavailable; release may be pending")
  else if ids.isEmpty then .error (.text "cortexm: empty core selection")
  else if !validSelection [] ids then
    .error (.text "cortexm: require unique nonzero selected core IDs")
  else
    let selected := g.indices.filter fun core => match g.cores[core]? with
      | some c => ids.contains c.result.id
      | none => false
    if selected.length ≠ ids.length then
      .error (.text "cortexm: selected core is not a group member")
    else .ok selected

/-- The reset of the selected members by `control`. -/
def resetCores : List Nat → GroupM Unit
  | [] => return ()
  | core :: rest => do
    modifyResult core fun r =>
      { r with attempted := false, skipped := false, state := .unknown, err := none }
    resetCores rest

/-- The operation of `control` on one member. -/
def controlCore (core : Nat) (call : TargetM Outcome) : GroupM (Option Err) := do
  let before := (← get).group
  modifyResult core fun r => { r with attempted := true }
  let outcome ← onTarget core
    ⟨.unknown, false, some (.text "cortexm: target is unavailable; release may be pending")⟩ call
  record before (.controlled core outcome.err)
  modifyResult core fun r =>
    { r with state := outcome.state, skipped := outcome.skipped, err := outcome.err }
  return outcome.err

/-- Whether the target of a member is closing. -/
def targetClosing (g : Group) (core : Nat) : Bool :=
  match g.cores[core]? with
  | some ⟨_, some (_, target)⟩ => target.closing
  | _ => false

/-- The loop of `control`. -/
def controlLoop (ctx : Ctx) (call : TargetM Outcome) : List Nat → GroupM Unit
  | [] => return ()
  | core :: rest => do
    match ← liveContext ctx with
    | some err => modifyResult core fun r => { r with err := some err }
    | none =>
      match ← controlCore core call with
      | some _ => modifyGroup fun g => { g with closing := g.targetClosing core }
      | none => controlLoop ctx call rest

/-- `selectedResults`. -/
def selectedResults (g : Group) (selected : List Nat) : List CoreResult :=
  selected.filterMap fun core => g.results[core]?

/-- The error `control` returns. -/
def controlError (results : List CoreResult) : Option Err :=
  results.findSome? fun r => r.err.map (coreError r.id)

/-- `control`. -/
def control (ctx : Ctx) (ids : List CoreId) (call : TargetM Outcome) :
    GroupM (List CoreResult × Option Err) := do
  match (← get).group.selectCores ids with
  | .error err => return ([], some err)
  | .ok selected =>
    resetCores selected
    controlLoop ctx call selected
    let results := (← get).group.selectedResults selected
    return (results, controlError results)

end Group

/-! ## Runs -/

/-- The public methods of `Group`. -/
inductive GroupCall where
  | halt (ctx : Ctx) (ids : List CoreId)
  | resume (ctx : Ctx) (ids : List CoreId)
  | status (ctx : Ctx) (ids : List CoreId)
  | readRegister (ctx : Ctx) (id : CoreId) (reg : Register)
  | writeRegister (ctx : Ctx) (id : CoreId) (reg : Register) (value : Word)
  | step (ctx : Ctx) (id : CoreId)
  | release (ctx : Ctx)

/-- Carry out a call. -/
def GroupCall.perform : GroupCall → GroupM (List CoreResult × Option Err)
  | .halt ctx ids => Group.control ctx ids (Group.haltCore ctx)
  | .resume ctx ids => Group.control ctx ids (Group.resumeCore ctx)
  | .status ctx ids => Group.control ctx ids (Group.statusCore ctx)
  | .readRegister ctx id reg => Group.control ctx [id] (Group.accessCore (.readRegister ctx reg))
  | .writeRegister ctx id reg value =>
    Group.control ctx [id] (Group.accessCore (.writeRegister ctx reg value))
  | .step ctx id => Group.control ctx [id] (Group.accessCore (.step ctx))
  | .release ctx => Group.release ctx false

/-- The world after a list of calls. -/
def GroupWorld.perform (w : GroupWorld) (calls : List GroupCall) : GroupWorld :=
  calls.foldl (fun w call => (call.perform w).2) w

end Ostiole.Cortexm
