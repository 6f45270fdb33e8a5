import Ostiole.Coresight.Component
import Ostiole.Go.Context

/-!
# The ROM walk

`walk.go`. The target answers every read as it likes, also with values that contradict
earlier ones: an answer is a function of everything read before and of the address. The log
of the walk tells for which visit each word was read and which table entries were taken.
-/

namespace Ostiole.Coresight

open Ostiole

/-- `WalkLimits`. -/
structure WalkLimits where
  maxDepth : Int
  maxComponents : Int
  maxEntries : Int
deriving DecidableEq, Repr

/-- `Validate`. -/
def WalkLimits.validate (limits : WalkLimits) : Option Err :=
  if limits.maxDepth < 0 ∨ limits.maxComponents ≤ 0 ∨ limits.maxEntries ≤ 0 then
    some (.text "coresight: require nonnegative depth and positive component and entry limits")
  else none

/-- `Visit`. -/
structure Visit where
  parent : Int
  index : Int
  entry : ROMEntry
  component : Option Component
  err : Option Err
deriving DecidableEq, Repr

/-- The visit of the root, before it is inspected. -/
def Visit.root : Visit := ⟨-1, -1, .zero, none, none⟩

/-- One thing that a walk did. -/
inductive Event where
  /-- A word was read for a visit. -/
  | word (visit : Nat) (address : BitVec 64)
  /-- An entry of the table at an address was taken up. The words read for it follow. -/
  | entry (table : BitVec 64) (index : Nat)
deriving DecidableEq, Repr

/-- The target and the clock that contexts are read against. -/
structure World where
  answer : List Event → BitVec 64 → Except Err (BitVec 64)
  clock : Nat

/-- `walkFrame`. -/
structure WalkFrame where
  table : ROMTable
  parent : Nat
  next : Nat
  depth : Nat
deriving DecidableEq, Repr

/-- `walker`, with the target behind its reader and what was done so far. The top of `stack`
comes first. -/
structure Walker extends World where
  log : List Event
  limits : WalkLimits
  entries : Nat
  visits : List Visit
  stack : List WalkFrame
  seen : List (BitVec 64)
  skipped : List Err

abbrev WalkM := StateM Walker

/-- `ctx.Err()`. -/
def ctxErr (ctx : Ctx) : WalkM (Option Err) := fun w =>
  (ctx.err w.clock, { w with clock := w.clock + 1 })

/-- `ReadScalar` for a visit. -/
def readScalar (visit : Nat) (address : BitVec 64) : ExceptT Err WalkM (BitVec 64) := fun w =>
  (w.answer w.log address, { w with clock := w.clock + 1, log := w.log ++ [.word visit address] })

/-- The reader of a walk while it reads for one visit. -/
def source (ctx : Ctx) (visit : Nat) : Source WalkM := ⟨ctxErr ctx, readScalar visit⟩

/-- `ErrWalkLimit` with the position where the limit was reached. -/
def walkLimit (position : String) : Err := .wrap position (.sentinel .walkLimit)

/-- What a child behind a power domain is recorded with. -/
def powerDomain (base : BitVec 64) (entry : ROMEntry) : Err :=
  .wrap ("component " ++ hex 0 base.toNat ++ s!" power ID {entry.powerID.toNat}")
    (.sentinel .powerDomain)

/-- Change the visit at an index. -/
def modifyVisit (index : Nat) (change : Visit → Visit) : WalkM Unit :=
  modify fun w => { w with visits := w.visits.modify index change }

/-- `identify`. -/
def Walker.identify (ctx : Ctx) (base : BitVec 64) (index depth : Nat) :
    ExceptT Err WalkM Unit := do
  if base ∈ (← get).seen then throw (.wrap ("at " ++ hex 0 base.toNat) (.sentinel .repeatedTable))
  else
    let component ← Coresight.identify (source ctx index) base
    modifyVisit index fun visit => { visit with component := some component }
    match component.romTable with
    | .error err =>
      if err.is .notROMTable then return ()
      else throw (.wrap ("coresight: table " ++ hex 0 base.toNat) err)
    | .ok table =>
      modify fun w => { w with
        seen := base :: w.seen
        stack := ⟨table, index, 0, depth⟩ :: w.stack }

/-- `inspect`. -/
def Walker.inspect (ctx : Ctx) (base : BitVec 64) (visit : Visit) (depth : Nat) :
    ExceptT Err WalkM Unit := do
  let w ← get
  if depth > w.limits.maxDepth ∨ w.visits.length = w.limits.maxComponents then
    throw (walkLimit ("component " ++ hex 0 base.toNat ++ s!" at depth {depth}"))
  else
    let index := w.visits.length
    modify fun w => { w with visits := w.visits ++ [visit] }
    if visit.entry.powerIDValid then
      let err := powerDomain base visit.entry
      modifyVisit index fun visit => { visit with err := some err }
      modify fun w => { w with skipped := w.skipped ++ [err] }
    else
      tryCatch (Walker.identify ctx base index depth) fun err => do
        modifyVisit index fun visit => { visit with err := some err }
        throw err

/-- `ReadEntry` of the next entry of a frame, which is counted before it is read. -/
def WalkFrame.readEntry (ctx : Ctx) (frame : WalkFrame) : ExceptT Err WalkM ROMEntry := do
  modify fun w => { w with
    entries := w.entries + 1
    log := w.log ++ [.entry frame.table.base frame.next] }
  frame.table.readEntry (source ctx frame.parent) frame.next

/-- `next`, with the frame on top of the stack and those below it. -/
def Walker.next (ctx : Ctx) (frame : WalkFrame) (below : List WalkFrame) :
    ExceptT Err WalkM Unit := do
  poll (source ctx frame.parent)
  if frame.next = frame.table.count then modify fun w => { w with stack := below }
  else
    let w ← get
    if w.entries = w.limits.maxEntries then
      throw (walkLimit ("entries at table " ++ hex 0 frame.table.base.toNat ++
        s!" index {frame.next}"))
    else
      let entry ← frame.readEntry ctx
      modify fun w => { w with stack := { frame with next := frame.next + 1 } :: below }
      if entry.isEnd then modify fun w => { w with stack := below }
      else if entry.present then
        Walker.inspect ctx entry.base ⟨frame.parent, frame.next, entry, none,
          none⟩ (frame.depth + 1)
      else return ()

/-- The loop of `Walk`: whether it ended within some turns, and with which error. -/
def walkLoop (ctx : Ctx) : Nat → WalkM (Option (Option Err))
  | 0 => return if (← get).stack = [] then some none else none
  | turns + 1 => do
    match (← get).stack with
    | [] => return some none
    | frame :: below =>
      match ← (Walker.next ctx frame below).run with
      | .error err => return some (some err)
      | .ok () => walkLoop ctx turns

/-- The walker before anything was done. -/
def Walker.start (limits : WalkLimits) (w : World) : Walker :=
  { answer := w.answer, clock := w.clock + 1, log := [], limits := limits, entries := 0,
    visits := [], stack := [], seen := [], skipped := [] }

/-- `Walk`, if its loop ends within some turns, and what it did. -/
def walk (ctx : Ctx) (base : BitVec 64) (limits : WalkLimits) (turns : Nat) (w : World) :
    Option (List Visit × Option Err) × List Event :=
  match limits.validate with
  | some err => (some ([], some err), [])
  | none =>
    if base &&& 0xfff ≠ 0 then
      (some ([], some (.text "coresight: invalid walk context, reader, or root address")), [])
    else
      match ctx.err w.clock with
      | some err => (some ([], some err), [])
      | none =>
        match (Walker.inspect ctx base .root 0).run (Walker.start limits w) with
        | (.error err, w) => (some (w.visits, joinErrs (w.skipped ++ [err])), w.log)
        | (.ok (), w) =>
          match walkLoop ctx turns w with
          | (none, w) => (none, w.log)
          | (some err, w) => (some (w.visits, joinErrs (w.skipped ++ err.toList)), w.log)

end Ostiole.Coresight
