import Ostiole.Jtag.Conn

/-!
# Validated chains and borrowed TAPs

`chain.go` and `tap.go`. Several chains may share the connection; a chain is
named by its position in the world, and a name without a chain stands for a nil
pointer.
-/

namespace Ostiole.Jtag

open Ostiole

/-- `ErrChainInvalid`. -/
def errChainInvalid : Err := .text "jtag: chain requires validation"

/-- `ErrInstructionChanged`. -/
def errInstructionChanged : Err := .text "jtag: selected TAP instruction changed"

def modifyChain (name : Nat) (f : Chain → Chain) : JtagM Unit := modify fun w =>
  { w with chains := w.chains.modify name f }

/-- `ready`. -/
def World.ready (w : World) (name : Nat) : Bool :=
  match w.chains[name]? with
  | none => false
  | some c => c.valid && c.serial == w.conn.serial

/-! ## Connecting -/

/-- The loop of `checkIR` over the TAPs. -/
def checkIRLoop (capture : Buffer) : Nat → Nat → Layout → Except Err Nat
  | _, offset, [] => .ok offset
  | i, offset, spec :: rest =>
    if capture.get offset ≠ true ∨ capture.get (offset + 1) ≠ false then
      .error (.text ("jtag: IR capture mismatch at TAP " ++ toString i))
    else checkIRLoop capture (i + 1) (offset + spec.ir) rest

/-- `checkIR`. -/
def checkIR (layout : Layout) (capture : Buffer) : Option Err :=
  match checkIRLoop capture 0 0 layout with
  | .error err => some err
  | .ok offset =>
    if capture.word offset ≠ BitVec.allOnes 32 then
      some (.text "jtag: IR chain exceeds supplied layout")
    else none

/-- The comparison of the reset registers in `Connect`. -/
def checkReset : Nat → Layout → List ObservedTAP → Option Err
  | i, spec :: rest, seen :: found =>
    if seen ≠ spec.reset then
      some (.text ("jtag: reset register mismatch at TAP " ++ toString i))
    else checkReset (i + 1) rest found
  | _, _, _ => none

/-- The checks of `Connect` against what was discovered. -/
def checkFound (ctx : Ctx) (layout : Layout) (irBits : Nat) (found : List ObservedTAP) :
    JtagM (Option Err) := do
  if found.length ≠ layout.length then return some (.text "jtag: TAP count mismatch")
  if let some err := checkReset 0 layout found then return some err
  match ← measureIR ctx 65536 with
  | .error err => return some err
  | .ok length =>
    if length ≠ irBits then return some (.text "jtag: total IR length mismatch")
    match ← scanIR ctx (.ones (irBits + 32)) (irBits + 32 : Nat) with
    | (_, some err) => return some err
    | (capture, none) => return checkIR layout (capture.getD [])

/-- The traffic of `Connect`. -/
def connectBody (ctx : Ctx) (layout : Layout) (irBits : Nat) : JtagM (Option Err) := do
  match ← discover ctx layout.length with
  | (_, some err) => return some err
  | (found, none) => checkFound ctx layout irBits found

/-- `Chain.Connect`. -/
def connect (ctx : Ctx) (name : Nat) : JtagM (Option Err) := do
  match (← get).chains[name]? with
  | none => return some errChainInvalid
  | some c =>
    modifyChain name fun c => { c with
      valid := false
      selected := none
      generation := c.generation + 1 }
    let serial := (← get).conn.serial
    let err ← connectBody ctx c.layout c.irBits
    let now := (← get).conn.serial
    modifyChain name fun c => if err.isNone then { c with serial := now, valid := true } else c
    modifyChain name fun c => if now ≠ serial then { c with released := false } else c
    return err

/-- The parking of `Release`. -/
def park (ctx : Ctx) (name irBits : Nat) : JtagM (Option Err) := do
  modifyChain name fun c => { c with valid := false, generation := c.generation + 1 }
  let (capture, err) ← scanIR ctx (.ones irBits) irBits
  modifyChain name fun c => { c with released := capture.isSome }
  return err

/-- `Chain.Release`. -/
def release (ctx : Ctx) (name : Nat) : JtagM (Option Err) := do
  match (← get).chains[name]? with
  | none => return none
  | some c =>
    if c.released then return none
    if (← get).ready name then park ctx name c.irBits
    else if let some err ← connect ctx name then return some err
    else park ctx name c.irBits

/-! ## Borrowed TAPs -/

/-- `Chain.TAP`. -/
def lend (name : Nat) (index : Int) : JtagM (Except Err TAP) := do
  let w ← get
  if !w.ready name then return .error errChainInvalid
  match w.chains[name]? with
  | none => return .error errChainInvalid
  | some c =>
    if index < 0 ∨ index ≥ c.layout.length then
      return .error (.text "jtag: TAP index out of range")
    return .ok ⟨name, index.toNat, c.generation⟩

/-- `TAP.valid`. -/
def World.valid (w : World) (t : TAP) : Bool :=
  w.ready t.chain && (w.chains[t.chain]?).any (·.generation == t.generation)

/-- `complete`. -/
def complete (name : Nat) (err : Option Err) : JtagM (Option Err) := do
  let serial := (← get).conn.serial
  modifyChain name fun c => { c with serial := serial }
  modifyChain name fun c => if err.isSome then { c with valid := false, selected := none } else c
  return err

/-- The refusals of `TAP.ScanIR`. -/
def scanIRRefusal (w : World) (t : TAP) (instruction : Buffer) : Except Err Chain :=
  if !w.valid t then .error errChainInvalid
  else match w.chains[t.chain]? with
    | none => .error errChainInvalid
    | some c =>
      let bits := (c.layout.map (·.ir)).getD t.index 0
      if instruction.length ≠ (bits + 7) / 8 ∨
          bits % 8 ≠ 0 ∧ instruction.getLastD 0 >>> (bits % 8) ≠ 0 then
        .error (.text "jtag: invalid instruction buffer")
      else .ok c

/-- The data `TAP.ScanIR` shifts: ones, with the instruction in its own field. -/
def instructionData (layout : Layout) (irBits index : Nat) (instruction : Buffer) : Buffer :=
  let offset := layout.offset index
  (List.range ((layout.map (·.ir)).getD index 0)).foldl
    (fun data i => (data.clear (offset + i)).put (offset + i) (instruction.get i))
    (Buffer.ones irBits)

/-- `TAP.ScanIR`. -/
def tapScanIR (ctx : Ctx) (t : TAP) (instruction : Buffer) : JtagM (Except Err Buffer) := do
  match scanIRRefusal (← get) t instruction with
  | .error err => return .error err
  | .ok c =>
    let data := instructionData c.layout c.irBits t.index instruction
    let (capture, err) ← scanIR ctx data c.irBits
    if let some err ← complete t.chain err then return .error err
    modifyChain t.chain fun c => { c with selected := some t.index }
    return .ok ((capture.getD []).extract (c.layout.offset t.index)
      ((c.layout.map (·.ir)).getD t.index 0))

/-- The refusals of `TAP.ScanDR`. -/
def scanDRRefusal (w : World) (t : TAP) (data : Buffer) (bits : Int) : Except Err Chain :=
  if !w.valid t then .error errChainInvalid
  else match w.chains[t.chain]? with
    | none => .error errChainInvalid
    | some c =>
      if c.selected ≠ some t.index then .error errInstructionChanged
      else if bits ≤ 0 ∨ bits > maxScanBits - c.layout.length + 1 ∨
          (data.length : Int) < (bits + 7) / 8 then
        .error (.text "jtag: invalid selected scan length or buffer")
      else .ok c

/-- `TAP.ScanDR`: one bypass bit for every other TAP. -/
def tapScanDR (ctx : Ctx) (t : TAP) (data : Buffer) (bits : Int) :
    JtagM (Except Err Buffer) := do
  match scanDRRefusal (← get) t data bits with
  | .error err => return .error err
  | .ok c =>
    let total := bits.toNat + c.layout.length - 1
    let input := (Buffer.zeros total).putAll t.index bits.toNat data.get
    let (capture, err) ← scanDR ctx input total
    if let some err ← complete t.chain err then return .error err
    return .ok ((capture.getD []).extract t.index bits.toNat)

/-- `TAP.Idle`. -/
def tapIdle (ctx : Ctx) (t : TAP) (cycles : Int) : JtagM (Option Err) := do
  if !(← get).valid t then return some errChainInvalid
  complete t.chain (← idle ctx cycles)

end Ostiole.Jtag
