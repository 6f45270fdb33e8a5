import Ostiole.Jtag.State
import Ostiole.Logic.Series

/-!
# The scan path

What a chain of IEEE 1149.1 devices does at each TCK cycle, as the standard has
it and independently of the driver's table. One controller state stands for all
of them because they share TCK and TMS. Devices are listed nearest TDO first.

A register captures and shifts on the rising edge that ends a capture or shift
state, so the last bit of a scan is shifted by the clock that leaves the shift
state. The update latches when its state is entered.
-/

namespace Ostiole.Jtag

open Ostiole.Logic

/-- The two columns of the controller's diagram. -/
inductive Column where
  | dr | ir
deriving DecidableEq, Repr

/-- The states of one column. -/
inductive Phase where
  | select | capture | shift | exit1 | pause | exit2 | update
deriving DecidableEq, Repr

/-- The sixteen states of the controller. -/
inductive Controller where
  | testLogicReset
  | runTestIdle
  | scan (column : Column) (phase : Phase)
deriving DecidableEq, Repr

/-- The controller's next state. -/
def Controller.next : Controller → Bool → Controller
  | .testLogicReset, tms => if tms then .testLogicReset else .runTestIdle
  | .runTestIdle, tms => if tms then .scan .dr .select else .runTestIdle
  | .scan .dr .select, tms => if tms then .scan .ir .select else .scan .dr .capture
  | .scan .ir .select, tms => if tms then .testLogicReset else .scan .ir .capture
  | .scan column .capture, tms => .scan column (if tms then .exit1 else .shift)
  | .scan column .shift, tms => .scan column (if tms then .exit1 else .shift)
  | .scan column .exit1, tms => .scan column (if tms then .update else .pause)
  | .scan column .pause, tms => .scan column (if tms then .exit2 else .pause)
  | .scan column .exit2, tms => .scan column (if tms then .update else .shift)
  | .scan _ .update, tms => if tms then .scan .dr .select else .runTestIdle

/-- What the maker of a device fixes: the pattern Capture-IR loads, which also
gives the length of the instruction register, the instruction a reset installs,
and what Capture-DR loads from the register each instruction selects. -/
structure DeviceSpec where
  captureIR : List Bool
  resetInstruction : List Bool
  captureDR : List Bool → List Bool

/-- A device: the instruction in force, the shift stage of either column, and
what Update-DR last wrote to the register of each instruction. -/
structure Device where
  spec : DeviceSpec
  instruction : List Bool
  stage : Column → List Bool
  written : List Bool → List Bool

namespace Device

/-- The instruction of all ones selects the one-bit bypass register. -/
def bypassed (d : Device) : Bool := d.instruction.all id

/-- What the capture state of a column loads. -/
def captured (d : Device) : Column → List Bool
  | .ir => d.spec.captureIR
  | .dr => if d.bypassed then [false] else d.spec.captureDR d.instruction

def setStage (d : Device) (column : Column) (bits : List Bool) : Device :=
  { d with stage := Function.update d.stage column bits }

def capture (d : Device) (column : Column) : Device := d.setStage column (d.captured column)

def update (d : Device) : Column → Device
  | .ir => { d with instruction := d.stage .ir }
  | .dr => { d with written := Function.update d.written d.instruction (d.stage .dr) }

def reset (d : Device) : Device := { d with instruction := d.spec.resetInstruction }

@[simp] theorem setStage_stage (d : Device) (column : Column) (bits : List Bool) :
    (d.setStage column bits).stage column = bits := by
  simp [setStage]

@[simp] theorem setStage_spec (d : Device) (column : Column) (bits : List Bool) :
    (d.setStage column bits).spec = d.spec := rfl

@[simp] theorem setStage_instruction (d : Device) (column : Column) (bits : List Bool) :
    (d.setStage column bits).instruction = d.instruction := rfl

@[simp] theorem setStage_setStage (d : Device) (column : Column) (first second : List Bool) :
    (d.setStage column first).setStage column second = d.setStage column second := by
  simp [setStage]

end Device

/-- The devices between TDI and TDO and the state of their controllers. -/
structure ScanPath where
  controller : Controller
  devices : List Device

namespace ScanPath

/-- The shift stages of a column, nearest TDO first. -/
def stages (p : ScanPath) (column : Column) : List (List Bool) := p.devices.map (·.stage column)

/-- Install new shift stages. -/
def setStages (p : ScanPath) (column : Column) (stages : List (List Bool)) : ScanPath :=
  { p with devices := List.zipWith (fun d bits => d.setStage column bits) p.devices stages }

/-- The rising edge: capture or shift. Outside the shift states TDO floats high. -/
def rise (p : ScanPath) (tdi : Bool) : Bool × ScanPath :=
  match p.controller with
  | .scan column .capture => (true, { p with devices := p.devices.map (·.capture column) })
  | .scan column .shift =>
    let (tdo, moved) := Series.shift (p.stages column) tdi
    (tdo, p.setStages column moved)
  | _ => (true, p)

/-- What entering a state does: update or reset. -/
def enter (p : ScanPath) (next : Controller) : ScanPath :=
  match next with
  | .scan column .update => ⟨next, p.devices.map (·.update column)⟩
  | .testLogicReset => ⟨next, p.devices.map Device.reset⟩
  | _ => { p with controller := next }

/-- One TCK cycle. -/
def clock (p : ScanPath) (tms tdi : Bool) : Bool × ScanPath :=
  let (tdo, risen) := p.rise tdi
  (tdo, risen.enter (p.controller.next tms))

/-- The bits sampled from TDO and the path after a list of cycles. -/
def run (p : ScanPath) : List (Bool × Bool) → List Bool × ScanPath
  | [] => ([], p)
  | cycle :: cycles =>
    let (tdo, next) := p.clock cycle.1 cycle.2
    let (rest, final) := next.run cycles
    (tdo :: rest, final)

@[simp] theorem run_nil (p : ScanPath) : p.run [] = ([], p) := rfl

theorem run_cons (p : ScanPath) (cycle : Bool × Bool) (cycles : List (Bool × Bool)) :
    p.run (cycle :: cycles) =
      ((p.clock cycle.1 cycle.2).1 :: ((p.clock cycle.1 cycle.2).2.run cycles).1,
        ((p.clock cycle.1 cycle.2).2.run cycles).2) := rfl

theorem run_append (p : ScanPath) (first second : List (Bool × Bool)) :
    p.run (first ++ second) =
      ((p.run first).1 ++ ((p.run first).2.run second).1, ((p.run first).2.run second).2) := by
  induction first generalizing p with
  | nil => rfl
  | cons cycle first ih =>
    rw [List.cons_append, run_cons, run_cons, ih]
    rfl

@[simp] theorem run_sampled (p : ScanPath) (cycles : List (Bool × Bool)) :
    (p.run cycles).1.length = cycles.length := by
  induction cycles generalizing p with
  | nil => rfl
  | cons cycle cycles ih => simp [run_cons, ih]

@[simp] theorem enter_controller (p : ScanPath) (next : Controller) :
    (p.enter next).controller = next := by
  unfold enter
  split <;> rfl

@[simp] theorem clock_controller (p : ScanPath) (tms tdi : Bool) :
    (p.clock tms tdi).2.controller = p.controller.next tms :=
  enter_controller _ _

/-- Only TMS moves the controller. -/
theorem run_controller (p : ScanPath) (cycles : List (Bool × Bool)) :
    (p.run cycles).2.controller = (cycles.map Prod.fst).foldl Controller.next p.controller := by
  induction cycles generalizing p with
  | nil => rfl
  | cons cycle cycles ih => simp [run_cons, ih]

/-- Clocking leaves the devices what they are. -/
def specs (p : ScanPath) : List DeviceSpec := p.devices.map (·.spec)

theorem setStages_specs (p : ScanPath) (column : Column) {stages : List (List Bool)}
    (fit : stages.length = p.devices.length) : (p.setStages column stages).specs = p.specs := by
  simp only [specs, setStages, List.map_zipWith, Device.setStage_spec]
  apply List.ext_getElem
  · simp [fit]
  · intro index first second
    simp

theorem rise_specs (p : ScanPath) (tdi : Bool) : (p.rise tdi).2.specs = p.specs := by
  unfold rise
  split
  · simp [specs, Device.capture]
  · exact setStages_specs p _ (by simp [stages])
  · rfl

theorem enter_specs (p : ScanPath) (next : Controller) : (p.enter next).specs = p.specs := by
  unfold enter
  split
  · next column =>
      cases column <;> simp [specs, Device.update]
  · simp [specs, Device.reset]
  · rfl

theorem run_specs (p : ScanPath) (cycles : List (Bool × Bool)) :
    (p.run cycles).2.specs = p.specs := by
  induction cycles generalizing p with
  | nil => rfl
  | cons cycle cycles ih =>
    rw [run_cons]
    exact (ih _).trans ((enter_specs _ _).trans (rise_specs _ _))

end ScanPath

end Ostiole.Jtag
