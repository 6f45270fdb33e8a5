import Ostiole.Jtag.Buffer

/-!
# The MPSSE engine

The serial engine of the adapter as a machine over the bytes it is sent: it collects the
bytes of a command, carries the command out, and appends what the command returns to its
responses. Every clock cycle is kept, with the pins before it and during it. Only the
commands that the driver sends while a stream is clocked are modelled; any other byte is
answered with its own echo, as the engine does with a command it does not know.
-/

namespace Ostiole.Ftdi

open Jtag (Byte Buffer)

/-- The low byte of pins: their levels, and which of them are outputs. -/
structure Pins where
  level : Byte
  direction : Byte
deriving DecidableEq, Repr

/-- The pin levels with one of them set. -/
def Pins.drive (pins : Pins) (pin : Nat) (value : Bool) : Pins :=
  { pins with
    level := (pins.level &&& ~~~(1#8 <<< pin)) ||| (BitVec.ofBool value).setWidth 8 <<< pin }

/-- A clock cycle. -/
structure Cycle where
  before : Pins
  during : Pins
  sampled : Bool
deriving DecidableEq, Repr

structure Engine where
  pins : Pins
  pending : Buffer
  cycles : List Cycle
  responses : Buffer
deriving DecidableEq, Repr

/-- What the engine reads: the level of the input pin in each cycle, and what the shift
register held before each response. -/
structure Wire where
  level : Nat → Bool
  stale : Nat → Byte

inductive Command where
  | setLow (level direction : Byte)
  | clockOut (length data : Byte)
  | clockIn (length : Byte)
  | exchange (length data : Byte)
  | tms (length data : Byte)
  | sendImmediate
  | unknown (code : Byte)
deriving DecidableEq, Repr

/-- The command that these bytes make up, once they are complete. -/
def Command.ofBytes : Buffer → Option Command
  | [code] =>
    if code = 0x87 then some .sendImmediate
    else if code ∈ [0x80, 0x1b, 0x2a, 0x3b, 0x6b] then none
    else some (.unknown code)
  | [code, length] => if code = 0x2a then some (.clockIn length) else none
  | [code, first, second] =>
    if code = 0x80 then some (.setLow first second)
    else if code = 0x1b then some (.clockOut first second)
    else if code = 0x3b then some (.exchange first second)
    else if code = 0x6b then some (.tms first second)
    else none
  | _ => none

/-- Samples enter the register at the top. -/
def shiftIn (register : Byte) (samples : List Bool) : Byte :=
  samples.foldl (fun register sample => register >>> 1 ||| (BitVec.ofBool sample).setWidth 8 <<< 7)
    register

namespace Engine

/-- Set pins, without a clock. -/
def setPins (pins : Pins) (engine : Engine) : Engine := { engine with pins := pins }

/-- Clock `count` cycles, each with the pins set first. -/
def clock (drive : Nat → Pins → Pins) (sampled : Bool) (count : Nat) (engine : Engine) : Engine :=
  (List.range count).foldl (fun engine i => { engine with
    pins := drive i engine.pins
    cycles := engine.cycles ++ [⟨engine.pins, drive i engine.pins, sampled⟩] }) engine

/-- Clock `count` cycles and return their samples. -/
def sample (wire : Wire) (drive : Nat → Pins → Pins) (count : Nat) (engine : Engine) : Engine :=
  { clock drive true count engine with
    responses := engine.responses ++ [shiftIn (wire.stale engine.responses.length)
      ((List.range count).map fun i => wire.level (engine.cycles.length + i))] }

/-- Carry a command out. A length is one less than the number of bits. -/
def perform (wire : Wire) (engine : Engine) : Command → Engine
  | .setLow level direction => engine.setPins ⟨level, direction⟩
  | .clockOut length data =>
    engine.clock (fun i pins => pins.drive 1 (data.getLsbD i)) false (length.toNat % 8 + 1)
  | .clockIn length => engine.sample wire (fun _ pins => pins) (length.toNat % 8 + 1)
  | .exchange length data =>
    engine.sample wire (fun i pins => pins.drive 1 (data.getLsbD i)) (length.toNat % 8 + 1)
  | .tms length data =>
    engine.sample wire (fun i pins => (pins.drive 1 (data.getLsbD 7)).drive 3 (data.getLsbD i))
      (length.toNat % 8 + 1)
  | .sendImmediate => engine
  | .unknown code => { engine with responses := engine.responses ++ [0xfa, code] }

/-- Take one byte. -/
def feed (wire : Wire) (engine : Engine) (byte : Byte) : Engine :=
  match Command.ofBytes (engine.pending ++ [byte]) with
  | none => { engine with pending := engine.pending ++ [byte] }
  | some command => perform wire { engine with pending := [] } command

/-- Take bytes. -/
def execute (wire : Wire) (engine : Engine) (bytes : Buffer) : Engine :=
  bytes.foldl (feed wire) engine

end Engine

/-! ## Pins -/

theorem Pins.drive_direction (pins : Pins) (pin : Nat) (value : Bool) :
    (pins.drive pin value).direction = pins.direction := rfl

theorem Pins.drive_level (pins : Pins) {pin j : Nat} (value : Bool) (inside : pin < 8)
    (inside' : j < 8) :
    (pins.drive pin value).level.getLsbD j = if pin = j then value else pins.level.getLsbD j := by
  rw [Pins.drive, Buffer.getLsbD_set _ _ _ inside _ inside',
    Buffer.getLsbD_clear _ _ inside _ inside']
  by_cases same : pin = j <;> simp [same]

/-- Samples are in the top bits, the first of them lowest. -/
theorem getLsbD_shiftIn (register : Byte) (samples : List Bool) {i : Nat}
    (short : samples.length ≤ 8)
    (inside : i < samples.length) :
    (shiftIn register samples).getLsbD (8 - samples.length + i) = samples.getD i false := by
  induction samples using List.reverseRecOn generalizing i with
  | nil => exact absurd inside (Nat.not_lt_zero i)
  | append_singleton samples sample ih =>
    rw [List.length_append, List.length_singleton] at short inside ⊢
    have shifted : shiftIn register (samples ++ [sample]) =
        shiftIn register samples >>> 1 ||| (BitVec.ofBool sample).setWidth 8 <<< 7 := by
      rw [shiftIn, List.foldl_append]
      rfl
    rw [shifted, Buffer.getLsbD_set _ _ 7 (by decide) _ (by omega), BitVec.getLsbD_ushiftRight]
    by_cases last : i = samples.length
    · have top : 8 - (samples.length + 1) + i = 7 := by omega
      have beyond : (shiftIn register samples).getLsbD (1 + 7) = false :=
        BitVec.getLsbD_of_ge _ _ (by decide)
      rw [top, beyond, last]
      simp
    · have below : 7 ≠ 8 - (samples.length + 1) + i := by omega
      have place : 1 + (8 - (samples.length + 1) + i) = 8 - samples.length + i := by omega
      have earlier : i < samples.length := by omega
      rw [place, ih (by omega) earlier, decide_eq_false below]
      simp [List.getElem?_append, earlier]

/-! ## Commands -/

namespace Engine

variable {wire : Wire} {engine : Engine} {first second : Buffer}

theorem execute_append (wire : Wire) (engine : Engine) (first second : Buffer) :
    execute wire engine (first ++ second) = execute wire (execute wire engine first) second :=
  List.foldl_append

theorem execute_setLow (idle : engine.pending = []) (level direction : Byte) :
    execute wire engine [0x80, level, direction] = engine.setPins ⟨level, direction⟩ := by
  cases engine
  cases idle
  rfl

theorem execute_clockOut (idle : engine.pending = []) (length data : Byte) :
    execute wire engine [0x1b, length, data] = engine.perform wire (.clockOut length data) := by
  cases engine
  cases idle
  rfl

theorem execute_clockIn (idle : engine.pending = []) (length : Byte) :
    execute wire engine [0x2a, length] = engine.perform wire (.clockIn length) := by
  cases engine
  cases idle
  rfl

theorem execute_exchange (idle : engine.pending = []) (length data : Byte) :
    execute wire engine [0x3b, length, data] = engine.perform wire (.exchange length data) := by
  cases engine
  cases idle
  rfl

theorem execute_tms (idle : engine.pending = []) (length data : Byte) :
    execute wire engine [0x6b, length, data] = engine.perform wire (.tms length data) := by
  cases engine
  cases idle
  rfl

theorem execute_sendImmediate (idle : engine.pending = []) :
    execute wire engine [0x87] = engine := by
  cases engine
  cases idle
  rfl

theorem clock_succ (drive : Nat → Pins → Pins) (sampled : Bool) (count : Nat) (engine : Engine) :
    clock drive sampled (count + 1) engine =
      { clock drive sampled count engine with
        pins := drive count (clock drive sampled count engine).pins
        cycles := (clock drive sampled count engine).cycles ++
          [⟨(clock drive sampled count engine).pins,
            drive count (clock drive sampled count engine).pins, sampled⟩] } := by
  rw [clock, List.range_succ, List.foldl_append]
  rfl

/-- The cycles of a command, where `inv` is what the pins keep to and `good` is what a
cycle is for, by its place in the stream. -/
theorem clock_spec (inv : Pins → Prop) {good : Nat → Cycle → Prop} {drive : Nat → Pins → Pins}
    {sampled : Bool} {first count : Nat} (holds : inv engine.pins)
    (keeps : ∀ i < count, ∀ pins, inv pins → inv (drive i pins))
    (each : ∀ i < count, ∀ before, inv before →
      good (first + i) ⟨before, drive i before, sampled⟩) :
    inv (clock drive sampled count engine).pins ∧
      (clock drive sampled count engine).pending = engine.pending ∧
      (clock drive sampled count engine).responses = engine.responses ∧
      ∃ cycles, (clock drive sampled count engine).cycles = engine.cycles ++ cycles ∧
        List.Forall₂ good (List.range' first count) cycles := by
  induction count with
  | zero => exact ⟨holds, rfl, rfl, [], (List.append_nil _).symm, .nil⟩
  | succ count ih =>
    have last := Nat.lt_succ_self count
    obtain ⟨pins, pending, responses, cycles, grown, earlier⟩ :=
      ih (fun i below => keeps i (Nat.lt_succ_of_lt below))
        fun i below => each i (Nat.lt_succ_of_lt below)
    rw [clock_succ]
    generalize clock drive sampled count engine = middle at *
    refine ⟨keeps count last _ pins, pending, responses,
      cycles ++ [⟨middle.pins, drive count middle.pins, sampled⟩], ?_, ?_⟩
    · rw [grown, List.append_assoc]
    · rw [List.range'_1_concat]
      exact List.rel_append earlier (.cons (each count last _ pins) .nil)

end Engine

end Ostiole.Ftdi
