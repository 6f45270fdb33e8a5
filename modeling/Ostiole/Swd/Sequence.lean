import Ostiole.Jtag.Buffer
import Ostiole.Swd.Wire

/-!
# Packed sequences

`sequence.go` on the byte slices it builds: the direction and the level of every clock,
packed least significant bit first. A sequence stands for the list of its clocks, and each
way of appending appends to that list; so frames that are packed one behind the other,
across the boundaries of bytes, are the frames of `Swd.Wire`.
-/

namespace Ostiole.Swd

open Jtag (Byte Buffer)
open Wire (Clock)

/-- `sequence`. Nothing is set behind its last bit, since `setBit` never clears one. -/
structure Sequence where
  direction : Buffer
  output : Buffer
  bits : Nat
  directionSized : direction.length = (bits + 7) / 8
  outputSized : output.length = (bits + 7) / 8
  directionClear : ∀ i, bits ≤ i → direction.get i = false
  outputClear : ∀ i, bits ≤ i → output.get i = false

namespace Sequence

/-- The slice of one of the streams, with a byte more where the last one is full. -/
def extend (data : Buffer) (bits : Nat) : Buffer := if bits % 8 = 0 then data ++ [0] else data

theorem length_extend {data : Buffer} {bits : Nat} (sized : data.length = (bits + 7) / 8) :
    (extend data bits).length = (bits + 1 + 7) / 8 := by
  rw [extend]
  split
  · rw [List.length_append, List.length_singleton, sized]
    omega
  · rw [sized]
    omega

theorem get_extend (data : Buffer) (bits i : Nat) : (extend data bits).get i = data.get i := by
  rw [extend]
  split
  · simp only [Buffer.get, List.getD_eq_getElem?_getD, List.getElem?_append]
    split
    · rfl
    · next beyond =>
        rw [List.getElem?_eq_none (Nat.not_lt.mp beyond)]
        cases i / 8 - data.length <;> rfl
  · rfl

theorem get_appended {data : Buffer} {bits : Nat} (sized : data.length = (bits + 7) / 8)
    (value : Bool)
    (i : Nat) : ((extend data bits).put bits value).get i =
      (data.get i || (decide (bits = i) && value)) := by
  rw [Buffer.get_put (by rw [length_extend sized]; omega), get_extend]

theorem clear_appended {data : Buffer} {bits : Nat} (sized : data.length = (bits + 7) / 8)
    (clear : ∀ i, bits ≤ i → data.get i = false) (value : Bool) (i : Nat) (beyond : bits + 1 ≤ i) :
    ((extend data bits).put bits value).get i = false := by
  rw [get_appended sized, clear i (by omega), decide_eq_false (by omega)]
  rfl

def empty : Sequence where
  direction := []
  output := []
  bits := 0
  directionSized := rfl
  outputSized := rfl
  directionClear _ _ := by simp [Buffer.get]
  outputClear _ _ := by simp [Buffer.get]

/-- `append`. -/
def append (s : Sequence) (driven value : Bool) : Sequence where
  direction := (extend s.direction s.bits).put s.bits driven
  output := (extend s.output s.bits).put s.bits value
  bits := s.bits + 1
  directionSized := by rw [Buffer.length_put, length_extend s.directionSized]
  outputSized := by rw [Buffer.length_put, length_extend s.outputSized]
  directionClear := clear_appended s.directionSized s.directionClear driven
  outputClear := clear_appended s.outputSized s.outputClear value

/-- `appendN`. -/
def appendN (s : Sequence) : Nat → Bool → Bool → Sequence
  | 0, _, _ => s
  | bits + 1, driven, value => (s.append driven value).appendN bits driven value

/-- The loops that append bits, all driven or all not. -/
def appendBits (s : Sequence) (driven : Bool) (values : List Bool) : Sequence :=
  values.foldl (fun s value => s.append driven value) s

/-- `appendByte`. -/
def appendByte (s : Sequence) (driven : Bool) (value : Byte) : Sequence :=
  s.appendBits driven ((List.range 8).map value.getLsbD)

/-- `appendSequence`. -/
def appendSequence (s other : Sequence) : Sequence :=
  (List.range other.bits).foldl
    (fun s bit => s.append (other.direction.get bit) (other.output.get bit)) s

/-! ## Clocks -/

/-- The clocks that a sequence stands for. -/
def clocks (s : Sequence) : List Clock :=
  (List.range s.bits).map fun i => ⟨s.direction.get i, s.output.get i⟩

@[simp] theorem length_clocks (s : Sequence) : s.clocks.length = s.bits := by
  simp [clocks]

@[simp] theorem clocks_empty : empty.clocks = [] := rfl

@[simp] theorem clocks_append (s : Sequence) (driven value : Bool) :
    (s.append driven value).clocks = s.clocks ++ [⟨driven, value⟩] := by
  have directions := get_appended s.directionSized driven
  have outputs := get_appended s.outputSized value
  simp only [clocks, append, List.range_succ, List.map_append, List.map_singleton, directions,
    outputs]
  congr 1
  · refine List.map_congr_left fun i inside => ?_
    have apart : s.bits ≠ i := (List.mem_range.mp inside).ne'
    simp [apart]
  · simp [s.directionClear s.bits le_rfl, s.outputClear s.bits le_rfl]

@[simp] theorem clocks_appendN (s : Sequence) (bits : Nat) (driven value : Bool) :
    (s.appendN bits driven value).clocks = s.clocks ++ Wire.clocks bits driven value := by
  induction bits generalizing s with
  | zero => exact (List.append_nil _).symm
  | succ bits ih =>
    rw [appendN, ih, clocks_append, List.append_assoc]
    rfl

@[simp] theorem clocks_appendBits (s : Sequence) (driven : Bool) (values : List Bool) :
    (s.appendBits driven values).clocks = s.clocks ++ values.map fun value => ⟨driven, value⟩ := by
  induction values generalizing s with
  | nil => exact (List.append_nil _).symm
  | cons value values ih =>
    refine (ih (s.append driven value)).trans ?_
    rw [clocks_append, List.append_assoc]
    rfl

@[simp] theorem clocks_appendByte (s : Sequence) (value : Byte) :
    (s.appendByte true value).clocks = s.clocks ++ Wire.drive (Wire.bits value) := by
  rw [appendByte, clocks_appendBits]
  rfl

@[simp] theorem clocks_appendSequence (s other : Sequence) :
    (s.appendSequence other).clocks = s.clocks ++ other.clocks := by
  have loop : ∀ count, ((List.range count).foldl
      (fun s bit => s.append (other.direction.get bit) (other.output.get bit)) s).clocks =
      s.clocks ++ (List.range count).map fun i => ⟨other.direction.get i, other.output.get i⟩ := by
    intro count
    induction count with
    | zero => exact (List.append_nil _).symm
    | succ count ih =>
      rw [List.range_succ, List.foldl_append, List.foldl_cons, List.foldl_nil, clocks_append,
        ih, List.map_append, List.append_assoc]
      rfl
  exact loop other.bits

end Sequence

/-- `fixedFrame`. -/
def fixedFrame (req : Request) (value : Word) : Sequence :=
  let frame := Sequence.empty.appendByte true (Wire.requestByte req)
  let frame := frame.appendN (Wire.turnaround + 3) false false
  let frame :=
    if req.read then frame.appendN (33 + Wire.turnaround) false false
    else
      ((frame.appendN Wire.turnaround false false).appendBits true
        ((List.range 32).map value.getLsbD)).append
        true (Wire.parity32 value)
  frame.appendN Wire.idleCycles true false

theorem clocks_fixedFrame (req : Request) (value : Word) :
    (fixedFrame req value).clocks = Wire.fixedFrame req value := by
  rw [fixedFrame, Wire.fixedFrame]
  cases req.read <;> simp [Wire.drive, Wire.bits, List.append_assoc]

/-- Frames packed into one stream, as a batch packs them. -/
def packFrames (frames : List (Request × Word)) : Sequence :=
  frames.foldl (fun stream frame => stream.appendSequence (fixedFrame frame.1 frame.2)) .empty

theorem clocks_packFrames (frames : List (Request × Word)) :
    (packFrames frames).clocks = frames.flatMap fun frame => Wire.fixedFrame frame.1 frame.2 := by
  have loop : ∀ stream : Sequence,
      (frames.foldl (fun stream frame => stream.appendSequence (fixedFrame frame.1 frame.2))
        stream).clocks =
        stream.clocks ++ frames.flatMap fun frame => Wire.fixedFrame frame.1 frame.2 := by
    induction frames with
    | nil => exact fun stream => (List.append_nil _).symm
    | cons frame frames ih =>
      intro stream
      rw [List.foldl_cons, ih, Sequence.clocks_appendSequence, clocks_fixedFrame,
        List.append_assoc]
      rfl
  exact loop .empty

/-- A frame takes 54 clocks. -/
theorem bits_packFrames (frames : List (Request × Word)) :
    (packFrames frames).bits = 54 * frames.length := by
  rw [← Sequence.length_clocks, clocks_packFrames]
  simp [List.length_flatMap, Nat.mul_comm]

/-- `decodeFixedFrame` on the bytes that `SWDIO` returned. -/
def decodeInput (input : Buffer) (offset : Nat) (req : Request) : Result :=
  Wire.decodeFixedFrame (input.bits (8 * input.length)) offset req

end Ostiole.Swd
