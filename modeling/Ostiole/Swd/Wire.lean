import Ostiole.Swd.Transfer

/-!
# Fixed frames on the wire

The bits behind one exchange of fixed frames: `sequence.go` and the encoder and
decoder of `transfer.go`, and the target's reading of the same clocks. A frame
is 54 clocks. However many of them share an `SWDIO` call, the target receives
the requests that were queued and the host decodes, at each frame's offset, the
reply that the target gave to it.
-/

namespace Ostiole.Swd.Wire

open Ostiole

variable {pattern : BitVec 3} {i : Nat}

/-! ## Bits -/

/-- The bits of a value, least significant first. -/
def bits {width : Nat} (value : BitVec width) : List Bool := (List.range width).map value.getLsbD

@[simp] theorem length_bits {width : Nat} (value : BitVec width) : (bits value).length = width := by
  simp [bits]

theorem getD_bits {width : Nat} (value : BitVec width) (i : Nat) :
    (bits value).getD i false = value.getLsbD i := by
  by_cases inside : i < width
  · simp [bits, List.getD_eq_getElem?_getD, inside]
  · simp [bits, List.getD_eq_getElem?_getD, inside, BitVec.getLsbD_of_ge _ _ (not_lt.mp inside)]

/-- `bitAt`, on a buffer as the list of its bits. -/
def bitAt (buf : List Bool) (bit : Nat) : Bool := buf.getD bit false

theorem bitAt_middle {before own after : List Bool} {offset : Nat} (start : before.length = offset)
    (inside : i < own.length) : bitAt (before ++ own ++ after) (offset + i) = bitAt own i := by
  subst start
  simp [bitAt, List.getD_eq_getElem?_getD, List.append_assoc, List.getElem?_append_right,
    List.getElem?_append_left inside]

/-- The loop of `extractUint32At`. -/
def extract (buf : List Bool) (offset : Nat) : Nat → Word
  | 0 => 0
  | bit + 1 =>
    if bitAt buf (offset + bit) then extract buf offset bit ||| (1#32 <<< bit)
    else extract buf offset bit

def extractUint32At (buf : List Bool) (offset : Nat) : Word := extract buf offset 32

theorem getLsbD_extract (buf : List Bool) (offset : Nat) (inside : i < 32) :
    ∀ count, (extract buf offset count).getLsbD i = (decide (i < count) && bitAt buf (offset + i))
  | 0 => by simp [extract]
  | count + 1 => by
    have before := getLsbD_extract buf offset inside count
    have one : (1#32 <<< count).getLsbD i = decide (i = count) := by
      rw [BitVec.getLsbD_shiftLeft, BitVec.getLsbD_one]
      grind
    unfold extract
    split
    · next set =>
        rw [BitVec.getLsbD_or, before, one]
        grind
    · next clear =>
        rw [before]
        grind

/-- The loop of `parity32`: it ends once no bit is left. -/
def parity : Nat → Word → Bool → Bool
  | 0, _, odd => odd
  | turns + 1, value, odd =>
    if value = 0 then odd else parity turns (value >>> 1) (odd != value.getLsbD 0)

def parity32 (value : Word) : Bool := parity 32 value false

/-! ## The host's frame -/

/-- One clock: whether the host drives the line, and the level it drives. -/
structure Clock where
  driven : Bool
  value : Bool
deriving DecidableEq, Repr

/-- `turnaround` and `idleCycles` of a new connection. -/
def turnaround : Nat := 1
def idleCycles : Nat := 8

/-- `sequence.appendN` on an empty sequence. -/
def clocks (count : Nat) (driven value : Bool) : List Clock := List.replicate count ⟨driven, value⟩

/-- Bits that the host drives. -/
def drive (values : List Bool) : List Clock := values.map fun value => ⟨true, value⟩

def requestByte (req : Request) : BitVec 8 :=
  let fields := req.addr
  let fields := if req.ap then fields ||| 1 else fields
  let fields := if req.read then fields ||| 2 else fields
  let header := 0x81 ||| fields <<< 1
  if parity32 (fields.setWidth 32) then header ||| 1 <<< 5 else header

def fixedFrame (req : Request) (value : Word) : List Clock :=
  drive (bits (requestByte req)) ++ clocks (turnaround + 3) false false ++
  (if req.read then clocks (33 + turnaround) false false
    else clocks turnaround false false ++ drive (bits value ++ [parity32 value])) ++
  clocks idleCycles true false

@[simp] theorem length_fixedFrame (req : Request) (value : Word) :
    (fixedFrame req value).length = 54 := by
  unfold fixedFrame
  cases req.read <;> simp [drive, clocks, turnaround, idleCycles]

/-! ## The target's side -/

/-- The request in the first eight bits of a frame, when they form one. -/
def receiveHeader (header : List Bool) : Option Request :=
  match header with
  | [start, ap, read, a2, a3, odd, stop, park] =>
    if start && !stop && park && (odd == (ap != (read != (a2 != a3)))) then
      some ⟨ap, read, (if a2 then 0x04 else 0) ||| (if a3 then 0x08 else 0), none⟩
    else none
  | _ => none

/-- The write data that follows the acknowledgement and its turnaround. -/
def receiveData (frame : List Clock) : Word :=
  extractUint32At (frame.map (·.value)) (8 + (turnaround + 3) + turnaround)

/-- Addresses that `newRequest` lets through. -/
def Addressed (req : Request) : Prop :=
  req.addr = 0x00 ∨ req.addr = 0x04 ∨ req.addr = 0x08 ∨ req.addr = 0x0c

private theorem receiveHeader_bits : ∀ ap read : Bool, ∀ addr ∈ [0x00#8, 0x04#8, 0x08#8, 0x0c#8],
    receiveHeader (bits (requestByte ⟨ap, read, addr, none⟩)) = some ⟨ap, read, addr, none⟩ := by
  decide +kernel

theorem receiveHeader_requestByte {req : Request} (addressed : Addressed req) :
    receiveHeader (bits (requestByte req)) = some { req with tag := none } :=
  receiveHeader_bits req.ap req.read req.addr (by simpa [Addressed] using addressed)

theorem receiveData_fixedFrame {req : Request} (write : req.read = false) (value : Word) :
    receiveData (fixedFrame req value) = value := by
  apply BitVec.eq_of_getLsbD_eq
  intro i inside
  have levels : (fixedFrame req value).map (·.value) =
      (bits (requestByte req) ++ List.replicate 5 false) ++ bits value ++
        (parity32 value :: List.replicate 8 false) := by
    simp [fixedFrame, write, drive, clocks, turnaround, idleCycles, Function.comp_def,
      List.replicate_succ]
  rw [receiveData, extractUint32At, getLsbD_extract _ _ inside, levels]
  rw [bitAt_middle (by simp [turnaround]) (by simpa using inside), bitAt, getD_bits]
  simp [inside]

/-! ## The reply and its decoding -/

/-- The acknowledgement on the wire; `pattern` stands for the undefined ones. -/
def ackBits (pattern : BitVec 3) : Ack → BitVec 3
  | .ok => 0b001
  | .wait => 0b010
  | .fault => 0b100
  | .undefined => pattern

/-- What the host samples during one frame. `echo` is the line where the target
does not drive it. -/
def levels (echo : Nat → Bool) (pattern : BitVec 3) (read : Bool) (reply : Target.Reply) :
    List Bool :=
  (List.range 9).map echo ++ bits (ackBits pattern reply.ack) ++
  (if read && reply.ack == .ok then
    bits reply.data ++ [parity32 reply.data != !reply.parityOk] ++ (List.range 9).map echo
  else (List.range 42).map echo)

@[simp] theorem length_levels (echo : Nat → Bool) (pattern : BitVec 3) (read : Bool)
    (reply : Target.Reply) : (levels echo pattern read reply).length = 54 := by
  unfold levels
  split <;> simp

/-- The target on an exchange of `count` frames, each from its 54 clocks. -/
def clockFrames (world : PortWorld) (choice : Nat → FrameChoice) (echo : Nat → Nat → Bool)
    (pattern : BitVec 3) : Nat → Nat → List Clock → Target → List Bool × Target
  | _, 0, _, t => ([], t)
  | index, count + 1, seq, t =>
    let frame := seq.take 54
    match receiveHeader ((frame.take 8).map (·.value)) with
    | some req =>
      let served := t.frame world (choice index) req (receiveData frame)
      let later := clockFrames world choice echo pattern (index + 1) count (seq.drop 54) served.2
      (levels (echo index) pattern req.read served.1.reply ++ later.1, later.2)
    | none =>
      -- A header that is no request is not answered until a line reset.
      let later := clockFrames world choice echo pattern (index + 1) count (seq.drop 54)
        { t with lockout := true }
      (levels (echo index) pattern false ⟨.undefined, 0, true⟩ ++ later.1, later.2)

def readACK (input : List Bool) (offset : Nat) : BitVec 3 :=
  (if bitAt input offset then 0b001 else 0) ||| (if bitAt input (offset + 1) then 0b010 else 0) |||
  (if bitAt input (offset + 2) then 0b100 else 0)

/-- The patterns `ackError` tells apart. -/
def ackOf (ack : BitVec 3) : Ack :=
  if ack = 0b001 then .ok else if ack = 0b010 then .wait else if ack = 0b100 then .fault
  else .undefined

/-- `decodeFixedFrame` at an offset of the input. -/
def decodeFixedFrame (input : List Bool) (offset : Nat) (req : Request) : Result :=
  match ackError (ackOf (readACK input (offset + 9))) with
  | some err => (0, some err)
  | none =>
    if !req.read then (0, none)
    else
      let dataOffset := offset + 12
      let data := extractUint32At input dataOffset
      if bitAt input (dataOffset + 32) != parity32 data then (0, some errParity)
      else (data, none)

/-- Decoding looks at the 54 bits of its own frame only. -/
theorem decodeFixedFrame_congr {first second : List Bool} {here there : Nat}
    (same : ∀ i < 54, bitAt first (here + i) = bitAt second (there + i)) (req : Request) :
    decodeFixedFrame first here req = decodeFixedFrame second there req := by
  have ack : readACK first (here + 9) = readACK second (there + 9) := by
    simp only [readACK, Nat.add_assoc, Nat.reduceAdd]
    rw [same 9 (by omega), same 10 (by omega), same 11 (by omega)]
  have data : extractUint32At first (here + 12) = extractUint32At second (there + 12) := by
    apply BitVec.eq_of_getLsbD_eq
    intro i inside
    rw [extractUint32At, extractUint32At, getLsbD_extract _ _ inside, getLsbD_extract _ _ inside,
      Nat.add_assoc, Nat.add_assoc, same (12 + i) (by omega)]
  unfold decodeFixedFrame
  simp only [ack, data, Nat.add_assoc, Nat.reduceAdd, same 44 (by omega)]

theorem decodeFixedFrame_middle (before frame after : List Bool) (req : Request)
    (length : frame.length = 54) :
    decodeFixedFrame (before ++ frame ++ after) before.length req =
      decodeFixedFrame frame 0 req := by
  refine decodeFixedFrame_congr (fun i inside => ?_) req
  rw [bitAt_middle rfl (by omega), Nat.zero_add]

theorem readACK_levels (echo : Nat → Bool) (pattern : BitVec 3) (read : Bool)
    (reply : Target.Reply) :
    readACK (levels echo pattern read reply) 9 = ackBits pattern reply.ack := by
  have own (i : Nat) (inside : i < 3) : bitAt (levels echo pattern read reply) (9 + i) =
      (ackBits pattern reply.ack).getLsbD i := by
    rw [levels, bitAt_middle (by simp) (by simpa using inside), bitAt, getD_bits]
  simp only [readACK, own 1 (by omega), own 2 (by omega), show bitAt _ 9 = _ from own 0 (by omega)]
  generalize ackBits pattern reply.ack = ack
  revert ack
  decide

theorem ackOf_ackBits (undefined : ackOf pattern = .undefined) (ack : Ack) :
    ackOf (ackBits pattern ack) = ack := by
  cases ack with
  | undefined => exact undefined
  | _ => rfl

/-- The host decodes the reply that the target gave. -/
theorem decodeFixedFrame_levels (echo : Nat → Bool)
    (undefined : ackOf pattern = .undefined) (req : Request) (reply : Target.Reply) :
    decodeFixedFrame (levels echo pattern req.read reply) 0 req =
      Swd.decodeFixedFrame reply req := by
  unfold decodeFixedFrame Swd.decodeFixedFrame
  rw [Nat.zero_add, readACK_levels, ackOf_ackBits undefined]
  cases failed : ackError reply.ack with
  | some err => rfl
  | none =>
    cases read : req.read with
    | false => rfl
    | true =>
      have ok : reply.ack = .ok := by
        cases ack : reply.ack <;> simp [ack, ackError] at failed ⊢
      have shape : levels echo pattern true reply =
          ((List.range 9).map echo ++ bits (ackBits pattern reply.ack)) ++ bits reply.data ++
            ([parity32 reply.data != !reply.parityOk] ++ (List.range 9).map echo) := by
        simp [levels, ok]
      have data : extractUint32At (levels echo pattern true reply) 12 = reply.data := by
        apply BitVec.eq_of_getLsbD_eq
        intro i inside
        rw [extractUint32At, getLsbD_extract _ _ inside, shape,
          bitAt_middle (by simp) (by simpa using inside), bitAt, getD_bits]
        simp [inside]
      have odd : bitAt (levels echo pattern true reply) 44 =
          (parity32 reply.data != !reply.parityOk) := by
        rw [shape, ← List.append_assoc, show 44 = 44 + 0 from rfl,
          bitAt_middle (by simp) (by simp)]
        rfl
      simp only [data, odd, Nat.zero_add, Nat.reduceAdd]
      cases reply.parityOk <;> simp

/-! ## An exchange of any number of frames -/

/-- A frame depends on the request only through what the wire carries. -/
theorem frame_received (t : Target) (world : PortWorld) (c : FrameChoice) (req : Request)
    (value : Word) :
    t.frame world c { req with tag := none } (receiveData (fixedFrame req value)) =
      t.frame world c req value := by
  obtain ⟨ap, read, addr, tag⟩ := req
  cases read with
  | true => rfl
  | false =>
    rw [receiveData_fixedFrame rfl]
    rfl

/-- The clocks of an exchange, frame by frame. -/
private theorem clockFrames_cut (world : PortWorld) (choice : Nat → FrameChoice)
    (echo : Nat → Nat → Bool) (undefined : ackOf pattern = .undefined) :
    ∀ (frames : List (Request × Word)) (index : Nat) (t : Target),
      (∀ frame ∈ frames, Addressed frame.1) →
      ∃ inputs : List (List Bool),
        clockFrames world choice echo pattern index frames.length
            (frames.flatMap fun frame => fixedFrame frame.1 frame.2) t =
          (inputs.flatten, (Target.frames world choice index frames t).2) ∧
        (∀ input ∈ inputs, input.length = 54) ∧
        inputs.zipWith (fun input frame => decodeFixedFrame input 0 frame.1) frames =
          (Target.frames world choice index frames t).1.zipWith
            (fun served frame => Swd.decodeFixedFrame served.reply frame.1) frames
  | [], _, _, _ => ⟨[], rfl, by simp, rfl⟩
  | (req, value) :: rest, index, t, addressed => by
    have header : receiveHeader (((fixedFrame req value).take 8).map (·.value)) =
        some { req with tag := none } := by
      rw [← receiveHeader_requestByte (addressed (req, value) List.mem_cons_self)]
      congr 1
    obtain ⟨inputs, clocked, lengths, decoded⟩ := clockFrames_cut world choice echo undefined rest
      (index + 1) (t.frame world (choice index) req value).2
      fun frame member => addressed frame (List.mem_cons_of_mem _ member)
    refine ⟨levels (echo index) pattern req.read (t.frame world (choice index) req value).1.reply ::
      inputs, ?_, ?_, ?_⟩
    · simp only [List.flatMap_cons, List.length_cons, clockFrames]
      rw [List.take_left' (length_fixedFrame req value),
        List.drop_left' (length_fixedFrame req value), header]
      simp only [frame_received, clocked]
      rfl
    · simpa using lengths
    · simp only [List.zipWith_cons_cons, Target.frames, decoded,
        decodeFixedFrame_levels _ undefined]

/-- Decoding at a frame's offset is decoding the frame. -/
theorem decodeFixedFrame_flatten {inputs : List (List Bool)}
    (lengths : ∀ input ∈ inputs, input.length = 54) {input : List Bool}
    (here : inputs[i]? = some input) (req : Request) :
    decodeFixedFrame inputs.flatten (54 * i) req = decodeFixedFrame input 0 req := by
  obtain ⟨bound, rfl⟩ := List.getElem?_eq_some_iff.mp here
  have cut : inputs.flatten =
      (inputs.take i).flatten ++ inputs[i] ++ (inputs.drop (i + 1)).flatten := by
    conv_lhs => rw [← List.take_append_drop i inputs, List.drop_eq_getElem_cons bound,
      List.flatten_append, List.flatten_cons, ← List.append_assoc]
  have offset : 54 * i = (inputs.take i).flatten.length := by
    have sum : ((inputs.take i).map List.length) = List.replicate i 54 := by
      refine List.eq_replicate_iff.mpr ⟨by simp; omega, fun n member => ?_⟩
      obtain ⟨own, isOwn, rfl⟩ := List.mem_map.mp member
      exact lengths own (List.mem_of_mem_take isOwn)
    rw [List.length_flatten, sum]
    simp [Nat.mul_comm]
  rw [cut, offset]
  exact decodeFixedFrame_middle _ _ _ req (lengths _ (List.getElem_mem bound))

/-- Packing frames into one exchange changes neither what the target does nor
what the host decodes at the offset of each of them. -/
theorem clockFrames_spec (world : PortWorld) (choice : Nat → FrameChoice) (echo : Nat → Nat → Bool)
    (undefined : ackOf pattern = .undefined) {frames : List (Request × Word)}
    (addressed : ∀ frame ∈ frames, Addressed frame.1) (t : Target) :
    let wire := clockFrames world choice echo pattern 0 frames.length
      (frames.flatMap fun frame => fixedFrame frame.1 frame.2) t
    wire.2 = (Target.frames world choice 0 frames t).2 ∧
      ∀ (i : Nat) (frame : Request × Word) (served : Target.Served), frames[i]? = some frame →
        (Target.frames world choice 0 frames t).1[i]? = some served →
        decodeFixedFrame wire.1 (54 * i) frame.1 = Swd.decodeFixedFrame served.reply frame.1 := by
  obtain ⟨inputs, clocked, lengths, decoded⟩ :=
    clockFrames_cut world choice echo undefined frames 0 t addressed
  rw [clocked]
  refine ⟨rfl, fun i frame served here answered => ?_⟩
  have own := congrArg (·[i]?) decoded
  simp only [List.getElem?_zipWith, here, answered] at own
  cases input : inputs[i]? with
  | none => simp [input] at own
  | some input =>
    rw [decodeFixedFrame_flatten lengths input]
    simpa [input] using own

end Ostiole.Swd.Wire
