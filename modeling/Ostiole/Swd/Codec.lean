import Ostiole.Logic.Fallible
import Ostiole.Swd.Sequence
import Ostiole.Swd.Sim

/-!
# The frame codec against the simulated wire

Any number of fixed frames, packed by the host and clocked into the simulated wire: the
wire hands the device exactly the requests that were packed, with their data, and the host
decodes at each frame's offset exactly what the device answered.
-/

namespace Ostiole.Swd.Codec

open Jtag (Byte Buffer)

variable {frames : List (Request × Word)} {n offset : Nat} {frame : Request × Word}

/-! ## Parity -/

/-- Whether an odd number of the first values is set. -/
def odd (values : Nat → Bool) : Nat → Bool
  | 0 => false
  | count + 1 => odd values count ^^ values count

theorem odd_add (values : Nat → Bool) (first second : Nat) :
    odd values (first + second) = (odd values first ^^ odd
      (fun i => values (first + i)) second) := by
  induction second with
  | zero => simp [odd]
  | succ second ih => rw [← Nat.add_assoc, odd, ih, odd, Bool.xor_assoc]

theorem odd_xor (first second : Nat → Bool) (count : Nat) :
    odd (fun i => first i ^^ second i) count = (odd first count ^^ odd second count) := by
  induction count with
  | zero => rfl
  | succ count ih =>
    rw [odd, ih, odd, odd, Bool.xor_assoc, Bool.xor_assoc,
      Bool.xor_left_comm (odd second count)]

theorem odd_false (count : Nat) : odd (fun _ => false) count = false := by
  induction count with
  | zero => rfl
  | succ count ih => rw [odd, ih, Bool.xor_false]

/-- A value folded on its half keeps its parity. -/
theorem odd_fold (value : Word) (half : Nat) :
    odd value.getLsbD (half + half) = odd (value ^^^ value >>> half).getLsbD half := by
  have folded : (value ^^^ value >>> half).getLsbD =
      fun i => value.getLsbD i ^^ value.getLsbD (half + i) := by
    funext i
    rw [BitVec.getLsbD_xor, BitVec.getLsbD_ushiftRight]
  rw [folded, odd_xor, odd_add]

theorem sim_parity32_odd (value : Word) : Sim.parity32 value = odd value.getLsbD 32 := by
  rw [odd_fold value 16, odd_fold _ 8, odd_fold _ 4, odd_fold _ 2, odd_fold _ 1]
  exact (Bool.false_xor _).symm

theorem parity_odd (turns : Nat) (value : Word) (seen : Bool) :
    Wire.parity turns value seen = (seen ^^ odd value.getLsbD turns) := by
  induction turns generalizing value seen with
  | zero => exact (Bool.xor_false seen).symm
  | succ turns ih =>
    have shifted : (value >>> 1).getLsbD = fun i => value.getLsbD (1 + i) := by
      funext i
      rw [BitVec.getLsbD_ushiftRight]
    rw [Wire.parity]
    split
    · next zero =>
        have clear : value.getLsbD = fun _ => false := by
          funext i
          rw [zero]
          exact BitVec.getLsbD_zero
        rw [clear, odd_false, Bool.xor_false]
    · rw [ih, shifted, Nat.add_comm turns 1, odd_add, ← Bool.xor_assoc]
      congr 1
      cases seen <;> simp [odd]

/-- The host counts bit by bit and the simulated wire folds halves; they agree on
parity. -/
theorem parity32_eq (value : Word) : Wire.parity32 value = Sim.parity32 value := by
  rw [Wire.parity32, parity_odd, sim_parity32_odd, Bool.false_xor]

/-! ## A frame at its offset -/

/-- The clock at a position of a fixed frame. -/
def frameClock (req : Request) (value : Word) (i : Nat) : Wire.Clock :=
  if i < 8 then ⟨true, (Wire.requestByte req).getLsbD i⟩
  else if i < 12 then ⟨false, false⟩
  else if 46 ≤ i then ⟨true, false⟩
  else if req.read then ⟨false, false⟩
  else if i = 12 then ⟨false, false⟩
  else if i = 45 then ⟨true, Wire.parity32 value⟩
  else ⟨true, value.getLsbD (i - 13)⟩

theorem fixedFrame_clocks (req : Request) (value : Word) :
    Wire.fixedFrame req value = (List.range 54).map (frameClock req value) := by
  obtain ⟨ap, read, addr, tag⟩ := req
  cases read <;> rfl

/-- Lists of one length, one behind the other. -/
theorem getElem?_flatMap {α β : Type} (size : Nat) (list : α → List β)
    (sized : ∀ item, (list item).length = size)
    {items : List α} {i : Nat} {item : α} (here : items[n]? = some item) (inside : i < size) :
    (items.flatMap list)[size * n + i]? = (list item)[i]? := by
  induction items generalizing n with
  | nil => simp at here
  | cons first items ih =>
    rw [List.flatMap_cons]
    cases n with
    | zero =>
      have same : first = item := by simpa using here
      rw [same, Nat.mul_zero, Nat.zero_add, List.getElem?_append_left (by rw [sized]; exact inside)]
    | succ n =>
      have behind : size * (n + 1) + i - (list first).length = size * n + i := by
        rw [sized, Nat.mul_succ]
        omega
      rw [List.getElem?_append_right (by rw [sized, Nat.mul_succ]; omega), behind]
      exact ih (by simpa using here)

/-- The clocks of a fixed frame at an offset of the packed streams. -/
def Framed (direction output : Buffer) (offset : Nat) (frame : Request × Word) : Prop :=
  ∀ i < 54, direction.get (offset + i) = (frameClock frame.1 frame.2 i).driven ∧
    output.get (offset + i) = (frameClock frame.1 frame.2 i).value

theorem framed_packFrames
    (here : frames[n]? = some frame) :
    Framed (packFrames frames).direction (packFrames frames).output (54 * n) frame := by
  intro i inside
  have held : 54 * n + i < (packFrames frames).bits := by
    have bound := (List.getElem?_eq_some_iff.mp here).1
    rw [bits_packFrames]
    omega
  have clock : (packFrames frames).clocks[54 * n + i]? = some (frameClock frame.1 frame.2 i) := by
    rw [clocks_packFrames]
    rw [getElem?_flatMap 54 (fun frame : Request × Word => Wire.fixedFrame frame.1 frame.2)
      (fun frame => Wire.length_fixedFrame frame.1 frame.2) here inside, fixedFrame_clocks]
    simp [inside]
  have read : (⟨(packFrames frames).direction.get (54 * n + i),
    (packFrames frames).output.get (54 * n + i)⟩ :
      Wire.Clock) = frameClock frame.1 frame.2 i := by
    simpa [Sequence.clocks, held] using clock
  exact ⟨congrArg Wire.Clock.driven read, congrArg Wire.Clock.value read⟩

theorem allBits_of {buf : Buffer} {count : Nat} {want : Bool}
    (same : ∀ i < count, buf.get (offset + i) = want) :
    Sim.allBits buf offset count want = true := by
  simpa [Sim.allBits] using same

theorem byteAt_of {buf : Buffer} {value : Byte}
    (same : ∀ i < 8, buf.get (offset + i) = value.getLsbD i) : Sim.byteAt buf offset = value := by
  have read : Sim.byteAt buf offset = (List.range 8).foldl
      (fun sum bit => sum ||| (BitVec.ofBool (value.getLsbD bit)).setWidth 8 <<< bit) 0 := by
    apply List.foldl_ext
    intro sum bit member
    rw [same bit (List.mem_range.mp member)]
  have every : ∀ value : Byte, (List.range 8).foldl
      (fun sum bit => sum ||| (BitVec.ofBool (value.getLsbD bit)).setWidth 8 <<< bit) 0 =
        value := by
    decide +kernel
  rw [read, every]

/-- A request as the wire carries it. -/
def carried (req : Request) : Sim.Request := ⟨req.ap, req.read, req.addr⟩

theorem decodeRequest_requestByte {req : Request} (addressed : Wire.Addressed req) :
    Sim.decodeRequest (Wire.requestByte req) = .ok (carried req) := by
  have every : ∀ ap read : Bool, ∀ addr ∈ [0x00#8, 0x04#8, 0x08#8, 0x0c#8],
      Sim.decodeRequest (Wire.requestByte ⟨ap, read, addr, none⟩) = .ok ⟨ap, read, addr⟩ := by
    decide +kernel
  exact every req.ap req.read req.addr (by simpa [Wire.Addressed] using addressed)

namespace Framed

variable {direction output : Buffer} {offset : Nat} {frame : Request × Word}

theorem header (framed : Framed direction output offset frame) :
    Sim.byteAt output offset = Wire.requestByte frame.1 :=
  byteAt_of fun i inside => by simp [(framed i (by omega)).2, frameClock, inside]

theorem requestDriven (framed : Framed direction output offset frame) :
    Sim.allBits direction offset 8 true = true :=
  allBits_of fun i inside => by simp [(framed i (by omega)).1, frameClock, inside]

theorem answerFree (framed : Framed direction output offset frame) :
    Sim.allBits direction (offset + 8) 4 false = true :=
  allBits_of fun i inside => by
    have behind : ¬8 + i < 8 := by omega
    have early : 8 + i < 12 := by omega
    simp [Nat.add_assoc, (framed (8 + i) (by omega)).1, frameClock, behind, early]

theorem idleLow (framed : Framed direction output offset frame) :
    Sim.allBits output (offset + 46) 8 false = true :=
  allBits_of fun i inside => by
    have late : ¬46 + i < 8 ∧ ¬46 + i < 12 := by omega
    simp [Nat.add_assoc, (framed (46 + i) (by omega)).2, frameClock, late]

theorem validDirection (framed : Framed direction output offset frame) :
    Sim.validateFixedDirection (carried frame.1) direction offset = none := by
  have clock (i : Nat) (inside : i < 54) := (framed i inside).1
  rw [Sim.validateFixedDirection]
  cases read : frame.1.read with
  | true =>
    have free : Sim.allBits direction (offset + 12) 34 false = true :=
      allBits_of fun i inside => by
        have data : ¬12 + i < 8 ∧ ¬12 + i < 12 ∧ ¬46 ≤ 12 + i := by omega
        simp [Nat.add_assoc, clock (12 + i) (by omega), frameClock, read, data]
    have idle : Sim.allBits direction (offset + 46) 8 true = true :=
      allBits_of fun i inside => by
        have late : ¬46 + i < 8 ∧ ¬46 + i < 12 := by omega
        simp [Nat.add_assoc, clock (46 + i) (by omega), frameClock, late]
    simp [carried, read, free, idle]
  | false =>
    have turn : Sim.allBits direction (offset + 12) 1 false = true :=
      allBits_of fun i inside => by
        obtain rfl : i = 0 := by omega
        simp [clock 12 (by omega), frameClock, read]
    have driven : Sim.allBits direction (offset + 13) 41 true = true :=
      allBits_of fun i inside => by
        have data : ¬13 + i < 8 ∧ ¬13 + i < 12 ∧ ¬13 + i = 12 := by omega
        simp only [Nat.add_assoc, clock (13 + i) (by omega), frameClock, read, data]
        split_ifs <;> rfl
    simp [carried, read, turn, driven]

theorem data (framed : Framed direction output offset frame) (write : frame.1.read = false) :
    Sim.uint32At output (offset + 13) = frame.2 :=
  Buffer.word_eq fun i inside => by
    have data : ¬13 + i < 8 ∧ ¬13 + i < 12 ∧ ¬46 ≤ 13 + i ∧ ¬13 + i = 12 ∧ ¬13 + i = 45 := by omega
    simp [Nat.add_assoc, (framed (13 + i) (by omega)).2, frameClock, write, data]

theorem parity (framed : Framed direction output offset frame) (write : frame.1.read = false) :
    output.get (offset + 45) = Sim.parity32 frame.2 := by
  simp [(framed 45 (by omega)).2, frameClock, write, parity32_eq]

end Framed

/-! ## What the device sees of a frame -/

section Serve

variable {σ : Type}

/-- How a device acknowledges a request. -/
def respond (device : Sim.Device σ) (req : Sim.Request) : Sim.WireM σ Ack :=
  match device.acknowledge with
  | none => return .ok
  | some answer => do
    match ← Sim.act (answer req) with
    | none => return .ok
    | some err =>
      if err.is .swdFault then return .fault
      else if err.is .swdWait then return .wait
      else throw err

/-- An acknowledgement as `acknowledge` returns it. -/
def ackByte : Ack → Byte
  | .ok => 0b001
  | .wait => 0b010
  | .fault => 0b100
  | .undefined => 0

theorem acknowledge_eq (device : Sim.Device σ) (req : Sim.Request) :
    Sim.acknowledge device req = ackByte <$> respond device req := by
  rw [Sim.acknowledge, respond]
  cases device.acknowledge with
  | none => rfl
  | some answer =>
    rw [map_bind]
    refine bind_congr fun answered => ?_
    cases answered with
    | none => rfl
    | some err =>
      simp only
      split_ifs <;> rfl

/-- What the device does in one frame, with no bits in between. -/
def serve (frame : Request × Word) : Sim.WireM σ Target.Reply := do
  let wire ← get
  match wire.target with
  | none => throw (.text "swd/sim: no target is configured")
  | some device =>
    let ack ← respond device (carried frame.1)
    Sim.observeResponse device (ackByte ack)
    if ackByte ack ≠ 0b001 then
      if !Sim.overrunEnabled wire then throw (.text
        "swd/sim: fixed response frame requires ORUNDETECT")
      else return ⟨ack, 0, true⟩
    else if frame.1.read then
      let (value, err) ← Sim.act (device.read (carried frame.1))
      if err ≠ none ∧ err ≠ some errParity then throw (err.getD errParity)
      else return ⟨.ok, value, !decide (err = some errParity)⟩
    else
      match ← Sim.act (device.write (carried frame.1) frame.2) with
      | none => return ⟨.ok, 0, true⟩
      | some err => throw err

/-- What the wire puts into the input for a reply. -/
def putReply (input : Buffer) (offset : Nat) (read : Bool) (reply : Target.Reply) : Buffer :=
  let input := Sim.setACK input (offset + 9) (ackByte reply.ack)
  if read && reply.ack == .ok then
    (Sim.setUint32At input (offset + 12) reply.data).put (offset + 44)
      (Sim.parity32 reply.data != !reply.parityOk)
  else input

/-- The simulated wire recovers a frame from its bits, and answers what the device does. -/
theorem fixedFrame_framed {direction output : Buffer}
    (framed : Framed direction output offset frame) (addressed : Wire.Addressed frame.1)
    (input : Buffer) :
    Sim.fixedFrame direction output input offset =
      putReply input offset frame.1.read <$> (serve frame : Sim.WireM σ Target.Reply) := by
  rw [Sim.fixedFrame, serve, map_bind]
  refine bind_congr fun wire => ?_
  rw [framed.requestDriven, framed.answerFree, framed.header, decodeRequest_requestByte addressed]
  cases wire.target with
  | none => rfl
  | some device =>
    simp only [framed.validDirection, framed.idleLow, Sim.answerFrame, acknowledge_eq,
      bind_map_left, map_bind]
    refine bind_congr fun ack => bind_congr fun _ => ?_
    by_cases ok : ackByte ack = 0b001
    · obtain rfl : ack = .ok := by
        cases ack <;> simp [ackByte] at ok ⊢
      cases read : frame.1.read with
      | true =>
        simp only [carried, read, ok, Sim.fixedRead, ne_eq, not_true_eq_false, if_true, if_false,
          map_bind]
        refine bind_congr fun answered => ?_
        split_ifs <;> simp [putReply, ackByte]
      | false =>
        simp only [carried, read, ok, Sim.fixedWrite, framed.data read, framed.parity read, ne_eq,
          not_true_eq_false, if_false, map_bind, Bool.false_eq_true, bind_pure_comp]
        refine bind_congr fun answered => ?_
        cases answered <;> simp [putReply, ackByte]
    · have refused : ack ≠ .ok := fun isOk => ok (by rw [isOk]; rfl)
      simp only [ne_eq, ok, not_false_eq_true, if_true]
      split_ifs <;> simp [putReply, refused]

/-- The input after the replies to frames, the first of them at an offset. -/
def putReplies (input : Buffer) (offset : Nat) : List (Request × Word) → List Target.Reply → Buffer
  | frame :: frames, reply :: replies =>
    putReplies (putReply input offset frame.1.read reply) (offset + 54) frames replies
  | _, _ => input

theorem fixedFrames_framed {direction output : Buffer}
    (framed : ∀ n frame, frames[n]? = some frame → Framed direction output (offset + 54 * n) frame)
    (addressed : ∀ frame ∈ frames, Wire.Addressed frame.1) (input : Buffer) :
    Sim.fixedFrames direction output frames.length offset input =
      putReplies input offset frames <$> (frames.mapM serve : Sim.WireM σ (List Target.Reply)) := by
  induction frames generalizing offset input with
  | nil => rfl
  | cons frame frames ih =>
    have later : ∀ n other, frames[n]? = some other →
        Framed direction output (offset + 54 + 54 * n) other := by
      intro n other here
      have there := framed (n + 1) other (by simpa using here)
      rwa [Nat.mul_succ, Nat.add_comm (54 * n), ← Nat.add_assoc] at there
    have here := fixedFrame_framed (σ := σ) (framed 0 frame rfl)
      (addressed frame List.mem_cons_self) input
    rw [List.length_cons, Sim.fixedFrames]
    simp only [Nat.mul_zero, Nat.add_zero] at here
    simp only [here, ih later fun other member => addressed other (List.mem_cons_of_mem _ member),
      List.mapM_cons, bind_map_left, map_bind, map_pure]
    refine bind_congr fun reply => ?_
    rw [map_eq_pure_bind]
    rfl

end Serve

/-! ## What the host reads of a reply -/

/-- The level at a position of a frame. -/
def levelAt (read : Bool) (reply : Target.Reply) (i : Nat) : Bool :=
  if i < 9 then false
  else if i < 12 then (ackByte reply.ack).getLsbD (i - 9)
  else if read && reply.ack == .ok then
    if i < 44 then reply.data.getLsbD (i - 12)
    else if i = 44 then Sim.parity32 reply.data != !reply.parityOk else false
  else false

theorem levels_eq (read : Bool) (reply : Target.Reply) :
    Wire.levels (fun _ => false) 0 read reply = (List.range 54).map (levelAt read reply) := by
  obtain ⟨ack, data, parityOk⟩ := reply
  rw [Wire.levels, parity32_eq]
  cases read <;> cases ack <;> rfl

theorem get_putReply {input : Buffer} (room : offset + 54 ≤ 8 * input.length) (read : Bool)
    (reply : Target.Reply) (j : Nat) :
    (putReply input offset read reply).get j =
      (input.get j || (decide (offset ≤ j) && levelAt read reply (j - offset))) := by
  have acknowledged : (Sim.setACK input (offset + 9) (ackByte reply.ack)).get j =
      (input.get j || (decide (offset + 9 ≤ j ∧ j < offset + 12) && (ackByte reply.ack).getLsbD
        (j - (offset + 9)))) :=
    Buffer.get_putAll (by omega) _ _
  rw [putReply, levelAt]
  split
  · next data =>
      have size : (Sim.setUint32At (Sim.setACK input (offset + 9) (ackByte reply.ack)) (offset + 12)
          reply.data).length = input.length := by
        simp [Sim.setUint32At, Sim.setACK]
      rw [Buffer.get_put (by rw [size]; omega), Sim.setUint32At,
        Buffer.get_putAll (by rw [Sim.setACK, Buffer.length_putAll]; omega), acknowledged]
      grind
  · next none =>
      rw [acknowledged]
      grind

@[simp] theorem length_putReply (input : Buffer) (offset : Nat) (read : Bool)
    (reply : Target.Reply) :
    (putReply input offset read reply).length = input.length := by
  rw [putReply]
  split <;> simp [Sim.setUint32At, Sim.setACK]

@[simp] theorem length_putReplies (input : Buffer) (offset : Nat) (frames : List (Request × Word))
    (replies : List Target.Reply) :
    (putReplies input offset frames replies).length = input.length := by
  induction frames generalizing input offset replies with
  | nil => rfl
  | cons frame frames ih =>
    cases replies with
    | nil => rfl
    | cons reply replies => rw [putReplies, ih, length_putReply]

/-- Later frames leave what lies before them. -/
theorem get_putReplies_before {input : Buffer}
    (room : offset + 54 * frames.length ≤ 8 * input.length) (replies : List Target.Reply) {j : Nat}
    (before : j < offset) : (putReplies input offset frames replies).get j = input.get j := by
  induction frames generalizing input offset replies with
  | nil => rfl
  | cons frame frames ih =>
    rw [List.length_cons] at room
    cases replies with
    | nil => rfl
    | cons reply replies =>
      rw [putReplies, ih (by rw [length_putReply]; omega) _ (by omega),
        get_putReply (by omega), decide_eq_false (by omega), Bool.false_and, Bool.or_false]

/-- The input has every reply at its own frame. -/
theorem get_putReplies (input : Buffer) (offset : Nat)
    (room : offset + 54 * frames.length ≤ 8 * input.length)
    (clear : ∀ j, offset ≤ j → input.get j = false)
    {replies : List Target.Reply} {reply : Target.Reply}
    (here : frames[n]? = some frame) (answered : replies[n]? = some reply) {i : Nat}
    (inside : i < 54) :
    (putReplies input offset frames replies).get (offset + 54 * n + i) =
      levelAt frame.1.read reply i := by
  induction frames generalizing input offset replies n with
  | nil => simp at here
  | cons first frames ih =>
    rw [List.length_cons] at room
    cases replies with
    | nil => simp at answered
    | cons firstReply replies =>
      rw [putReplies]
      cases n with
      | zero =>
        obtain ⟨rfl, rfl⟩ : first = frame ∧ firstReply = reply :=
          ⟨Option.some.inj here, Option.some.inj answered⟩
        rw [get_putReplies_before (by rw [length_putReply]; omega) _ (by omega),
          get_putReply (by omega), clear _ (by omega), decide_eq_true (by omega)]
        simp
      | succ n =>
        have beyond : ∀ j, offset + 54 ≤ j → (putReply input offset first.1.read firstReply).get j =
            false := by
          intro j behind
          have idle : levelAt first.1.read firstReply (j - offset) = false := by
            rw [levelAt]
            split_ifs <;> first | rfl | omega
          rw [get_putReply (by omega), clear j (by omega), idle, Bool.and_false, Bool.or_false]
        have there := ih _ (offset + 54) (by rw [length_putReply]; omega) beyond
          (by simpa using here) (by simpa using answered)
        rw [← there]
        congr 1
        omega

/-- The host decodes, at a frame's offset, what the device answered to it. -/
theorem decodeInput_putReplies {replies : List Target.Reply} {reply : Target.Reply}
    (here : frames[n]? = some frame)
    (answered : replies[n]? = some reply) :
    decodeInput (putReplies (.zeros (54 * frames.length)) 0 frames replies) (54 * n) frame.1 =
      decodeFixedFrame reply frame.1 := by
  have bound := (List.getElem?_eq_some_iff.mp here).1
  have undefined : Wire.ackOf 0 = .undefined := rfl
  rw [← Wire.decodeFixedFrame_levels (fun _ => false) undefined frame.1 reply, decodeInput]
  refine Wire.decodeFixedFrame_congr (fun i inside => ?_) frame.1
  have level := get_putReplies (.zeros (54 * frames.length)) 0 (by simp; omega) (by simp) here
    answered inside
  rw [Nat.zero_add] at level
  rw [Wire.bitAt, Buffer.bits, Wire.bitAt, levels_eq]
  have held : 54 * n + i < 8 * ((54 * frames.length + 7) / 8) := by omega
  simp [List.getD_eq_getElem?_getD, held, inside, level]

/-! ## The wire -/

section Swdio

variable {σ : Type}

theorem swdio_started (next : Sim.Wire σ → Sim.WireM σ Buffer) (wire : Sim.Wire σ) :
    (do let wire ← get; next wire : Sim.WireM σ Buffer) wire = next wire wire := rfl

/-- An active wire between transfers takes packed frames as far as its limit and lets the
device answer them one after the other. -/
theorem swdio_packFrames (nonempty : frames ≠ [])
    (addressed : ∀ frame ∈ frames, Wire.Addressed frame.1) {wire : Sim.Wire σ}
    (active : wire.active = true)
    (idle : wire.pending = none) (fits : (packFrames frames).bits ≤ Sim.maxTransferBits wire) :
    Sim.swdio none (packFrames frames).direction (packFrames frames).output
      (packFrames frames).bits wire =
      (putReplies (.zeros (54 * frames.length)) 0 frames <$> frames.mapM serve) wire := by
  have several : 0 < frames.length := List.length_pos_iff.mpr nonempty
  have bits := bits_packFrames frames
  have framed : ∀ n frame, frames[n]? = some frame →
      Framed (packFrames frames).direction (packFrames frames).output (0 + 54 * n) frame := by
    intro n frame here
    rw [Nat.zero_add]
    exact framed_packFrames here
  have valid : Sim.validateSWDIO none (packFrames frames).direction (packFrames frames).output
      (packFrames frames).bits wire = none := by
    rw [Sim.validateSWDIO, if_neg (by omega), if_neg (by omega), if_neg]
    rw [Int.toNat_natCast, (packFrames frames).directionSized, (packFrames frames).outputSized]
    omega
  -- Protocol entry takes 64 or 136 clocks, and no number of frames does.
  have resets : Sim.protocolEntryResets (packFrames frames).direction (packFrames frames).output
      (packFrames frames).bits = 0 := by
    have line : ((packFrames frames).bits == 64) = false := by
      rw [beq_eq_false_iff_ne]
      omega
    have switch : ((packFrames frames).bits == 136) = false := by
      rw [beq_eq_false_iff_ne]
      omega
    simp [Sim.protocolEntryResets, Sim.lineReset, Sim.jtagToSWD, line, switch]
  rw [Sim.swdio, swdio_started, valid]
  simp only [Int.toNat_natCast, resets, active, idle]
  rw [if_neg (by omega), if_neg (by simp), if_neg (by simp), if_pos (by omega), Sim.fixed, bits,
    Nat.mul_div_cancel_left _ (by decide), fixedFrames_framed framed addressed]

end Swdio

/-! ## A target that answers from a list -/

/-- One response of a target: it accepts, with read data and their parity, or it does not. -/
inductive Response where
  | accept (value : Word) (parityOk : Bool)
  | wait
  | fault
deriving DecidableEq, Repr

namespace Response

/-- How the target acknowledges. -/
def acknowledgement : Response → Option Err
  | accept _ _ => none
  | wait => some errWait
  | fault => some errFault

/-- What the host has to decode from a response. -/
def result (read : Bool) : Response → Result
  | accept value parityOk => if read then if parityOk then (value, none) else (0, some errParity)
      else (0, none)
  | wait => (0, some errWait)
  | fault => (0, some errFault)

/-- The reply that the wire carries for it. -/
def reply (read : Bool) : Response → Target.Reply
  | accept value parityOk => if read then ⟨.ok, value, parityOk⟩ else ⟨.ok, 0, true⟩
  | wait => ⟨.wait, 0, true⟩
  | fault => ⟨.fault, 0, true⟩

theorem decodeFixedFrame_reply (req : Request) (response : Response) :
    decodeFixedFrame (response.reply req.read) req = response.result req.read := by
  cases response with
  | accept value parityOk =>
    cases read : req.read <;> cases parityOk <;> simp [reply, result, decodeFixedFrame, ackError,
      read]
  | wait => rfl
  | fault => rfl

end Response

/-- A call of the wire to its target. -/
inductive Call where
  | acknowledge (req : Sim.Request)
  | read (req : Sim.Request)
  | write (req : Sim.Request) (value : Word)
deriving DecidableEq, Repr

/-- The responses that a target has left, and the calls it got. -/
structure Script where
  responses : List Response
  calls : List Call
deriving DecidableEq, Repr

namespace Script

/-- The next response; one that is not accepted is used up by the acknowledgement. -/
def acknowledge (req : Sim.Request) (script : Script) : Option Err × Script :=
  match script.responses with
  | [] => (none, { script with calls := script.calls ++ [.acknowledge req] })
  | response :: later =>
    (response.acknowledgement,
      { responses := if response.acknowledgement = none then script.responses else later,
        calls := script.calls ++ [.acknowledge req] })

def read (req : Sim.Request) (script : Script) : (Word × Option Err) × Script :=
  (match script.responses with
    | .accept value parityOk :: _ => (value, if parityOk then none else some errParity)
    | _ => (0, none),
   { responses := script.responses.tail, calls := script.calls ++ [.read req] })

def write (req : Sim.Request) (value : Word) (script : Script) : Option Err × Script :=
  (none, { responses := script.responses.tail, calls := script.calls ++ [.write req value] })

/-- The target, with ORUNDETECT enabled. -/
def device : Sim.Device Script where
  read := read
  write := write
  acknowledge := some acknowledge
  overrunDetectEnabled := some fun _ => true
  observeResponse := none
  observeLineReset := none

end Script

/-- The calls for a frame with its response. -/
def callsFor (frame : Request × Word) : Response → List Call
  | .accept _ _ =>
    [.acknowledge (carried frame.1),
      if frame.1.read then .read (carried frame.1) else .write (carried frame.1) frame.2]
  | _ => [.acknowledge (carried frame.1)]

theorem serve_script {wire : Sim.Wire Script} (target : wire.target = some Script.device)
    {response : Response} {later : List Response} {calls : List Call}
    (script : wire.state = ⟨response :: later, calls⟩) (frame : Request × Word) :
    serve frame wire = (.ok (response.reply frame.1.read),
      { wire with state := ⟨later, calls ++ callsFor frame response⟩ }) := by
  obtain ⟨_, _, active, pending, pendingACK, maxBits⟩ := wire
  subst target script
  obtain ⟨⟨ap, read, addr, tag⟩, value⟩ := frame
  cases response with
  | accept data parityOk =>
    rw [callsFor, List.append_cons]
    cases read <;> cases parityOk <;> rfl
  | wait => rfl
  | fault => rfl

theorem mapM_serve_script {responses : List Response}
    (answered : responses.length = frames.length) {wire : Sim.Wire Script}
    (target : wire.target = some Script.device) {calls : List Call}
    (script : wire.state = ⟨responses, calls⟩) :
    frames.mapM serve wire =
      (.ok (frames.zipWith (fun frame response => response.reply frame.1.read) responses),
        { wire with state := ⟨[], calls ++ (frames.zipWith callsFor responses).flatten⟩ }) := by
  induction frames generalizing responses wire calls with
  | nil =>
    obtain rfl := List.eq_nil_of_length_eq_zero answered
    obtain ⟨_, _, active, pending, pendingACK, maxBits⟩ := wire
    subst script
    simp
    rfl
  | cons frame frames ih =>
    cases responses with
    | nil => simp at answered
    | cons response responses =>
      have first := serve_script target script frame
      let served : Sim.Wire Script :=
        { wire with state := ⟨responses, calls ++ callsFor frame response⟩ }
      have target' : served.target = some Script.device := target
      have later := ih (by simpa using answered) target' rfl
      rw [List.mapM_cons, Logic.run_bind_ok first, Logic.run_bind_ok later, List.append_assoc]
      rfl

/-! ## The round trip -/

/-- Frames that fit into one transfer of an active wire between two transfers, whose target
has ORUNDETECT enabled and answers from a list: the wire accepts them and passes on the
requests, with the data of the writes that the target accepted; and the host decodes at
each frame's offset the response to it. Any other acknowledgement is a protocol error. -/
theorem frames_round_trip :
    (∀ (frames : List (Request × Word)) (responses : List Response) (wire : Sim.Wire Script),
      frames ≠ [] → (∀ frame ∈ frames, Wire.Addressed frame.1) → responses.length = frames.length →
      wire.active = true → wire.pending = none → wire.target = some Script.device →
      wire.state = ⟨responses, []⟩ → 54 * frames.length ≤ Sim.maxTransferBits wire →
      ∃ input, Sim.swdio none (packFrames frames).direction (packFrames frames).output
          (packFrames frames).bits wire =
            (.ok input, { wire with state := ⟨[], (frames.zipWith callsFor responses).flatten⟩ }) ∧
        ∀ i frame response, frames[i]? = some frame → responses[i]? = some response →
          decodeInput input (54 * i) frame.1 = response.result frame.1.read) ∧
    ∀ (input : Buffer) (offset : Nat) (req : Request),
      Wire.readACK (input.bits (8 * input.length)) (offset + 9) ∉ ([0b001, 0b010,
        0b100] : List (BitVec 3)) →
      decodeInput input offset req = (0, some errProtocol) := by
  refine ⟨fun frames responses wire nonempty addressed answered active idle target script fits =>
    ?_, fun input offset req undefined => ?_⟩
  · have ran := mapM_serve_script answered target script
    refine ⟨putReplies (.zeros (54 * frames.length)) 0 frames
      (frames.zipWith (fun frame response => response.reply frame.1.read) responses), ?_, ?_⟩
    · rw [swdio_packFrames nonempty addressed active idle (by rwa [bits_packFrames]),
        map_eq_pure_bind, Logic.run_bind_ok ran]
      rfl
    · intro i frame response here there
      have reply : (frames.zipWith (fun frame response =>
        response.reply frame.1.read) responses)[i]? =
          some (response.reply frame.1.read) := by
        simp [List.getElem?_zipWith, here, there]
      rw [decodeInput_putReplies here reply, Response.decodeFixedFrame_reply]
  · have ack : Wire.ackOf (Wire.readACK (input.bits (8 * input.length)) (offset + 9)) =
        .undefined := by
      simp only [List.mem_cons, List.not_mem_nil, or_false, not_or] at undefined
      rw [Wire.ackOf, if_neg undefined.1, if_neg undefined.2.1, if_neg undefined.2.2]
    rw [decodeInput, Wire.decodeFixedFrame, ack]
    rfl

/-- A wire that has entered the protocol, with the default limit, over a target that answers
from a list. -/
def activeWire (responses : List Response) : Sim.Wire Script where
  target := some Script.device
  state := ⟨responses, []⟩
  active := true
  pending := none
  pendingACK := 0
  maxBits := 0

/-- A read whose parity is wrong and a write, both accepted. -/
theorem frames_round_trip_pair :
    ∃ input, Sim.swdio none (packFrames [(⟨true, true, 0x0c, none⟩, 0),
      (⟨false, false, 0x08, none⟩, 0x2a)]).direction
        (packFrames [(⟨true, true, 0x0c, none⟩, 0), (⟨false, false, 0x08, none⟩, 0x2a)]).output
        (packFrames [(⟨true, true, 0x0c, none⟩, 0), (⟨false, false, 0x08, none⟩, 0x2a)]).bits
        (activeWire [.accept 5 false, .accept 0 true]) =
          (.ok input, { activeWire [.accept 5 false, .accept 0 true] with state :=
            ⟨[], [.acknowledge ⟨true, true, 0x0c⟩, .read ⟨true, true, 0x0c⟩,
              .acknowledge ⟨false, false, 0x08⟩, .write ⟨false, false, 0x08⟩ 0x2a]⟩ }) ∧
      decodeInput input 0 ⟨true, true, 0x0c, none⟩ = (0, some errParity) := by
  obtain ⟨input, accepted, decoded⟩ := frames_round_trip.1
    [(⟨true, true, 0x0c, none⟩, 0), (⟨false, false, 0x08, none⟩, 0x2a)] [.accept 5 false,
      .accept 0 true]
    (activeWire [.accept 5 false, .accept 0 true]) (by decide)
      (by simp [Wire.Addressed]) rfl rfl rfl rfl rfl
    (by decide)
  exact ⟨input, accepted, decoded 0 _ _ rfl rfl⟩

/-- More frames than the default limit has room for are not accepted, nor is a frame where
the data phase of a request is due. -/
theorem frames_beyond_limit :
    (Sim.swdio none (packFrames [(⟨false, true, 0x00, none⟩, 0)]).direction
        (packFrames [(⟨false, true, 0x00, none⟩, 0)]).output
        (packFrames [(⟨false, true, 0x00, none⟩, 0)]).bits
        { activeWire [.accept 0 true] with
          pending := some ⟨false, true, 0x00⟩, pendingACK := 0b001 }).1 =
      .error (.text "swd/sim: invalid read-data direction") ∧
    Sim.swdio none (packFrames (List.replicate 304 (⟨false, true, 0x00, none⟩, 0))).direction
        (packFrames (List.replicate 304 (⟨false, true, 0x00, none⟩, 0))).output
        (packFrames (List.replicate 304 (⟨false, true, 0x00, none⟩, 0))).bits
        (activeWire (List.replicate 304 (.accept 0 true))) =
      (.error (.text "swd/sim: 16416-bit stream exceeds 16384-bit transfer limit"),
        activeWire (List.replicate 304 (.accept 0 true))) := by
  have bits : (packFrames (List.replicate 304 (⟨false, true, 0x00, none⟩, 0))).bits = 16416 := by
    rw [bits_packFrames, List.length_replicate]
  have refused (direction output : Buffer) (responses : List Response) :
      Sim.validateSWDIO none direction output (16416 : Nat) (activeWire responses) =
        some (.text "swd/sim: 16416-bit stream exceeds 16384-bit transfer limit") := by
    have text : "swd/sim: " ++ toString ((16416 : Nat) : Int) ++ "-bit stream exceeds " ++
        toString (16384 : Nat) ++ "-bit transfer limit" =
          "swd/sim: 16416-bit stream exceeds 16384-bit transfer limit" := by decide +kernel
    have limit : Sim.maxTransferBits (activeWire responses) = 16384 := rfl
    rw [Sim.validateSWDIO, limit, if_neg (by decide), if_pos (by decide)]
    exact congrArg (fun text => some (Err.text text)) text
  have limited (direction output : Buffer) (responses : List Response) :
      Sim.swdio none direction output (16416 : Nat) (activeWire responses) =
        (.error (.text "swd/sim: 16416-bit stream exceeds 16384-bit transfer limit"),
          activeWire responses) := by
    rw [Sim.swdio, swdio_started, refused]
    rfl
  rw [bits, limited]
  exact ⟨by decide +kernel, rfl⟩

end Ostiole.Swd.Codec
