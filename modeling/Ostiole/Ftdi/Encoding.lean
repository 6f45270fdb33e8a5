import Ostiole.Ftdi.StreamSpec

/-!
# SWD and JTAG over the engine

The commands of `swdCommands` and of `jtagCommands`, run by the engine from any levels of
its pins, clock exactly the stream they were made from, and what they return decodes to
what was on the wire.
-/

namespace Ostiole.Ftdi

open Jtag (Byte Buffer)
open Logic

variable {engine : Engine} {width : Nat}

/-- An engine between commands, with these pins. -/
def Engine.start (pins : Pins) : Engine := ⟨pins, [], [], []⟩

/-! ## SWD -/

section Swd

variable {wire : Wire} {direction output : Buffer} {bits offset : Nat}

/-- A cycle of bit `i`: the data pin is an output where the host drives, and carries the
bit; elsewhere it is an input, already before the cycle, and is sampled. -/
structure SwdCycle (direction output : Buffer) (i : Nat) (cycle : Cycle) : Prop where
  driven : cycle.during.direction.getLsbD 1 = direction.get i
  carried : direction.get i = true → cycle.during.level.getLsbD 1 = output.get i
  released : cycle.sampled = true → cycle.before.direction.getLsbD 1 = false
  sampled : cycle.sampled = !direction.get i

theorem swdRunWidth_spec (direction : Buffer) (inside : offset < bits) :
    let width := swdRunWidth direction offset bits (direction.get offset)
    0 < width ∧ width ≤ 8 ∧ offset + width ≤ bits ∧
      ∀ i < width, direction.get (offset + i) = direction.get offset := by
  have first : offset + 1 ≤ bits := inside
  obtain ⟨least, most, within, each, -⟩ :=
    widen_within (fun i => direction.get i == direction.get offset) 7 first
  refine ⟨least, most, within, fun i below => ?_⟩
  rcases Nat.eq_zero_or_pos i with rfl | positive
  · rfl
  · exact beq_iff_eq.mp (each i positive below)

/-- A run that the host drives. -/
theorem swdRun_driven (wire : Wire) (idle : engine.pending = [])
    (positive : 0 < width) (small : width ≤ 8)
    (host : ∀ i < width, direction.get (offset + i) = true)
    (level : Byte) :
    Streamed wire (fun _ => True) (SwdCycle direction output)
      (fun i => !direction.get i) offset width engine
      (engine.execute wire ([cmdSetDataLow, level, pinClock ||| pinDataOut] ++
        [cmdClockBitsOutNegLSB, BitVec.ofNat 8 (width - 1), swdRunData output offset width]))
          [] := by
  have ready : (engine.setPins ⟨level, pinClock ||| pinDataOut⟩).pending = [] := idle
  rw [Engine.execute_append, cmdSetDataLow, Engine.execute_setLow idle, cmdClockBitsOutNegLSB,
    Engine.execute_clockOut ready, Engine.perform, length_byte positive small]
  refine .setPins (.clock (fun pins => pins.direction = pinClock ||| pinDataOut) idle rfl
    (fun _ _ _ same => same) (fun i below before same => ?_) (fun _ _ => trivial)
    fun i below => by rw [host i below]; rfl)
  refine ⟨?_, fun _ => ?_, nofun, by rw [host i below]; rfl⟩
  · rw [Pins.drive_direction, same, host i below]
    rfl
  · rw [Pins.drive_level _ _ (by decide) (by decide), getLsbD_swdRunData _ _ small (by omega)]
    simp [below]

/-- A run that the target drives. -/
theorem swdRun_sampled (wire : Wire) (idle : engine.pending = [])
    (position : engine.cycles.length = offset) (positive : 0 < width) (small : width ≤ 8)
    (target : ∀ i < width, direction.get (offset + i) = false) :
    Streamed wire (fun _ => True) (SwdCycle direction output)
      (fun i => !direction.get i) offset width engine
      (engine.execute wire ([cmdSetDataLow, 0, pinClock] ++
        [cmdClockBitsInPosLSB, BitVec.ofNat 8 (width - 1)])) [⟨offset, width⟩] := by
  have ready : (engine.setPins ⟨0, pinClock⟩).pending = [] := idle
  rw [Engine.execute_append, cmdSetDataLow, Engine.execute_setLow idle, cmdClockBitsInPosLSB,
    Engine.execute_clockIn ready, Engine.perform, length_byte positive small]
  refine .setPins (.sample (fun pins => pins.direction = pinClock) idle position small rfl
    (fun _ _ _ same => same) (fun i below before same => ?_) (fun _ _ => trivial)
    fun i below => by rw [target i below]; rfl)
  have input : before.direction.getLsbD 1 = false := by
    rw [same]
    rfl
  refine ⟨input.trans (target i below).symm, fun host => ?_,
    fun _ => input, by rw [target i below]; rfl⟩
  exact absurd ((target i below).symm.trans host) nofun

theorem swdRun_faithful (wire : Wire) (direction output : Buffer) (bits : Nat) :
    Faithful wire (fun _ => True) (SwdCycle direction output) (fun i => !direction.get i)
      (swdRun direction output bits) bits := by
  have width_eq : ∀ offset, (swdRun direction output bits offset).width =
      swdRunWidth direction offset bits (direction.get offset) := by
    intro offset
    rw [swdRun]
    split <;> rfl
  refine ⟨fun offset more => ?_, fun offset more => ?_,
    fun offset more engine idle _ position => ?_⟩
  · rw [width_eq]
    exact (swdRunWidth_spec direction more).1
  · rw [width_eq]
    exact (swdRunWidth_spec direction more).2.2.1
  · obtain ⟨positive, small, -, same⟩ := swdRunWidth_spec direction more
    rw [swdRun]
    split
    · next host =>
        rw [host] at positive small same ⊢
        exact swdRun_driven wire idle positive small same _
    · next target =>
        rw [Bool.not_eq_true] at target
        rw [target] at positive small same ⊢
        exact swdRun_sampled wire idle position positive small same

/-- Run by the engine from any pins, the commands of `swdCommands` clock one cycle for
each bit of the stream; in it the data pin is an output where the direction says so and
then carries the bit, and is otherwise an input, already before the cycle, that is
sampled; the pin is an input afterwards; and what the engine returns decodes to the
target's levels where the target drives, and to zero elsewhere. -/
theorem swdCommands_clocked (wire : Wire) (pins : Pins) (direction output : Buffer) (bits : Nat) :
    let commands := (swdCommands direction output bits).1
    let reads := (swdCommands direction output bits).2
    let after := (Engine.start pins).execute wire commands
    after.pending = [] ∧
      List.Forall₂ (SwdCycle direction output) (List.range bits) after.cycles ∧
      after.pins.direction.getLsbD 1 = false ∧
      after.responses.length = reads.length ∧
      decodeSWD after.responses reads bits = Buffer.fill bits fun i =>
        !direction.get i && wire.level i := by
  intro commands reads after
  have whole := (swdRun_faithful wire direction output bits).whole
    (show (Engine.start pins).pending = [] from rfl) trivial rfl
  generalize clocked : (Engine.start pins).execute wire
    (encodeRuns (swdRun direction output bits) bits bits 0).1 = middle at whole
  -- the commands behind the loop release the pin, and flush if anything was read
  have ends : after = middle.setPins ⟨0, pinClock⟩ := by
    have split : commands = (encodeRuns (swdRun direction output bits) bits bits 0).1 ++
        [cmdSetDataLow, 0, pinClock] ++ (if reads.length ≠ 0 then [cmdSendImmediate] else []) := rfl
    have idle : (middle.setPins ⟨0, pinClock⟩).pending = [] := whole.idle
    show (Engine.start pins).execute wire commands = _
    rw [split, Engine.execute_append, Engine.execute_append, clocked, cmdSetDataLow,
      Engine.execute_setLow whole.idle]
    split_ifs
    · rw [cmdSendImmediate, Engine.execute_sendImmediate idle]
    · rfl
  obtain ⟨cycles, grown, each⟩ := whole.cycles
  obtain ⟨answered, decoded⟩ := whole.decodeSWD
  rw [ends]
  refine ⟨whole.idle, ?_, show pinClock.getLsbD 1 = false by decide, answered, decoded⟩
  show List.Forall₂ _ _ middle.cycles
  rw [grown, List.range_eq_range']
  exact each

end Swd

/-! ## JTAG -/

section Jtag

variable {wire : Wire} {tms tdi : Buffer} {bits offset : Nat}

/-- The pins that carry TCK, TDI and TMS are outputs. -/
def JtagPins (pins : Pins) : Prop := pins.direction = pinClock ||| pinDataOut ||| pinTMS

/-- A cycle of bit `i`. -/
structure JtagCycle (tms tdi : Buffer) (i : Nat) (cycle : Cycle) : Prop where
  driven : JtagPins cycle.during
  tms : cycle.during.level.getLsbD 3 = tms.get i
  tdi : cycle.during.level.getLsbD 1 = tdi.get i
  sampled : cycle.sampled = true

/-- A run of data bits under low TMS. -/
theorem jtagRun_data (wire : Wire) (idle : engine.pending = [])
    (position : engine.cycles.length = offset) (positive : 0 < width) (small : width ≤ 8)
    (low : ∀ i < width, tms.get (offset + i) = false) :
    Streamed wire JtagPins (JtagCycle tms tdi) (fun _ => true) offset width engine
      (engine.execute wire ([cmdSetDataLow, 0, pinClock ||| pinDataOut ||| pinTMS] ++
        [0x3b, BitVec.ofNat 8 (width - 1), swdRunData tdi offset width])) [⟨offset, width⟩] := by
  have ready : (engine.setPins ⟨0, pinClock ||| pinDataOut ||| pinTMS⟩).pending = [] := idle
  rw [Engine.execute_append, cmdSetDataLow, Engine.execute_setLow idle,
    Engine.execute_exchange ready, Engine.perform, length_byte positive small]
  refine .setPins (.sample (fun pins => JtagPins pins ∧ pins.level.getLsbD 3 = false) idle position
    small ⟨rfl, show (0 : Byte).getLsbD 3 = false by decide⟩ (fun i _ pins holds => ⟨holds.1, ?_⟩)
    (fun i below before holds => ?_) (fun _ => And.left) fun _ _ => rfl)
  · rw [Pins.drive_level _ _ (by decide) (by decide)]
    exact holds.2
  · refine ⟨holds.1, ?_, ?_, rfl⟩
    · rw [Pins.drive_level _ _ (by decide) (by decide), low i below]
      exact holds.2
    · rw [Pins.drive_level _ _ (by decide) (by decide), getLsbD_swdRunData _ _ small (by omega)]
      simp [below]

/-- The data byte of a TMS run. -/
theorem getLsbD_tmsData {i : Nat} (small : width ≤ 7) (inside : i < 8) (level : Bool) :
    (if level then swdRunData tms offset width ||| 0x80
      else swdRunData tms offset width).getLsbD i =
      if i = 7 then level else (decide (i < width) && tms.get (offset + i)) := by
  have data := getLsbD_swdRunData tms offset (show width ≤ 8 by omega) inside
  have top : ∀ i < 8, (0x80 : Byte).getLsbD i = decide (i = 7) := by decide
  cases level with
  | true =>
    rw [if_pos rfl, BitVec.getLsbD_or, data, top i inside]
    by_cases last : i = 7 <;> simp [last]
  | false =>
    rw [if_neg (by decide), data]
    by_cases last : i = 7
    · simp [last, show ¬7 < width by omega]
    · simp [last]

/-- A run of TMS bits under one TDI level. -/
theorem jtagRun_tms (wire : Wire) (idle : engine.pending = []) (pins : JtagPins engine.pins)
    (position : engine.cycles.length = offset) (positive : 0 < width) (small : width ≤ 7)
    (held : ∀ i < width, tdi.get (offset + i) = tdi.get offset) :
    Streamed wire JtagPins (JtagCycle tms tdi) (fun _ => true) offset width engine
      (engine.execute wire [0x6b, BitVec.ofNat 8 (width - 1), if tdi.get offset then
        swdRunData tms offset width ||| 0x80 else swdRunData tms offset width])
          [⟨offset, width⟩] := by
  rw [Engine.execute_tms idle, Engine.perform, length_byte positive (by omega)]
  refine .sample JtagPins idle position (by omega) pins (fun _ _ _ same => same)
    (fun i below before same => ⟨same, ?_, ?_, rfl⟩) (fun _ same => same) fun _ _ => rfl
  · rw [Pins.drive_level _ _ (by decide) (by decide), if_pos rfl, getLsbD_tmsData small (by omega)]
    simp [below, show i ≠ 7 by omega]
  · rw [Pins.drive_level _ _ (by decide) (by decide), if_neg (by decide),
      Pins.drive_level _ _ (by decide) (by decide), if_pos rfl, getLsbD_tmsData small (by decide),
        held i below]
    rfl

theorem jtagRun_faithful (wire : Wire) (tms tdi : Buffer) (bits : Nat) :
    Faithful wire JtagPins (JtagCycle tms tdi) (fun _ => true) (jtagRun tms tdi bits) bits := by
  have runs : ∀ offset < bits, let run := jtagRun tms tdi bits offset
      0 < run.width ∧ offset + run.width ≤ bits ∧ run.reads = true ∧
      ∀ engine : Engine, engine.pending = [] → JtagPins engine.pins →
        engine.cycles.length = offset →
        Streamed wire JtagPins (JtagCycle tms tdi) (fun _ => true) offset run.width engine
          (engine.execute wire run.commands) [⟨offset, run.width⟩] := by
    intro offset more
    have here : offset + 0 ≤ bits := more.le
    have first : offset + 1 ≤ bits := more
    obtain ⟨-, small, inside, low, -⟩ := widen_within (fun i => !tms.get i) 8 here
    obtain ⟨positive', small', inside', held, -⟩ :=
      widen_within (fun i => tdi.get i == tdi.get offset) 6 first
    rw [jtagRun]
    split
    · next positive =>
        refine ⟨positive, inside, rfl, fun engine idle _ position => ?_⟩
        refine jtagRun_data wire idle position positive (by simpa using small) fun i below => ?_
        simpa using low i (Nat.zero_le i) below
    · refine ⟨positive', inside', rfl, fun engine idle pins position => ?_⟩
      refine jtagRun_tms wire idle pins position positive' small' fun i below => ?_
      rcases Nat.eq_zero_or_pos i with rfl | later
      · rfl
      · exact beq_iff_eq.mp (held i later below)
  refine ⟨fun offset more => (runs offset more).1, fun offset more => (runs offset more).2.1, ?_⟩
  intro offset more engine idle pins position
  obtain ⟨-, -, reads, streamed⟩ := runs offset more
  rw [reads, if_pos rfl]
  exact streamed engine idle pins position

/-- Run by the engine from any pins, the commands of `jtagCommands` clock one cycle for
each bit of the streams, with TMS and TDI driven to it; the engine returns one byte for
each read, which fit behind each other into a payload with room for the completion
marker; and they decode to the levels of TDO. -/
theorem jtagCommands_clocked (wire : Wire) (pins : Pins) (tms tdi : Buffer) (bits : Nat)
    (limit : bits ≤ maxJTAGTransferBits) :
    let commands := (jtagCommands tms tdi bits).1
    let reads := (jtagCommands tms tdi bits).2
    let after := (Engine.start pins).execute wire commands
    after.pending = [] ∧
      List.Forall₂ (JtagCycle tms tdi) (List.range bits) after.cycles ∧
      after.responses.length = reads.length ∧ reads.length ≤ maxResponsePayload - 2 ∧
      decodeSWD after.responses reads bits = Buffer.fill bits wire.level := by
  intro commands reads after
  have opened : JtagPins
      ((Engine.start pins).setPins ⟨0, pinClock ||| pinDataOut ||| pinTMS⟩).pins := rfl
  have whole := (jtagRun_faithful wire tms tdi bits).whole rfl opened rfl
  have ends : after =
      ((Engine.start pins).setPins ⟨0, pinClock ||| pinDataOut ||| pinTMS⟩).execute wire
        (encodeRuns (jtagRun tms tdi bits) bits bits 0).1 := by
    have split : commands = [cmdSetDataLow, 0, pinClock ||| pinDataOut ||| pinTMS] ++
        (encodeRuns (jtagRun tms tdi bits) bits bits 0).1 ++ [cmdSendImmediate] := rfl
    show (Engine.start pins).execute wire commands = _
    rw [split, Engine.execute_append, Engine.execute_append, cmdSetDataLow,
      Engine.execute_setLow rfl, cmdSendImmediate, Engine.execute_sendImmediate whole.idle]
  rw [← ends] at whole
  obtain ⟨cycles, grown, each⟩ := whole.cycles
  obtain ⟨answered, decoded⟩ := whole.decodeSWD
  have bound : reads.length ≤ bits := length_encodeRuns _ _ _ _
  refine ⟨whole.idle, ?_, answered, bound.trans limit,
    decoded.trans (Buffer.fill_congr fun _ _ => ?_)⟩
  · rw [grown, List.range_eq_range']
    exact each
  · exact Bool.true_and _

/-- The way through Test-Logic-Reset to Run-Test/Idle, over a TDO that alternates. -/
theorem jtagCommands_clocked_reset :
    let after := (Engine.start ⟨0, 0⟩).execute ⟨fun i => i % 2 == 0, fun _ => 0xff⟩
      (jtagCommands [0x1f] [0x03] 6).1
    List.Forall₂ (JtagCycle [0x1f] [0x03]) (List.range 6) after.cycles ∧
      decodeSWD after.responses (jtagCommands [0x1f] [0x03] 6).2 6 = [0x15] :=
  have clocked := jtagCommands_clocked ⟨fun i => i % 2 == 0, fun _ => 0xff⟩ ⟨0, 0⟩ [0x1f] [0x03] 6
    (by decide)
  ⟨clocked.2.1, clocked.2.2.2.2⟩

end Jtag

end Ostiole.Ftdi
