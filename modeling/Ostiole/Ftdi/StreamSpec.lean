import Ostiole.Ftdi.Stream

/-!
# What the commands of a stream do

`Streamed` says what commands for a part of a stream have done to the engine: which
cycles they clocked, and that each response holds the samples its read asks for. Parts
compose, so that a loop over runs is settled by what one run does; and from the samples
of the whole, `decodeSWD` recovers the stream.
-/

namespace Ostiole.Ftdi

open Jtag (Byte Buffer)
open Logic

/-! ## Runs -/

theorem getLsbD_swdRunData (output : Buffer) (offset : Nat) {bits i : Nat} (small : bits ≤ 8)
    (inside : i < 8) :
    (swdRunData output offset bits).getLsbD i = (decide (i < bits) && output.get (offset + i)) := by
  induction bits with
  | zero => simp [swdRunData]
  | succ bits ih =>
    have turn : swdRunData output offset (bits + 1) = swdRunData output offset bits |||
        (BitVec.ofBool (output.get (offset + bits))).setWidth 8 <<< bits := by
      rw [swdRunData, List.range_succ, List.foldl_append]
      rfl
    rw [turn, Buffer.getLsbD_set _ _ _ small _ inside, ih (by omega)]
    rcases Nat.lt_trichotomy bits i with above | same | below
    · simp [show ¬i < bits by omega, show ¬i < bits + 1 by omega, show bits ≠ i by omega]
    · simp [same]
    · simp [below, show i < bits + 1 by omega, show bits ≠ i by omega]

/-- The length byte of a command for `width` bits. -/
theorem length_byte {width : Nat} (positive : 0 < width) (small : width ≤ 8) :
    (BitVec.ofNat 8 (width - 1)).toNat % 8 + 1 = width := by
  rw [BitVec.toNat_ofNat]
  omega

/-! ## Parts of a stream -/

/-- A bit that a read returns. -/
def SwdRead.Covers (read : SwdRead) (i : Nat) :
    Prop := read.offset ≤ i ∧ i < read.offset + read.bits

/-- A response holds, in its top bits, the levels that the read asks for. -/
def SwdRead.Sampled (wire : Wire) (read : SwdRead) (response : Byte) : Prop :=
  read.bits ≤ 8 ∧ ∀ j < read.bits,
    (response >>> (8 - read.bits)).getLsbD j = wire.level (read.offset + j)

/-- The `count` bits from `first` on have been clocked, a cycle each, and read where
`wanted`. -/
structure Streamed (wire : Wire) (inv : Pins → Prop) (good : Nat → Cycle → Prop)
    (wanted : Nat → Bool)
    (first count : Nat) (engine after : Engine) (reads : List SwdRead) : Prop where
  idle : after.pending = []
  pins : inv after.pins
  cycles : ∃ cycles, after.cycles = engine.cycles ++ cycles ∧
    List.Forall₂ good (List.range' first count) cycles
  responses : ∃ bytes, after.responses = engine.responses ++ bytes ∧
    List.Forall₂ (SwdRead.Sampled wire) reads bytes
  inside : ∀ read ∈ reads, read.offset + read.bits ≤ first + count
  covered : ∀ i, (∃ read ∈ reads, read.Covers i) ↔ (first ≤ i ∧ i < first + count) ∧ wanted i = true

namespace Streamed

variable {wire : Wire} {inv : Pins → Prop} {good : Nat → Cycle → Prop} {wanted : Nat → Bool}
  {first count count' : Nat} {engine middle after : Engine} {reads reads' : List SwdRead}

theorem refl (idle : engine.pending = []) (pins : inv engine.pins) (first : Nat) :
    Streamed wire inv good wanted first 0 engine engine [] where
  idle := idle
  pins := pins
  cycles := ⟨[], (List.append_nil _).symm, .nil⟩
  responses := ⟨[], (List.append_nil _).symm, .nil⟩
  inside _ member := absurd member List.not_mem_nil
  covered i := by
    constructor
    · rintro ⟨_, member, -⟩
      exact absurd member List.not_mem_nil
    · rintro ⟨inside, -⟩
      omega

theorem trans (begins : Streamed wire inv good wanted first count engine middle reads)
    (ends : Streamed wire inv good wanted (first + count) count' middle after reads') :
    Streamed wire inv good wanted first (count + count') engine after (reads ++ reads') where
  idle := ends.idle
  pins := ends.pins
  cycles := by
    obtain ⟨cycles, grown, each⟩ := begins.cycles
    obtain ⟨cycles', grown', each'⟩ := ends.cycles
    refine ⟨cycles ++ cycles', by rw [grown', grown, List.append_assoc], ?_⟩
    rw [← List.range'_append_1]
    exact List.rel_append each each'
  responses := by
    obtain ⟨bytes, grown, each⟩ := begins.responses
    obtain ⟨bytes', grown', each'⟩ := ends.responses
    exact ⟨bytes ++ bytes', by rw [grown', grown, List.append_assoc], List.rel_append each each'⟩
  inside read member := by
    rcases List.mem_append.mp member with early | late
    · have bound := begins.inside read early
      omega
    · have bound := ends.inside read late
      omega
  covered i := by
    simp only [List.mem_append, or_and_right, exists_or, begins.covered, ends.covered]
    rw [← or_and_right]
    exact and_congr_left fun _ => by omega

/-- Pins are set without a cycle. -/
theorem setPins {pins : Pins}
    (streamed : Streamed wire inv good wanted first count (engine.setPins pins) after reads) :
    Streamed wire inv good wanted first count engine after reads :=
  ⟨streamed.idle, streamed.pins, streamed.cycles, streamed.responses, streamed.inside,
    streamed.covered⟩

/-- The cycles of the whole are as many as its bits. -/
theorem length_cycles (streamed : Streamed wire inv good wanted first count engine after reads) :
    after.cycles.length = engine.cycles.length + count := by
  obtain ⟨cycles, grown, each⟩ := streamed.cycles
  rw [grown, List.length_append, ← each.length_eq, List.length_range']

/-- A command that only clocks, under what the pins keep to within it. -/
theorem clock (within : Pins → Prop) {drive : Nat → Pins → Pins} (idle : engine.pending = [])
    (holds : within engine.pins) (keeps : ∀ i < count, ∀ pins, within pins → within (drive i pins))
    (each : ∀ i < count, ∀ before, within before → good (first + i) ⟨before, drive i before, false⟩)
    (leaves : ∀ pins, within pins → inv pins) (unwanted : ∀ i < count, wanted (first + i) = false) :
    Streamed wire inv good wanted first count engine (engine.clock drive false count) [] := by
  obtain ⟨pins, pending, responses, cycles⟩ := engine.clock_spec within holds keeps each
  refine ⟨pending.trans idle, leaves _ pins, cycles, ⟨[], by rw [responses, List.append_nil], .nil⟩,
    fun _ member => absurd member List.not_mem_nil, fun i => ?_⟩
  constructor
  · rintro ⟨_, member, -⟩
    exact absurd member List.not_mem_nil
  · rintro ⟨⟨start, inside⟩, wants⟩
    have here := unwanted (i - first) (by omega)
    rw [Nat.add_sub_of_le start, wants] at here
    exact absurd here nofun

/-- A command that samples. -/
theorem sample (within : Pins → Prop) {drive : Nat → Pins → Pins} (idle : engine.pending = [])
    (position : engine.cycles.length = first) (small : count ≤ 8)
    (holds : within engine.pins) (keeps : ∀ i < count, ∀ pins, within pins → within (drive i pins))
    (each : ∀ i < count, ∀ before, within before → good (first + i) ⟨before, drive i before, true⟩)
    (leaves : ∀ pins, within pins → inv pins) (wants : ∀ i < count, wanted (first + i) = true) :
    Streamed wire inv good wanted first count engine (engine.sample wire drive count)
      [⟨first, count⟩] := by
  obtain ⟨pins, pending, -, cycles⟩ := engine.clock_spec within holds keeps each
  refine ⟨pending.trans idle, leaves _ pins, cycles,
    ⟨[_], rfl, .cons ⟨small, fun j below => ?_⟩ .nil⟩,
    fun read member => by rw [List.mem_singleton.mp member], fun i => ?_⟩
  · have levels := getLsbD_shiftIn (wire.stale engine.responses.length)
      ((List.range count).map fun i => wire.level (engine.cycles.length + i)) (i := j)
      (by simpa using small) (by simpa using below)
    rw [List.length_map, List.length_range] at levels
    rw [BitVec.getLsbD_ushiftRight, levels, position]
    simp [below]
  · simp only [List.mem_singleton, exists_eq_left, SwdRead.Covers]
    refine ⟨fun inside => ⟨inside, ?_⟩, And.left⟩
    have here := wants (i - first) (by omega)
    rwa [Nat.add_sub_of_le inside.1] at here

end Streamed

/-! ## Loops -/

section Loop

variable {wire : Wire} {inv : Pins → Prop} {good : Nat → Cycle → Prop} {wanted : Nat → Bool}
  {run : Nat → Run} {bits : Nat}

/-- What the commands of each run do. -/
structure Faithful (wire : Wire) (inv : Pins → Prop) (good : Nat → Cycle → Prop)
    (wanted : Nat → Bool)
    (run : Nat → Run) (bits : Nat) : Prop where
  positive : ∀ offset < bits, 0 < (run offset).width
  inside : ∀ offset < bits, offset + (run offset).width ≤ bits
  streamed : ∀ offset < bits, ∀ engine : Engine, engine.pending = [] → inv engine.pins →
    engine.cycles.length = offset →
    Streamed wire inv good wanted offset (run offset).width engine
      (engine.execute wire (run offset).commands)
      (if (run offset).reads then [⟨offset, (run offset).width⟩] else [])

/-- The loop over runs, from any offset on, by induction on its turns. -/
theorem Faithful.encodeRuns (faithful : Faithful wire inv good wanted run bits) {turns offset : Nat}
    (enough : bits - offset ≤ turns) (inside : offset ≤ bits) {engine : Engine}
    (idle : engine.pending = [])
    (pins : inv engine.pins) (position : engine.cycles.length = offset) :
    Streamed wire inv good wanted offset (bits - offset) engine
      (engine.execute wire (encodeRuns run bits turns offset).1)
        (encodeRuns run bits turns offset).2 := by
  induction turns generalizing offset engine with
  | zero =>
    rw [show bits - offset = 0 by omega]
    exact .refl idle pins offset
  | succ turns ih =>
    rw [Ftdi.encodeRuns]
    split
    · next more =>
        have positive := faithful.positive offset more
        have within := faithful.inside offset more
        have here := faithful.streamed offset more engine idle pins position
        have later : bits - (offset + (run offset).width) ≤ turns := by omega
        have rest := ih later within here.idle here.pins (by rw [here.length_cycles, position])
        rw [Engine.execute_append]
        rw [show bits - offset = (run offset).width +
          (bits - (offset + (run offset).width)) by omega]
        exact here.trans rest
    · next done =>
        rw [show bits - offset = 0 by omega]
        exact .refl idle pins offset

/-- The loop of a whole stream. -/
theorem Faithful.whole (faithful : Faithful wire inv good wanted run bits) {engine : Engine}
    (idle : engine.pending = []) (pins : inv engine.pins) (position : engine.cycles = []) :
    Streamed wire inv good wanted 0 bits engine
      (engine.execute wire (Ftdi.encodeRuns run bits bits 0).1)
      (Ftdi.encodeRuns run bits bits 0).2 :=
  faithful.encodeRuns le_rfl (Nat.zero_le bits) idle pins (by rw [position]; rfl)

/-- There is at most one read a turn. -/
theorem length_encodeRuns (run : Nat → Run) (bits turns offset : Nat) :
    (encodeRuns run bits turns offset).2.length ≤ turns := by
  induction turns generalizing offset with
  | zero => exact le_rfl
  | succ turns ih =>
    rw [encodeRuns]
    split
    · have rest := ih (offset + (run offset).width)
      rw [List.length_append]
      split
      · rw [List.length_singleton]
        omega
      · rw [List.length_nil]
        omega
    · exact Nat.zero_le _

end Loop

/-! ## Decoding -/

section Decode

variable {wire : Wire} {reads : List SwdRead} {bytes : Buffer} {bits : Nat}

/-- The bits that a read asks for. -/
def SwdRead.window (read : SwdRead) : Nat × Nat := (read.offset, read.bits)

/-- Where the responses hold the levels, `decodeSWD` puts windows of the levels. -/
theorem decodeSWD_windows (sampled : List.Forall₂ (SwdRead.Sampled wire) reads bytes) (bits : Nat) :
    decodeSWD bytes reads bits =
      (Buffer.zeros bits).putWindows (reads.map SwdRead.window) wire.level := by
  rw [decodeSWD, Buffer.putWindows]
  generalize Buffer.zeros bits = input
  induction sampled generalizing input with
  | nil => rfl
  | @cons read response reads bytes here later ih =>
    rw [List.zip_cons_cons, List.foldl_cons, ih, List.map_cons, List.foldl_cons]
    have put : decodeRead input read response =
        input.putAll read.offset read.bits fun j => wire.level (read.offset + j) :=
      Buffer.putAll_congr _ here.2
    rw [put]
    rfl

/-- `decodeSWD` recovers the levels of what was to be read, and nothing else. -/
theorem Streamed.decodeSWD {inv : Pins → Prop} {good : Nat → Cycle → Prop} {wanted : Nat → Bool}
    {pins : Pins} {after : Engine}
    (streamed : Streamed wire inv good wanted 0 bits ⟨pins, [], [], []⟩ after reads) :
    after.responses.length = reads.length ∧
      Ftdi.decodeSWD after.responses reads bits = Buffer.fill bits fun i =>
        wanted i && wire.level i := by
  obtain ⟨bytes, responses, sampled⟩ := streamed.responses
  rw [List.nil_append] at responses
  refine ⟨by rw [responses, sampled.length_eq], ?_⟩
  rw [responses, decodeSWD_windows sampled]
  refine Buffer.putWindows_fill _ (fun window member => ?_) fun i => ?_
  · obtain ⟨read, listed, rfl⟩ := List.mem_map.mp member
    exact (streamed.inside read listed).trans_eq (Nat.zero_add bits)
  · have covered := streamed.covered i
    simp only [Nat.zero_le, true_and, Nat.zero_add] at covered
    rw [← covered]
    simp [SwdRead.window, SwdRead.Covers]

end Decode

end Ostiole.Ftdi
