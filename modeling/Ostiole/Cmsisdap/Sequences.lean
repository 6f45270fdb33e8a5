import Ostiole.Cmsisdap.PlanSpec

/-!
# SWD streams over packets

A stream that is planned, sent packet by packet and decoded from the responses is the
stream that was asked for: the requests say nothing else, and the samples that the
responses carry end where they belong.
-/

namespace Ostiole.Cmsisdap

open Jtag (Byte Buffer)
open Logic

/-! ## Responses -/

/-- A payload carries the levels of the clocks that are sampled, from `start` on. Padding
behind the bits of a sequence, and whatever follows the last of them, may be anything. -/
inductive Carries (level : Nat → Bool) : Nat → List Sequence → Buffer → Prop where
  | done (start : Nat) (padding : Buffer) : Carries level start [] padding
  | driven {start : Nat} {sequence : Sequence} {rest : List Sequence} {payload : Buffer}
      (output : sequence.input = false) (later : Carries level (start + sequence.bits) rest
        payload) :
      Carries level start (sequence :: rest) payload
  | sampled {start : Nat} {sequence : Sequence} {rest : List Sequence} {chunk payload : Buffer}
      (input : sequence.input = true) (size : chunk.length = (sequence.bits + 7) / 8)
      (levels : ∀ i < sequence.bits, chunk.get i = level (start + i))
      (later : Carries level (start + sequence.bits) rest payload) :
      Carries level start (sequence :: rest) (chunk ++ payload)

/-- The responses to requests, from `start` on: two bytes of header, and the payload. -/
inductive Replied (level : Nat → Bool) : Nat → List (List Sequence) → List Buffer → Prop where
  | done (start : Nat) : Replied level start [] []
  | packet {start : Nat} {sequences : List Sequence} {rest : List (List Sequence)}
      {header payload : Buffer}
      {responses : List Buffer} (short : header.length = 2)
        (carries : Carries level start sequences payload)
      (later : Replied level (start + width sequences) rest responses) :
      Replied level start (sequences :: rest) ((header ++ payload) :: responses)

/-- The clocks of a stream that a capture fills. -/
def SwdCapture.window (capture : SwdCapture) : Nat × Nat := (capture.offset, capture.bits)

section Decode

variable {level : Nat → Bool} {start : Nat} {sequences : List Sequence} {payload : Buffer}

theorem decodeCaptures_carries (carries : Carries level start sequences payload)
    (header input : Buffer) :
    decodeCaptures (header ++ payload) input (capturesFrom start sequences) header.length =
      .ok (input.putWindows ((capturesFrom start sequences).map SwdCapture.window) level) := by
  induction carries generalizing header input with
  | done => rfl
  | @driven start sequence rest payload output later ih =>
    have captures : capturesFrom start (sequence :: rest) =
      capturesFrom (start + sequence.bits) rest := by
      rw [capturesFrom, output]
      rfl
    rw [captures]
    exact ih header input
  | @sampled start sequence rest chunk payload sampled size levels later ih =>
    have captures : capturesFrom start (sequence :: rest) =
        ⟨start, sequence.bits⟩ :: capturesFrom (start + sequence.bits) rest := by
      rw [capturesFrom, sampled]
      rfl
    have room : ¬header.length + (sequence.bits + 7) / 8 >
        (header ++ (chunk ++ payload)).length := by
      rw [List.length_append, List.length_append]
      omega
    have samples : ((header ++ (chunk ++ payload)).drop header.length).take
      ((sequence.bits + 7) / 8) =
        chunk := by
      rw [List.drop_left, ← size, List.take_left]
    rw [captures, decodeCaptures]
    simp only
    rw [if_neg room, samples, Buffer.putAll_congr input levels]
    have rest := ih (header ++ chunk)
      (input.putAll start sequence.bits fun i => level (start + i))
    rw [List.length_append, List.append_assoc, size] at rest
    exact rest

theorem putWindows_append (data : Buffer) (first second : List (Nat × Nat)) (level : Nat → Bool) :
    data.putWindows (first ++ second) level = (data.putWindows first level).putWindows second
      level :=
  List.foldl_append

end Decode

section Planned

variable {direction output : Buffer} {bits packetSize start : Nat} {packets : List SwdPacket}
  {sequences : List (List Sequence)} {level : Nat → Bool} {responses : List Buffer}

/-- Decoding the responses to a plan puts the windows that were captured. -/
theorem Planned.decode (planned : Planned direction output bits packetSize start packets sequences)
    (replied : Replied level start sequences responses) (input : Buffer) :
    decodeSWDStream input (packets.zip responses) =
      .ok (input.putWindows ((capturesFrom start sequences.flatten).map SwdCapture.window)
        level) := by
  induction planned generalizing input responses with
  | done =>
    cases replied
    rfl
  | @packet start plan sequences packets rest packed filled cut later ih =>
    cases replied with
    | @packet _ _ _ header payload responses short carries others =>
      rw [← packed.position] at others
      have here := decodeCaptures_carries carries header input
      rw [short, ← packed.captures] at here
      rw [List.zip_cons_cons, decodeSWDStream, decodeSWDResponse, here, List.flatten_cons,
        capturesFrom_append,
        List.map_append, putWindows_append, ← packed.position, ← packed.captures]
      exact ih others _

/-- The requests of a plan say what the stream says. -/
theorem Planned.clocks (planned : Planned direction output bits packetSize start packets
    sequences) :
    (sequences.flatten.flatMap Sequence.clocks =
        (List.range' start (width sequences.flatten)).map (streamClock direction output)) ∧
      start + width sequences.flatten = bits := by
  induction planned with
  | done => exact ⟨rfl, rfl⟩
  | @packet start plan sequences packets rest packed filled cut later ih =>
    obtain ⟨clocks, total⟩ := ih
    rw [List.flatten_cons, List.flatMap_append, width_append, ← List.range'_append_1,
      List.map_append, packed.clocks, ← packed.position, clocks]
    exact ⟨rfl, by rw [← Nat.add_assoc, ← packed.position, total]⟩

/-- No packet ends within a run that the target drives. -/
theorem Planned.uncut (planned : Planned direction output bits packetSize start packets sequences)
    {before after : List (List Sequence)} (split : sequences = before ++ after)
    (some : before ≠ []) :
    ¬Mid direction bits (start + width before.flatten) := by
  induction planned generalizing before with
  | done => exact absurd (List.append_eq_nil_iff.mp split.symm).1 some
  | @packet start plan sequences packets rest packed filled cut later ih =>
    cases before with
    | nil => exact absurd rfl some
    | cons first before =>
      obtain ⟨rfl, others⟩ := List.cons.inj split
      rw [List.flatten_cons, width_append, ← Nat.add_assoc, ← packed.position]
      by_cases last : before = []
      · rwa [last]
      · exact ih others last

/-- What a packet of a plan is, as the probe reads it. -/
structure Sound (packetSize : Nat) (packet : SwdPacket) (sequences : List Sequence) : Prop where
  parsed : parseRequest packet.request = some sequences
  request : packet.request.length ≤ packetSize
  response : responseSize sequences ≤ packetSize
  some : 1 ≤ sequences.length
  most : sequences.length ≤ 255
  sizes : ∀ sequence ∈ sequences, 1 ≤ sequence.bits ∧ sequence.bits ≤ 64

theorem Planned.sound (planned : Planned direction output bits packetSize start packets sequences) :
    List.Forall₂ (Sound packetSize) packets sequences := by
  induction planned with
  | done => exact .nil
  | @packet start plan sequences packets rest packed filled cut later ih =>
    refine .cons ⟨?_, (packed.fits filled).1, ?_, ?_, ?_, fun sequence member => ?_⟩ ih
    · show (if commandSWDSequence = commandSWDSequence then parseSequences plan.count.toNat
        plan.body
        else none) = _
      rw [if_pos rfl, packed.count, packed.body]
      exact parseSequences_encode packed.valid
    · rw [← packed.response]
      exact (packed.fits filled).2
    · exact List.length_pos_of_ne_nil filled
    · rw [← packed.count]
      exact Nat.le_of_lt_succ plan.count.isLt
    · exact ⟨(packed.valid sequence member).positive, (packed.valid sequence member).small⟩

end Planned

/-! ## Captures -/

theorem length_clocks (sequence : Sequence) : sequence.clocks.length = sequence.bits := by
  rw [Sequence.clocks]
  split <;> simp

/-- The captures of sequences cover the clocks that are sampled. -/
theorem capturesFrom_covers (start : Nat) (sequences : List Sequence) (i : Nat) :
    (∃ window ∈ (capturesFrom start sequences).map SwdCapture.window,
        window.1 ≤ i ∧ i < window.1 + window.2) ↔
      start ≤ i ∧ (sequences.flatMap Sequence.clocks)[i - start]? = some none := by
  induction sequences generalizing start with
  | nil => simp [capturesFrom]
  | cons sequence sequences ih =>
    have here : (∃ window ∈
          (if sequence.input then [(⟨start, sequence.bits⟩ : SwdCapture)] else []).map
            SwdCapture.window, window.1 ≤ i ∧ i < window.1 + window.2) ↔
        (start ≤ i ∧ i < start + sequence.bits) ∧ sequence.clocks[i - start]? = some none := by
      rw [Sequence.clocks]
      cases sequence.input with
      | true =>
        simp [SwdCapture.window, List.getElem?_replicate]
        omega
      | false => simp
    rw [capturesFrom, List.map_append, List.flatMap_cons, List.getElem?_append, length_clocks]
    simp only [List.mem_append, or_and_right, exists_or, ih, here]
    by_cases inside : i - start < sequence.bits
    · rw [if_pos inside]
      constructor
      · rintro (⟨⟨later, -⟩, sampled⟩ | ⟨beyond, -⟩)
        · exact ⟨later, sampled⟩
        · omega
      · rintro ⟨later, sampled⟩
        exact .inl ⟨⟨later, by omega⟩, sampled⟩
    · rw [if_neg inside, Nat.sub_sub]
      constructor
      · rintro (⟨⟨later, below⟩, -⟩ | ⟨beyond, sampled⟩)
        · omega
        · exact ⟨by omega, sampled⟩
      · rintro ⟨later, sampled⟩
        exact .inr ⟨by omega, sampled⟩

theorem capturesFrom_inside (start : Nat) (sequences : List Sequence) :
    ∀ window ∈ (capturesFrom start sequences).map SwdCapture.window,
      window.1 + window.2 ≤ start + width sequences := by
  induction sequences generalizing start with
  | nil => simp [capturesFrom]
  | cons sequence sequences ih =>
    intro window member
    have total : width (sequence :: sequences) = sequence.bits + width sequences := rfl
    rw [capturesFrom, List.map_append] at member
    rcases List.mem_append.mp member with here | later
    · cases input : sequence.input with
      | true =>
        rw [input, if_pos rfl] at here
        obtain rfl : window = (start, sequence.bits) := List.mem_singleton.mp here
        show start + sequence.bits ≤ _
        omega
      | false =>
        rw [input, if_neg (by decide)] at here
        exact absurd here List.not_mem_nil
    · have bound := ih _ window later
      omega

/-! ## Streams -/

/-- A plan is found exactly where the stream ends under the host, a packet has room for
four bytes, and for the samples and the descriptors of every run that the target drives.
Its requests then fit the packets, and so do the responses they need; they hold from one to
255 sequences of one to 64 clocks; none of them ends within a run that the target drives;
together they say the directions and the driven bits of the stream, and nothing else; and
responses that carry the sampled levels decode to those levels, and to zero where the host
drives. -/
theorem planSWDStream_lossless (direction output : Buffer) (bits packetSize : Nat)
    (positive : 1 ≤ bits) :
    ((∃ packets, planSWDStream direction output bits packetSize = .ok packets) ↔
        direction.get (bits - 1) = true ∧ 4 ≤ packetSize ∧
          ∀ first run, Begins direction first → IsRun direction bits first run →
            2 + (run + 7) / 8 ≤ packetSize ∧ (run + 63) / 64 ≤ 255) ∧
      ∀ packets, planSWDStream direction output bits packetSize = .ok packets → ∃ sequences,
        List.Forall₂ (Sound packetSize) packets sequences ∧
          sequences.flatten.flatMap Sequence.clocks =
            (List.range bits).map (streamClock direction output) ∧
          (∀ before after, sequences = before ++ after →
            ¬Mid direction bits (width before.flatten)) ∧
          ∀ (level : Nat → Bool) (responses : List Buffer), Replied level 0 sequences responses →
            decodeSWDStream (.zeros bits) (packets.zip responses) =
              .ok (.fill bits fun i => !direction.get i && level i) := by
  have uncut : ¬Mid direction bits 0 := fun mid => absurd mid.1 (Nat.lt_irrefl 0)
  obtain ⟨planned, complete⟩ :=
    planPackets_spec output packetSize (show bits - 0 ≤ bits from le_rfl)
    (Nat.zero_le bits) uncut
  rw [planSWDStream]
  cases host : direction.get (bits - 1) with
  | false => exact ⟨⟨fun ⟨_, ended⟩ => absurd ended nofun, fun holds => absurd holds.1 nofun⟩,
      nofun⟩
  | true =>
    simp only [Bool.not_true, Bool.false_eq_true, if_false]
    refine ⟨⟨?_, ?_⟩, ?_⟩
    · rintro ⟨packets, ended⟩
      obtain ⟨sequences, plan⟩ := planned packets ended
      refine ⟨trivial, (plan.allows (bits - 1) (Nat.zero_le _) (by omega)).2 host,
        fun first run begins is => ?_⟩
      have short : first < bits := by
        have inside := is.inside
        have some := is.positive
        omega
      rw [← (swdRun_isRun direction short).eq is]
      exact (plan.allows first (Nat.zero_le first) short).1 begins
    · rintro ⟨-, room, runs⟩
      refine complete fun i _ below => ⟨fun begins => ?_, fun _ => room⟩
      exact runs i _ begins (swdRun_isRun direction below)
    · intro packets ended
      obtain ⟨sequences, plan⟩ := planned packets ended
      obtain ⟨clocks, total⟩ := plan.clocks
      rw [Nat.zero_add] at total
      rw [total, ← List.range_eq_range'] at clocks
      refine ⟨sequences, plan.sound, clocks, fun before after split => ?_,
        fun level responses replied => ?_⟩
      · by_cases some : before = []
        · rwa [some]
        · have cut := plan.uncut split some
          rwa [Nat.zero_add] at cut
      · rw [plan.decode replied]
        refine congrArg _ (Buffer.putWindows_fill level (fun window member => ?_) fun i => ?_)
        · have inside := capturesFrom_inside 0 _ window member
          omega
        · rw [capturesFrom_covers, clocks]
          by_cases below : i < bits
          · cases driver : direction.get i <;> simp [below, streamClock, driver]
          · simp [below]

/-- Sixteen bits in which the wire changes hands four times, over packets of eight bytes. -/
theorem planSWDStream_lossless_read :
    (∃ packets, planSWDStream [0x0f, 0x81] [0x05, 0x01] 16 8 = .ok packets) ∧
      ∀ packets, planSWDStream [0x0f, 0x81] [0x05, 0x01] 16 8 = .ok packets →
        ∃ sequences, List.Forall₂ (Sound 8) packets sequences :=
  ⟨⟨_, rfl⟩, fun packets planned =>
    ((planSWDStream_lossless [0x0f, 0x81] [0x05, 0x01] 16 8 (by decide)).2 packets planned).imp
      fun _ holds => holds.1⟩

end Ostiole.Cmsisdap
