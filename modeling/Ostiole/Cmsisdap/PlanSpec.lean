import Ostiole.Cmsisdap.Plan

/-!
# What plans of SWD sequences keep

The probe's reading of a `DAP_SWD_Sequence` request, and that the requests of a plan say
exactly what the stream says. `Packed` is what holds of a packet while it is filled; a
plan succeeds just where every packet can be begun, and `Planned` is what it then is.
-/

namespace Ostiole.Cmsisdap

open Jtag (Byte Buffer)
open Logic

/-! ## The command -/

/-- One sequence of the command: clocks that are sampled, or clocks with their data. -/
structure Sequence where
  input : Bool
  bits : Nat
  data : Buffer
deriving DecidableEq, Repr

/-- The clocks that a descriptor asks for. -/
def descriptorBits (info : Byte) : Nat := if info.toNat % 64 = 0 then 64 else info.toNat % 64

/-- How the probe reads the sequences of a request. -/
def parseSequences : Nat → Buffer → Option (List Sequence)
  | 0, [] => some []
  | 0, _ :: _ => none
  | _ + 1, [] => none
  | count + 1, info :: rest =>
    let bits := descriptorBits info
    if info.getLsbD 7 then (parseSequences count rest).map (⟨true, bits, []⟩ :: ·)
    else if rest.length < (bits + 7) / 8 then none
    else (parseSequences count (rest.drop ((bits + 7) / 8))).map
      (⟨false, bits, rest.take ((bits + 7) / 8)⟩ :: ·)

/-- How the probe reads a request. -/
def parseRequest : Buffer → Option (List Sequence)
  | command :: count :: body => if command = commandSWDSequence then parseSequences count.toNat body
      else none
  | _ => none

namespace Sequence

/-- What a sequence puts on the line, clock by clock. -/
def clocks (sequence : Sequence) : List (Option Bool) :=
  if sequence.input then List.replicate sequence.bits none
  else (sequence.data.bits sequence.bits).map some

/-- The bytes that a sequence adds to the response. -/
def responseBytes (sequence : Sequence) : Nat :=
  if sequence.input then (sequence.bits + 7) / 8 else 0

def encode (sequence : Sequence) : Buffer :=
  if sequence.input then [BitVec.ofNat 8 (sequence.bits % 64) ||| 0x80]
  else BitVec.ofNat 8 (sequence.bits % 64) :: sequence.data

/-- What a descriptor can say. -/
structure Valid (sequence : Sequence) : Prop where
  positive : 1 ≤ sequence.bits
  small : sequence.bits ≤ 64
  data : sequence.data.length = if sequence.input then 0 else (sequence.bits + 7) / 8

end Sequence

/-- The response that the sequences of a request need. -/
def responseSize (sequences : List Sequence) : Nat := 2 + (sequences.map Sequence.responseBytes).sum

/-- The clocks of sequences. -/
def width (sequences : List Sequence) : Nat := (sequences.map Sequence.bits).sum

theorem descriptor_spec {bits : Nat} (positive : 1 ≤ bits) (small : bits ≤ 64) :
    descriptorBits (BitVec.ofNat 8 (bits % 64)) = bits ∧
      (BitVec.ofNat 8 (bits % 64)).getLsbD 7 = false ∧
      descriptorBits (BitVec.ofNat 8 (bits % 64) ||| 0x80) = bits ∧
      (BitVec.ofNat 8 (bits % 64) ||| 0x80).getLsbD 7 = true := by
  have each : ∀ bits < 65, 1 ≤ bits →
      descriptorBits (BitVec.ofNat 8 (bits % 64)) = bits ∧
        (BitVec.ofNat 8 (bits % 64)).getLsbD 7 = false ∧
        descriptorBits (BitVec.ofNat 8 (bits % 64) ||| 0x80) = bits ∧
        (BitVec.ofNat 8 (bits % 64) ||| 0x80).getLsbD 7 = true := by
    decide
  exact each bits (Nat.lt_succ_of_le small) positive

/-- The probe reads back what was written. -/
theorem parseSequences_encode {sequences : List Sequence}
    (valid : ∀ sequence ∈ sequences, sequence.Valid) :
    parseSequences sequences.length (sequences.flatMap Sequence.encode) = some sequences := by
  induction sequences with
  | nil => rfl
  | cons sequence sequences ih =>
    have rest := ih fun other member => valid other (List.mem_cons_of_mem _ member)
    obtain ⟨positive, small, data⟩ := valid sequence List.mem_cons_self
    obtain ⟨plain, low, marked, high⟩ := descriptor_spec positive small
    obtain ⟨input, bits, bytes⟩ := sequence
    cases input with
    | true =>
      obtain rfl : bytes = [] := List.eq_nil_of_length_eq_zero data
      show parseSequences (sequences.length + 1)
        ((BitVec.ofNat 8 (bits % 64) ||| 0x80) :: sequences.flatMap Sequence.encode) = _
      rw [parseSequences, if_pos high, rest, marked]
      rfl
    | false =>
      have size : bytes.length = (bits + 7) / 8 := data
      show parseSequences (sequences.length + 1)
        (BitVec.ofNat 8 (bits % 64) :: (bytes ++ sequences.flatMap Sequence.encode)) = _
      rw [parseSequences, if_neg (by rw [low]; decide), plain]
      simp only
      rw [← size, if_neg (by rw [List.length_append]; omega), List.drop_left, List.take_left, rest]
      rfl

/-! ## Runs -/

section Runs

variable {direction : Buffer} {bits start : Nat}

/-- A run of clocks under one driver, up to where the driver changes or the stream ends. -/
structure IsRun (direction : Buffer) (bits start run : Nat) : Prop where
  positive : 0 < run
  inside : start + run ≤ bits
  same : ∀ i < run, direction.get (start + i) = direction.get start
  ends : start + run = bits ∨ direction.get (start + run) ≠ direction.get start

theorem swdRun_isRun (direction : Buffer) (inside : start < bits) :
    IsRun direction bits start (swdRun direction start bits) := by
  have first : start + 1 ≤ bits := inside
  obtain ⟨least, most, within, each, ends⟩ :=
    widen_within (fun i => direction.get i == direction.get start) bits first
  refine ⟨least, within, fun i below => ?_, ?_⟩
  · rcases Nat.eq_zero_or_pos i with rfl | positive
    · rfl
    · exact beq_iff_eq.mp (each i positive below)
  · rcases ends with full | whole | changed
    · rw [swdRun]
      omega
    · exact .inl whole
    · exact .inr (beq_eq_false_iff_ne.mp changed)

/-- There is only one such run. -/
theorem IsRun.eq {run run' : Nat} (is : IsRun direction bits start run)
    (is' : IsRun direction bits start run') :
    run = run' := by
  have shorter : ∀ {run run'}, IsRun direction bits start run → IsRun direction bits start run' →
      ¬run < run' := by
    intro run run' is is' below
    rcases is.ends with whole | changed
    · have inside := is'.inside
      omega
    · exact changed (is'.same run below)
  rcases Nat.lt_trichotomy run run' with below | same | above
  · exact absurd below (shorter is is')
  · exact same
  · exact absurd above (shorter is' is)

/-- What is left of a run is a run. -/
theorem IsRun.tail {run taken : Nat} (is : IsRun direction bits start run) (less : taken < run) :
    IsRun direction bits (start + taken) (run - taken) := by
  have here := is.same taken less
  have inside := is.inside
  refine ⟨by omega, by omega, fun i below => ?_, ?_⟩
  · rw [here, Nat.add_assoc]
    exact is.same (taken + i) (by omega)
  · rw [here, Nat.add_assoc, Nat.add_sub_of_le less.le]
    exact is.ends

/-- A position within a run that the target drives. -/
def Mid (direction : Buffer) (bits position : Nat) : Prop :=
  0 < position ∧ position < bits ∧ direction.get (position - 1) = false ∧
    direction.get position = false

/-- The first clock of a run that the target drives. -/
def Begins (direction : Buffer) (position : Nat) : Prop :=
  direction.get position = false ∧ (position = 0 ∨ direction.get (position - 1) = true)

end Runs

/-! ## Filling a packet -/

/-- What a fresh packet must have room for. -/
def Fits (packetSize run : Nat) : Prop := 2 + (run + 7) / 8 ≤ packetSize ∧ (run + 63) / 64 ≤ 255

/-- What is asked of a packet size at one clock of the stream. -/
def Allows (direction : Buffer) (bits packetSize position : Nat) : Prop :=
  (Begins direction position → Fits packetSize (swdRun direction position bits)) ∧
    (direction.get position = true → 4 ≤ packetSize)

/-- What a clock of the stream is. -/
def streamClock (direction output : Buffer) (i : Nat) : Option Bool :=
  if direction.get i then some (output.get i) else none

/-- The captures of sequences from a position on. -/
def capturesFrom : Nat → List Sequence → List SwdCapture
  | _, [] => []
  | start, sequence :: sequences =>
    (if sequence.input then [⟨start, sequence.bits⟩] else []) ++
      capturesFrom (start + sequence.bits) sequences

/-- A packet that was begun at `start` and holds these sequences. -/
structure Packed (direction output : Buffer) (bits packetSize start : Nat) (plan : Plan)
    (sequences : List Sequence) : Prop where
  body : plan.body = sequences.flatMap Sequence.encode
  count : plan.count.toNat = sequences.length
  valid : ∀ sequence ∈ sequences, sequence.Valid
  response : plan.responseBytes = responseSize sequences
  fits : sequences ≠ [] → plan.request.length ≤ packetSize ∧ plan.responseBytes ≤ packetSize
  position : plan.position = start + width sequences
  inside : plan.position ≤ bits
  clocks : sequences.flatMap Sequence.clocks =
    (List.range' start (width sequences)).map (streamClock direction output)
  captures : plan.captures = capturesFrom start sequences
  allows : ∀ i, start ≤ i → i < plan.position → Allows direction bits packetSize i
  room : Mid direction bits plan.position → swdCaptureFits (swdRun direction plan.position bits)
    plan.request.length plan.responseBytes plan.count.toNat packetSize = true

section Packed

variable {direction output : Buffer} {bits packetSize start : Nat} {plan plan' : Plan}
  {sequences : List Sequence}

theorem Packed.fresh (inside : start ≤ bits) (cut : ¬Mid direction bits start) :
    Packed direction output bits packetSize start (Plan.start start) [] where
  body := rfl
  count := rfl
  valid _ member := absurd member List.not_mem_nil
  response := rfl
  fits filled := absurd rfl filled
  position := rfl
  inside := inside
  clocks := rfl
  captures := rfl
  allows _ later below := absurd below (Nat.not_lt.mpr later)
  room mid := absurd mid cut

theorem Packed.length_request
    (packed : Packed direction output bits packetSize start plan sequences) :
    2 ≤ plan.request.length ∧ 2 ≤ plan.responseBytes := by
  refine ⟨by simp [Plan.request], ?_⟩
  rw [packed.response]
  exact Nat.le_add_right _ _

theorem capturesFrom_append (start : Nat) (first second : List Sequence) :
    capturesFrom start (first ++ second) = capturesFrom start first ++
      capturesFrom (start + width first) second := by
  induction first generalizing start with
  | nil => rfl
  | cons sequence first ih =>
    rw [List.cons_append, capturesFrom, ih, capturesFrom, List.append_assoc, Nat.add_assoc]
    rfl

theorem width_append (first second : List Sequence) :
    width (first ++ second) = width first + width second := by
  simp [width]

theorem responseSize_append (sequences : List Sequence) (sequence : Sequence) :
    responseSize (sequences ++ [sequence]) = responseSize sequences + sequence.responseBytes := by
  simp [responseSize, Nat.add_assoc]

/-- The sequence of `count` clocks from a position on. -/
def sequenceAt (output : Buffer) (input : Bool) (position count : Nat) : Sequence where
  input := input
  bits := count
  data := if input then [] else packSWDBits output position count

theorem sequenceAt_valid (output : Buffer) (input : Bool) (position : Nat) {count : Nat}
    (positive : 0 < count)
    (small : count ≤ 64) : (sequenceAt output input position count).Valid where
  positive := positive
  small := small
  data := by cases input <;> simp [sequenceAt, packSWDBits]

theorem sequenceAt_clocks {position run count : Nat} {input : Bool}
    (is : IsRun direction bits position run)
    (driver : direction.get position = !input) (within : count ≤ run) :
    (sequenceAt output input position count).clocks =
      (List.range' position count).map (streamClock direction output) := by
  have same : ∀ i < count, direction.get (position + i) = !input :=
    fun i below => (is.same i (by omega)).trans driver
  rw [List.range'_eq_map_range, List.map_map, Sequence.clocks, sequenceAt]
  cases input with
  | false =>
    simp only [Bool.false_eq_true, if_false, Buffer.bits, List.map_map]
    refine List.map_congr_left fun i inside => ?_
    have below := List.mem_range.mp inside
    simp [streamClock, packSWDBits, Buffer.get_fill, below, same i below]
  | true =>
    simp only [if_true]
    refine (List.eq_replicate_iff.mpr ⟨by simp, fun clock member => ?_⟩).symm
    obtain ⟨i, inside, rfl⟩ := List.mem_map.mp member
    simp [streamClock, same i (List.mem_range.mp inside)]

/-- What a turn appends. -/
theorem Packed.append (packed : Packed direction output bits packetSize start plan sequences)
    {run count : Nat}
    {input : Bool} (is : IsRun direction bits plan.position run)
    (driver : direction.get plan.position = !input)
    (positive : 0 < count) (small : count ≤ 64) (within : count ≤ run)
    (free : plan.count.toNat < 255)
    (fits : (plan.append output input count).request.length ≤ packetSize ∧
      (plan.append output input count).responseBytes ≤ packetSize)
    (allows : Allows direction bits packetSize plan.position)
    (room : Mid direction bits (plan.position + count) →
      swdCaptureFits (swdRun direction (plan.position + count) bits)
        (plan.append output input count).request.length
          (plan.append output input count).responseBytes
        (plan.append output input count).count.toNat packetSize = true) :
    Packed direction output bits packetSize start (plan.append output input count)
      (sequences ++ [sequenceAt output input plan.position count]) where
  body := by
    rw [List.flatMap_append, ← packed.body]
    cases input <;> simp [Plan.append, Sequence.encode, sequenceAt]
  count := by
    rw [List.length_append, List.length_singleton, ← packed.count]
    show (plan.count + 1).toNat = _
    rw [BitVec.toNat_add]
    exact Nat.mod_eq_of_lt (Nat.add_lt_add_right free 1)
  valid := by
    intro sequence member
    rcases List.mem_append.mp member with earlier | last
    · exact packed.valid sequence earlier
    · rw [List.mem_singleton.mp last]
      exact sequenceAt_valid output input plan.position positive small
  response := by
    rw [responseSize_append, ← packed.response]
    cases input <;> rfl
  fits _ := fits
  position := by
    rw [width_append, ← Nat.add_assoc, ← packed.position]
    rfl
  inside := by
    have last := is.inside
    show plan.position + count ≤ bits
    omega
  clocks := by
    rw [List.flatMap_append, packed.clocks, width_append, ← List.range'_append_1, List.map_append,
      ← packed.position, List.flatMap_singleton, sequenceAt_clocks is driver within]
    rfl
  captures := by
    rw [capturesFrom_append, ← packed.position, ← packed.captures]
    cases input <;> simp [Plan.append, capturesFrom, sequenceAt]
  allows := by
    intro i later below
    by_cases earlier : i < plan.position
    · exact packed.allows i later earlier
    · have upper : i < plan.position + count := below
      have same : ∀ j, plan.position ≤ j → j ≤ i →
          direction.get j = direction.get plan.position := by
        intro j lower upto
        have here := is.same (j - plan.position) (by omega)
        rwa [Nat.add_sub_of_le lower] at here
      have here := same i (Nat.not_lt.mp earlier) le_rfl
      rcases Nat.eq_or_lt_of_le (Nat.not_lt.mp earlier) with rfl | after
      · exact allows
      -- a run begins at the first clock of a sequence only
      · refine ⟨fun begins => ?_, fun host => allows.2 (here ▸ host)⟩
        rcases begins.2 with zero | changed
        · omega
        · have before := same (i - 1) (by omega) (by omega)
          rw [changed, ← here, begins.1] at before
          exact absurd before nofun
  room := room

/-- A packet that has room for what is left of a run that the target drives. -/
theorem captureFits_iff {run requestBytes responseBytes count : Nat} :
    swdCaptureFits run requestBytes responseBytes count packetSize = true ↔
      responseBytes + (run + 7) / 8 ≤ packetSize ∧ requestBytes + (run + 63) / 64 ≤ packetSize ∧
        count + (run + 63) / 64 ≤ 255 := by
  rw [swdCaptureFits, decide_eq_true_eq]

/-- A turn within a run that the target drives: it takes what a descriptor can count. -/
theorem next_input (target : direction.get plan.position = false) (more : plan.position < bits) :
    plan.next direction output bits packetSize =
      if swdCaptureFits (swdRun direction plan.position bits) plan.request.length plan.responseBytes
        plan.count.toNat packetSize then
        some (plan.append output true (min (swdRun direction plan.position bits) 64))
      else none := by
  have is := swdRun_isRun direction more
  rw [Plan.next]
  simp only [target, Bool.not_false, Bool.true_and]
  cases fits : swdCaptureFits (swdRun direction plan.position bits) plan.request.length
    plan.responseBytes
    plan.count.toNat packetSize with
  | false => rfl
  | true =>
    obtain ⟨response, request, -⟩ := captureFits_iff.mp fits
    have positive := is.positive
    have descriptor : plan.request.length + 1 ≤ packetSize := by omega
    have capacity : plan.capacity true packetSize = (packetSize - plan.responseBytes) * 8 := by
      simp [Plan.capacity, descriptor]
    have count : min (swdRun direction plan.position bits)
      (min 64 (plan.capacity true packetSize)) =
        min (swdRun direction plan.position bits) 64 := by
      rw [capacity]
      omega
    simp only [Bool.not_true, Bool.false_eq_true, if_false, if_true, count]
    rw [if_neg (by omega)]

/-- A turn within a run that the host drives. -/
theorem next_output (host : direction.get plan.position = true) (more : plan.position < bits) :
    plan.next direction output bits packetSize =
      if plan.request.length + 1 < packetSize then
        some (plan.append output false (min (swdRun direction plan.position bits)
          (min 64 ((packetSize - plan.request.length - 1) * 8))))
      else none := by
  have is := swdRun_isRun direction more
  have positive := is.positive
  rw [Plan.next]
  simp only [host, Bool.not_true, Bool.false_and, Bool.false_eq_true, if_false, Plan.capacity,
    Bool.not_false, Bool.true_and, decide_eq_true_eq]
  split_ifs with fits none
  · omega
  · rfl
  · rfl
  · omega

theorem length_append (plan : Plan) (output : Buffer) (input : Bool) (count : Nat) :
    (plan.append output input count).request.length =
      plan.request.length + 1 + if input then 0 else (count + 7) / 8 := by
  cases input with
  | true => simp [Plan.append, Plan.request]
  | false =>
    simp [Plan.append, Plan.request, packSWDBits]
    omega

theorem Packed.responseBytes_le
    (packed : Packed direction output bits packetSize start plan sequences)
    (room : 2 ≤ packetSize) : plan.responseBytes ≤ packetSize := by
  by_cases filled : sequences = []
  · rw [packed.response, filled]
    exact room
  · exact (packed.fits filled).2

/-- Every turn keeps what holds of a packet. -/
theorem Packed.next (packed : Packed direction output bits packetSize start plan sequences)
    (more : plan.position < bits) (unfilled : plan.count ≠ 0xff)
    (next : plan.next direction output bits packetSize = some plan') :
    plan.position < plan'.position ∧
      ∃ sequence, Packed direction output bits packetSize start plan' (sequences ++
        [sequence]) := by
  have is := swdRun_isRun direction more
  have positive := is.positive
  have free : plan.count.toNat < 255 := by
    have small := plan.count.isLt
    have other : plan.count.toNat ≠ 255 := fun same => unfilled (BitVec.eq_of_toNat_eq same)
    omega
  obtain ⟨request, response⟩ := packed.length_request
  cases driver : direction.get plan.position with
  | true =>
    rw [next_output driver more] at next
    split at next
    · next fits =>
        obtain rfl := Option.some.inj next
        generalize taken : min (swdRun direction plan.position bits)
          (min 64 ((packetSize - plan.request.length - 1) * 8)) = count
        refine ⟨show plan.position < plan.position + count by omega, _,
          packed.append is driver (by omega) (by omega) (by omega) free ⟨?_, ?_⟩ ?_ fun mid => ?_⟩
        · rw [length_append, if_neg (by decide)]
          omega
        · exact packed.responseBytes_le (by omega)
        · exact ⟨fun begins => absurd (driver.symm.trans begins.1) nofun, fun _ => by omega⟩
        · have last := is.same (count - 1) (by omega)
          have before := mid.2.2.1
          rw [Nat.add_sub_assoc (by omega), last, driver] at before
          exact absurd before nofun
    · exact absurd next nofun
  | false =>
    rw [next_input driver more] at next
    split at next
    · next fits =>
        obtain rfl := Option.some.inj next
        obtain ⟨captured, described, counted⟩ := captureFits_iff.mp fits
        generalize taken : min (swdRun direction plan.position bits) 64 = count
        refine ⟨show plan.position < plan.position + count by omega, _,
          packed.append is driver (by omega) (by omega) (by omega) free ⟨?_, ?_⟩ ?_ fun mid => ?_⟩
        · rw [length_append, if_pos rfl]
          omega
        · show plan.responseBytes + (count + 7) / 8 ≤ packetSize
          omega
        · refine ⟨fun _ => ⟨by omega, by omega⟩, fun host => ?_⟩
          exact absurd (driver.symm.trans host) nofun
        -- what is left of the run fits, since the whole of it did
        · have longer : count < swdRun direction plan.position bits := by
            by_contra whole
            have all : count = swdRun direction plan.position bits := by omega
            obtain ⟨-, short, -, target⟩ := mid
            rw [all] at short target
            rcases is.ends with finished | changed
            · omega
            · exact changed (target.trans driver.symm)
          have rest := (swdRun_isRun direction mid.2.1).eq (is.tail longer)
          have descriptor : (plan.append output true count).count.toNat = plan.count.toNat + 1 := by
            show (plan.count + 1).toNat = _
            rw [BitVec.toNat_add]
            exact Nat.mod_eq_of_lt (Nat.add_lt_add_right free 1)
          have answered : (plan.append output true count).responseBytes =
            plan.responseBytes + (count + 7) / 8 := rfl
          rw [rest, captureFits_iff, length_append, if_pos rfl, descriptor, answered]
          omega
    · exact absurd next nofun

/-- The loop stops in the middle of no run that the target drives. -/
theorem Packed.stops (packed : Packed direction output bits packetSize start plan sequences)
    (stop : plan.count = 0xff ∨ plan.next direction output bits packetSize = none) :
    ¬Mid direction bits plan.position := by
  intro mid
  have fits := packed.room mid
  rcases stop with filled | none
  · have counted := (captureFits_iff.mp fits).2.2
    have positive := (swdRun_isRun direction mid.2.1).positive
    rw [filled] at counted
    have most : (0xff : Byte).toNat = 255 := rfl
    omega
  · rw [next_input mid.2.2.2 mid.2.1, if_pos fits] at none
    exact absurd none nofun

/-- The loop of `planSWDPacket`, by induction on its turns. -/
theorem Packed.fill (packed : Packed direction output bits packetSize start plan sequences)
    {turns : Nat}
    (enough : bits - plan.position ≤ turns) :
    ∃ later, Packed direction output bits packetSize start
      (plan.fill direction output bits packetSize turns)
        (sequences ++ later) ∧
      ¬Mid direction bits (plan.fill direction output bits packetSize turns).position := by
  induction turns generalizing plan sequences with
  | zero =>
    refine ⟨[], by rwa [List.append_nil], fun mid => ?_⟩
    have short : plan.position < bits := mid.2.1
    omega
  | succ turns ih =>
    rw [Plan.fill]
    split
    · next go =>
        split
        · next none => exact ⟨[], by rwa [List.append_nil], packed.stops (.inr none)⟩
        · next plan' next =>
            obtain ⟨advances, sequence, packed'⟩ := packed.next go.1 go.2 next
            obtain ⟨later, filled, stopped⟩ := ih packed' (by omega)
            exact ⟨sequence :: later, by rwa [List.append_assoc] at filled, stopped⟩
    · next halt =>
        refine ⟨[], by rwa [List.append_nil], fun mid => ?_⟩
        have filled : plan.count = 0xff := by
          by_contra other
          exact halt ⟨mid.2.1, other⟩
        exact packed.stops (.inl filled) mid

theorem Packed.advances (packed : Packed direction output bits packetSize start plan sequences) :
    sequences ≠ [] → start < plan.position := by
  intro filled
  obtain ⟨sequence, rest, rfl⟩ := List.exists_cons_of_ne_nil filled
  have positive := (packed.valid sequence List.mem_cons_self).positive
  have least : sequence.bits ≤ width (sequence :: rest) := by simp [width]
  rw [packed.position]
  omega

/-- Where the stream allows it, a fresh packet takes a sequence. -/
theorem next_fresh (more : start < bits) (cut : ¬Mid direction bits start)
    (allows : Allows direction bits packetSize start) :
    (Plan.start start).next direction output bits packetSize ≠ none := by
  have size : (Plan.start start).request.length = 2 := rfl
  cases driver : direction.get start with
  | true =>
    have room := allows.2 driver
    rw [next_output driver more, size, if_pos (by omega)]
    exact nofun
  | false =>
    have begins : Begins direction start := by
      refine ⟨driver, or_iff_not_imp_left.mpr fun positive => ?_⟩
      by_contra before
      exact cut ⟨Nat.pos_of_ne_zero positive, more, by simpa using before, driver⟩
    obtain ⟨captured, described⟩ := allows.1 begins
    have fits : swdCaptureFits (swdRun direction start bits) 2 2 0 packetSize = true := by
      rw [captureFits_iff]
      omega
    have turn : (Plan.start start).next direction output bits packetSize = _ :=
      (next_input driver more).trans (if_pos fits)
    rw [turn]
    exact nofun

/-- A packet that can be begun takes something. -/
theorem planSWDPacket_spec (direction output : Buffer) (packetSize : Nat) (more : start < bits)
    (cut : ¬Mid direction bits start) :
    ∃ sequences, Packed direction output bits packetSize start
        (planSWDPacket direction output bits start packetSize) sequences ∧
      ¬Mid direction bits (planSWDPacket direction output bits start packetSize).position ∧
      (Allows direction bits packetSize start → sequences ≠ []) := by
  have fresh : Packed direction output bits packetSize start (Plan.start start) [] :=
    .fresh more.le cut
  have unfilled : (Plan.start start).count ≠ 0xff := show (0 : Byte) ≠ 0xff by decide
  obtain ⟨turns, rfl⟩ : ∃ turns, bits = turns + 1 := ⟨bits - 1, by omega⟩
  rw [planSWDPacket, Plan.fill, if_pos ⟨more, unfilled⟩]
  split
  · next none => exact ⟨[], fresh, fresh.stops (.inr none), fun allows =>
      absurd none (next_fresh more cut allows)⟩
  · next plan next =>
      obtain ⟨advances, sequence, packed⟩ := fresh.next more unfilled next
      have begun : start < plan.position := advances
      obtain ⟨later, filled, stopped⟩ :=
        packed.fill (show turns + 1 - plan.position ≤ turns by omega)
      exact ⟨_, filled, stopped, fun _ => by simp⟩

end Packed

/-! ## A whole plan -/

/-- The packets of a plan from a position on. -/
inductive Planned (direction output : Buffer) (bits packetSize : Nat) :
    Nat → List SwdPacket → List (List Sequence) → Prop where
  | done : Planned direction output bits packetSize bits [] []
  | packet {start : Nat} {plan : Plan} {sequences : List Sequence} {packets : List SwdPacket}
      {rest : List (List Sequence)}
      (packed : Packed direction output bits packetSize start plan sequences)
        (filled : sequences ≠ [])
      (cut : ¬Mid direction bits plan.position)
      (later : Planned direction output bits packetSize plan.position packets rest) :
      Planned direction output bits packetSize start (⟨plan.request, plan.captures⟩ :: packets)
        (sequences :: rest)

section Planned

variable {direction output : Buffer} {bits packetSize start : Nat} {packets : List SwdPacket}
  {sequences : List (List Sequence)}

/-- The loop of `planSWDStream` succeeds where every packet can be begun, and then yields
a plan. -/
theorem planPackets_spec (output : Buffer) (packetSize : Nat) {turns : Nat}
    (enough : bits - start ≤ turns) (inside : start ≤ bits)
    (cut : ¬Mid direction bits start) :
    (∀ packets, planPackets direction output bits packetSize turns start = .ok packets →
        ∃ sequences, Planned direction output bits packetSize start packets sequences) ∧
      ((∀ i, start ≤ i → i < bits → Allows direction bits packetSize i) →
        ∃ packets, planPackets direction output bits packetSize turns start = .ok packets) := by
  induction turns generalizing start with
  | zero =>
    obtain rfl : start = bits := by omega
    refine ⟨fun packets planned => ?_, fun _ => ⟨[], rfl⟩⟩
    cases planned
    exact ⟨[], .done⟩
  | succ turns ih =>
    rw [planPackets]
    by_cases more : start < bits
    · rw [if_pos more]
      obtain ⟨taken, packed, stopped, begun⟩ :=
        planSWDPacket_spec direction output packetSize more cut
      generalize planSWDPacket direction output bits start packetSize = plan at *
      by_cases filled : taken = []
      · have still : plan.position = start := by
          rw [packed.position, filled]
          rfl
        simp only [still, if_true]
        exact ⟨nofun, fun allows => absurd filled (begun (allows start le_rfl more))⟩
      · have advances := packed.advances filled
        have enough' : bits - plan.position ≤ turns := by omega
        obtain ⟨planned, complete⟩ := ih enough' packed.inside stopped
        simp only [advances.ne', if_false]
        refine ⟨fun packets ended => ?_, fun allows => ?_⟩
        · cases rest : planPackets direction output bits packetSize turns plan.position with
          | error err =>
            rw [rest] at ended
            exact absurd ended nofun
          | ok later =>
            rw [rest] at ended
            obtain ⟨sequences, whole⟩ := planned later rest
            cases ended
            exact ⟨_, .packet packed filled stopped whole⟩
        · obtain ⟨later, rest⟩ := complete fun i later below => allows i (by omega) below
          rw [rest]
          exact ⟨_, rfl⟩
    · obtain rfl : start = bits := by omega
      rw [if_neg more]
      refine ⟨fun packets planned => ?_, fun _ => ⟨[], rfl⟩⟩
      cases planned
      exact ⟨[], .done⟩

theorem Planned.allows (planned : Planned direction output bits packetSize start packets
    sequences) :
    ∀ i, start ≤ i → i < bits → Allows direction bits packetSize i := by
  induction planned with
  | done => exact fun i later below => absurd below (Nat.not_lt.mpr later)
  | packet packed _ _ _ ih =>
    intro i later below
    rcases Nat.lt_or_ge i _ with here | after
    · exact packed.allows i later here
    · exact ih i after below

end Planned

end Ostiole.Cmsisdap
