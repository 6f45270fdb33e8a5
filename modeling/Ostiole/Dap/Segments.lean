import Ostiole.Dap.Block

/-!
# The segments of a block

What `blockSegments` is for: it tiles a range of addresses with aligned transfers, words as
far as possible. The last segment may end at the end of the address space, where the running
address of the loops is back at zero.
-/

namespace Ostiole.Dap

open Ostiole

/-- The bytes that a segment covers. -/
def BlockSegment.bytes (segment : BlockSegment) : Nat := segment.size.bytes * segment.count

/-- Segments that cover the bytes from one offset to another, each from where the one before
it ends. -/
inductive Tiles (start : BitVec 64) : Nat → List BlockSegment → Nat → Prop
  | nil (offset : Nat) : Tiles start offset [] offset
  | cons {segment : BlockSegment} {rest : List BlockSegment} {stop : Nat}
      (covers : 0 < segment.bytes)
      (address : segment.address.toNat = start.toNat + segment.offset)
      (below : Tiles start (segment.offset + segment.bytes) rest stop) :
        Tiles start segment.offset (segment :: rest) stop

/-- A single byte or halfword. -/
structure BlockSegment.Edge (segment : BlockSegment) : Prop where
  size : segment.size = .size8 ∨ segment.size = .size16
  single : segment.count = 1
  plain : segment.autoIncrement = false
  aligned : segment.address.toNat % segment.size.bytes = 0

/-- Words that stay within one window of the address register's increment. -/
structure BlockSegment.Words (segment : BlockSegment) : Prop where
  size : segment.size = .size32
  increments : segment.autoIncrement = true
  aligned : segment.address.toNat % segment.size.bytes = 0
  window : segment.address.toNat % tarAutoIncrementWindow + segment.bytes ≤ tarAutoIncrementWindow

section Tiles

variable {start : BitVec 64} {offset middle stop : Nat} {segments others : List BlockSegment}

theorem Tiles.append (first : Tiles start offset segments middle)
    (second : Tiles start middle others stop) :
    Tiles start offset (segments ++ others) stop := by
  induction first with
  | nil offset => exact second
  | cons covers address below ih => exact .cons covers address (ih second)

theorem Tiles.sum (tiles : Tiles start offset segments stop) :
    offset + (segments.map BlockSegment.bytes).sum = stop := by
  induction tiles with
  | nil offset => rfl
  | cons covers address below ih =>
    rw [List.map_cons, List.sum_cons, ← Nat.add_assoc]
    exact ih

theorem Tiles.length_le (tiles : Tiles start offset segments stop) :
    offset + segments.length ≤ stop := by
  induction tiles with
  | nil offset => exact Nat.le_refl _
  | cons covers address below ih =>
    rw [List.length_cons]
    omega

theorem Tiles.inside (tiles : Tiles start offset segments stop) :
    ∀ segment ∈ segments, segment.address.toNat = start.toNat + segment.offset ∧
      segment.offset + segment.bytes ≤ stop := by
  induction tiles with
  | nil offset => nofun
  | @cons segment rest stop covers address below ih =>
    intro one member
    obtain rfl | later := List.mem_cons.mp member
    · have sum := below.sum
      exact ⟨address, by omega⟩
    · exact ih one later

end Tiles

/-! ## The loops -/

section Loops

variable {start : BitVec 64} {length offset : Nat}

/-- The running address before the end of the range. -/
theorem toNat_running (fits : start.toNat + length ≤ 2 ^ 64) (inside : offset < length) :
    (start + BitVec.ofNat 64 offset).toNat = start.toNat + offset := by
  rw [BitVec.toNat_add, BitVec.toNat_ofNat]
  omega

theorem running_add (start : BitVec 64) (offset step : Nat) :
    start + BitVec.ofNat 64 offset + BitVec.ofNat 64 step = start +
      BitVec.ofNat 64 (offset + step) := by
  rw [BitVec.add_assoc, BitVec.ofNat_add]

theorem and_one_iff (addr : BitVec 64) : addr &&& 1 = 0 ↔ addr.toNat % 2 = 0 := by
  rw [← BitVec.toNat_inj, BitVec.toNat_and]
  exact iff_of_eq (congrArg (· = 0) (Nat.and_two_pow_sub_one_eq_mod _ 1))

theorem and_three_iff (addr : BitVec 64) : addr &&& 3 = 0 ↔ addr.toNat % 4 = 0 := by
  rw [← BitVec.toNat_inj, BitVec.toNat_and]
  exact iff_of_eq (congrArg (· = 0) (Nat.and_two_pow_sub_one_eq_mod _ 2))

/-- What the next edge is. -/
theorem edgeSize_spec (addr : BitVec 64) {left : Nat} (some : 0 < left) :
    (edgeSize addr left = .size16 ∧ addr.toNat % 2 = 0 ∧ 2 ≤ left) ∨
      (edgeSize addr left = .size8 ∧ (addr.toNat % 2 = 1 ∨ left = 1)) := by
  rw [edgeSize]
  split
  case isTrue both => exact .inl ⟨rfl, (and_one_iff addr).mp both.1, both.2⟩
  case isFalse neither =>
    rw [and_one_iff] at neither
    exact .inr ⟨rfl, by omega⟩

/-- The edges up to where they are no longer wanted. -/
structure EdgeLoop (wanted : BitVec 64 → Bool) (start : BitVec 64) (length offset : Nat)
    (result : List BlockSegment × Nat × BitVec 64) : Prop where
  tiles : Tiles start offset result.1 result.2.1
  edges : ∀ segment ∈ result.1, segment.Edge
  within : result.2.1 ≤ length
  address : result.2.2 = start + BitVec.ofNat 64 result.2.1
  ended : result.2.1 < length → wanted result.2.2 = false
  few : 2 * result.1.length ≤ result.2.1 - offset + 1 + (start.toNat + offset) % 2

theorem edgeSegments_spec (wanted : BitVec 64 → Bool) (fits : start.toNat + length ≤ 2 ^ 64)
    (within : offset ≤ length)
    {turns : Nat} (enough : length - offset ≤ turns) :
    EdgeLoop wanted start length offset
      (edgeSegments wanted turns offset (start + BitVec.ofNat 64 offset) length) := by
  induction turns generalizing offset with
  | zero =>
    exact ⟨.nil _, nofun, within, rfl, fun more =>
      absurd more (by simp only [edgeSegments]; omega), by simp [edgeSegments]⟩
  | succ turns ih =>
    rw [edgeSegments]
    split
    case isFalse done =>
      refine ⟨.nil _, nofun, within, rfl, fun more => ?_, by simp⟩
      rw [not_and] at done
      exact Bool.eq_false_iff.mpr (done more)
    case isTrue more =>
      have address := toNat_running fits more.1
      have sized := edgeSize_spec (start + BitVec.ofNat 64 offset) (Nat.sub_pos_of_lt more.1)
      generalize edgeSize (start + BitVec.ofNat 64 offset) (length - offset) = size at sized ⊢
      rw [address] at sized
      have bytes : 0 < size.bytes ∧ offset + size.bytes ≤ length ∧
          (start.toNat + offset) % size.bytes = 0 := by
        obtain ⟨rfl, even, two⟩ | ⟨rfl, _⟩ := sized
        · exact ⟨by decide, by simp only [TransferSize.bytes]; omega, even⟩
        · exact ⟨by decide, by simp only [TransferSize.bytes]; omega, Nat.mod_one _⟩
      have rest := ih bytes.2.1 (by omega)
      simp only [running_add]
      generalize edgeSegments wanted turns (offset + size.bytes)
        (start + BitVec.ofNat 64 (offset + size.bytes)) length = after at rest ⊢
      have few := rest.few
      have most := rest.tiles.length_le
      have within := rest.within
      let first : BlockSegment := ⟨offset, start + BitVec.ofNat 64 offset, size, 1, false⟩
      have covers : first.bytes = size.bytes := Nat.mul_one _
      refine ⟨Tiles.cons (show 0 < first.bytes by omega) address ?_, ?_, within, rest.address,
        rest.ended, ?_⟩
      · rw [covers]
        exact rest.tiles
      · refine List.forall_mem_cons.mpr ⟨⟨?_, rfl, rfl, ?_⟩, rest.edges⟩
        · exact sized.elim (fun half => .inr half.1) (fun byte => .inl byte.1)
        · rw [address]
          exact bytes.2.2
      · simp only [List.length_cons]
        obtain ⟨rfl, even, two⟩ | ⟨rfl, odd | last⟩ := sized
        · simp only [TransferSize.bytes] at few most
          omega
        · simp only [TransferSize.bytes] at few most
          omega
        · -- the last byte of the range: there is nothing after it
          simp only [TransferSize.bytes] at few most
          omega

/-- The words of a range, window by window. -/
structure WordLoop (start : BitVec 64) (offset words : Nat)
    (result : List BlockSegment × Nat × BitVec 64) : Prop where
  tiles : Tiles start offset result.1 result.2.1
  each : ∀ segment ∈ result.1, segment.Words
  stop : result.2.1 = offset + 4 * words
  address : result.2.2 = start + BitVec.ofNat 64 result.2.1

theorem wordSegments_spec {words : Nat} (fits : start.toNat + (offset + 4 * words) ≤ 2 ^ 64)
    (aligned : words ≠ 0 → (start.toNat + offset) % 4 = 0) {turns : Nat} (enough : words ≤ turns) :
    WordLoop start offset words (wordSegments turns offset (start + BitVec.ofNat 64 offset)
      words) := by
  induction turns generalizing offset words with
  | zero =>
    obtain rfl : words = 0 := Nat.le_zero.mp enough
    exact ⟨.nil _, nofun, rfl, rfl⟩
  | succ turns ih =>
    rw [wordSegments]
    split
    case isTrue done =>
      subst done
      exact ⟨.nil _, nofun, rfl, rfl⟩
    case isFalse more =>
      have address : (start + BitVec.ofNat 64 offset).toNat = start.toNat + offset :=
        toNat_running fits (by omega)
      have aligned := aligned more
      simp only [running_add, address]
      -- a window boundary is a word boundary, so that the next word is inside the window
      have counted : 0 < min words
        ((tarAutoIncrementWindow - (start.toNat + offset) % tarAutoIncrementWindow) / 4) ∧
          (start.toNat + offset) % tarAutoIncrementWindow +
            4 * min words ((tarAutoIncrementWindow - (start.toNat + offset) %
              tarAutoIncrementWindow) / 4) ≤
              tarAutoIncrementWindow := by
        simp only [tarAutoIncrementWindow]
        omega
      have most : min words ((tarAutoIncrementWindow - (start.toNat + offset) %
          tarAutoIncrementWindow) / 4) ≤ words :=
        Nat.min_le_left _ _
      generalize min words ((tarAutoIncrementWindow - (start.toNat + offset) %
        tarAutoIncrementWindow) / 4) = count
        at counted most ⊢
      have rest := ih (show start.toNat + (offset + 4 * count + 4 * (words - count)) ≤
        2 ^ 64 by omega)
        (fun _ => by omega) (by omega)
      generalize wordSegments turns (offset + 4 * count)
        (start + BitVec.ofNat 64 (offset + 4 * count))
        (words - count) = after at rest ⊢
      let first : BlockSegment := ⟨offset, start + BitVec.ofNat 64 offset, .size32, count, true⟩
      have covers : first.bytes = 4 * count := rfl
      refine ⟨Tiles.cons (show 0 < first.bytes by omega) address ?_, ?_, ?_, rest.address⟩
      · rw [covers]
        exact rest.tiles
      · refine List.forall_mem_cons.mpr ⟨⟨rfl, rfl, ?_, ?_⟩, rest.each⟩
        · rw [address]
          exact aligned
        · rw [address]
          exact counted.2
      · have stop := rest.stop
        simp only at stop ⊢
        omega

end Loops

/-- The first loop stops at the next word. -/
theorem edgeSegments_short (turns offset : Nat) (addr : BitVec 64) (length : Nat) :
    (edgeSegments (fun addr => addr &&& 3 != 0) turns offset addr length).2.1 ≤ offset +
      (4 - addr.toNat % 4) % 4 := by
  induction turns generalizing offset addr with
  | zero => exact Nat.le_add_right _ _
  | succ turns ih =>
    rw [edgeSegments]
    split
    case isFalse done => exact Nat.le_add_right _ _
    case isTrue more =>
      have inside : addr.toNat % 4 ≠ 0 := by
        rw [ne_eq, ← and_three_iff]
        exact bne_iff_ne.mp more.2
      have rest := ih (offset + (edgeSize addr (length - offset)).bytes)
        (addr + BitVec.ofNat 64 (edgeSize addr (length - offset)).bytes)
      obtain ⟨size, even, _⟩ | ⟨size, _⟩ := edgeSize_spec addr (Nat.sub_pos_of_lt more.1)
      · simp only [size, TransferSize.bytes, BitVec.toNat_add, BitVec.toNat_ofNat] at rest ⊢
        omega
      · simp only [size, TransferSize.bytes, BitVec.toNat_add, BitVec.toNat_ofNat] at rest ⊢
        omega

/-- What the first loop leaves starts at a word, if it leaves anything. -/
theorem EdgeLoop.aligned {start : BitVec 64} {length : Nat}
    {result : List BlockSegment × Nat × BitVec 64}
    (fits : start.toNat + length ≤ 2 ^ 64)
    (loop : EdgeLoop (fun addr => addr &&& 3 != 0) start length 0 result)
    (more : result.2.1 < length) : (start.toNat + result.2.1) % 4 = 0 := by
  have ended := loop.ended more
  rw [bne_eq_false_iff_eq, and_three_iff, loop.address, toNat_running fits more] at ended
  exact ended

/-- The last loop ends where the range does. -/
theorem EdgeLoop.stop {start : BitVec 64} {length offset : Nat}
    {result : List BlockSegment × Nat × BitVec 64}
    (loop : EdgeLoop (fun _ => true) start length offset result) : result.2.1 = length := by
  have within := loop.within
  rcases Nat.lt_or_ge result.2.1 length with more | done
  · cases loop.ended more
  · omega

theorem filter_edges {segments : List BlockSegment} (words : ∀ segment ∈ segments, segment.Words) :
    segments.filter (fun segment => segment.size ≠ .size32) = [] := by
  rw [List.filter_eq_nil_iff]
  intro segment member
  simpa using (words segment member).size

/-- The three loops, the first up to `offset` and the second up to `offset₂`. -/
theorem blockSegments_loops (addr : BitVec 64) (length : Nat)
    (fits : addr.toNat + length ≤ 2 ^ 64) :
    ∃ (offset offset₂ : Nat) (addr₁ addr₂ addr₃ : BitVec 64) (first words last : List BlockSegment),
      EdgeLoop (fun addr => addr &&& 3 != 0) addr length 0 (first, offset, addr₁) ∧
      offset ≤ 0 + (4 - addr.toNat % 4) % 4 ∧
      WordLoop addr offset ((length - offset) / 4) (words, offset₂, addr₂) ∧
      EdgeLoop (fun _ => true) addr length offset₂ (last, length, addr₃) ∧
      blockSegments addr length = first ++ words ++ last := by
  have start : addr + BitVec.ofNat 64 0 = addr := BitVec.add_zero addr
  have head := edgeSegments_spec (fun addr => addr &&& 3 != 0) fits (Nat.zero_le length)
    (Nat.sub_le length 0)
  have short := edgeSegments_short length 0 addr length
  rw [start] at head
  rw [blockSegments]
  generalize edgeSegments (fun addr => addr &&& 3 != 0) length 0 addr length = ran at head short ⊢
  obtain ⟨first, offset, addr₁⟩ := ran
  obtain rfl : addr₁ = addr + BitVec.ofNat 64 offset := head.address
  have within : offset ≤ length := head.within
  have middle := wordSegments_spec (show addr.toNat + (offset + 4 * ((length - offset) / 4)) ≤
    2 ^ 64 by omega)
    (fun more => head.aligned fits (show offset < length by omega)) (Nat.le_refl _)
  dsimp only
  generalize wordSegments ((length - offset) / 4) offset (addr + BitVec.ofNat 64 offset)
    ((length - offset) / 4) = ran
    at middle ⊢
  obtain ⟨words, offset₂, addr₂⟩ := ran
  obtain rfl : addr₂ = addr + BitVec.ofNat 64 offset₂ := middle.address
  have stop₂ : offset₂ = offset + 4 * ((length - offset) / 4) := middle.stop
  have tail := edgeSegments_spec (fun _ => true) fits (show offset₂ ≤ length by omega)
    (Nat.sub_le length offset₂)
  dsimp only
  generalize edgeSegments (fun _ => true) length offset₂
    (addr + BitVec.ofNat 64 offset₂) length = ran at tail ⊢
  obtain ⟨last, offset₃, addr₃⟩ := ran
  obtain rfl : offset₃ = length := tail.stop
  exact ⟨offset, offset₂, _, _, addr₃, first, words, last, head, short, middle, tail, rfl⟩

/-- The segments of a range that ends within the address space, or exactly at its end. -/
theorem blockSegments_tiles (addr : BitVec 64) (length : Nat)
    (fits : addr.toNat + length ≤ 2 ^ 64) :
    Tiles addr 0 (blockSegments addr length) length ∧
      ((blockSegments addr length).map BlockSegment.bytes).sum = length ∧
      (∀ segment ∈ blockSegments addr length, segment.offset = segment.address.toNat - addr.toNat ∧
        (segment.Edge ∨ segment.Words)) ∧
      ((blockSegments addr length).filter (fun segment => segment.size ≠ .size32)).length ≤ 4 := by
  obtain ⟨offset, offset₂, addr₁, addr₂, addr₃, first, words, last, head, short, middle, tail,
    parts⟩ :=
    blockSegments_loops addr length fits
  have tiles : Tiles addr 0 (first ++ words ++ last) length :=
    (head.tiles.append middle.tiles).append tail.tiles
  rw [parts]
  refine ⟨tiles, by simpa using tiles.sum, fun segment member => ⟨?_, ?_⟩, ?_⟩
  · have inside := (tiles.inside segment member).1
    omega
  · rw [List.mem_append, List.mem_append] at member
    obtain (early | word) | late := member
    · exact .inl (head.edges segment early)
    · exact .inr (middle.each segment word)
    · exact .inl (tail.edges segment late)
  · -- neither edge is longer than three bytes, and the last one starts at a word
    have before : 2 * first.length ≤ offset - 0 + 1 + (addr.toNat + 0) % 2 := head.few
    have after : 2 * last.length ≤ length - offset₂ + 1 + (addr.toNat + offset₂) % 2 := tail.few
    have stop₂ : offset₂ = offset + 4 * ((length - offset) / 4) := middle.stop
    have within : offset ≤ length := head.within
    have atWord : offset < length → (addr.toNat + offset) % 4 = 0 := head.aligned fits
    have most : offset₂ + last.length ≤ length := tail.tiles.length_le
    rw [List.filter_append, List.filter_append, filter_edges middle.each, List.append_nil,
      List.length_append]
    have early := List.length_filter_le (fun segment : BlockSegment =>
      decide (segment.size ≠ .size32)) first
    have late := List.length_filter_le (fun segment : BlockSegment =>
      decide (segment.size ≠ .size32)) last
    omega

/-- The last eleven bytes of the address space. -/
theorem blockSegments_tiles_end :
    Tiles 0xfffffffffffffff5 0 (blockSegments 0xfffffffffffffff5 11) 11 ∧
      ((blockSegments 0xfffffffffffffff5 11).filter
        (fun segment => segment.size ≠ .size32)).length = 2 := by
  exact ⟨(blockSegments_tiles 0xfffffffffffffff5 11 (by decide)).1, by decide⟩

end Ostiole.Dap
