import Mathlib.Data.BitVec

/-!
# Bit buffers

The byte slices the package packs its clock streams into, earliest bit in bit
zero of byte zero. Reading beyond a buffer, which panics, is read as zero here;
no modelled caller does it.
-/

namespace Ostiole.Jtag

variable {data : Buffer} {count : Nat}

abbrev Byte := BitVec 8

/-- A byte slice. -/
abbrev Buffer := List Byte

namespace Buffer

/-- `get`. -/
def get (data : Buffer) (bit : Nat) : Bool := (data.getD (bit / 8) 0).getLsbD (bit % 8)

/-- `put`: it sets a bit and never clears one. -/
def put (data : Buffer) (bit : Nat) (value : Bool) : Buffer :=
  data.modify (bit / 8) (· ||| (BitVec.ofBool value).setWidth 8 <<< (bit % 8))

/-- `data[bit/8] &^= 1 << (bit%8)`. -/
def clear (data : Buffer) (bit : Nat) : Buffer :=
  data.modify (bit / 8) (· &&& ~~~(1#8 <<< (bit % 8)))

/-- A zeroed buffer for `bits` bits. -/
def zeros (bits : Nat) : Buffer := List.replicate ((bits + 7) / 8) 0

/-- `ones`: every bit of the last byte is set too. -/
def ones (bits : Nat) : Buffer := List.replicate ((bits + 7) / 8) 0xff

/-- The loop that puts `count` bits from `start` on. -/
def putAll (data : Buffer) (start count : Nat) (value : Nat → Bool) : Buffer :=
  (List.range count).foldl (fun data i => put data (start + i) (value i)) data

/-- A fresh buffer of `count` bits. -/
def fill (count : Nat) (value : Nat → Bool) : Buffer := putAll (zeros count) 0 count value

/-- Put windows of one stream, each from an offset on. -/
def putWindows (data : Buffer) (windows : List (Nat × Nat)) (level : Nat → Bool) : Buffer :=
  windows.foldl (fun data window => putAll data window.1 window.2 fun j =>
    level (window.1 + j)) data

/-- `extract`. -/
def extract (data : Buffer) (offset bits : Nat) : Buffer :=
  fill bits fun i => get data (offset + i)

/-- `word`: the 32 bits at an offset. -/
def word (data : Buffer) (offset : Nat) : BitVec 32 :=
  (List.range 32).foldl
    (fun value i => value ||| (BitVec.ofBool (get data (offset + i))).setWidth 32 <<< i) 0

/-- The first `count` bits of a buffer. -/
def bits (data : Buffer) (count : Nat) : List Bool := (List.range count).map (get data)

/-- A list of bits in a buffer of its own. -/
def pack (bits : List Bool) : Buffer := fill bits.length fun i => bits.getD i false

/-! ## Lengths -/

@[simp] theorem length_put (data : Buffer) (bit : Nat) (value : Bool) :
    (put data bit value).length = data.length := by
  simp [put]

@[simp] theorem length_clear (data : Buffer) (bit : Nat) :
    (clear data bit).length = data.length := by
  simp [clear]

@[simp] theorem length_zeros (bits : Nat) : (zeros bits).length = (bits + 7) / 8 := by
  simp [zeros]

@[simp] theorem length_ones (bits : Nat) : (ones bits).length = (bits + 7) / 8 := by
  simp [ones]

theorem putAll_succ (data : Buffer) (start count : Nat) (value : Nat → Bool) :
    putAll data start (count + 1) value =
      put (putAll data start count value) (start + count) (value count) := by
  simp [putAll, List.range_succ]

@[simp] theorem length_putAll (data : Buffer) (start count : Nat) (value : Nat → Bool) :
    (putAll data start count value).length = data.length := by
  induction count with
  | zero => rfl
  | succ count ih => rw [putAll_succ, length_put, ih]

/-- Two adjacent loops are one. -/
theorem putAll_putAll (data : Buffer) (start first second : Nat) (value : Nat → Bool) :
    putAll (putAll data start first value) (start + first) second (fun i => value (first + i)) =
      putAll data start (first + second) value := by
  induction second with
  | zero => rfl
  | succ second ih =>
    rw [putAll_succ, ih, ← Nat.add_assoc, putAll_succ, Nat.add_assoc]

/-- Only the bits put matter. -/
theorem putAll_congr (data : Buffer) {start : Nat} {first second : Nat → Bool}
    (same : ∀ i < count, first i = second i) :
    putAll data start count first = putAll data start count second := by
  apply List.foldl_ext
  intro data i member
  rw [same i (List.mem_range.mp member)]

@[simp] theorem length_fill (count : Nat) (value : Nat → Bool) :
    (fill count value).length = (count + 7) / 8 := by
  simp [fill]

@[simp] theorem length_bits (data : Buffer) (count : Nat) : (bits data count).length = count := by
  simp [bits]

/-! ## Reading back -/

@[simp] theorem get_zeros (bits bit : Nat) : get (zeros bits) bit = false := by
  have zero : (zeros bits).getD (bit / 8) 0 = 0 := by
    simp only [zeros, List.getD_eq_getElem?_getD, List.getElem?_replicate]
    split <;> rfl
  rw [get, zero]
  simp

/-- Changing one byte changes only the bits of that byte. -/
theorem get_modify (data : Buffer) (byte : Nat) (change : Byte → Byte) (j : Nat) :
    get (data.modify byte change) j =
      if byte = j / 8 ∧ byte < data.length then
        (change (data.getD (j / 8) 0)).getLsbD (j % 8)
      else get data j := by
  simp only [get, List.getD_eq_getElem?_getD, List.getElem?_modify]
  by_cases held : j / 8 < data.length
  · by_cases same : byte = j / 8
    · simp [same, held]
    · simp [same, held]
  · have elsewhere : ¬(byte = j / 8 ∧ byte < data.length) := by omega
    rw [if_neg elsewhere, List.getElem?_eq_none (by omega)]
    rfl

/-- Setting a bit of a byte. -/
theorem getLsbD_set (byte : Byte) (value : Bool) :
    ∀ bit < 8, ∀ i < 8, (byte ||| (BitVec.ofBool value).setWidth 8 <<< bit).getLsbD i =
      (byte.getLsbD i || (decide (bit = i) && value)) := by
  intro bit _ i inside
  simp only [BitVec.getLsbD_or, BitVec.getLsbD_shiftLeft, BitVec.getLsbD_setWidth,
    BitVec.getLsbD_ofBool, inside, decide_true, Bool.true_and]
  congr 1
  rcases Nat.lt_trichotomy i bit with below | same | above
  · have apart : bit ≠ i := by omega
    simp [below, apart]
  · subst same
    simp
  · have apart : bit ≠ i := by omega
    have later : i - bit ≠ 0 := by omega
    simp [apart, later]

/-- Clearing a bit of a byte. -/
theorem getLsbD_clear (byte : Byte) :
    ∀ bit < 8, ∀ i < 8, (byte &&& ~~~(1#8 <<< bit)).getLsbD i =
      (byte.getLsbD i && decide (bit ≠ i)) := by
  intro bit _ i inside
  simp only [BitVec.getLsbD_and, BitVec.getLsbD_not, inside, decide_true, Bool.true_and]
  congr 1
  revert i bit
  decide

theorem get_put {bit : Nat} (inside : bit < 8 * data.length) (value : Bool)
    (j : Nat) : get (put data bit value) j = (get data j || (decide (bit = j) && value)) := by
  rw [put, get_modify]
  by_cases byte : bit / 8 = j / 8
  · rw [if_pos ⟨byte, by omega⟩, getLsbD_set _ _ _ (by omega) _ (by omega)]
    have same : bit % 8 = j % 8 ↔ bit = j := by omega
    simp [get, same]
  · have apart : bit ≠ j := fun equal => byte (congrArg (· / 8) equal)
    rw [if_neg (fun both => byte both.1)]
    simp [apart]

theorem get_clear {bit : Nat} (inside : bit < 8 * data.length) (j : Nat) :
    get (clear data bit) j = (get data j && decide (bit ≠ j)) := by
  rw [clear, get_modify]
  by_cases byte : bit / 8 = j / 8
  · rw [if_pos ⟨byte, by omega⟩, getLsbD_clear _ _ (by omega) _ (by omega)]
    have same : bit % 8 = j % 8 ↔ bit = j := by omega
    simp [get, same]
  · have apart : bit ≠ j := fun equal => byte (congrArg (· / 8) equal)
    rw [if_neg (fun both => byte both.1)]
    simp [apart]

theorem get_putAll {start : Nat} (inside : start + count ≤ 8 * data.length)
    (value : Nat → Bool) (j : Nat) :
    get (putAll data start count value) j =
      (get data j || (decide (start ≤ j ∧ j < start + count) && value (j - start))) := by
  induction count with
  | zero => simp [putAll]
  | succ count ih =>
    have room : start + count < 8 * (putAll data start count value).length := by
      rw [length_putAll]
      omega
    rw [putAll_succ, get_put room, ih (by omega)]
    by_cases last : start + count = j
    · subst last
      simp
    · have same : (start ≤ j ∧ j < start + count) ↔ (start ≤ j ∧ j < start + (count + 1)) := by
        omega
      simp [last, same]

/-- Putting windows of one stream sets the bits that they cover and that are high. -/
theorem get_putWindows {windows : List (Nat × Nat)} (level : Nat → Bool)
    (inside : ∀ window ∈ windows, window.1 + window.2 ≤ 8 * data.length) (i : Nat) :
    get (putWindows data windows level) i = true ↔
      get data i = true ∨ (∃ window ∈ windows, window.1 ≤ i ∧ i < window.1 + window.2) ∧
        level i = true := by
  induction windows generalizing data with
  | nil => simp [putWindows]
  | cons window windows ih =>
    have room := inside window List.mem_cons_self
    have later : ∀ other ∈ windows, other.1 + other.2 ≤
        8 * (putAll data window.1 window.2 fun j => level (window.1 + j)).length := by
      intro other member
      rw [length_putAll]
      exact inside other (List.mem_cons_of_mem _ member)
    have here : (window.1 ≤ i ∧ i < window.1 + window.2) ∧
      level (window.1 + (i - window.1)) = true ↔
        (window.1 ≤ i ∧ i < window.1 + window.2) ∧ level i = true :=
      and_congr_right fun covers => by rw [Nat.add_sub_of_le covers.1]
    rw [putWindows, List.foldl_cons]
    refine (ih later).trans ?_
    rw [get_putAll room, Bool.or_eq_true, Bool.and_eq_true, decide_eq_true_eq, here, or_assoc,
      ← or_and_right]
    simp only [List.mem_cons, exists_eq_or_imp]

@[simp] theorem length_putWindows (data : Buffer) (windows : List (Nat × Nat))
    (level : Nat → Bool) :
    (putWindows data windows level).length = data.length := by
  induction windows generalizing data with
  | nil => rfl
  | cons window windows ih =>
    exact (ih _).trans (length_putAll _ _ _ _)

/-- A filled buffer reads back what was put, and zero behind it. -/
theorem get_fill (count : Nat) (value : Nat → Bool) (j : Nat) :
    get (fill count value) j = (decide (j < count) && value j) := by
  rw [fill, get_putAll (by simp; omega)]
  simp

theorem get_ones {bits j : Nat} (inside : j < bits) : get (ones bits) j = true := by
  have held : j / 8 < (bits + 7) / 8 := by omega
  have small : j % 8 < 8 := Nat.mod_lt _ (by decide)
  have every : ∀ bit < 8, (0xff : Byte).getLsbD bit = true := by decide
  simp only [get, ones, List.getD_eq_getElem?_getD, List.getElem?_replicate, if_pos held,
    Option.getD_some]
  exact every _ small

theorem fill_congr {first second : Nat → Bool}
    (same : ∀ i < count, first i = second i) : fill count first = fill count second :=
  putAll_congr _ same

/-- A buffer is its length and its bits. -/
theorem eq_of_get {first second : Buffer} (length : first.length = second.length)
    (same : ∀ i, get first i = get second i) : first = second := by
  apply List.ext_getElem length
  intro byte inside inside'
  apply BitVec.eq_of_getLsbD_eq
  intro bit small
  have here := same (8 * byte + bit)
  have whole : (8 * byte + bit) / 8 = byte := by omega
  have part : (8 * byte + bit) % 8 = bit := by omega
  simpa [get, whole, part, inside, inside'] using here

/-- Windows that cover what is wanted of a stream recover it. -/
theorem putWindows_fill {bits : Nat} {windows : List (Nat × Nat)} {wanted : Nat → Bool}
    (level : Nat → Bool)
    (inside : ∀ window ∈ windows, window.1 + window.2 ≤ bits)
    (covered : ∀ i, (∃ window ∈ windows, window.1 ≤ i ∧ i < window.1 + window.2) ↔ i < bits ∧
      wanted i = true) :
    putWindows (zeros bits) windows level = fill bits fun i => wanted i && level i := by
  refine eq_of_get (by simp) fun i => ?_
  have room : ∀ window ∈ windows, window.1 + window.2 ≤ 8 * (zeros bits).length := by
    intro window member
    have bound := inside window member
    rw [length_zeros]
    omega
  rw [Bool.eq_iff_iff, get_putWindows level room, covered, get_zeros, get_fill]
  simp [and_assoc]

theorem get_pack (values : List Bool) (i : Nat) : get (pack values) i = values.getD i false := by
  rw [pack, get_fill]
  by_cases inside : i < values.length
  · simp [inside]
  · simp [inside]

/-- The bits of a word are those at its offset. -/
theorem getLsbD_word (data : Buffer) (offset : Nat) {i : Nat} (inside : i < 32) :
    (word data offset).getLsbD i = get data (offset + i) := by
  have summed (count : Nat) : ((List.range count).foldl (fun (value : BitVec 32) i =>
      value ||| (BitVec.ofBool (get data (offset + i))).setWidth 32 <<< i) 0).getLsbD i =
        (decide (i < count) && get data (offset + i)) := by
    induction count with
    | zero => simp
    | succ count ih =>
      rw [List.range_succ, List.foldl_append]
      simp only [List.foldl_cons, List.foldl_nil, BitVec.getLsbD_or, ih,
        BitVec.getLsbD_shiftLeft, BitVec.getLsbD_setWidth, BitVec.getLsbD_ofBool, inside,
        decide_true, Bool.true_and]
      rcases Nat.lt_trichotomy i count with below | same | above
      · simp [below, Nat.lt_succ_of_lt below]
      · subst same
        simp
      · have apart : ¬i < count := by omega
        have beyond : ¬i < count + 1 := by omega
        have later : i - count ≠ 0 := by omega
        simp [apart, beyond, later]
  rw [word, summed]
  simp [inside]

theorem word_eq {offset : Nat} {value : BitVec 32}
    (same : ∀ i < 32, get data (offset + i) = value.getLsbD i) : word data offset = value := by
  apply BitVec.eq_of_getLsbD_eq
  intro i inside
  rw [getLsbD_word data offset inside, same i inside]

end Buffer

end Ostiole.Jtag
