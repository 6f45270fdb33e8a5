import Mathlib.Algebra.GroupWithZero.Nat
import Mathlib.Data.List.Flatten

/-!
# Shift registers in series

Registers are listed from the output of the series to its input, and a register
from its output bit to its input bit, so the whole series is one long register:
the concatenation. A bit leaves at the head and the bit shifted in joins the
tail.
-/

namespace Ostiole.Logic.Series

variable {lengths : List Nat} {index length : Nat}

variable {α : Type}

/-- One clock: the bit that leaves the series, and the registers after it. -/
def shift : List (List α) → α → α × List (List α)
  | [], bit => (bit, [])
  | register :: rest, bit =>
    let (carry, moved) := shift rest bit
    match register with
    | [] => (carry, [] :: moved)
    | out :: kept => (out, (kept ++ [carry]) :: moved)

/-- As many clocks as there are bits. -/
def run : List (List α) → List α → List α × List (List α)
  | registers, [] => ([], registers)
  | registers, bit :: bits =>
    let (out, moved) := shift registers bit
    let (outs, final) := run moved bits
    (out :: outs, final)

/-- One clock moves the concatenation by one bit. -/
theorem shift_flatten (registers : List (List α)) (bit : α) :
    (shift registers bit).1 :: (shift registers bit).2.flatten = registers.flatten ++ [bit] := by
  induction registers with
  | nil => rfl
  | cons register rest ih =>
    cases register with
    | nil => simpa [shift] using ih
    | cons out kept =>
      simp only [shift, List.flatten_cons, List.append_assoc, List.cons_append, List.nil_append]
      rw [ih]

/-- No register changes its length. -/
theorem shift_lengths (registers : List (List α)) (bit : α) :
    (shift registers bit).2.map List.length = registers.map List.length := by
  induction registers with
  | nil => rfl
  | cons register rest ih =>
    cases register <;> simp [shift, ih]

@[simp] theorem shift_length (registers : List (List α)) (bit : α) :
    (shift registers bit).2.length = registers.length := by
  simpa using congrArg List.length (shift_lengths registers bit)

theorem run_append (registers : List (List α)) (first second : List α) :
    run registers (first ++ second) =
      ((run registers first).1 ++ (run (run registers first).2 second).1,
        (run (run registers first).2 second).2) := by
  induction first generalizing registers with
  | nil => rfl
  | cons bit first ih => simp [run, ih]

theorem run_flatten (registers : List (List α)) (bits : List α) :
    (run registers bits).1 ++ (run registers bits).2.flatten = registers.flatten ++ bits := by
  induction bits generalizing registers with
  | nil => simp [run]
  | cons bit bits ih =>
    have moved := shift_flatten registers bit
    simp only [run, List.cons_append, ih]
    rw [← List.cons_append, moved]
    simp

theorem run_lengths (registers : List (List α)) (bits : List α) :
    (run registers bits).2.map List.length = registers.map List.length := by
  induction bits generalizing registers with
  | nil => rfl
  | cons bit bits ih =>
    exact (ih _).trans (shift_lengths registers bit)

@[simp] theorem run_length (registers : List (List α)) (bits : List α) :
    (run registers bits).1.length = bits.length := by
  induction bits generalizing registers with
  | nil => rfl
  | cons bit bits ih => simp [run, ih]

/-- What leaves the series is its content, then what follows it in. -/
theorem run_output (registers : List (List α)) (bits : List α) :
    (run registers bits).1 = (registers.flatten ++ bits).take bits.length := by
  rw [← run_flatten registers bits, List.take_left' (run_length registers bits)]

/-- Clocking a series through its whole length brings out what it held and
leaves what was shifted in. -/
theorem run_full {registers : List (List α)} {bits : List α}
    (full : bits.length = registers.flatten.length) :
    (run registers bits).1 = registers.flatten ∧ (run registers bits).2.flatten = bits :=
  List.append_inj (run_flatten registers bits) ((run_length registers bits).trans full)

/-- Shifting one value long enough fills the series with it. -/
theorem run_flush {registers : List (List α)} {count : Nat}
    (enough : registers.flatten.length ≤ count) (value : α) :
    (run registers (List.replicate count value)).2.flatten =
      List.replicate registers.flatten.length value := by
  have whole := congrArg (List.drop count) (run_flatten registers (List.replicate count value))
  rw [List.drop_left' (by simp), List.drop_append, List.drop_eq_nil_of_le enough,
    List.nil_append, List.drop_replicate] at whole
  rw [whole]
  congr 1
  omega

/-! ## Positions in the series -/

/-- Where a register starts in the concatenation. -/
def offset (lengths : List Nat) (index : Nat) : Nat := (lengths.take index).sum

/-- A register ends before any later one starts. -/
theorem offset_add_le {later : Nat}
    (found : lengths[index]? = some length) (before : index < later) :
    offset lengths index + length ≤ offset lengths later := by
  obtain ⟨inside, rfl⟩ := List.getElem?_eq_some_iff.mp found
  obtain ⟨rest, rfl⟩ := Nat.exists_eq_add_of_lt before
  have split : lengths.take (index + rest + 1) =
      lengths.take index ++ lengths[index] :: (lengths.drop (index + 1)).take rest := by
    rw [Nat.add_assoc, List.take_add, List.drop_eq_getElem_cons inside]
    rfl
  simp [offset, split]

theorem offset_add_le_sum
    (found : lengths[index]? = some length) : offset lengths index + length ≤ lengths.sum := by
  have inside := (List.getElem?_eq_some_iff.mp found).1
  simpa [offset] using offset_add_le found inside

/-- One register among single bits. -/
theorem offset_of_ones
    (found : lengths[index]? = some length)
    (ones : ∀ other value, other ≠ index → lengths[other]? = some value → value = 1) :
    offset lengths index = index ∧ lengths.sum + 1 = length + lengths.length := by
  obtain ⟨inside, rfl⟩ := List.getElem?_eq_some_iff.mp found
  have before : lengths.take index = List.replicate index 1 := by
    rw [List.eq_replicate_iff]
    refine ⟨by simp; omega, fun value member => ?_⟩
    obtain ⟨other, held⟩ := List.mem_iff_getElem?.mp member
    rw [List.getElem?_take] at held
    by_cases earlier : other < index
    · rw [if_pos earlier] at held
      exact ones other value (Nat.ne_of_lt earlier) held
    · rw [if_neg earlier] at held
      cases held
  have after : lengths.drop (index + 1) = List.replicate (lengths.length - (index + 1)) 1 := by
    rw [List.eq_replicate_iff]
    refine ⟨by simp, fun value member => ?_⟩
    obtain ⟨other, held⟩ := List.mem_iff_getElem?.mp member
    rw [List.getElem?_drop] at held
    exact ones _ value (by omega) held
  have split : lengths.sum = (lengths.take index).sum + lengths[index] +
      (lengths.drop (index + 1)).sum := by
    have whole := congrArg List.sum (List.take_append_drop index lengths)
    rw [List.drop_eq_getElem_cons inside, List.sum_append_nat, List.sum_cons] at whole
    omega
  refine ⟨by simp [offset, before], ?_⟩
  rw [split, before, after]
  simp
  omega

/-- A register is found in the concatenation behind the registers before it. -/
theorem register_eq (registers : List (List α)) {register : List α}
    (found : registers[index]? = some register) :
    register = (registers.flatten.drop (offset (registers.map List.length) index)).take
      register.length := by
  induction registers generalizing index with
  | nil => simp at found
  | cons first rest ih =>
    cases index with
    | zero =>
      obtain rfl : first = register := by simpa using found
      simp [offset]
    | succ index =>
      have later := ih (by simpa using found)
      rw [offset, List.map_cons, List.take_succ_cons, List.sum_cons, List.flatten_cons,
        ← List.drop_drop, List.drop_left]
      exact later

/-- After a full run a register holds the bits that were shifted in at its
position. -/
theorem run_register {registers : List (List α)} {bits : List α}
    (full : bits.length = registers.flatten.length) {register : List α}
    (found : registers[index]? = some register) :
    (run registers bits).2[index]? =
      some ((bits.drop (offset (registers.map List.length) index)).take register.length) := by
  have lengths := run_lengths registers bits
  have same : ((run registers bits).2.map List.length)[index]? = some register.length := by
    rw [lengths, List.getElem?_map, found]
    rfl
  rw [List.getElem?_map] at same
  obtain ⟨final, holds, length⟩ := Option.map_eq_some_iff.mp same
  have position := register_eq _ holds
  rw [(run_full full).2, lengths, length] at position
  rw [holds, position]

end Ostiole.Logic.Series
