import Ostiole.Coresight.Component
import Ostiole.Logic.Fallible

/-!
# The addresses of ROM entries

An entry holds its offset as a signed number of either width, and the sum with the base of
the table is formed modulo 2^64. The comparison that follows tells exactly the sums that left
the address space.
-/

namespace Ostiole.Coresight

open Ostiole

/-- A raw entry that is present, with reserved bits as they must be. -/
structure PresentEntry (raw : BitVec 64) : Prop where
  marked : raw &&& 3 = 3
  reserved : raw &&& 0xe08 = 0
  power : raw &&& 4 = 0 → raw &&& 0x1f0 = 0

/-- The offset field of an entry as a signed number of the entry's width. -/
def ROMTable.offset (t : ROMTable) (raw : BitVec 64) : Int :=
  if t.stride = 4 then (raw.setWidth 32 &&& ~~~0xfff#32).toInt else (raw &&& ~~~0xfff#64).toInt

section Base

variable {t : ROMTable} {raw : BitVec 64}

/-- An address that fits is the sum; a sum that does not fit is told by a comparison. -/
theorem wrapped_iff (base offset : BitVec 64) :
    (offset = 0 ∨ (0 < offset.toInt ∧ base + offset < base) ∨
      (offset.toInt < 0 ∧ base + offset > base)) ↔
      ¬(offset.toInt ≠ 0 ∧ 0 ≤ (base.toNat : Int) + offset.toInt ∧
        (base.toNat : Int) + offset.toInt < 2 ^ 64) := by
  have zero : offset = 0 ↔ offset.toNat = 0 := BitVec.toNat_inj.symm
  have small := base.isLt
  have bounded := offset.isLt
  rw [zero, gt_iff_lt, BitVec.lt_def, BitVec.lt_def, BitVec.toNat_add, BitVec.toInt_eq_toNat_cond]
  split <;> omega

theorem toNat_add_toInt {base offset : BitVec 64} (low : 0 ≤ (base.toNat : Int) + offset.toInt)
    (high : (base.toNat : Int) + offset.toInt < 2 ^ 64) :
    ((base + offset).toNat : Int) = base.toNat + offset.toInt := by
  have small := base.isLt
  have bounded := offset.isLt
  rw [BitVec.toInt_eq_toNat_cond] at low high ⊢
  rw [BitVec.toNat_add]
  split at low <;> split <;> omega

/-- The offset that `entryBase` adds. -/
theorem toInt_offset (t : ROMTable) (raw : BitVec 64) :
    (if t.stride = 4 then ((raw &&& ~~~0xfff#64).setWidth 32).signExtend 64
      else raw &&& ~~~0xfff#64).toInt =
      t.offset raw := by
  rw [ROMTable.offset]
  split
  · rw [BitVec.toInt_signExtend_of_le (by decide), BitVec.setWidth_and]
    rfl
  · rfl

/-- The low bits of a number. -/
theorem page_iff {w : Nat} (wide : 12 ≤ w) (x : BitVec w) :
    x &&& 0xfff#w = 0#w ↔ x.toNat % 4096 = 0 := by
  have mask : (0xfff#w).toNat = 2 ^ 12 - 1 :=
    Nat.mod_eq_of_lt (Nat.lt_of_lt_of_le (by decide) (Nat.pow_le_pow_right (by decide) wide))
  rw [← BitVec.toNat_inj, BitVec.toNat_and, mask, Nat.and_two_pow_sub_one_eq_mod]
  simp

theorem page_cleared {w : Nat} (wide : 12 ≤ w) (x : BitVec w) :
    (x &&& ~~~0xfff#w).toInt % 4096 = 0 := by
  have cleared : (x &&& ~~~0xfff#w) &&& 0xfff#w = 0#w := by
    rw [BitVec.and_assoc, BitVec.and_comm (~~~0xfff#w), BitVec.and_not_self]
    exact BitVec.and_zero
  have whole := (page_iff wide _).mp cleared
  obtain ⟨rest, rfl⟩ := Nat.exists_eq_add_of_le wide
  rw [BitVec.toInt_eq_toNat_cond, Nat.pow_add]
  generalize 2 ^ rest = scale
  split <;> omega

theorem page_offset (t : ROMTable) (raw : BitVec 64) : t.offset raw % 4096 = 0 := by
  rw [ROMTable.offset]
  split
  · exact page_cleared (by decide) _
  · exact page_cleared (by decide) _

/-- What `entryBase` accepts and computes. -/
theorem entryBase_eq (t : ROMTable) (raw : BitVec 64) :
    (∃ base, t.entryBase raw = .ok base ∧ (base.toNat : Int) = t.base.toNat + t.offset raw ∧
      t.offset raw ≠ 0) ∨
      (∃ err, t.entryBase raw = .error err) ∧
        ¬(t.offset raw ≠ 0 ∧ 0 ≤ (t.base.toNat : Int) + t.offset raw ∧
          (t.base.toNat : Int) + t.offset raw < 2 ^ 64) := by
  have signed := toInt_offset t raw
  rw [ROMTable.entryBase]
  generalize (if t.stride = 4 then ((raw &&& ~~~0xfff#64).setWidth 32).signExtend 64
    else raw &&& ~~~0xfff#64) = offset
    at signed ⊢
  rw [← signed]
  split
  · next wrapped => exact .inr ⟨⟨_, rfl⟩, (wrapped_iff t.base offset).mp wrapped⟩
  · next fits =>
      rw [wrapped_iff, not_not] at fits
      exact .inl ⟨_, rfl, toNat_add_toInt fits.2.1 fits.2.2, fits.1⟩

/-- A present entry decodes when its base does. -/
theorem decode_present (present : PresentEntry raw) :
    t.decode raw = (t.entryBase raw).map fun base =>
      ⟨raw, base, true, false, (raw >>> 4 &&& 0x1f).setWidth 8, raw &&& 4 ≠ 0⟩ := by
  have one : raw &&& 1 = 1 := by
    rw [show (1 : BitVec 64) = 3 &&& 1 from rfl, ← BitVec.and_assoc, present.marked]
  have two : raw &&& 2 = 2 := by
    rw [show (2 : BitVec 64) = 3 &&& 2 from rfl, ← BitVec.and_assoc, present.marked]
  have some : raw ≠ 0 := by
    rintro rfl
    exact absurd one (by decide)
  have allowed : ¬(raw &&& 0xe08 ≠ 0 ∨ (raw &&& 4 = 0 ∧ raw &&& 0x1f0 ≠ 0)) := by
    rintro (reserved | ⟨unpowered, power⟩)
    · exact reserved present.reserved
    · exact power (present.power unpowered)
  rw [ROMTable.decode]
  simp only [some, present.marked, one, two, allowed]
  cases t.entryBase raw <;> simp [Except.map]

variable {σ : Type} {reader : Source (StateM σ)} {index : Int} {s s' : σ}

/-- `ReadEntry` decodes the words it read. -/
theorem readEntry_run (inside : 0 ≤ index ∧ index < t.count)
    (read : t.readRaw reader (t.entryAddress index) s = (.ok raw, s')) :
    t.readEntry reader index s = ((t.decode raw).mapError
      (.wrap ("coresight: ROM entry at " ++ hex 0 (t.entryAddress index).toNat)), s') := by
  have within : ¬(index < 0 ∨ index ≥ t.count) := by omega
  rw [ROMTable.readEntry, if_neg within]
  refine (Logic.run_bind_ok read _).trans ?_
  cases t.decode raw <;> rfl

/-- The base of a present entry is the base of its table plus a signed offset. It is decoded
whenever that sum is another address. -/
theorem readEntry_based {σ : Type} (reader : Source (StateM σ)) (t : ROMTable) (index : Int)
    (raw : BitVec 64)
    (s s' : σ) (aligned : t.base &&& 0xfff = 0) (inside : 0 ≤ index ∧ index < t.count)
    (read : t.readRaw reader (t.entryAddress index) s = (.ok raw, s'))
    (present : PresentEntry raw) :
    ((∃ entry, t.readEntry reader index s = (.ok entry, s')) ↔
      t.offset raw ≠ 0 ∧ 0 ≤ (t.base.toNat : Int) + t.offset raw ∧
        (t.base.toNat : Int) + t.offset raw < 2 ^ 64) ∧
    ∀ entry, t.readEntry reader index s = (.ok entry, s') →
      entry.present = true ∧ (entry.base.toNat : Int) = t.base.toNat + t.offset raw ∧
        entry.base &&& 0xfff = 0 ∧ entry.base ≠ t.base := by
  have page := page_offset t raw
  have whole : t.base.toNat % 4096 = 0 := (page_iff (by decide) t.base).mp aligned
  rw [readEntry_run inside read, decode_present present]
  obtain ⟨base, decoded, sum, moved⟩ | ⟨⟨err, failed⟩, outside⟩ := entryBase_eq t raw
  · have small := base.isLt
    rw [decoded]
    refine ⟨⟨fun _ => ⟨moved, by omega, by omega⟩, fun _ => ⟨_, rfl⟩⟩, ?_⟩
    rintro entry ⟨⟩
    refine ⟨rfl, sum, (page_iff (by decide) base).mpr (by omega), ?_⟩
    rintro rfl
    exact moved (by omega)
  · rw [failed]
    exact ⟨⟨nofun, fun fits => absurd fits outside⟩, nofun⟩

/-- A table at the bottom of the address space whose first entry reaches below it, and one
whose first entry reaches its middle. -/
theorem readEntry_based_edges :
    let reader : Source (StateM (BitVec 64)) := ⟨pure none, fun _ => ExceptT.lift get⟩
    let low : ROMTable := ⟨0, 512, 4, 9⟩
    let high : ROMTable := ⟨0x8000000000000000, 960, 4, 1⟩
    (¬∃ entry, low.readEntry reader 0 0xfffff003 = (.ok entry, 0xfffff003)) ∧
      ∃ entry, high.readEntry reader 0 0x80000003 = (.ok entry, 0x80000003) ∧
        (entry.base.toNat : Int) = 2 ^ 63 - 2 ^ 31 ∧ entry.base &&& 0xfff = 0 := by
  intro reader low high
  have below := readEntry_based reader low 0 0xfffff003 0xfffff003 0xfffff003 (by decide)
    (by decide) (by rfl)
    ⟨by decide, by decide, by decide⟩
  have inside := readEntry_based reader high 0 0x80000003 0x80000003 0x80000003 (by decide)
    (by decide) (by rfl)
    ⟨by decide, by decide, by decide⟩
  refine ⟨fun decoded => absurd (below.1.mp decoded) (by decide), ?_⟩
  obtain ⟨entry, read⟩ := inside.1.mpr (by decide)
  exact ⟨entry, read, (inside.2 entry read).2.1.trans (by decide), (inside.2 entry read).2.2.1⟩

end Base

end Ostiole.Coresight
