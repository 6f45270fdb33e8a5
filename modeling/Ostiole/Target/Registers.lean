import Ostiole.Target.Port

/-!
# What the target's registers keep

Bit tests on CTRL/STAT, and for each elementary change of the target the fields
it leaves alone.
-/

namespace Ostiole

variable {mask : Word}

namespace Word

/-- A union shows a field when one of its parts does. -/
theorem has_or (first second mask : Word) :
    (first ||| second).has mask = (first.has mask || second.has mask) := by
  unfold Word.has
  rw [Bool.eq_iff_iff]
  simp [BitVec.and_or_distrib_right, BitVec.or_eq_zero_iff, ← not_and_or]

/-- A masked value shows the part of a field inside the mask. -/
theorem has_and (value kept mask : Word) :
    (value &&& kept).has mask = value.has (kept &&& mask) := by
  unfold Word.has
  rw [BitVec.and_assoc]

/-- A mask of several fields tests each of them. -/
theorem has_or_mask (value first second : Word) :
    value.has (first ||| second) = (value.has first || value.has second) := by
  unfold Word.has
  rw [Bool.eq_iff_iff]
  simp [BitVec.and_or_distrib_left, BitVec.or_eq_zero_iff, ← not_and_or]

/-- No field is no test. -/
@[simp] theorem has_zero_mask (value : Word) : value.has 0#32 = false := by
  simp [Word.has]

@[simp] theorem zero_has (mask : Word) : Word.has 0#32 mask = false := by
  simp [Word.has]

end Word

/-- The power requests, which the caller and the driver own. -/
def powerRequestFlags : Word := debugPowerRequest ||| systemPowerRequest

namespace Target

variable (t : Target)

/-- The power-request bits of CTRL/STAT. -/
def power : Word := t.ctrlStat &&& powerRequestFlags

/-- The turnaround field of DLCR. -/
def turnaround : Word := t.dlcr &&& dlcrTurnaroundMask

/-! ## Setting sticky flags -/

section SetSticky

variable (flags : Word)

@[simp] theorem setSticky_select : (t.setSticky flags).select = t.select := rfl
@[simp] theorem setSticky_dlcr : (t.setSticky flags).dlcr = t.dlcr := rfl
@[simp] theorem setSticky_dpBank : (t.setSticky flags).dpBank = t.dpBank := rfl

/-- Raising flags changes which requests are refused, not which are exempt. -/
@[simp] theorem setSticky_exempt (req : Request) :
    (t.setSticky flags).exempt req = t.exempt req := rfl

/-- Fields outside the sticky flags are untouched. -/
theorem setSticky_has_of_disjoint (disjoint : stickyFlags &&& mask = 0) :
    (t.setSticky flags).ctrlStat.has mask = t.ctrlStat.has mask := by
  simp [setSticky, Word.has_or, Word.has_and, disjoint]

/-- ORUNDETECT is no sticky flag. -/
@[simp] theorem setSticky_overrun : (t.setSticky flags).overrun = t.overrun :=
  t.setSticky_has_of_disjoint flags (by decide)

/-- The power requests are no sticky flags. -/
@[simp] theorem setSticky_power : (t.setSticky flags).power = t.power := by
  have disjoint : stickyFlags &&& powerRequestFlags = 0 := by decide
  simp [power, setSticky, BitVec.and_or_distrib_right, BitVec.and_assoc, disjoint]

/-- A flag that was set stays set. -/
theorem setSticky_has_mono (set : t.ctrlStat.has mask = true) :
    (t.setSticky flags).ctrlStat.has mask = true := by
  simp [setSticky, Word.has_or, set]

/-- A target that refuses requests goes on to do so. -/
theorem setSticky_sticky_mono (set : t.sticky = true) : (t.setSticky flags).sticky = true :=
  t.setSticky_has_mono flags set

/-- A raised flag is set. -/
theorem setSticky_has_self (inside : stickyFlags &&& mask = mask)
    (nonzero : Word.has mask mask = true) : (t.setSticky mask).ctrlStat.has mask = true := by
  simp [setSticky, Word.has_or, Word.has_and, inside, nonzero]

/-- Flags raised one after the other are raised together. -/
theorem setSticky_setSticky (later : Word) :
    (t.setSticky flags).setSticky later = t.setSticky (flags ||| later) := by
  simp [setSticky, BitVec.and_or_distrib_right, BitVec.or_assoc]

end SetSticky

/-- STICKYORUN is one of the flags that refuse requests. -/
theorem stickyOverrun_sticky {t : Target} (set : t.ctrlStat.has stickyOverrun = true) :
    t.sticky = true := by
  simp only [sticky, stickyFlags, Word.has_or_mask, set, Bool.true_or]

/-- So is WDATAERR. -/
theorem writeDataError_sticky {t : Target} (set : t.ctrlStat.has writeDataError = true) :
    t.sticky = true := by
  simp only [sticky, stickyFlags, Word.has_or_mask, set, Bool.or_true]

/-! ## ABORT -/

section Abort

variable (value : Word)

@[simp] theorem abort_select : (t.abort value).select = t.select := rfl
@[simp] theorem abort_dlcr : (t.abort value).dlcr = t.dlcr := rfl

/-- Fields outside the sticky flags are untouched. -/
theorem abort_overrun : (t.abort value).overrun = t.overrun := by
  unfold overrun abort
  simp only [Word.has_and]
  congr 1
  split <;> split <;> split <;> split <;> decide

/-- ABORT does not reach the power requests. -/
theorem abort_power : (t.abort value).power = t.power := by
  unfold power abort
  simp only [BitVec.and_assoc]
  congr 1
  split <;> split <;> split <;> split <;> decide

/-- Without WDERRCLR the abandoned-write flag stays. -/
theorem abort_writeDataError (keeps : value.has clearWriteDataError = false) :
    (t.abort value).ctrlStat.has writeDataError = t.ctrlStat.has writeDataError := by
  unfold abort
  simp only [Word.has_and, keeps]
  congr 1
  simp only [Bool.false_eq_true, if_false]
  split <;> split <;> split <;> decide

end Abort

/-! ## Writes -/

section Write

variable (req : Request) (value : Word)

@[simp] theorem writeCTRLSTAT_dlcr : (t.writeCTRLSTAT value).dlcr = t.dlcr := rfl

/-- A field inside the read-only part stays. -/
theorem writeCTRLSTAT_has_kept (kept : t.readOnly &&& mask = mask)
    (outside : ~~~t.readOnly &&& mask = 0) :
    (t.writeCTRLSTAT value).ctrlStat.has mask = t.ctrlStat.has mask := by
  simp [writeCTRLSTAT, Word.has_or, Word.has_and, kept, outside]

/-- A field outside the read-only part is written. -/
theorem writeCTRLSTAT_has_written (outside : t.readOnly &&& mask = 0)
    (written : ~~~t.readOnly &&& mask = mask) :
    (t.writeCTRLSTAT value).ctrlStat.has mask = value.has mask := by
  simp [writeCTRLSTAT, Word.has_or, Word.has_and, outside, written]

/-- The sticky flags are read-only. -/
@[simp] theorem writeCTRLSTAT_sticky : (t.writeCTRLSTAT value).sticky = t.sticky :=
  t.writeCTRLSTAT_has_kept value (by unfold readOnly; split <;> decide)
    (by unfold readOnly; split <;> decide)

/-- WDATAERR is read-only. -/
@[simp] theorem writeCTRLSTAT_writeDataError :
    (t.writeCTRLSTAT value).ctrlStat.has writeDataError = t.ctrlStat.has writeDataError :=
  t.writeCTRLSTAT_has_kept value (by unfold readOnly; split <;> decide)
    (by unfold readOnly; split <;> decide)

/-- ORUNDETECT is written where it is implemented. -/
theorem writeCTRLSTAT_overrun :
    (t.writeCTRLSTAT value).overrun =
      if t.overrunImplemented then value.has overrunDetect else t.overrun := by
  split
  · next implemented =>
      exact t.writeCTRLSTAT_has_written value (by simp only [readOnly, implemented]; decide)
        (by simp only [readOnly, implemented]; decide)
  · next missing =>
      exact t.writeCTRLSTAT_has_kept value (by simp only [readOnly, missing]; decide)
        (by simp only [readOnly, missing]; decide)

/-- The power requests are written. -/
theorem writeCTRLSTAT_power :
    (t.writeCTRLSTAT value).power = value &&& powerRequestFlags := by
  have outside : t.readOnly &&& powerRequestFlags = 0 := by unfold readOnly; split <;> decide
  have written : ~~~t.readOnly &&& powerRequestFlags = powerRequestFlags := by
    unfold readOnly; split <;> decide
  simp [power, writeCTRLSTAT, BitVec.and_or_distrib_right, BitVec.and_assoc, outside, written]

@[simp] theorem writeBanked_select : (t.writeBanked value).select = t.select := by
  unfold writeBanked; split_ifs <;> rfl

@[simp] theorem writeBanked_lockout : (t.writeBanked value).lockout = t.lockout := by
  unfold writeBanked; split_ifs <;> rfl

/-- No bank of offset 4 clears a sticky flag. -/
@[simp] theorem writeBanked_sticky : (t.writeBanked value).sticky = t.sticky := by
  unfold writeBanked; split_ifs <;> first | rfl | simp

@[simp] theorem writeBanked_writeDataError :
    (t.writeBanked value).ctrlStat.has writeDataError = t.ctrlStat.has writeDataError := by
  unfold writeBanked; split_ifs <;> first | rfl | simp

/-- DLCR is in bank one. -/
theorem writeBanked_dlcr :
    (t.writeBanked value).dlcr = if t.dpBank = 1 then value else t.dlcr := by
  unfold writeBanked
  by_cases zero : t.dpBank = 0
  · simp [zero]
  · split_ifs <;> rfl

/-- ORUNDETECT is in bank zero. -/
theorem writeBanked_overrun :
    (t.writeBanked value).overrun =
      if t.dpBank = 0 ∧ t.overrunImplemented = true then value.has overrunDetect
      else t.overrun := by
  unfold writeBanked
  by_cases zero : t.dpBank = 0
  · simp [zero, writeCTRLSTAT_overrun]
  · simp only [zero, if_false, false_and]; split_ifs <;> rfl

/-- The power requests are in bank zero. -/
theorem writeBanked_power :
    (t.writeBanked value).power =
      if t.dpBank = 0 then value &&& powerRequestFlags else t.power := by
  unfold writeBanked
  by_cases zero : t.dpBank = 0
  · simp [zero, writeCTRLSTAT_power]
  · simp only [zero, if_false]; split_ifs <;> rfl

/-- The register a write reaches. -/
theorem write_cases :
    (req.ap = true ∧ t.write req value =
      { t with apLog := t.apLog ++ [⟨t.select, t.selectHigh, req.addr, some value⟩] }) ∨
    (req.isABORTWrite = !req.read ∧ req.ap = false ∧ req.addr = 0x00#8 ∧
      t.write req value = t.abort value) ∨
    (req.ap = false ∧ req.addr = 0x04#8 ∧ t.write req value = t.writeBanked value) ∨
    (req.ap = false ∧ req.addr = 0x08#8 ∧ t.write req value = { t with select := value }) ∨
    (req.ap = false ∧ req.addr ≠ 0x00#8 ∧ req.addr ≠ 0x04#8 ∧ req.addr ≠ 0x08#8 ∧
      t.write req value = t) := by
  unfold write Request.isABORTWrite
  by_cases ap : req.ap <;> by_cases zero : req.addr = 0x00#8 <;> by_cases four :
    req.addr = 0x04#8 <;>
    by_cases eight : req.addr = 0x08#8 <;> simp_all

end Write

section Read

variable (t : Target) (c : FrameChoice)

/-- A CTRL/STAT read shows every field but the acknowledgements. -/
theorem readCTRLSTAT_and (visible : ~~~powerAckFlags &&& mask = mask)
    (disjoint : powerAckFlags &&& mask = 0) :
    t.readCTRLSTAT c &&& mask = t.ctrlStat &&& mask := by
  simp [readCTRLSTAT, BitVec.and_or_distrib_right, BitVec.and_assoc, visible, disjoint]

/-- The same for a bit test. -/
theorem readCTRLSTAT_has (visible : ~~~powerAckFlags &&& mask = mask)
    (disjoint : powerAckFlags &&& mask = 0) :
    (t.readCTRLSTAT c).has mask = t.ctrlStat.has mask := by
  simp [Word.has, t.readCTRLSTAT_and c visible disjoint]

/-- A read shows ORUNDETECT. -/
theorem readCTRLSTAT_overrun : (t.readCTRLSTAT c).has overrunDetect = t.overrun :=
  t.readCTRLSTAT_has c (by decide) (by decide)

/-- A read shows the power requests. -/
theorem readCTRLSTAT_power : t.readCTRLSTAT c &&& powerRequestFlags = t.power :=
  t.readCTRLSTAT_and c (by decide) (by decide)

end Read

section LineReset

/-- A line reset keeps the power requests. -/
@[simp] theorem lineReset_power : t.lineReset.power = t.power := by
  unfold lineReset
  split
  · exact t.setSticky_power stickyOverrun
  · rfl

/-- A line reset keeps ORUNDETECT. -/
@[simp] theorem lineReset_overrun : t.lineReset.overrun = t.overrun := by
  unfold lineReset
  split
  · exact t.setSticky_overrun stickyOverrun
  · rfl

end LineReset

end Target

end Ostiole
