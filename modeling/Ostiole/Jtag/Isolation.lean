import Ostiole.Jtag.Borrow
import Ostiole.Jtag.Scan

/-!
# TAP isolation

A borrowed TAP reaches its own device and no other: `ScanIR` puts the given
instruction in its instruction register and BYPASS in every other, and `ScanDR`
then reads and writes the register that instruction selects, past one bypass bit
for each other device.
-/

namespace Ostiole.Jtag

open Ostiole Logic

variable {data instruction : Buffer} {c : Chain} {ctx : Ctx} {d : Device} {layout : Layout}
    {bits index : Nat} {p : ScanPath} {t : TAP} {w w' : World}

/-! ## Fields of a buffer -/

theorem bits_slice (data : Buffer) {total start length : Nat} (fits : start + length ≤ total) :
    ((data.bits total).drop start).take length =
      (List.range length).map fun i => data.get (start + i) := by
  apply List.ext_getElem
  · simp [Buffer.bits]
    omega
  · intro i first second
    simp [Buffer.bits]

/-- The field of one register, extracted from the packed series. -/
theorem extract_pack {registers : List (List Bool)} {register : List Bool}
    (found : registers[index]? = some register) :
    (Buffer.pack registers.flatten).extract (Series.offset (registers.map List.length) index)
      register.length = .pack register := by
  apply Buffer.fill_congr
  intro i inside
  rw [Buffer.get_pack]
  conv_rhs => rw [Series.register_eq registers found]
  simp [inside]

theorem length_replaced (instruction : Buffer) (start count : Nat) (data : Buffer) :
    ((List.range count).foldl (fun (data : Buffer) i =>
      (data.clear (start + i)).put (start + i) (instruction.get i)) data).length = data.length := by
  induction count with
  | zero => rfl
  | succ count ih => simp [List.range_succ, ih]

/-- The loop of `TAP.ScanIR` replaces the bits of one field. -/
theorem get_replaced (instruction : Buffer) (start : Nat) {count : Nat}
    (fits : start + count ≤ 8 * data.length) (j : Nat) :
    ((List.range count).foldl (fun data i =>
      (data.clear (start + i)).put (start + i) (instruction.get i)) data).get j =
      if start ≤ j ∧ j < start + count then instruction.get (j - start) else data.get j := by
  induction count with
  | zero => simp
  | succ count ih =>
    have room := length_replaced instruction start count data
    rw [List.range_succ, List.foldl_append]
    simp only [List.foldl_cons, List.foldl_nil]
    rw [Buffer.get_put (by rw [Buffer.length_clear, room]; omega),
      Buffer.get_clear (by rw [room]; omega), ih (by omega)]
    by_cases last : start + count = j
    · subst last
      simp
    · have same : (start ≤ j ∧ j < start + count) ↔ (start ≤ j ∧ j < start + (count + 1)) := by
        omega
      simp [last, same]

theorem Layout.offset_eq (layout : Layout) (index : Nat) :
    layout.offset index = Series.offset (layout.map (·.ir)) index := by
  simp [Layout.offset, Layout.irBits, Series.offset, List.map_take]

theorem Layout.offset_add_le {later : Nat}
    (found : (layout.map (·.ir))[index]? = some bits) (before : index < later) :
    layout.offset index + bits ≤ layout.offset later := by
  rw [Layout.offset_eq, Layout.offset_eq]
  exact Series.offset_add_le found before

theorem Layout.offset_add_le_irBits
    (found : (layout.map (·.ir))[index]? = some bits) :
    layout.offset index + bits ≤ layout.irBits := by
  rw [Layout.offset_eq]
  exact Series.offset_add_le_sum found

/-- What `TAP.ScanIR` shifts: the instruction in its field and ones elsewhere. -/
theorem get_instructionData (instruction : Buffer)
    (found : (layout.map (·.ir))[index]? = some bits) {j : Nat} (inside : j < layout.irBits) :
    (instructionData layout layout.irBits index instruction).get j =
      if layout.offset index ≤ j ∧ j < layout.offset index + bits then
        instruction.get (j - layout.offset index)
      else true := by
  have fits := Layout.offset_add_le_irBits found
  have field : (layout.map (·.ir)).getD index 0 = bits := by
    rw [List.getD_eq_getElem?_getD, found]
    rfl
  unfold instructionData
  rw [field, get_replaced instruction _ (by rw [Buffer.length_ones]; omega), Buffer.get_ones inside]

/-! ## Devices after a scan -/

/-- A device after a scan through the whole series has updated from the bits
shifted in at its position. -/
theorem scanned_device {column : Column} {bits : List Bool}
    (full : bits.length = (p.devices.map (·.captured column)).flatten.length)
    (found : p.devices[index]? = some d) :
    (p.scanned column bits).devices[index]? = some ((d.setStage column
      ((bits.drop (Series.offset ((p.devices.map (·.captured column)).map List.length) index)).take
        (d.captured column).length)).update column) := by
  have register : (p.devices.map (·.captured column))[index]? = some (d.captured column) := by
    rw [List.getElem?_map, found]
    rfl
  have final := Series.run_register full register
  simp [ScanPath.scanned, List.getElem?_zipWith, found, final]

theorem scanned_found {column : Column} {bits : List Bool}
    {d' : Device} (found : (p.scanned column bits).devices[index]? = some d') :
    ∃ d, p.devices[index]? = some d := by
  have inside := (List.getElem?_eq_some_iff.mp found).1
  simp only [ScanPath.scanned, List.length_zipWith] at inside
  exact ⟨_, List.getElem?_eq_getElem (Nat.lt_of_lt_of_le inside (Nat.min_le_left _ _))⟩

/-- The devices after `TAP.ScanIR`: the instruction in the selected one, and ones
in every other. -/
structure Selected (p : ScanPath) (index : Nat) (instruction : Buffer) : Prop where
  chosen : ∀ d, p.devices[index]? = some d →
    d.instruction = instruction.bits d.spec.captureIR.length
  others : ∀ other d, other ≠ index → p.devices[other]? = some d →
    d.instruction = List.replicate d.spec.captureIR.length true

/-- The lengths of the instruction registers are the layout's. -/
def ScanPath.Fits (p : ScanPath) (layout : Layout) : Prop :=
  p.specs.map (·.captureIR.length) = layout.map (·.ir)

theorem ScanPath.Fits.lengths (fits : p.Fits layout) :
    (p.devices.map (·.captured .ir)).map List.length = layout.map (·.ir) := by
  rw [← fits, ScanPath.specs, List.map_map, List.map_map]
  rfl

/-- An instruction scan of the whole series selects one device. -/
theorem scanned_selected (fits : p.Fits layout)
    (inside : index < layout.length) (instruction : Buffer) :
    Selected (p.scanned .ir
      ((instructionData layout layout.irBits index instruction).bits layout.irBits))
      index instruction := by
  -- What any device holds afterwards, bit by bit.
  have held {k : Nat} {d' : Device} (found : (p.scanned .ir
      ((instructionData layout layout.irBits index instruction).bits layout.irBits)).devices[k]? =
        some d') :
      (layout.map (·.ir))[k]? = some d'.spec.captureIR.length ∧
        d'.instruction = (List.range d'.spec.captureIR.length).map fun i =>
          (instructionData layout layout.irBits index instruction).get (layout.offset k + i) := by
    obtain ⟨d, before⟩ := scanned_found found
    have length : (layout.map (·.ir))[k]? = some d.spec.captureIR.length := by
      rw [← fits.lengths, List.map_map, List.getElem?_map, before]
      rfl
    rw [scanned_device (by simp [List.length_flatten, fits.lengths, Layout.irBits]) before,
      fits.lengths, ← Layout.offset_eq] at found
    cases found
    exact ⟨length, bits_slice _ (Layout.offset_add_le_irBits length)⟩
  obtain ⟨bits, field⟩ : ∃ bits, (layout.map (·.ir))[index]? = some bits :=
    ⟨_, List.getElem?_eq_getElem (by simpa using inside)⟩
  refine ⟨fun d found => ?_, fun other d apart found => ?_⟩
  · obtain ⟨length, shifted⟩ := held found
    have fit := Layout.offset_add_le_irBits length
    rw [shifted, Buffer.bits]
    apply List.map_congr_left
    intro i member
    have small : i < d.spec.captureIR.length := List.mem_range.mp member
    rw [get_instructionData instruction length (Nat.lt_of_lt_of_le (by omega) fit),
      if_pos (by omega), Nat.add_sub_cancel_left]
  · obtain ⟨length, shifted⟩ := held found
    have fit := Layout.offset_add_le_irBits length
    rw [shifted, List.eq_replicate_iff]
    refine ⟨by simp, fun value member => ?_⟩
    obtain ⟨i, position, rfl⟩ := List.mem_map.mp member
    have small : i < d.spec.captureIR.length := List.mem_range.mp position
    -- Fields of different devices do not overlap.
    have outside : ¬(layout.offset index ≤ layout.offset other + i ∧
        layout.offset other + i < layout.offset index + bits) := by
      rcases Nat.lt_or_gt_of_ne apart with before | after
      · have order := Layout.offset_add_le length before
        omega
      · have order := Layout.offset_add_le field after
        omega
    rw [get_instructionData instruction field (Nat.lt_of_lt_of_le (by omega) fit), if_neg outside]

/-- Every device but one has its bypass register selected. -/
def ScanPath.Bypassing (p : ScanPath) (index : Nat) : Prop :=
  ∀ other d, other ≠ index → p.devices[other]? = some d → d.bypassed = true

theorem Selected.bypassing
    (selected : Selected p index instruction) : p.Bypassing index := by
  intro other d apart found
  rw [Device.bypassed, selected.others other d apart found]
  simp

/-- The positions in the data series of a device whose neighbours are bypassed. -/
theorem ScanPath.Bypassing.positions (bypassing : p.Bypassing index)
    (found : p.devices[index]? = some d) :
    Series.offset ((p.devices.map (·.captured .dr)).map List.length) index = index ∧
      (p.devices.map (·.captured .dr)).flatten.length + 1 =
        (d.captured .dr).length + p.devices.length := by
  have register : ((p.devices.map (·.captured .dr)).map List.length)[index]? =
      some (d.captured .dr).length := by
    simp [found]
  have single (other value : Nat) (apart : other ≠ index)
      (held : ((p.devices.map (·.captured .dr)).map List.length)[other]? = some value) :
      value = 1 := by
    simp only [List.map_map, List.getElem?_map, Option.map_eq_some_iff, Function.comp_apply] at held
    obtain ⟨d', found', rfl⟩ := held
    simp [Device.captured, bypassing other d' apart found']
  have positions := Series.offset_of_ones register single
  rw [List.length_flatten]
  simpa using positions

/-- A data scan past bypassed neighbours writes the selected register. -/
theorem scanned_written (bypassing : p.Bypassing index)
    (found : p.devices[index]? = some d) (data : Buffer) :
    (p.scanned .dr (((Buffer.zeros ((d.captured .dr).length + p.devices.length - 1)).putAll index
      (d.captured .dr).length data.get).bits
        ((d.captured .dr).length + p.devices.length - 1))).devices[index]? =
      some ((d.setStage .dr (data.bits (d.captured .dr).length)).update .dr) := by
  obtain ⟨offset, total⟩ := bypassing.positions found
  have inside : index < p.devices.length := (List.getElem?_eq_some_iff.mp found).1
  have field : ((List.range (d.captured .dr).length).map fun i =>
      ((Buffer.zeros ((d.captured .dr).length + p.devices.length - 1)).putAll index
        (d.captured .dr).length data.get).get (index + i)) = data.bits (d.captured .dr).length := by
    apply List.map_congr_left
    intro i member
    have small : i < (d.captured .dr).length := List.mem_range.mp member
    rw [Buffer.get_putAll (by rw [Buffer.length_zeros]; omega)]
    simp [small]
  rw [scanned_device (by rw [Buffer.length_bits]; omega) found, offset,
    bits_slice _ (by omega), field]

/-! ## The TAP methods -/

/-- The connection is in Idle, or has lost its state without clocking. -/
def World.Resting (w : World) : Prop := w.conn.state = .idle ∨ w.conn.state = .unknown

/-- A scan of a chain, once it is completed, has scanned the devices if it succeeded. -/
theorem complete_scanned {input : Buffer} {bits : Int} {column : Column} {capture : Option Buffer}
    {err : Option Err} {middle : World} (tracked : Tracked w)
    (ran : scan ctx input bits column w = ((capture, err), middle)) (name : Nat) :
    (complete name err middle).1 = err ∧ (err = none → ∃ output start, capture = some output ∧
      Scanned w (complete name err middle).2 column (input.bits bits.toNat) start ∧
      (complete name err middle).2.scanPath.specs = w.scanPath.specs ∧
      (w.env.Honest → output = .pack
        (Series.run (start.devices.map (·.captured column)) (input.bits bits.toNat)).1)) := by
  obtain ⟨moved, -⟩ := scan_keeps ctx input bits column w tracked
  have completed (clean : (scan ctx input bits column w).1.2 = none) := scan_completed tracked clean
  rw [ran] at moved completed
  obtain ⟨same, conn, path, worked⟩ := complete_spec moved.toWired name err
  refine ⟨same, fun clean => ?_⟩
  obtain ⟨-, output, start, returned, scanned, filled⟩ := completed clean
  refine ⟨output, start, returned, ⟨moved.env, scanned.known, scanned.idle, scanned.moved, ?_, ?_⟩,
    ?_, filled⟩
  · exact path.trans scanned.scanPath
  · exact (congrArg Conn.state conn).trans scanned.state
  · exact (congrArg ScanPath.specs path).trans moved.specs

/-- The scan behind a successful `TAP.ScanIR`. -/
theorem tapScanIR_ok {captured : Buffer} (tracked : Tracked w)
    (returned : tapScanIR ctx t instruction w = (.ok captured, w')) :
    ∃ (c : Chain) (output : Buffer) (start : ScanPath), scanIRRefusal w t instruction = .ok c ∧
      captured = output.extract (c.layout.offset t.index)
        ((c.layout.map (·.ir)).getD t.index 0) ∧
      Scanned w w' .ir ((instructionData c.layout c.irBits t.index instruction).bits c.irBits)
        start ∧ w'.scanPath.specs = w.scanPath.specs ∧
      (w.env.Honest → output = .pack (Series.run (start.devices.map (·.captured .ir))
        ((instructionData c.layout c.irBits t.index instruction).bits c.irBits)).1) := by
  unfold tapScanIR at returned
  rw [run_get_bind] at returned
  cases passed : scanIRRefusal w t instruction with
  | error err => rw [passed] at returned; cases returned
  | ok c =>
    rcases ran : scan ctx (instructionData c.layout c.irBits t.index instruction) c.irBits .ir w
      with ⟨⟨capture, err⟩, middle⟩
    obtain ⟨same, completed⟩ := complete_scanned tracked ran t.chain
    rw [passed] at returned
    simp only at returned
    rw [run_bind, show scanIR ctx _ _ w = _ from ran] at returned
    simp only at returned
    rw [run_bind, same] at returned
    cases err with
    | some err => cases returned
    | none =>
      obtain ⟨output, start, rfl, scanned, specs, filled⟩ := completed rfl
      obtain ⟨ok, rfl⟩ := Prod.mk.inj returned
      exact ⟨c, output, start, rfl, (Except.ok.inj ok).symm, { scanned with }, specs, filled⟩

/-- The scan behind a successful `TAP.ScanDR`. -/
theorem tapScanDR_ok {read : Buffer} {bits : Int} (tracked : Tracked w)
    (returned : tapScanDR ctx t data bits w = (.ok read, w')) :
    ∃ (c : Chain) (output : Buffer) (start : ScanPath), scanDRRefusal w t data bits = .ok c ∧
      read = output.extract t.index bits.toNat ∧
      let total := bits.toNat + c.layout.length - 1
      let input := (Buffer.zeros total).putAll t.index bits.toNat data.get
      Scanned w w' .dr (input.bits total) start ∧
      (w.env.Honest →
        output = .pack (Series.run (start.devices.map (·.captured .dr)) (input.bits total)).1) := by
  unfold tapScanDR at returned
  rw [run_get_bind] at returned
  cases passed : scanDRRefusal w t data bits with
  | error err => rw [passed] at returned; cases returned
  | ok c =>
    let total := bits.toNat + c.layout.length - 1
    rcases ran : scan ctx ((Buffer.zeros total).putAll t.index bits.toNat data.get) total .dr w
      with ⟨⟨capture, err⟩, middle⟩
    obtain ⟨same, completed⟩ := complete_scanned tracked ran t.chain
    rw [passed] at returned
    simp only at returned
    rw [run_bind, show scanDR ctx _ _ w = _ from ran] at returned
    simp only at returned
    rw [run_bind, same] at returned
    cases err with
    | some err => cases returned
    | none =>
      obtain ⟨output, start, rfl, scanned, -, filled⟩ := completed rfl
      obtain ⟨ok, rfl⟩ := Prod.mk.inj returned
      exact ⟨c, output, start, rfl, (Except.ok.inj ok).symm, scanned, filled⟩

/-- A successful `TAP.ScanIR` selects its own device alone and returns what that
device captured. -/
theorem tapScanIR_selected
    {captured : Buffer} (tracked : Tracked w)
    (chain : w.chains[t.chain]? = some c) (total : c.irBits = c.layout.irBits)
    (inside : t.index < c.layout.length) (fits : w.scanPath.Fits c.layout)
    (returned : tapScanIR ctx t instruction w = (.ok captured, w')) :
    w'.conn.state = .idle ∧ w'.scanPath.specs = w.scanPath.specs ∧
      Selected w'.scanPath t.index instruction ∧
      (w.env.Honest → ∀ d, w'.scanPath.devices[t.index]? = some d →
        captured = .pack d.spec.captureIR) := by
  obtain ⟨c', output, start, passed, rfl, scanned, specs, filled⟩ := tapScanIR_ok tracked returned
  obtain rfl : c' = c := Option.some.inj ((scanIRRefusal_ok passed).2.1.symm.trans chain)
  rw [total] at scanned filled
  have startFits : start.Fits c'.layout := by
    rw [ScanPath.Fits, scanned.specs]
    exact fits
  refine ⟨scanned.state, specs, ?_, fun honest d found => ?_⟩
  · rw [scanned.scanPath]
    exact scanned_selected startFits inside instruction
  · have registers : start.devices.map (·.captured .ir) =
        w'.scanPath.specs.map (·.captureIR) := by
      rw [specs, ← scanned.specs, ScanPath.specs, List.map_map]
      rfl
    have register : (start.devices.map (·.captured .ir))[t.index]? = some d.spec.captureIR := by
      rw [registers, ScanPath.specs, List.map_map, List.getElem?_map, found]
      rfl
    have length : (c'.layout.map (·.ir)).getD t.index 0 = d.spec.captureIR.length := by
      rw [← startFits.lengths, List.getD_eq_getElem?_getD, List.getElem?_map, register]
      rfl
    have full : ((instructionData c'.layout c'.layout.irBits t.index instruction).bits
        c'.layout.irBits).length = (start.devices.map (·.captured .ir)).flatten.length := by
      simp [List.length_flatten, startFits.lengths, Layout.irBits]
    rw [filled honest, (Series.run_full full).1, length, Layout.offset_eq, ← startFits.lengths]
    exact extract_pack register

/-- A successful `TAP.ScanDR` past bypassed devices writes its data to the
selected register and returns what that register captured. -/
theorem tapScanDR_written {read : Buffer}
    {bits : Int} (tracked : Tracked w)
    (chain : w.chains[t.chain]? = some c) (resting : w.Resting)
    (fits : w.scanPath.Fits c.layout) (bypassing : w.scanPath.Bypassing t.index)
    (found : w.scanPath.devices[t.index]? = some d)
    (long : ((d.captured .dr).length : Int) = bits)
    (returned : tapScanDR ctx t data bits w = (.ok read, w')) :
    w'.scanPath.devices[t.index]? =
      some ((d.setStage .dr (data.bits (d.captured .dr).length)).update .dr) ∧
      (w.env.Honest → read = .pack (d.captured .dr)) := by
  have count : c.layout.length = w.scanPath.devices.length := by
    simpa [ScanPath.specs] using (congrArg List.length fits).symm
  obtain ⟨offset, total⟩ := bypassing.positions found
  obtain ⟨c', output, start, passed, rfl, scanned, filled⟩ := tapScanDR_ok tracked returned
  obtain rfl : c' = c := Option.some.inj ((scanDRRefusal_ok passed).2.1.symm.trans chain)
  obtain rfl := long
  obtain rfl := scanned.resting (resting.resolve_right scanned.known)
  simp only [Int.toNat_natCast, count] at scanned filled ⊢
  refine ⟨?_, fun honest => ?_⟩
  · rw [scanned.scanPath]
    exact scanned_written bypassing found data
  · have register : (w.scanPath.devices.map (·.captured .dr))[t.index]? =
        some (d.captured .dr) := by
      rw [List.getElem?_map, found]
      rfl
    have sampled := filled honest
    rw [(Series.run_full (by rw [Buffer.length_bits]; omega)).1] at sampled
    rw [sampled]
    conv_lhs => rw [← offset]
    exact extract_pack register

/-! ## The selection over whole runs -/

/-- The instructions in force. -/
def ScanPath.instructions (p : ScanPath) : List (List Bool) := p.devices.map (·.instruction)

theorem ScanPath.Bypassing.of_instructions {p' : ScanPath}
    (bypassing : p.Bypassing index) (same : p'.instructions = p.instructions) :
    p'.Bypassing index := by
  intro other d' apart found'
  have held : p.instructions[other]? = some d'.instruction := by
    rw [← same, ScanPath.instructions, List.getElem?_map, found']
    rfl
  rw [ScanPath.instructions, List.getElem?_map] at held
  obtain ⟨d, found, instruction⟩ := Option.map_eq_some_iff.mp held
  rw [Device.bypassed, ← instruction]
  exact bypassing other d apart found

/-- A data scan leaves the instructions in force. -/
theorem scanned_instructions (p : ScanPath) (bits : List Bool) :
    (p.scanned .dr bits).instructions = p.instructions := by
  have fit : (Series.run (p.devices.map (·.captured .dr)) bits).2.length = p.devices.length := by
    simpa using congrArg List.length (Series.run_lengths (p.devices.map (·.captured .dr)) bits)
  apply List.ext_getElem
  · simp [ScanPath.instructions, ScanPath.scanned, fit]
  · intro index first second
    simp [ScanPath.instructions, ScanPath.scanned, Device.update]

/-- The devices rest and their instructions are the same. -/
structure Undisturbed (w w' : World) : Prop where
  resting : w.Resting → w'.Resting
  instructions : w.Resting → w'.scanPath.instructions = w.scanPath.instructions

theorem Undisturbed.of_still (path : w'.scanPath = w.scanPath)
    (state : w'.conn.state = w.conn.state ∨ w'.conn.state = .unknown) : Undisturbed w w' where
  resting rests := by
    rcases state with same | lost
    · rwa [World.Resting, same]
    · exact .inr lost
  instructions _ := congrArg _ path

theorem Undisturbed.trans {middle : World} (first : Undisturbed w middle)
    (second : Undisturbed middle w') : Undisturbed w w' where
  resting rests := second.resting (first.resting rests)
  instructions rests :=
    (second.instructions (first.resting rests)).trans (first.instructions rests)

theorem tapScanDR_undisturbed {bits : Int}
    (tracked : Tracked w) (passed : errorOf (tapScanDR ctx t data bits w).1 = none) :
    Undisturbed w (tapScanDR ctx t data bits w).2 := by
  rcases returned : tapScanDR ctx t data bits w with ⟨err | read, w'⟩
  · rw [returned] at passed
    cases passed
  · obtain ⟨c, output, start, -, -, scanned, -⟩ := tapScanDR_ok tracked returned
    refine ⟨fun _ => .inl scanned.state, fun rests => ?_⟩
    obtain rfl := scanned.resting (rests.resolve_right scanned.known)
    exact (congrArg ScanPath.instructions scanned.scanPath).trans (scanned_instructions _ _)

theorem tapIdle_undisturbed {cycles : Int} (tracked : Tracked w)
    (passed : (tapIdle ctx t cycles w).1 = none) : Undisturbed w (tapIdle ctx t cycles w).2 := by
  unfold tapIdle at passed ⊢
  rw [run_get_bind, run_ite] at passed ⊢
  split_ifs at passed ⊢ with invalid
  · cases passed
  · rw [run_bind] at passed ⊢
    obtain ⟨moved, -⟩ := idle_keeps ctx cycles w tracked
    have completed (rests : w.Resting) (clean : (idle ctx cycles w).1 = none) :=
      idle_completed tracked rests clean
    generalize idle ctx cycles w = outcome at passed moved completed ⊢
    obtain ⟨err, middle⟩ := outcome
    obtain ⟨returned, conn, path, -⟩ := complete_spec moved.toWired t.chain err
    obtain rfl : err = none := returned.symm.trans passed
    refine ⟨fun rests => ?_, fun rests => ?_⟩
    · unfold World.Resting
      rw [congrArg Conn.state conn, show middle.conn.state = _ from (completed rests rfl).2]
      exact rests
    · exact congrArg _ (path.trans (completed rests rfl).1)

theorem perform_call (call : Call) (w : World) : (call.perform w).1.call = call := by
  cases call with
  | conn _ | connect _ _ | release _ _ => rfl
  | lend chain index =>
    simp only [Call.perform]
    split <;> rfl
  | scanIR _ tap _ | scanDR _ tap _ _ | idle _ tap _ =>
    simp only [Call.perform]
    cases w.taps[tap]? <;> rfl

/-- A call that leaves a chain ready, and scans no instruction through it, leaves
the devices undisturbed. -/
theorem perform_undisturbed {call : Call} (sound : Sound w) {name : Nat}
    (found : (call.perform w).2.chains[name]? = some c) (valid : c.valid = true)
    (current : c.serial = (call.perform w).2.conn.serial)
    (silent : ¬(call.perform w).1.ScansIR name) : Undisturbed w (call.perform w).2 := by
  have effect := perform_effect call sound.tracked
  obtain ⟨c₀, before, step⟩ := effect.chains name c found
  have quiet (sent : (call.perform w).1.sent = false) : Undisturbed w (call.perform w).2 :=
    .of_still (effect.still sent).1 (effect.still sent).2
  cases step with
  | untouched same =>
    -- The chain's stamp is not from the future, so nothing was sent.
    obtain ⟨count, -, grown, sent⟩ := effect.counted
    have bound := sound.serial name c₀ before
    rw [same] at current
    exact quiet (sent.trans (by simp; omega))
  | parked same _ parked =>
    rw [same] at valid
    exact absurd ((sound.released _ _ before valid).symm.trans parked) nofun
  | renewed renews => exact absurd renews.scansIR silent
  | worked through _ handed _ _ _ _ _ outcome =>
    have passed := outcome valid
    cases call with
    | conn _ => cases through
    | connect _ _ | release _ _ => exact absurd (Option.some.inj through) silent
    | lend chain index =>
      simp only [Call.perform] at handed
      split at handed <;> cases handed
    | scanIR ctx tap instruction =>
      refine absurd ?_ silent
      rw [Record.ScansIR, perform_call]
      exact ⟨through, handed⟩
    | scanDR ctx tap data bits =>
      simp only [Call.perform] at passed ⊢
      cases held : w.taps[tap]? with
      | none => rw [held] at passed; cases passed
      | some t =>
        rw [held] at passed
        exact tapScanDR_undisturbed sound.tracked passed
    | idle ctx tap cycles =>
      simp only [Call.perform] at passed ⊢
      cases held : w.taps[tap]? with
      | none => rw [held] at passed; cases passed
      | some t =>
        rw [held] at passed
        exact tapIdle_undisturbed sound.tracked passed

/-- While a chain that fits the devices is ready, they rest with the TAP it
selected alone. -/
def Settled (w : World) : Prop :=
  ∀ (name : Nat) c index, w.chains[name]? = some c → c.valid = true → c.serial = w.conn.serial →
    c.selected = some index → w.scanPath.Fits c.layout → w.Resting ∧ w.scanPath.Bypassing index

/-- A `TAP.ScanIR` of a run that succeeds selects its own device alone. -/
theorem perform_scanIR (sound : Sound w)
    {captured : Buffer} (lent : t ∈ w.taps) (chain : w.chains[t.chain]? = some c)
    (fits : w.scanPath.Fits c.layout)
    (returned : tapScanIR ctx t instruction w = (.ok captured, w')) :
    w'.conn.state = .idle ∧ Selected w'.scanPath t.index instruction ∧
      (w.env.Honest → ∀ d, w'.scanPath.devices[t.index]? = some d →
        captured = .pack d.spec.captureIR) := by
  obtain ⟨c₀, chain₀, -, inside⟩ := sound.lent t lent
  obtain rfl : c = c₀ := Option.some.inj (chain.symm.trans chain₀)
  obtain ⟨idle, -, selected⟩ := tapScanIR_selected sound.tracked chain (sound.irBits _ c chain)
    inside fits returned
  exact ⟨idle, selected⟩

theorem perform_settled (call : Call) (sound : Sound w) (settled : Settled w) :
    Settled (call.perform w).2 := by
  intro name c' index found valid current selected fits'
  have effect := perform_effect call sound.tracked
  obtain ⟨c, before, step⟩ := effect.chains name c' found
  obtain ⟨c₀, before₀, layout, -⟩ := effect.layouts name c' found
  obtain rfl : c = c₀ := Option.some.inj (before.symm.trans before₀)
  have fits : w.scanPath.Fits c.layout := by
    rwa [ScanPath.Fits, effect.specs, layout] at fits'
  have older (wasValid : c.valid = true) (wasCurrent : c.serial = w.conn.serial)
      (wasSelected : c.selected = some index) (silent : ¬(call.perform w).1.ScansIR name) :
      (call.perform w).2.Resting ∧ (call.perform w).2.scanPath.Bypassing index := by
    obtain ⟨rests, bypassing⟩ := settled name c index before wasValid wasCurrent wasSelected fits
    have undisturbed := perform_undisturbed sound found valid current silent
    exact ⟨undisturbed.resting rests,
      bypassing.of_instructions (undisturbed.instructions rests)⟩
  cases step with
  | untouched same elsewhere refused =>
    obtain ⟨count, -, grown, -⟩ := effect.counted
    have bound := sound.serial name c before
    subst same
    refine older valid (by omega) selected fun scans => ?_
    rcases scans.renews_or_handed with renews | ⟨through, handed⟩
    · exact elsewhere renews
    · exact absurd ((refused through).1.symm.trans handed) nofun
  | parked same _ parked =>
    subst same
    exact absurd ((sound.released _ _ before valid).symm.trans parked) nofun
  | renewed _ _ _ fresh => exact absurd ((fresh valid).1.symm.trans selected) nofun
  | worked _ _ _ wasValid ready _ _ _ _ selects =>
    rcases selects valid with ⟨chosen, now, selects⟩ | ⟨same, silent⟩
    · obtain rfl : chosen = index := Option.some.inj (now.symm.trans selected)
      rw [Record.Selects, perform_call] at selects
      cases call with
      | scanIR ctx tap instruction =>
        obtain ⟨passed, t, held, rfl, rfl⟩ := selects
        simp only [Call.perform] at passed held ⊢
        cases lent : w.taps[tap]? with
        | none => rw [lent] at held; cases held
        | some t' =>
          rw [lent] at passed held
          obtain rfl : t' = t := Option.some.inj held
          cases result : tapScanIR ctx t' instruction w with
          | mk outcome after =>
            simp only [result] at passed ⊢
            cases outcome with
            | error err => cases passed
            | ok captured =>
              obtain ⟨idle, chosen, -⟩ := perform_scanIR sound
                (List.mem_of_getElem? lent) before fits result
              exact ⟨.inl idle, chosen.bypassing⟩
      | _ => exact selects.elim
    · exact older wasValid ready (same.symm.trans selected) silent

theorem fresh_settled (env : Env) (clock : Nat) (scanPath : ScanPath) (completionTimeout : Int)
    (layouts : List Layout) :
    Settled (.fresh env clock scanPath completionTimeout (newChains layouts)) := by
  intro name c index found valid
  exact absurd ((newChains_parked (List.mem_of_getElem? found)).1.symm.trans valid) nofun

/-- Every world of a run is sound and settled. -/
theorem performAll_settled (sound : Sound w) (settled : Settled w)
    (calls : List Call) :
    Sound (performAll w calls).2 ∧ Settled (performAll w calls).2 := by
  induction calls generalizing w with
  | nil => exact ⟨sound, settled⟩
  | cons call calls ih =>
    exact ih ((perform_effect call sound.tracked).sound sound)
      (perform_settled call sound settled)

theorem performAll_lent (sound : Sound w) (lent : t ∈ w.taps)
    (calls : List Call) : t ∈ (performAll w calls).2.taps := by
  induction calls generalizing w with
  | nil => exact lent
  | cons call calls ih =>
    have effect := perform_effect call sound.tracked
    exact ih (effect.sound sound) (effect.lent lent)

/-- A TAP that is valid after a run was valid before it. -/
theorem performAll_valid (sound : Sound w) (lent : t ∈ w.taps)
    (calls : List Call) (valid : (performAll w calls).2.valid t = true) : w.valid t = true := by
  induction calls generalizing w with
  | nil => exact valid
  | cons call calls ih =>
    have effect := perform_effect call sound.tracked
    have next := ih (effect.sound sound) (effect.lent lent) valid
    exact (effect.valid_before sound lent next).1

/-- Calls that leave a TAP valid, and scan no instruction through its chain, leave
the devices undisturbed. -/
theorem performAll_undisturbed (sound : Sound w) (lent : t ∈ w.taps)
    (calls : List Call) (valid : (performAll w calls).2.valid t = true)
    (silent : ∀ r ∈ (performAll w calls).1, ¬r.ScansIR t.chain) :
    Undisturbed w (performAll w calls).2 := by
  induction calls generalizing w with
  | nil => exact .of_still rfl (.inl rfl)
  | cons call calls ih =>
    have effect := perform_effect call sound.tracked
    have next := performAll_valid (effect.sound sound) (effect.lent lent) calls valid
    obtain ⟨c, found, isValid, current, -⟩ := valid_iff.mp next
    have first := perform_undisturbed sound found isValid current (silent _ List.mem_cons_self)
    exact first.trans (ih (effect.sound sound) (effect.lent lent) valid
      fun r member => silent r (List.mem_cons_of_mem _ member))

/-- No call changes the wire, the devices' makes or a layout. -/
theorem performAll_fixed (sound : Sound w) (calls : List Call) :
    (performAll w calls).2.env = w.env ∧
      (performAll w calls).2.scanPath.specs = w.scanPath.specs ∧
      ∀ (name : Nat) c', (performAll w calls).2.chains[name]? = some c' →
        ∃ c, w.chains[name]? = some c ∧ c'.layout = c.layout := by
  induction calls generalizing w with
  | nil => exact ⟨rfl, rfl, fun name c' found => ⟨c', found, rfl⟩⟩
  | cons call calls ih =>
    have effect := perform_effect call sound.tracked
    obtain ⟨env, specs, layouts⟩ := ih (effect.sound sound)
    refine ⟨env.trans effect.env, specs.trans effect.specs, fun name c' found => ?_⟩
    obtain ⟨c, middle, layout⟩ := layouts name c' found
    obtain ⟨c₀, before, layout₀, -⟩ := effect.layouts name c middle
    exact ⟨c₀, before, layout.trans layout₀⟩

/-- A `TAP.ScanDR` of a run that succeeds, of the length of the selected register,
writes that register and returns what it captured. -/
theorem perform_scanDR (sound : Sound w) (settled : Settled w) {read : Buffer} {bits : Int}
    (chain : w.chains[t.chain]? = some c) (fits : w.scanPath.Fits c.layout)
    (found : w.scanPath.devices[t.index]? = some d)
    (long : ((d.captured .dr).length : Int) = bits)
    (returned : tapScanDR ctx t data bits w = (.ok read, w')) :
    w.valid t = true ∧ (∃ d', w'.scanPath.devices[t.index]? = some d' ∧
      d'.written d.instruction = data.bits bits.toNat) ∧
      (w.env.Honest → read = .pack (d.captured .dr)) := by
  obtain ⟨c', -, -, passed, -⟩ := tapScanDR_ok sound.tracked returned
  obtain ⟨valid, chain', selected, -⟩ := scanDRRefusal_ok passed
  obtain rfl : c = c' := Option.some.inj (chain.symm.trans chain')
  obtain ⟨c₀, chain₀, isValid, current, -⟩ := valid_iff.mp valid
  obtain rfl : c = c₀ := Option.some.inj (chain.symm.trans chain₀)
  obtain ⟨rests, bypassing⟩ := settled t.chain c t.index chain isValid current selected fits
  obtain ⟨device, reads⟩ := tapScanDR_written sound.tracked chain rests fits bypassing found long
    returned
  refine ⟨valid, ⟨_, device, ?_⟩, reads⟩
  simp [Device.update, ← long]

end Ostiole.Jtag
