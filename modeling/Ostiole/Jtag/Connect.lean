import Ostiole.Jtag.Measure

/-!
# Connecting

`Connect` against the devices. On a working wire it accepts those that the layout describes.
Whatever the wire does, as long as it is honest, devices that were accepted have the layout's
reset registers and as many instruction bits, and are left in bypass.
-/

namespace Ostiole.Jtag

open Ostiole Logic

variable {c : Chain} {ctx : Ctx} {layout : Layout} {found : List ObservedTAP} {name : Nat}
    {p : ScanPath} {w w' : World}

/-! ## Devices that match -/

theorem TAPSpec.Made.ir {spec : TAPSpec} (made : spec.Made) : 2 ≤ spec.ir ∧ spec.ir ≤ 64 := by
  rcases made with ⟨irBits, id, made⟩ | ⟨irBits, made⟩
  · unfold TAPSpec.idcode at made
    split_ifs at made with invalid
    cases made
    simp only
    omega
  · unfold TAPSpec.bypass at made
    split_ifs at made
    cases made
    simp only
    omega

theorem Layout.irBits_bounds (made : ∀ spec ∈ layout, spec.Made) :
    2 * layout.length ≤ layout.irBits ∧ layout.irBits ≤ 64 * layout.length := by
  induction layout with
  | nil => simp [Layout.irBits]
  | cons spec rest ih =>
    have bounds := (made spec List.mem_cons_self).ir
    have others := ih fun spec member => made spec (List.mem_cons_of_mem _ member)
    simp only [Layout.irBits, List.map_cons, List.sum_cons, List.length_cons] at others ⊢
    omega

theorem captureIR_length {specs : List DeviceSpec}
    (matched : List.Forall₂ DeviceSpec.Matches specs layout) :
    (specs.map (·.captureIR)).flatten.length = layout.irBits := by
  induction matched with
  | nil => rfl
  | cons first rest ih =>
    simp only [List.map_cons, List.flatten_cons, List.length_append, ih,
      first.length, Layout.irBits, List.sum_cons]

theorem checkReset_accepts (i : Nat) (layout : Layout) :
    checkReset i layout (layout.map (·.reset)) = none := by
  induction layout generalizing i with
  | nil => rfl
  | cons spec rest ih =>
    rw [List.map_cons, checkReset, if_neg (by simp)]
    exact ih (i + 1)

/-- The captured boundaries of devices that match pass. -/
theorem checkIRLoop_accepts (capture : Buffer) (total : Nat) {specs : List DeviceSpec}
    (matched : List.Forall₂ DeviceSpec.Matches specs layout) :
    ∀ i offset, (∀ j, offset + j < total →
        capture.get (offset + j) = (specs.map (·.captureIR)).flatten.getD j true) →
      offset + (specs.map (·.captureIR)).flatten.length ≤ total →
      checkIRLoop capture i offset layout =
        .ok (offset + (specs.map (·.captureIR)).flatten.length) := by
  induction matched with
  | nil => exact fun i offset _ _ => rfl
  | cons first rest ih =>
    rename_i s spec specs layout
    intro i offset bits fits
    simp only [List.map_cons, List.flatten_cons, List.length_append] at bits fits
    obtain ⟨one, zero⟩ := first.low
    have two : 1 < s.captureIR.length := (List.getElem?_eq_some_iff.mp zero).1
    have low : capture.get offset = true := by
      have bit := bits 0 (by omega)
      rw [List.getD_append _ _ _ _ (by omega), List.getD_eq_getElem?_getD, one] at bit
      exact bit
    have high : capture.get (offset + 1) = false := by
      rw [bits 1 (by omega), List.getD_append _ _ _ _ two, List.getD_eq_getElem?_getD, zero]
      rfl
    rw [checkIRLoop, if_neg (by simp [low, high]),
      ih (i + 1) (offset + spec.ir) (fun j inside => ?_)
        (by rw [← first.length]; omega), ← first.length]
    · simp [Nat.add_assoc]
    · rw [← first.length] at inside ⊢
      rw [Nat.add_assoc, bits _ (by omega), List.getD_append_right _ _ _ _ (by omega),
        Nat.add_sub_cancel_left]

/-- `Connect` accepts devices that match its layout. -/
theorem connectBody_accepts (lasts : env.Lasts) (working : Working env w)
    (matched : List.Forall₂ DeviceSpec.Matches w.scanPath.specs layout)
    (made : ∀ spec ∈ layout, spec.Made) (some : 0 < layout.length) (small : layout.length ≤ 1024)
    (alive : w.clock + 500000 ≤ ctx.deadline) :
    ∃ w', connectBody ctx layout layout.irBits w = (none, w') ∧ Working env w' ∧
      w'.clock ≤ w.clock + 500000 ∧ w'.conn.state = .idle ∧
      w'.scanPath.specs = w.scanPath.specs := by
  obtain ⟨least, most⟩ := Layout.irBits_bounds made
  have length := captureIR_length matched
  obtain ⟨found, discovers, works, time, state, specs⟩ :=
    discover_accepts lasts working matched made some
    small (show w.clock + 66000 ≤ ctx.deadline by omega)
  have total : found.scanPath.irLength = layout.irBits := by
    rw [ScanPath.irLength, specs, length]
  obtain ⟨measured, measures, works', time', -, -, state'⟩ := measureIR_succeeds 65536 works
    (by rw [state]; decide) (by omega) (by omega) (by decide)
    (show found.clock + 4 * 65536 + 131 ≤ ctx.deadline by omega)
  have specs' := (measureIR_keeps ctx ((65536 : Nat) : Int) found works.tracked).1.specs
  rw [measures] at specs'
  have room : (layout.irBits + 32 + 7) / 8 ≤ (Buffer.ones (layout.irBits + 32)).length := by simp
  obtain ⟨output, final, scans, works'', time'', -⟩ := scan_succeeds .ir lasts works'
    (by rw [state']; decide) (by omega) (by omega) room
    (show measured.clock + 2 * (layout.irBits + 32) + 140 ≤ ctx.deadline by omega)
  obtain ⟨-, sampled, idlePath, captured, scanned, filled⟩ :=
    scan_completed works'.tracked (congrArg (·.1.2) scans)
  have moved := (scan_keeps ctx (.ones (layout.irBits + 32))
    ((layout.irBits + 32 : Nat) : Int) .ir measured works'.tracked).1
  rw [scans] at captured scanned moved
  obtain rfl : output = sampled := Option.some.inj captured
  have registers : idlePath.devices.map (·.captured .ir) =
      w.scanPath.specs.map (·.captureIR) := by
    rw [← specs, ← specs', ← scanned.specs, ScanPath.specs, List.map_map]
    rfl
  have bits (i : Nat) (inside : i < layout.irBits + 32) :
      output.get i = (w.scanPath.specs.map (·.captureIR)).flatten.getD i true := by
    rw [filled (works'.same ▸ works'.works.honest), Int.toNat_natCast, registers]
    exact get_output _ inside
  have boundaries := checkIRLoop_accepts output (layout.irBits + 32) matched 0 0
    (by simpa using bits) (by omega)
  have ended : output.word layout.irBits = BitVec.allOnes 32 := by
    apply Buffer.word_eq
    intro i inside
    rw [bits _ (by omega), List.getD_eq_getElem?_getD, List.getElem?_eq_none (by omega),
      BitVec.getLsbD_allOnes]
    simp [inside]
  refine ⟨final, ?_, works'', by omega, scanned.state, moved.specs.trans (specs'.trans specs)⟩
  unfold connectBody
  rw [run_bind, discovers]
  simp only
  unfold checkFound
  rw [run_ite, if_neg (by simp), checkReset_accepts]
  simp only
  rw [run_bind, show measureIR ctx 65536 found = measureIR ctx ((65536 : Nat) : Int) found from rfl,
    measures, total]
  simp only [run_ite]
  rw [if_neg (by simp), run_bind, show scanIR ctx _ _ measured = scan ctx _ _ .ir measured from rfl,
    scans]
  simp only [Option.getD_some, checkIR, boundaries, length, Nat.zero_add]
  rw [if_neg (by simp [ended])]
  rfl

/-- A successful `Connect` leaves its chain ready. -/
theorem connect_ready (tracked : Tracked w)
    (found : w.chains[name]? = some c) (returned : (connect ctx name w).1 = none) :
    ∃ c', (connect ctx name w).2.chains[name]? = some c' ∧ c'.layout = c.layout ∧
      c'.irBits = c.irBits ∧ (connect ctx name w).2.ready name = true := by
  obtain ⟨change, worked, -, changes⟩ := connect_spec ctx name tracked
  obtain ⟨valid, serial⟩ := (changes c found).2.2.2 returned
  have chain : (connect ctx name w).2.chains[name]? = some (change c) := by
    rw [worked.chains, List.getElem?_modify, found]
    simp
  refine ⟨change c, chain, worked.allowed.layout c, worked.allowed.irBits c, ?_⟩
  simp [World.ready, chain, valid, serial]

/-- On a working wire, with a context that lasts, `Connect` succeeds on devices
that match the layout. -/
theorem connect_accepts (lasts : env.Lasts) (working : Working env w)
    (found : w.chains[name]? = some c) (total : c.irBits = c.layout.irBits)
    (matched : List.Forall₂ DeviceSpec.Matches w.scanPath.specs c.layout)
    (made : ∀ spec ∈ c.layout, spec.Made) (some : 0 < c.layout.length)
    (small : c.layout.length ≤ 1024) (alive : w.clock + 500000 ≤ ctx.deadline) :
    (connect ctx name w).1 = none ∧ Working env (connect ctx name w).2 ∧
      (connect ctx name w).2.clock ≤ w.clock + 500000 ∧
      (connect ctx name w).2.conn.state = .idle ∧
      (connect ctx name w).2.scanPath.specs = w.scanPath.specs := by
  have entered (change : Chain → Chain) : Working env (modifyChain name change w).2 :=
    ⟨working.same, working.works, working.timeout, working.tracked⟩
  unfold connect
  rw [run_get_bind, found]
  simp only
  rw [run_bind, run_get_bind, run_bind, total]
  obtain ⟨final, connects, works, time, state, specs⟩ := connectBody_accepts lasts
    (entered fun c => { c with valid := false, selected := none, generation := c.generation + 1 })
    matched made some small alive
  rw [connects]
  exact ⟨rfl, ⟨works.same, works.works, works.timeout, works.tracked⟩, time, state, specs⟩

/-! ## Devices that were accepted -/

/-- A `Reset` that succeeds has reset the devices. -/
theorem reset_completed (returned : reset ctx w = (none, w')) :
    w'.JustReset ∧ w'.env = w.env ∧ w'.scanPath.specs = w.scanPath.specs := by
  rw [reset, run_bind] at returned
  have ticked := (validate_completed ctx w).1
  generalize validate ctx w = outcome at returned ticked
  obtain ⟨err | limit, w₁⟩ := outcome
  · cases (Prod.mk.inj returned).1
  simp only at returned
  rw [run_bind] at returned
  rcases clocks : clock ctx [31] [0] 5 w₁ with ⟨err | sampled, w₂⟩
  · rw [clocks] at returned
    cases (Prod.mk.inj returned).1
  rw [clocks] at returned
  have clocked := (clock_completed (congrArg Prod.fst clocks)).1
  rw [clocks] at clocked
  have same : w₁.scanPath = w.scanPath := ticked.scanPath
  have path : w₂.scanPath = (w.scanPath.run (List.replicate 5 (true, false))).2 := by
    rw [← same]
    exact clocked.scanPath
  obtain ⟨controller, instructions⟩ := run_reset w.scanPath
  rw [← path] at controller instructions
  obtain ⟨-, rfl⟩ := Prod.mk.inj returned
  refine ⟨⟨rfl, controller, instructions⟩, clocked.env.trans ticked.env, ?_⟩
  change w₂.scanPath.specs = _
  rw [path]
  exact ScanPath.run_specs _ _

/-- Observations without an error are the registers that the buffer carries. -/
theorem observations_found {data : Buffer} {maxTAPs : Nat} {registers : List ObservedTAP}
    (carries : Carries data maxTAPs 0 registers) (valid : ∀ register ∈ registers, register.Valid)
    (returned : observations data maxTAPs = (found, none)) :
    found = registers ∧ registers ≠ [] := by
  rw [observations] at returned
  rcases registers with _ | ⟨first, rest⟩
  · rw [observationLoop, if_pos (carries.ended (Nat.zero_le _)), if_pos rfl] at returned
    cases (Prod.mk.inj returned).2
  · rw [observationLoop_carries carries valid (by simp) (Nat.zero_le _) (Nat.le_refl _)
      (by simp)] at returned
    split_ifs at returned
    · exact ⟨(Prod.mk.inj returned).1.symm, List.cons_ne_nil _ _⟩
    · cases (Prod.mk.inj returned).2

/-- A `Discover` that succeeds has found the reset registers of the devices. -/
theorem discover_completed {maxTAPs : Int} {registers : List ObservedTAP}
    (tracked : Tracked w) (honest : w.env.Honest) (valid : ∀ register ∈ registers, register.Valid)
    (laidOut : w.scanPath.specs.map (·.resetRegister) = registers.map (·.bits))
    (returned : discover ctx maxTAPs w = ((found, none), w')) :
    found = registers ∧ registers ≠ [] := by
  rw [discover, run_bind] at returned
  have ticked := (validate_completed ctx w).1
  have tracked₁ := (validate_keeps ctx w tracked).2
  generalize validate ctx w = outcome at returned ticked tracked₁
  obtain ⟨err | limit, w₁⟩ := outcome
  · cases (Prod.mk.inj (Prod.mk.inj returned).1).2
  simp only [run_ite] at returned
  split_ifs at returned
  · cases (Prod.mk.inj (Prod.mk.inj returned).1).2
  rw [run_bind] at returned
  have tracked₂ := (reset_spec ctx tracked₁).2.1
  rcases resets : reset ctx w₁ with ⟨_ | err, w₂⟩
  swap
  · rw [resets] at returned
    cases (Prod.mk.inj (Prod.mk.inj returned).1).2
  rw [resets] at returned tracked₂
  obtain ⟨justReset, env, specs⟩ := reset_completed resets
  have specs₁ : w₁.scanPath = w.scanPath := ticked.scanPath
  simp only at returned
  rw [run_bind] at returned
  rcases scans : scanDR ctx (.ones (32 * (maxTAPs.toNat + 1)))
    ((32 * (maxTAPs.toNat + 1) : Nat) : Int) w₂ with
    ⟨⟨capture, _ | err⟩, w₃⟩
  swap
  · rw [scans] at returned
    cases (Prod.mk.inj (Prod.mk.inj returned).1).2
  rw [scans] at returned
  obtain ⟨-, output, -, captured, -⟩ := scan_completed tracked₂ (congrArg (·.1.2) scans)
  have captured : capture = some output := (congrArg (·.1.1) scans).symm.trans captured
  subst captured
  have honest₂ : w₂.env.Honest := by
    rw [env, ticked.env]
    exact honest
  have carries := (scan_carries tracked₂ honest₂ justReset (by rw [specs, specs₁]; exact laidOut)
    scans).1
  exact observations_found carries valid (Prod.mk.inj returned).1

theorem checkReset_none {i : Nat} (count : found.length = layout.length)
    (passed : checkReset i layout found = none) : found = layout.map (·.reset) := by
  induction layout generalizing i found with
  | nil => exact List.length_eq_zero_iff.mp count
  | cons spec rest ih =>
    rcases found with _ | ⟨seen, found⟩
    · cases count
    · rw [checkReset] at passed
      split_ifs at passed with same
      rw [List.map_cons, ← ih (Nat.succ.inj count) passed, ← not_ne_iff.mp same]

/-- What `Connect` has established about the devices. -/
structure Validated (p : ScanPath) (layout : Layout) : Prop where
  registers : p.specs.map (·.resetRegister) = layout.map (·.reset.bits)
  length : p.irLength = layout.irBits
  bypassed : p.Bypassed
  idle : p.controller = .runTestIdle

/-- Devices whose reset registers the standard allows and whose instruction registers are not
too long. -/
structure ScanPath.Standard (p : ScanPath) : Prop where
  registers : ∀ s ∈ p.specs, ∃ register : ObservedTAP, register.Valid ∧
    s.resetRegister = register.bits
  instructions : ∀ s ∈ p.specs, 2 ≤ s.captureIR.length
  total : p.irLength ≤ 65536

theorem ScanPath.Standard.congr {p' : ScanPath} (standard : p.Standard)
    (specs : p'.specs = p.specs) : p'.Standard := by
  refine ⟨?_, ?_, ?_⟩
  · rw [specs]
    exact standard.registers
  · rw [specs]
    exact standard.instructions
  · rw [ScanPath.irLength, specs]
    exact standard.total

/-- The registers of such devices, as `observations` writes them. -/
theorem ScanPath.Standard.observed (standard : p.Standard) :
    ∃ registers : List ObservedTAP, (∀ register ∈ registers, register.Valid) ∧
      p.specs.map (·.resetRegister) = registers.map (·.bits) := by
  have each := standard.registers
  generalize p.specs = specs at each
  induction specs with
  | nil => exact ⟨[], nofun, rfl⟩
  | cons s rest ih =>
    obtain ⟨registers, valid, laidOut⟩ := ih fun s member => each s (List.mem_cons_of_mem _ member)
    obtain ⟨register, proper, first⟩ := each s List.mem_cons_self
    refine ⟨register :: registers, List.forall_mem_cons.mpr ⟨proper, valid⟩, ?_⟩
    rw [List.map_cons, List.map_cons, first, laidOut]

theorem ScanPath.Standard.two_le (standard : p.Standard) (some : p.specs ≠ []) :
    2 ≤ p.irLength := by
  have each := standard.instructions
  rw [ScanPath.irLength]
  generalize p.specs = specs at each some
  rcases specs with _ | ⟨s, rest⟩
  · exact absurd rfl some
  · have first := each s List.mem_cons_self
    simp only [List.map_cons, List.flatten_cons, List.length_append]
    omega

/-- The checks that follow the discovery. -/
theorem checkFound_completed
    (tracked : Tracked w) (honest : w.env.Honest) (standard : w.scanPath.Standard)
    (some : w.scanPath.specs ≠ [])
    (laidOut : w.scanPath.specs.map (·.resetRegister) = found.map (·.bits))
    (returned : checkFound ctx layout layout.irBits found w = (none, w')) :
    Validated w'.scanPath layout := by
  rw [checkFound, run_ite] at returned
  split_ifs at returned with count
  · cases (Prod.mk.inj returned).1
  rcases resets : checkReset 0 layout found with _ | err
  swap
  · rw [resets] at returned
    cases (Prod.mk.inj returned).1
  rw [resets] at returned
  simp only at returned
  rw [run_bind] at returned
  have atLeast := standard.two_le some
  obtain ⟨moved, tracked₁⟩ := measureIR_keeps ctx 65536 w tracked
  rcases measures : measureIR ctx 65536 w with ⟨err | length, w₁⟩
  · rw [measures] at returned
    cases (Prod.mk.inj returned).1
  rw [measures] at returned moved tracked₁
  obtain ⟨rfl, idle⟩ := measureIR_measured tracked honest atLeast standard.total measures
  simp only [run_ite] at returned
  split_ifs at returned with total
  · cases (Prod.mk.inj returned).1
  rw [run_bind] at returned
  rcases scans : scanIR ctx (.ones (layout.irBits + 32)) ((layout.irBits + 32 : Nat) : Int) w₁
    with ⟨⟨capture, _ | err⟩, w₂⟩
  swap
  · rw [scans] at returned
    cases (Prod.mk.inj returned).1
  rw [scans] at returned
  have scans : scan ctx (.ones (layout.irBits + 32)) ((layout.irBits + 32 : Nat) : Int) .ir w₁ =
      _ := scans
  obtain ⟨-, output, start, -, scanned, -⟩ := scan_completed tracked₁ (congrArg (·.1.2) scans)
  have kept := (scan_keeps ctx (.ones (layout.irBits + 32)) ((layout.irBits + 32 : Nat) : Int) .ir
    w₁ tracked₁).1.specs
  rw [scans] at scanned kept
  obtain ⟨-, rfl⟩ := Prod.mk.inj returned
  have total : w.scanPath.irLength = layout.irBits := not_ne_iff.mp total
  have startLength : start.irLength = layout.irBits := by
    rw [ScanPath.irLength, scanned.specs, moved.specs]
    exact total
  have specs : w₂.scanPath.specs = w.scanPath.specs := kept.trans moved.specs
  refine ⟨?_, ?_, ?_, ?_⟩
  · rw [specs, laidOut, checkReset_none (not_ne_iff.mp count) resets, List.map_map]
    rfl
  · rw [ScanPath.irLength, specs]
    exact total
  · have enough : start.irLength ≤ layout.irBits + 32 := by omega
    rw [scanned.scanPath, Int.toNat_natCast, bits_ones, ← List.nil_append (List.replicate _ _)]
    exact ScanPath.scanned_bypassed enough
  · rw [scanned.scanPath]
    rfl

/-- Devices that a successful `Connect` accepted are what its layout says. -/
theorem connectBody_completed (tracked : Tracked w) (honest : w.env.Honest)
    (standard : w.scanPath.Standard)
    (returned : connectBody ctx layout layout.irBits w = (none, w')) :
    Validated w'.scanPath layout := by
  rw [connectBody, run_bind] at returned
  obtain ⟨wired, tracked₁, -⟩ := discover_spec ctx layout.length tracked
  obtain ⟨registers, valid, laidOut⟩ := standard.observed
  rcases discovers : discover ctx layout.length w with ⟨⟨found, _ | err⟩, w₁⟩
  swap
  · rw [discovers] at returned
    cases (Prod.mk.inj returned).1
  rw [discovers] at returned wired tracked₁
  obtain ⟨rfl, some⟩ := discover_completed tracked honest valid laidOut discovers
  have specs : w₁.scanPath.specs = w.scanPath.specs := wired.specs
  have honest₁ : w₁.env.Honest := by
    rw [wired.env]
    exact honest
  have some₁ : w₁.scanPath.specs ≠ [] := by
    rw [specs]
    intro none
    rw [none] at laidOut
    exact some (List.map_eq_nil_iff.mp laidOut.symm)
  exact checkFound_completed tracked₁ honest₁ (standard.congr specs) some₁
    (by rw [specs]; exact laidOut) returned

theorem connect_completed (tracked : Tracked w) (honest : w.env.Honest)
    (standard : w.scanPath.Standard) (found : w.chains[name]? = some c)
    (total : c.irBits = c.layout.irBits)
    (returned : (connect ctx name w).1 = none) :
    Validated (connect ctx name w).2.scanPath c.layout := by
  rw [connect, run_get_bind, found] at returned ⊢
  simp only at returned ⊢
  rw [run_bind, run_get_bind, run_bind, total] at returned ⊢
  let entered := (modifyChain name (fun c => { c with
    valid := false, selected := none, generation := c.generation + 1 }) w).2
  rcases connects : connectBody ctx c.layout c.layout.irBits entered with ⟨_ | err, final⟩
  swap
  · rw [connects] at returned
    cases returned
  have tracked' : Tracked entered := tracked
  have validated : Validated final.scanPath c.layout :=
    connectBody_completed tracked' honest standard connects
  exact validated

end Ostiole.Jtag
