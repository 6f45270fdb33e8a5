import Ostiole.Jtag.Borrow
import Ostiole.Jtag.Observation
import Ostiole.Jtag.Scan

/-!
# Connecting to a chain that matches

A wire that works, contexts that last and devices that are what the layout says:
then `Connect` succeeds. Every method is shown to succeed and to take a bounded
time, from the wire call up.
-/

namespace Ostiole.Jtag

open Ostiole Logic

variable {ctx : Ctx} {env : Env} {w w' : World}

/-! ## A wire that works -/

/-- The wire never fails, returns what it samples and has a usable limit. -/
structure Env.Works (env : Env) : Prop where
  delivers : ∀ time, (env.call time).failure = none
  honest : env.Honest
  limit : ∀ limit, env.maxTransferBits = some limit → 0 < limit

/-- Completion contexts outlast every scan. -/
def Env.Lasts (env : Env) : Prop := ∀ time, 2 ^ 22 ≤ env.budget time

/-- A connection on a working wire. -/
structure Working (env : Env) (w : World) : Prop where
  same : w.env = env
  works : env.Works
  timeout : 0 < w.conn.completionTimeout
  tracked : Tracked w

theorem Working.of_moved (working : Working env w) (wired : Wired w w')
    (tracked : Tracked w') : Working env w' :=
  ⟨wired.env.trans working.same, working.works, wired.timeout ▸ working.timeout, tracked⟩

theorem Working.tick (working : Working env w) : Working env w.tick :=
  ⟨working.same, working.works, working.timeout, working.tracked⟩

theorem ctxErr_alive (alive : w.clock < ctx.deadline) :
    ctxErr ctx w = (none, w.tick) := by
  simp [ctxErr, Ctx.err, Nat.not_le.mpr alive]

/-- A check of the connection takes a tick and nothing else. -/
theorem validate_succeeds (working : Working env w) (alive : w.clock < ctx.deadline) :
    ∃ limit, validate ctx w = (.ok limit, w.tick) ∧ Working env w.tick ∧
      w.tick.clock = w.clock + 1 := by
  have timeout : ¬w.tick.conn.completionTimeout ≤ 0 := Int.not_le.mpr working.timeout
  unfold validate
  rw [run_bind, ctxErr_alive alive]
  simp only [run_get_bind, run_ite, if_neg timeout]
  cases bound : w.tick.env.maxTransferBits with
  | none => exact ⟨4096, rfl, working.tick, rfl⟩
  | some limit =>
    have positive := working.works.limit limit (working.same ▸ bound)
    refine ⟨limit.toNat, ?_, working.tick, rfl⟩
    simp only [run_ite]
    rw [if_neg (Int.not_le.mpr positive)]
    rfl

theorem clockChunk_succeeds (working : Working env w) (n : Nat) (tms tdi : Nat → Bool) :
    ∃ sampled w', clockChunk (.fill n tms) (.fill n tdi) n w = (.ok sampled, w') ∧
      w'.clock = w.clock + 1 := by
  have delivered := working.same ▸ working.works.delivers w.clock
  have replied := working.same ▸ working.works.honest w.clock n
  unfold clockChunk
  rw [run_bind]
  simp only [delivered, replied, jtagIO, Option.getD_none]
  rw [run_bind, run_ite, if_neg (by simp [Buffer.pack, cycles])]
  exact ⟨_, _, rfl, rfl⟩

theorem clockLoop_succeeds (ctx : Ctx) (tms tdi : Buffer) (bits limit : Nat) (turns : Nat) :
    ∀ start output (w : World), Working env w → w.clock + 2 * turns ≤ ctx.deadline →
      ∃ result w', clockLoop ctx tms tdi bits limit turns start output w = (.ok result, w') ∧
        w'.clock ≤ w.clock + 2 * turns := by
  induction turns with
  | zero => exact fun start output w _ _ => ⟨output, w, rfl, Nat.le_refl _⟩
  | succ turns ih =>
    intro start output w working alive
    unfold clockLoop
    rw [run_ite]
    split_ifs with finished
    · exact ⟨output, w, rfl, by omega⟩
    · have ticked := working.tick
      rw [run_bind, ctxErr_alive (by omega)]
      simp only
      rw [run_bind]
      obtain ⟨sampled, middle, called, time⟩ := clockChunk_succeeds ticked
        (min limit (bits - start)) (fun i => tms.get (start + i)) fun i => tdi.get (start + i)
      obtain ⟨moved, tracked⟩ := clockChunk_keeps (.fill (min limit (bits - start))
        fun i => tms.get (start + i)) (.fill (min limit (bits - start)) fun i =>
          tdi.get (start + i))
        (min limit (bits - start)) w.tick ticked.tracked
      rw [called] at moved tracked ⊢
      have elapsed : middle.clock = w.clock + 2 := time
      obtain ⟨result, final, returned, later⟩ := ih
        (start + min limit (bits - start))
        (output.putAll start (min limit (bits - start)) sampled.get) middle
        (ticked.of_moved moved.toWired tracked) (by omega)
      exact ⟨result, final, returned, by omega⟩

/-- A stream of `bits` cycles takes a bounded time. -/
theorem clock_succeeds (tms tdi : Buffer) (bits : Nat)
    (working : Working env w) (alive : w.clock + 2 * bits + 1 ≤ ctx.deadline) :
    ∃ result w', clock ctx tms tdi bits w = (.ok result, w') ∧ Working env w' ∧
      w'.clock ≤ w.clock + 2 * bits + 1 := by
  obtain ⟨moved, tracked⟩ := clock_keeps ctx tms tdi bits w working.tracked
  obtain ⟨limit, validated, ticked, later⟩ :=
    validate_succeeds working (show w.clock < ctx.deadline by omega)
  obtain ⟨result, final, returned, time⟩ := clockLoop_succeeds ctx tms tdi bits limit bits 0
    (.zeros bits) w.tick ticked (by omega)
  have whole : clock ctx tms tdi bits w = (.ok result, final) := by
    unfold clock
    rw [run_bind, validated]
    exact returned
  rw [whole] at moved tracked
  exact ⟨result, final, whole, working.of_moved moved.toWired tracked, by omega⟩

/-! ## Movements and scans -/

/-- The movements of a scan are short. -/
theorem path_short (start : State) :
    (path start .idle).length ≤ 16 ∧ (path start .shiftDR).length ≤ 16 ∧
      (path start .shiftIR).length ≤ 16 := by
  cases start <;> decide +kernel

theorem move_succeeds {target : State} (working : Working env w)
    (known : w.conn.state ≠ .unknown) (destination : target ≠ .unknown)
    (short : (path w.conn.state target).length ≤ 16) (alive : w.clock + 40 ≤ ctx.deadline) :
    ∃ w', move ctx target w = (none, w') ∧ Working env w' ∧ w'.clock ≤ w.clock + 40 ∧
      Clocked w w' ((path w.conn.state target).map (·, false)) ∧ w.calls ≤ w'.calls := by
  obtain ⟨limit, validated, ticked, later⟩ :=
    validate_succeeds working (show w.clock < ctx.deadline by omega)
  obtain ⟨result, final, clocked, works, time⟩ := clock_succeeds
    (.pack (path w.conn.state target)) (.zeros (path w.conn.state target).length)
    (path w.conn.state target).length ticked
    (show w.tick.clock + 2 * (path w.conn.state target).length + 1 ≤ ctx.deadline by omega)
  have whole : move ctx target w = (none, final) := by
    unfold move
    rw [run_bind, validated]
    simp only [run_ite, run_get_bind]
    rw [if_neg destination, if_neg (show w.tick.conn.state ≠ .unknown from known), run_bind,
      show path w.tick.conn.state target = path w.conn.state target from rfl, clocked]
    rfl
  have completed := (move_completed (congrArg Prod.fst whole)).2
  have moved := (move_keeps ctx target w working.tracked).1
  rw [whole] at completed moved
  exact ⟨final, whole, works, by omega, completed, moved.calls_le⟩

theorem scanBody_succeeds (data : Buffer) (count : Nat) (column : Column)
    (working : Working env w) (known : w.conn.state ≠ .unknown)
    (alive : w.clock + 2 * count + 130 ≤ ctx.deadline) :
    ∃ output w', scanBody ctx data (count + 1) column w = ((some output, none), w') ∧
      Working env w' ∧
      w'.clock ≤ w.clock + 2 * count + 130 ∧ w.calls < w'.calls := by
  obtain ⟨start, toIdle, works, time, clocked, first⟩ := move_succeeds working known
    (show State.idle ≠ .unknown by decide) (path_short _).1 (show w.clock + 40 ≤
      ctx.deadline by omega)
  have idleState := clocked.arrives known
  have shortEntry : (path start.conn.state column.shiftState).length ≤ 16 := by
    cases column
    · exact (path_short _).2.1
    · exact (path_short _).2.2
  obtain ⟨shifting, toShift, works, time', entered, second⟩ := move_succeeds works
    (by rw [idleState]; decide) (show column.shiftState ≠ .unknown by cases column <;> decide)
    shortEntry (show start.clock + 40 ≤ ctx.deadline by omega)
  obtain ⟨sampled, shifted, clocks, works, time''⟩ := clock_succeeds
    ((Buffer.zeros (count + 1)).put count true) data (count + 1) works
    (show shifting.clock + 2 * (count + 1) + 1 ≤ ctx.deadline by omega)
  have sent := clock_sent ‹Working env shifting›.tracked (Nat.succ_pos count)
    (congrArg Prod.fst clocks)
  have shift := (clock_completed (congrArg Prod.fst clocks)).1.state
  rw [clocks] at sent
  rw [clocks, cyclesFrom_data, entered.state, idleState, path_entry, shift_state] at shift
  obtain ⟨final, toExit, works, time''', -, last⟩ := move_succeeds works
    (show shifted.conn.state ≠ .unknown by rw [shift]; cases column <;> decide)
    (show State.idle ≠ .unknown by decide) (path_short _).1
    (show shifted.clock + 40 ≤ ctx.deadline by omega)
  refine ⟨sampled, final, ?_, works, by omega,
    (first.trans second).trans_lt (Nat.lt_of_lt_of_le sent last)⟩
  unfold scanBody
  rw [run_bind, toIdle]
  simp only
  rw [run_bind, toShift]
  simp only [Nat.add_sub_cancel]
  rw [run_bind, clocks]
  simp only
  rw [run_bind, toExit]
  rfl

theorem scan_succeeds {data : Buffer} {bits : Nat} (column : Column)
    (lasts : env.Lasts) (working : Working env w) (known : w.conn.state ≠ .unknown)
    (positive : 0 < bits)
    (small : bits ≤ 2 ^ 20) (room : (bits + 7) / 8 ≤ data.length)
    (alive : w.clock + 2 * bits + 140 ≤ ctx.deadline) :
    ∃ output w', scan ctx data bits column w = ((some output, none), w') ∧ Working env w' ∧
      w'.clock ≤ w.clock + 2 * bits + 140 ∧ w.calls < w'.calls := by
  obtain ⟨count, rfl⟩ : ∃ count, bits = count + 1 := ⟨bits - 1, by omega⟩
  obtain ⟨limit, validated, ticked, earlier⟩ :=
    validate_succeeds working (show w.clock < ctx.deadline by omega)
  have begun := ticked.tick
  have later : w.tick.tick.clock = w.clock + 2 := rfl
  have lasting := working.same ▸ lasts w.tick.clock
  obtain ⟨output, scanned, body, works, time, sent⟩ := scanBody_succeeds data count column begun
    known
    (show w.tick.tick.clock + 2 * count + 130 ≤
      (⟨w.tick.clock + w.tick.env.budget w.tick.clock, .deadlineExceeded⟩ : Ctx).deadline by
        change w.clock + 2 + 2 * count + 130 ≤ w.clock + 1 + w.env.budget w.tick.clock
        omega)
  refine ⟨output, scanned.tick, ?_, ⟨works.same, works.works, works.timeout, works.tracked⟩,
    ?_, sent⟩
  · have valid : ¬(((count + 1 : Nat) : Int) ≤ 0 ∨ ((count + 1 : Nat) : Int) > maxScanBits ∨
        (data.length : Int) < (((count + 1 : Nat) : Int) + 7) / 8) := by
      simp only [maxScanBits]
      omega
    unfold scan
    rw [run_bind, validated]
    simp only [run_ite]
    rw [if_neg valid, run_get_bind, run_bind, run_bind, Int.toNat_natCast]
    rw [show completionContext w.tick = (⟨w.tick.clock + w.tick.env.budget w.tick.clock,
      .deadlineExceeded⟩, w.tick.tick) from rfl, body]
    simp only
    rw [run_bind]
    have finished : finishScan ctx w.tick.conn.serial none scanned = (none, scanned.tick) := by
      unfold finishScan
      rw [run_get_bind]
      simp only [Option.isSome_none, Bool.false_eq_true, false_and, if_false]
      unfold addCause
      rw [run_bind, ctxErr_alive (by omega)]
      rfl
    rw [finished]
    rfl
  · change scanned.clock + 1 ≤ _
    omega

theorem reset_succeeds (working : Working env w)
    (alive : w.clock + 20 ≤ ctx.deadline) :
    ∃ w', reset ctx w = (none, w') ∧ Working env w' ∧ w'.clock ≤ w.clock + 20 ∧
      w'.conn.state = .reset ∧ w'.scanPath =
        (w.scanPath.run (List.replicate 5 (true, false))).2 := by
  obtain ⟨limit, validated, ticked, later⟩ :=
    validate_succeeds working (show w.clock < ctx.deadline by omega)
  obtain ⟨result, clocked, returned, works, time⟩ := clock_succeeds [31] [0] 5 ticked
    (show w.tick.clock + 2 * 5 + 1 ≤ ctx.deadline by omega)
  have whole : reset ctx w = (none,
      { clocked with conn := { clocked.conn with state := .reset } }) := by
    unfold reset
    rw [run_bind, validated]
    simp only
    rw [run_bind, returned]
    rfl
  have tracked := (reset_spec ctx working.tracked).2.1
  rw [whole] at tracked
  have path := (clock_completed (congrArg Prod.fst returned)).1.scanPath
  rw [returned] at path
  exact ⟨_, whole, ⟨works.same, works.works, works.timeout, tracked⟩, by simp only; omega,
    rfl, path⟩

/-- Five cycles with TMS high install the reset instruction of every device. -/
theorem run_reset (p : ScanPath) :
    (p.run (List.replicate 5 (true, false))).2.controller = .testLogicReset ∧
      ∀ d ∈ (p.run (List.replicate 5 (true, false))).2.devices,
        d.instruction = d.spec.resetInstruction := by
  have arrives : (p.run (List.replicate 5 (true, false))).2.controller = .testLogicReset := by
    rw [ScanPath.run_controller]
    exact Controller.fiveHigh _
  refine ⟨arrives, ?_⟩
  have last : (p.run (List.replicate 5 (true, false))).2 =
      ((p.run (List.replicate 4 (true, false))).2.clock true false).2 :=
    congrArg Prod.snd (ScanPath.run_append p (List.replicate 4 (true, false)) [(true, false)])
  rw [last] at arrives ⊢
  generalize (p.run (List.replicate 4 (true, false))).2 = before at arrives
  rw [ScanPath.clock_controller] at arrives
  intro d member
  simp only [ScanPath.clock, arrives, ScanPath.enter] at member
  obtain ⟨d, -, rfl⟩ := List.mem_map.mp member
  rfl

/-! ## Devices that match a layout -/

/-- The register a reset selects, as Capture-DR loads it. -/
def DeviceSpec.resetRegister (s : DeviceSpec) : List Bool :=
  if s.resetInstruction.all id then [false] else s.captureDR s.resetInstruction

/-- The device a TAP specification describes. -/
structure DeviceSpec.Matches (s : DeviceSpec) (spec : TAPSpec) : Prop where
  length : s.captureIR.length = spec.ir
  low : s.captureIR[0]? = some true ∧ s.captureIR[1]? = some false
  register : s.resetRegister =
    if spec.reset.bypass then [false] else (List.range 32).map spec.reset.idcode.getLsbD

/-- A specification made by `IDCODE` or `Bypass`. -/
def TAPSpec.Made (spec : TAPSpec) : Prop :=
  (∃ irBits id, TAPSpec.idcode irBits id = .ok spec) ∨ ∃ irBits, TAPSpec.bypass irBits = .ok spec

theorem TAPSpec.Made.reset {spec : TAPSpec} (made : spec.Made) : spec.reset.Valid := by
  rcases made with ⟨irBits, id, made⟩ | ⟨irBits, made⟩
  · unfold TAPSpec.idcode at made
    split_ifs at made with invalid
    cases made
    simp only [not_or] at invalid
    exact .inr ⟨rfl, invalid.2.2.1, invalid.2.2.2⟩
  · unfold TAPSpec.bypass at made
    split_ifs at made
    cases made
    exact .inl rfl

/-- The reset registers of devices that match are those of the layout. -/
theorem resetRegisters_eq {specs : List DeviceSpec} {layout : Layout}
    (matched : List.Forall₂ DeviceSpec.Matches specs layout) :
    specs.map (·.resetRegister) = (layout.map (·.reset)).map (·.bits) := by
  induction matched with
  | nil => rfl
  | cons first rest ih =>
    rw [List.map_cons, ih, first.register]
    rfl

theorem leave_reset {p : ScanPath} (reset : p.controller = .testLogicReset) :
    (p.run ((path .reset .idle).map (·, false))).2.devices = p.devices := by
  obtain ⟨controller, devices⟩ := p
  obtain rfl : controller = .testLogicReset := reset
  rfl

theorem bits_ones (bits : Nat) : (Buffer.ones bits).bits bits = List.replicate bits true := by
  rw [List.eq_replicate_iff]
  refine ⟨by simp, fun value member => ?_⟩
  obtain ⟨j, position, rfl⟩ := List.mem_map.mp member
  exact Buffer.get_ones (List.mem_range.mp position)

/-- The bits sampled while ones are shifted in: the series, then ones. -/
theorem get_output (registers : List (List Bool)) {bits i : Nat} (inside : i < bits) :
    (Buffer.pack (Series.run registers ((Buffer.ones bits).bits bits)).1).get i =
      registers.flatten.getD i true := by
  rw [Buffer.get_pack, Series.run_output, bits_ones, List.length_replicate]
  simp only [List.getD_eq_getElem?_getD, List.getElem?_take, if_pos inside, List.getElem?_append,
    List.getElem?_replicate]
  split_ifs with early late
  · rw [List.getElem?_eq_getElem early]
    rfl
  · rw [List.getElem?_eq_none (by omega)]
    rfl
  · omega

/-- A world whose devices were just reset. -/
structure World.JustReset (w : World) : Prop where
  state : w.conn.state = .reset
  controller : w.scanPath.controller = .testLogicReset
  instructions : ∀ d ∈ w.scanPath.devices, d.instruction = d.spec.resetInstruction

/-- A data scan after a reset brings out the reset registers. -/
theorem Scanned.resetRegisters {bits : List Bool} {start : ScanPath} (reset : w.JustReset)
    (scanned : Scanned w w' .dr bits start) :
    start.devices.map (·.captured .dr) = w.scanPath.specs.map (·.resetRegister) := by
  -- from reset one low TMS leads to Idle, and the instructions stay
  have rested : start.devices = w.scanPath.devices := by
    rw [scanned.moved, reset.state]
    exact leave_reset reset.controller
  rw [rested, ScanPath.specs, List.map_map]
  apply List.map_congr_left
  intro d member
  simp only [Device.captured, Device.bypassed, reset.instructions d member, Function.comp_apply,
    DeviceSpec.resetRegister]

/-- What `Discover` reads back on an honest wire. -/
theorem scan_carries {maxTAPs : Nat} {output : Buffer} {registers : List ObservedTAP}
    (tracked : Tracked w) (honest : w.env.Honest) (reset : w.JustReset)
    (laidOut : w.scanPath.specs.map (·.resetRegister) = registers.map (·.bits))
    (returned : scan ctx (.ones (32 * (maxTAPs + 1))) ((32 * (maxTAPs + 1) : Nat) : Int) .dr w =
      ((some output, none), w')) :
    Carries output maxTAPs 0 registers ∧ w'.conn.state = .idle := by
  obtain ⟨-, sampled, start, captured, scanned, filled⟩ :=
    scan_completed tracked (congrArg (·.1.2) returned)
  rw [returned] at captured scanned
  obtain rfl : output = sampled := Option.some.inj captured
  refine ⟨fun i inside => ?_, scanned.state⟩
  rw [Nat.zero_add] at inside ⊢
  rw [filled honest, Int.toNat_natCast, scanned.resetRegisters reset, laidOut, List.flatMap]
  exact get_output _ inside

/-- `Discover` finds the devices that match. -/
theorem discover_accepts {layout : Layout} (lasts : env.Lasts) (working : Working env w)
    (matched : List.Forall₂ DeviceSpec.Matches w.scanPath.specs layout)
    (made : ∀ spec ∈ layout, spec.Made) (some : 0 < layout.length) (small : layout.length ≤ 1024)
    (alive : w.clock + 66000 ≤ ctx.deadline) :
    ∃ w', discover ctx layout.length w = ((layout.map (·.reset), none), w') ∧ Working env w' ∧
      w'.clock ≤ w.clock + 66000 ∧ w'.conn.state = .idle ∧
      w'.scanPath.specs = w.scanPath.specs := by
  obtain ⟨limit, validated, ticked, later⟩ :=
    validate_succeeds working (show w.clock < ctx.deadline by omega)
  obtain ⟨start, resets, works, time, state, path⟩ := reset_succeeds ticked
    (show w.tick.clock + 20 ≤ ctx.deadline by omega)
  have justReset : start.JustReset := by
    obtain ⟨controller, instructions⟩ := run_reset w.tick.scanPath
    rw [← path] at controller instructions
    exact ⟨state, controller, instructions⟩
  have specs : start.scanPath.specs = w.scanPath.specs := by
    rw [path]
    exact ScanPath.run_specs _ _
  have room : (32 * (layout.length + 1) + 7) / 8 ≤
      (Buffer.ones (32 * (layout.length + 1))).length := by simp
  obtain ⟨output, final, scans, works', time', -⟩ := scan_succeeds .dr lasts works
    (by rw [state]; decide) (by omega) (by omega) room
    (show start.clock + 2 * (32 * (layout.length + 1)) + 140 ≤ ctx.deadline by omega)
  have moved := (scan_keeps ctx (.ones (32 * (layout.length + 1)))
    ((32 * (layout.length + 1) : Nat) : Int) .dr start works.tracked).1
  rw [scans] at moved
  obtain ⟨carries, idle⟩ := scan_carries works.tracked (works.same ▸ works.works.honest) justReset
    (by rw [specs]; exact resetRegisters_eq matched) scans
  have nonempty : layout.map (·.reset) ≠ [] := by
    rw [ne_eq, List.map_eq_nil_iff, ← List.length_eq_zero_iff]
    omega
  have valid : ∀ register ∈ layout.map (·.reset), register.Valid := by
    intro register member
    obtain ⟨spec, listed, rfl⟩ := List.mem_map.mp member
    exact (made spec listed).reset
  have found : observations output layout.length = (layout.map (·.reset), none) := by
    rw [observations, observationLoop_carries carries valid nonempty (Nat.zero_le _) (Nat.le_refl _)
      (by simp)]
    exact if_pos (by simp)
  refine ⟨final, ?_, works', by omega, idle, moved.specs.trans specs⟩
  have bounded : ¬((layout.length : Int) < 1 ∨ (layout.length : Int) > 1024) := by omega
  unfold discover
  rw [run_bind, validated]
  simp only [run_ite]
  rw [if_neg bounded, run_bind, resets]
  simp only [Int.toNat_natCast]
  rw [run_bind, show scanDR ctx _ _ start = scan ctx _ _ .dr start from rfl, scans]
  simp only [Option.getD_some, found]
  rfl

end Ostiole.Jtag
