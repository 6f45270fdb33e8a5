import Ostiole.Jtag.Accept

/-!
# Measuring the instruction registers

`MeasureIR` is one long scan: ones that flush the series, then a zero that travels through it
and ones behind the zero. On devices in any state it finds the length of the series and leaves
ones in it; a wire whose TDO does not move makes it fail.
-/

namespace Ostiole.Jtag

open Ostiole Logic

variable {level : Bool} {output : Buffer} {ctx : Ctx} {env : Env} {registers : List (List Bool)}
    {i maxBits : Nat} {w w' : World}

/-! ## The marker -/

theorem markerLoop_skips (output : Buffer) {positions : List Nat}
    (high : ∀ i ∈ positions, output.get i = true) (length : Nat) :
    markerLoop output positions length = .ok length := by
  induction positions with
  | nil => rfl
  | cons i rest ih =>
    rw [markerLoop, if_neg (by simp [high i List.mem_cons_self])]
    exact ih fun j member => high j (List.mem_cons_of_mem _ member)

theorem markerLoop_append (output : Buffer) {first second : List Nat}
    (high : ∀ i ∈ first, output.get i = true) (length : Nat) :
    markerLoop output (first ++ second) length = markerLoop output second length := by
  induction first with
  | nil => rfl
  | cons i rest ih =>
    rw [List.cons_append, markerLoop, if_neg (by simp [high i List.mem_cons_self])]
    exact ih fun j member => high j (List.mem_cons_of_mem _ member)

/-- A single zero at position `length` measures `length`. -/
theorem markerLength_accepts {length : Nat} (atLeast : 2 ≤ length)
    (within : length ≤ maxBits) (marker : ∀ i ≤ maxBits, output.get i = decide (i ≠ length)) :
    markerLength output maxBits = .ok length := by
  obtain ⟨rest, rfl⟩ := Nat.exists_eq_add_of_le within
  have split : List.range (length + rest + 1) =
      List.range length ++ length :: (List.range rest).map (length + 1 + ·) := by
    rw [Nat.add_right_comm, List.range_add, List.range_succ, List.append_assoc]
    rfl
  have found : markerLoop output (List.range (length + rest + 1)) 0 = .ok length := by
    rw [split, markerLoop_append output (fun i member => ?_), markerLoop,
      if_pos (by simp [marker length (by omega)]), if_neg (by simp; omega)]
    · apply markerLoop_skips
      intro i member
      obtain ⟨j, position, rfl⟩ := List.mem_map.mp member
      have bound := List.mem_range.mp position
      rw [marker _ (by omega)]
      simp
      omega
    · have bound := List.mem_range.mp member
      rw [marker i (by omega)]
      simp
      omega
  unfold markerLength
  rw [found]
  obtain ⟨more, rfl⟩ : ∃ more, length = more + 1 := ⟨length - 1, by omega⟩
  rfl

/-- The marker comes out of a flushed series behind its whole length. -/
theorem marker_output
    (within : registers.flatten.length ≤ maxBits) (inside : i ≤ maxBits) :
    ((Series.run (Series.run registers (List.replicate maxBits true)).2
      (false :: List.replicate maxBits true)).1).getD i false =
        decide (i ≠ registers.flatten.length) := by
  rw [Series.run_output, Series.run_flush within, List.getD_eq_getElem?_getD, List.getElem?_take,
    if_pos (by simp; omega), List.getElem?_append, List.length_replicate]
  generalize registers.flatten.length = total at within ⊢
  split_ifs with early
  · rw [List.getElem?_replicate, if_pos early]
    simp
    omega
  · obtain ⟨more, rfl⟩ := Nat.exists_eq_add_of_le (Nat.le_of_not_lt early)
    rw [Nat.add_sub_cancel_left]
    cases more with
    | zero => simp
    | succ more =>
      rw [List.getElem?_cons_succ, List.getElem?_replicate, if_pos (by omega)]
      simp

/-- The cycles that flush the series with ones. -/
theorem cyclesFrom_flush (count : Nat) :
    cyclesFrom (.zeros count) (.ones count) 0 count =
      (List.replicate count true).map (false, ·) := by
  rw [List.map_replicate, List.eq_replicate_iff]
  refine ⟨by simp [cyclesFrom], fun cycle member => ?_⟩
  obtain ⟨i, position, rfl⟩ := List.mem_map.mp member
  simp [Buffer.get_ones (List.mem_range.mp position)]

/-- The marker: a zero, then ones. -/
theorem bits_marker (count : Nat) :
    ((Buffer.ones (count + 1)).clear 0).bits (count + 1) = false :: List.replicate count true := by
  have bit (i : Nat) (inside : i < count + 1) :
      ((Buffer.ones (count + 1)).clear 0).get i = decide (0 ≠ i) := by
    rw [Buffer.get_clear (by simp), Buffer.get_ones inside]
    simp
  apply List.ext_getElem
  · simp
  · intro i first second
    simp only [Buffer.length_bits] at first
    simp only [Buffer.bits, List.getElem_map, List.getElem_range, bit i first]
    cases i with
    | zero => simp
    | succ i => simp

/-! ## The clocks -/

/-- The clocks of `MeasureIR`, before what they sampled is looked at. -/
def measureClocks (ctx : Ctx) (maxBits : Nat) : JtagM (Except Err Buffer) := do
  if let some err ← move ctx .idle then return .error err
  if let some err ← move ctx .shiftIR then return .error err
  if let .error err ← clock ctx (.zeros maxBits) (.ones maxBits) maxBits then return .error err
  match ← clock ctx ((Buffer.zeros (maxBits + 1)).put maxBits true)
    ((Buffer.ones (maxBits + 1)).clear 0) (maxBits + 1) with
  | .error err => return .error err
  | .ok output =>
    if let some err ← move ctx .idle then return .error err
    return .ok output

theorem measureBody_eq (ctx : Ctx) (maxBits : Nat) (w : World) :
    measureBody ctx maxBits w =
      ((measureClocks ctx maxBits w).1.bind (markerLength · maxBits),
        (measureClocks ctx maxBits w).2) := by
  simp only [measureBody, measureClocks, run_bind]
  rcases move ctx .idle w with ⟨_ | err, w₁⟩
  swap
  · rfl
  dsimp only
  rw [run_bind, run_bind]
  rcases move ctx .shiftIR w₁ with ⟨_ | err, w₂⟩
  swap
  · rfl
  dsimp only
  rw [run_bind, run_bind]
  rcases clock ctx (.zeros maxBits) (.ones maxBits) maxBits w₂ with ⟨err | sampled, w₃⟩
  · rfl
  dsimp only
  rw [run_bind, run_bind]
  rcases clock ctx _ _ (maxBits + 1) w₃ with ⟨err | sampled, w₄⟩
  · rfl
  dsimp only
  rw [run_bind, run_bind]
  rcases move ctx .idle w₄ with ⟨_ | err, w₅⟩
  · rfl
  · rfl

/-- The bits that `MeasureIR` shifts. -/
def measureBits (maxBits : Nat) : List Bool :=
  List.replicate maxBits true ++ false :: List.replicate maxBits true

/-- The bits of the flush and of the marker, as they are clocked. -/
theorem measureBits_eq (maxBits : Nat) :
    measureBits maxBits = List.replicate maxBits true ++
      ((Buffer.ones (maxBits + 1)).clear 0).bits maxBits ++
      [((Buffer.ones (maxBits + 1)).clear 0).get maxBits] := by
  rw [List.append_assoc, ← bits_succ, bits_marker]
  rfl

/-- The steps of clocks that were not stopped. -/
theorem measureClocks_ok
    (returned : measureClocks ctx maxBits w = (.ok output, w')) :
    ∃ start shifting flushed marked sampled, move ctx .idle w = (none, start) ∧
      move ctx .shiftIR start = (none, shifting) ∧
      clock ctx (.zeros maxBits) (.ones maxBits) maxBits shifting = (.ok sampled, flushed) ∧
      clock ctx ((Buffer.zeros (maxBits + 1)).put maxBits true)
        ((Buffer.ones (maxBits + 1)).clear 0) (maxBits + 1) flushed =
        (.ok output, marked) ∧
      move ctx .idle marked = (none, w') := by
  rw [measureClocks, run_bind] at returned
  rcases first : move ctx .idle w with ⟨_ | err, start⟩
  swap
  · rw [first] at returned
    cases (Prod.mk.inj returned).1
  rw [first] at returned
  dsimp only at returned
  rw [run_bind] at returned
  rcases second : move ctx .shiftIR start with ⟨_ | err, shifting⟩
  swap
  · rw [second] at returned
    cases (Prod.mk.inj returned).1
  rw [second] at returned
  dsimp only at returned
  rw [run_bind] at returned
  rcases third : clock ctx (.zeros maxBits) (.ones maxBits) maxBits shifting
    with ⟨err | sampled, flushed⟩
  · rw [third] at returned
    cases (Prod.mk.inj returned).1
  rw [third] at returned
  dsimp only at returned
  rw [run_bind] at returned
  rcases fourth : clock ctx ((Buffer.zeros (maxBits + 1)).put maxBits true)
    ((Buffer.ones (maxBits + 1)).clear 0)
    (maxBits + 1) flushed with ⟨err | sampled', marked⟩
  · rw [fourth] at returned
    cases (Prod.mk.inj returned).1
  rw [fourth] at returned
  dsimp only at returned
  rw [run_bind] at returned
  rcases fifth : move ctx .idle marked with ⟨_ | err, final⟩
  swap
  · rw [fifth] at returned
    cases (Prod.mk.inj returned).1
  rw [fifth] at returned
  obtain ⟨same, rfl⟩ := Prod.mk.inj returned
  obtain rfl : sampled' = output := Except.ok.inj same
  exact ⟨start, shifting, flushed, marked, sampled, rfl, second, third, fourth, fifth⟩

/-- Clocks that were not stopped are a scan of those bits. -/
theorem measureClocks_completed (tracked : Tracked w)
    (returned : measureClocks ctx maxBits w = (.ok output, w')) :
    ∃ start, Scanned w w' .ir (measureBits maxBits) start ∧
      (w.env.Honest → output = .pack
        ((Series.run (start.devices.map (·.captured .ir)) (measureBits maxBits)).1.drop
          maxBits)) := by
  obtain ⟨start, shifting, flushed, marked, _, first, second, third, fourth, fifth⟩ :=
    measureClocks_ok returned
  obtain ⟨known, clocked⟩ := move_completed (congrArg Prod.fst first)
  have kept : Tracked start := by simpa only [first] using (move_keeps ctx .idle w tracked).2
  have entered := (move_completed (congrArg Prod.fst second)).2
  have flush := (clock_completed (congrArg Prod.fst third)).1
  obtain ⟨marks, filled⟩ := clock_completed (congrArg Prod.fst fourth)
  have exits := (move_completed (congrArg Prod.fst fifth)).2
  rw [first] at clocked
  rw [second] at entered
  rw [third, cyclesFrom_flush] at flush
  rw [fourth, cyclesFrom_data] at marks
  rw [cyclesFrom_data] at filled
  rw [fifth] at exits
  dsimp only at clocked entered flush marks exits
  have idleState := clocked.arrives known
  have idle := kept.idle idleState
  rw [idleState, show path .idle .shiftIR = Column.ir.entry from path_entry .ir] at entered
  -- the two streams are one scan
  have stream := flush.append marks
  rw [← List.append_assoc, ← List.map_append] at stream
  have exitState : marked.conn.state = .exit1IR := by
    rw [stream.state, entered.state, idleState]
    exact shift_state .ir _ _
  rw [exitState, show path .exit1IR .idle = [true, false] from path_exit .ir] at exits
  obtain ⟨samples, ended⟩ := ScanPath.run_scan idle .ir
    (List.replicate maxBits true ++ ((Buffer.ones (maxBits + 1)).clear 0).bits maxBits)
    (((Buffer.ones (maxBits + 1)).clear 0).get maxBits)
  rw [← measureBits_eq] at samples ended
  refine ⟨start.scanPath, ⟨?_, known, idle, clocked.scanPath, ?_, ?_⟩, fun honest => ?_⟩
  · exact exits.env.trans (stream.env.trans (entered.env.trans clocked.env))
  · rw [← ended, exits.scanPath, stream.scanPath, entered.scanPath]
    rfl
  · rw [exits.state, exitState]
    rfl
  · have sampled : (flushed.scanPath.run
      (((((Buffer.ones (maxBits + 1)).clear 0).bits maxBits).map (false, ·)) ++
        [(true, ((Buffer.ones (maxBits + 1)).clear 0).get maxBits)])).1 =
          (Series.run (start.scanPath.devices.map (·.captured .ir)) (measureBits maxBits)).1.drop
            maxBits := by
      rw [← samples, List.map_append, List.append_assoc, ← entered.scanPath,
        ScanPath.run_append shifting.scanPath, List.drop_left' (by simp), flush.scanPath]
    rw [filled (flush.env ▸ entered.env ▸ clocked.env ▸ honest), sampled]

/-- On a working wire, with a context that lasts, nothing stops the clocks. -/
theorem measureClocks_succeeds (ctx : Ctx) (maxBits : Nat) (working : Working env w)
    (known : w.conn.state ≠ .unknown) (alive : w.clock + 4 * maxBits + 130 ≤ ctx.deadline) :
    ∃ output w', measureClocks ctx maxBits w = (.ok output, w') ∧ Working env w' ∧
      w'.clock ≤ w.clock + 4 * maxBits + 130 := by
  obtain ⟨start, toIdle, works, time₁, clocked, -⟩ := move_succeeds working known
    (show State.idle ≠ .unknown by decide) (path_short _).1 (show w.clock + 40 ≤
      ctx.deadline by omega)
  have idleState := clocked.arrives known
  obtain ⟨shifting, toShift, works, time₂, entered, -⟩ := move_succeeds works
    (by rw [idleState]; decide) (show State.shiftIR ≠ .unknown by decide) (path_short _).2.2
    (show start.clock + 40 ≤ ctx.deadline by omega)
  rw [idleState, show path .idle .shiftIR = Column.ir.entry from path_entry .ir] at entered
  obtain ⟨flush, flushed, flushing, works, time₃⟩ :=
    clock_succeeds (.zeros maxBits) (.ones maxBits) maxBits works
    (show shifting.clock + 2 * maxBits + 1 ≤ ctx.deadline by omega)
  have ones := (clock_completed (congrArg Prod.fst flushing)).1
  rw [flushing, cyclesFrom_flush] at ones
  obtain ⟨output, marked, marking, works, time₄⟩ :=
    clock_succeeds ((Buffer.zeros (maxBits + 1)).put maxBits true)
    ((Buffer.ones (maxBits + 1)).clear 0) (maxBits + 1) works
    (show flushed.clock + 2 * (maxBits + 1) + 1 ≤ ctx.deadline by omega)
  have marks := (clock_completed (congrArg Prod.fst marking)).1
  rw [marking, cyclesFrom_data] at marks
  have exitState : marked.conn.state = .exit1IR := by
    have whole := (ones.append marks).state
    rw [← List.append_assoc, ← List.map_append, entered.state, idleState] at whole
    exact whole.trans (shift_state .ir _ _)
  obtain ⟨final, toExit, works, time₅, -, -⟩ := move_succeeds works
    (show marked.conn.state ≠ .unknown by rw [exitState]; decide) (show State.idle ≠
      .unknown by decide) (path_short _).1
    (show marked.clock + 40 ≤ ctx.deadline by omega)
  refine ⟨output, final, ?_, works, by omega⟩
  simp only [measureClocks, run_bind, toIdle, toShift, flushing, marking, toExit]
  rfl

/-! ## What they leave and find -/

/-- A series into which enough ones were shifted last holds ones. -/
theorem run_ones {before : List Bool} {count : Nat}
    (enough : registers.flatten.length ≤ count) :
    ∀ register ∈ (Series.run registers (before ++ List.replicate count true)).2, ∀ bit ∈ register,
      bit = true := by
  intro register member bit inside
  rw [Series.run_append] at member
  have enough' : (Series.run registers before).2.flatten.length ≤ count := by
    rw [List.length_flatten, Series.run_lengths, ← List.length_flatten]
    exact enough
  have filled := Series.run_flush enough' true
  have all : bit ∈ (Series.run (Series.run registers before).2
      (List.replicate count true)).2.flatten :=
    List.mem_flatten.mpr ⟨register, member, inside⟩
  rw [filled] at all
  exact List.eq_of_mem_replicate all

/-- The instruction registers of all devices together. -/
def ScanPath.irLength (p : ScanPath) : Nat := (p.specs.map (·.captureIR)).flatten.length

/-- Every instruction bit of every device is one. -/
def ScanPath.Bypassed (p : ScanPath) : Prop :=
  ∀ d ∈ p.devices, d.instruction = List.replicate d.spec.captureIR.length true

/-- A scan that ends in enough ones leaves every instruction at ones. -/
theorem ScanPath.scanned_bypassed {p : ScanPath} {before : List Bool} {count : Nat}
    (enough : p.irLength ≤ count) :
    (p.scanned .ir (before ++ List.replicate count true)).Bypassed := by
  have captured : p.devices.map (·.captured .ir) = p.specs.map (·.captureIR) := by
    rw [ScanPath.specs, List.map_map]
    rfl
  have enough' : (p.devices.map (·.captured .ir)).flatten.length ≤ count := by
    rw [captured]
    exact enough
  have ones : ∀ register ∈ (Series.run (p.devices.map (·.captured .ir))
      (before ++ List.replicate count true)).2, ∀ bit ∈ register, bit = true := run_ones enough'
  have lengths := Series.run_lengths (p.devices.map (·.captured .ir))
    (before ++ List.replicate count true)
  intro d member
  rw [ScanPath.scanned] at member
  generalize (Series.run (p.devices.map (·.captured .ir)) (before ++ List.replicate count true)).2 =
    stages
    at ones lengths member
  obtain ⟨index, inside, rfl⟩ := List.getElem_of_mem member
  have inDevices : index < p.devices.length := by simp at inside; omega
  have inStages : index < stages.length := by simp at inside; omega
  have length : stages[index].length = p.devices[index].spec.captureIR.length := by
    have same := congrArg (·[index]?) lengths
    simpa [inDevices, inStages, Device.captured] using same
  simp only [List.getElem_zipWith, Device.update, Device.setStage_stage, Device.setStage_spec]
  rw [List.eq_replicate_iff]
  exact ⟨length, ones _ (List.getElem_mem inStages)⟩

/-- What the clocks sampled while the marker travelled: one zero, as far behind as the series
is long. -/
theorem measureBits_output (within : registers.flatten.length ≤ maxBits) (inside : i ≤ maxBits) :
    (Buffer.pack ((Series.run registers (measureBits maxBits)).1.drop maxBits)).get i =
      decide (i ≠ registers.flatten.length) := by
  rw [measureBits, Series.run_append, List.drop_left' (by simp), Buffer.get_pack]
  exact marker_output within inside

/-- The instruction registers as the scan captures them. -/
theorem Scanned.captured {bits : List Bool} {start : ScanPath}
    (scanned : Scanned w w' .ir bits start) :
    start.devices.map (·.captured .ir) = w.scanPath.specs.map (·.captureIR) := by
  rw [← scanned.specs, ScanPath.specs, List.map_map]
  rfl

/-- A measurement that was not stopped has found the length of the series and left ones in it. -/
theorem measureClocks_measured (tracked : Tracked w)
    (honest : w.env.Honest) (atLeast : 2 ≤ w.scanPath.irLength)
    (within : w.scanPath.irLength ≤ maxBits)
    (returned : measureClocks ctx maxBits w = (.ok output, w')) :
    markerLength output maxBits = .ok w.scanPath.irLength ∧ w'.scanPath.Bypassed ∧
      w'.scanPath.controller = .runTestIdle ∧ w'.conn.state = .idle := by
  obtain ⟨start, scanned, sampled⟩ := measureClocks_completed tracked returned
  have marker (i : Nat) (inside : i ≤ maxBits) :
      output.get i = decide (i ≠ w.scanPath.irLength) := by
    rw [sampled honest, scanned.captured]
    exact measureBits_output within inside
  have short : start.irLength ≤ maxBits := by
    rw [ScanPath.irLength, scanned.specs]
    exact within
  have split : measureBits maxBits = (List.replicate maxBits true ++ [false]) ++
      List.replicate maxBits true := by
    rw [measureBits, List.append_assoc]
    rfl
  refine ⟨markerLength_accepts atLeast within marker, ?_, ?_, scanned.state⟩
  · rw [scanned.scanPath, split]
    exact ScanPath.scanned_bypassed short
  · rw [scanned.scanPath]
    rfl

/-- A `MeasureIR` that returns a length has found that of the series. -/
theorem measureIR_measured {length : Nat} (tracked : Tracked w) (honest : w.env.Honest)
    (atLeast : 2 ≤ w.scanPath.irLength) (within : w.scanPath.irLength ≤ maxBits)
    (returned : measureIR ctx maxBits w = (.ok length, w')) :
    length = w.scanPath.irLength ∧ w'.conn.state = .idle := by
  rw [measureIR, run_bind] at returned
  have ticked := (validate_completed ctx w).1
  have tracked₁ := (validate_keeps ctx w tracked).2
  generalize validate ctx w = outcome at returned ticked tracked₁
  obtain ⟨err | limit, w₁⟩ := outcome
  · cases (Prod.mk.inj returned).1
  simp only [run_ite] at returned
  split_ifs at returned
  · cases (Prod.mk.inj returned).1
  rw [measureBody_eq, Int.toNat_natCast] at returned
  rcases clocks : measureClocks ctx maxBits w₁ with ⟨err | output, final⟩
  · rw [clocks] at returned
    cases (Prod.mk.inj returned).1
  have same : w₁.scanPath = w.scanPath := ticked.scanPath
  rw [clocks] at returned
  obtain ⟨measured, -, -, state⟩ :=
    measureClocks_measured tracked₁ (ticked.env ▸ honest) (by rw [same]; exact atLeast)
    (by rw [same]; exact within) clocks
  obtain ⟨found, rfl⟩ := Prod.mk.inj returned
  refine ⟨?_, state⟩
  rw [← same]
  exact Except.ok.inj (found.symm.trans measured)

/-- On a working wire, with a context that lasts, `MeasureIR` succeeds. -/
theorem measureIR_succeeds (maxBits : Nat) (working : Working env w)
    (known : w.conn.state ≠ .unknown) (atLeast : 2 ≤ w.scanPath.irLength)
    (within : w.scanPath.irLength ≤ maxBits)
    (bound : maxBits ≤ 65536) (alive : w.clock + 4 * maxBits + 131 ≤ ctx.deadline) :
    ∃ w', measureIR ctx maxBits w = (.ok w.scanPath.irLength, w') ∧ Working env w' ∧
      w'.clock ≤ w.clock + 4 * maxBits + 131 ∧ w'.scanPath.Bypassed ∧
        w'.scanPath.controller = .runTestIdle ∧
      w'.conn.state = .idle := by
  obtain ⟨limit, validated, ticked, later⟩ :=
    validate_succeeds working (show w.clock < ctx.deadline by omega)
  obtain ⟨output, w', clocks, works, time⟩ :=
    measureClocks_succeeds ctx maxBits ticked known (by omega)
  obtain ⟨measured, left⟩ :=
    measureClocks_measured ticked.tracked (ticked.same ▸ ticked.works.honest) atLeast within clocks
  refine ⟨w', ?_, works, by omega, left⟩
  have valid : ¬((maxBits : Int) < 2 ∨ (maxBits : Int) > 65536) := by omega
  rw [measureIR, run_bind, validated]
  simp only [run_ite]
  rw [if_neg valid, Int.toNat_natCast, measureBody_eq, clocks]
  exact congrArg (·, w') measured

/-! ## A wire that is stuck -/

/-- The wire samples one level whatever the devices do. What it returns behind the
sampled bits does not matter. -/
def Env.Stuck (env : Env) (level : Bool) : Prop :=
  ∀ time n, ∃ reply, (env.call time).reply n = some reply ∧ ∀ i < n, reply.get i = level

theorem clockChunk_stuck {ms di : Buffer} {n : Nat} {sampled : Buffer}
    (stuck : w.env.Stuck level) (returned : clockChunk ms di n w = (.ok sampled, w')) :
    (∀ i < n, sampled.get i = level) ∧ w'.env = w.env := by
  obtain ⟨reply, replied, constant⟩ := stuck w.clock n
  rw [clockChunk, run_bind] at returned
  cases failed : (w.env.call w.clock).failure with
  | some err =>
    simp only [failed, jtagIO] at returned
    cases (Prod.mk.inj returned).1
  | none =>
    simp only [failed, replied, jtagIO, Option.getD_some] at returned
    rw [run_bind] at returned
    simp only [run_ite] at returned
    split_ifs at returned with wrong
    · cases (Prod.mk.inj returned).1
    · obtain ⟨same, rfl⟩ := Prod.mk.inj returned
      obtain rfl : reply = sampled := Except.ok.inj same
      exact ⟨constant, rfl⟩

theorem clockLoop_stuck (ctx : Ctx) (tms tdi : Buffer) {bits limit : Nat} (positive : 0 < limit)
    {turns start : Nat} {result : Buffer} (stuck : w.env.Stuck level) (inside : start ≤ bits)
    (enough : bits - start ≤ turns)
    (returned : clockLoop ctx tms tdi bits limit turns start output w = (.ok result, w')) :
    result = output.putAll start (bits - start) fun _ => level := by
  induction turns generalizing start output w with
  | zero =>
    have done : bits - start = 0 := by omega
    rw [done]
    exact (Except.ok.inj (Prod.mk.inj returned).1).symm
  | succ turns ih =>
    rw [clockLoop] at returned
    simp only [run_ite] at returned
    split_ifs at returned with finished
    · have done : bits - start = 0 := by omega
      rw [done]
      exact (Except.ok.inj (Prod.mk.inj returned).1).symm
    · rw [run_bind] at returned
      rcases polled : (ctxErr ctx w).1 with _ | err
      swap
      · rw [polled] at returned
        cases (Prod.mk.inj returned).1
      obtain ⟨n, chunk⟩ : ∃ n, n = min limit (bits - start) := ⟨_, rfl⟩
      have parts : bits - start = n + (bits - (start + n)) := by omega
      simp only [← chunk, polled] at returned
      rw [run_bind] at returned
      rcases outcome : clockChunk (.fill n fun i => tms.get (start + i)) (.fill n fun i =>
        tdi.get (start + i)) n
        (ctxErr ctx w).2 with ⟨err | sampled, middle⟩
      · rw [outcome] at returned
        cases (Prod.mk.inj returned).1
      · rw [outcome] at returned
        have stuck' : (ctxErr ctx w).2.env.Stuck level := stuck
        obtain ⟨constant, env⟩ := clockChunk_stuck stuck' outcome
        rw [← env] at stuck'
        rw [ih stuck' (by omega) (by omega) returned, parts, ← Buffer.putAll_putAll]
        congr 1
        exact Buffer.putAll_congr _ constant

theorem clock_stuck {tms tdi : Buffer} {bits : Nat} {result : Buffer}
    (stuck : w.env.Stuck level) (returned : clock ctx tms tdi bits w = (.ok result, w'))
    (inside : i < bits) :
    result.get i = level := by
  rw [clock, run_bind] at returned
  obtain ⟨validated, positive⟩ := validate_completed ctx w
  rcases outcome : validate ctx w with ⟨err | limit, middle⟩
  · rw [outcome] at returned
    cases (Prod.mk.inj returned).1
  · rw [outcome] at returned validated positive
    have stuck' : middle.env.Stuck level := by
      rw [validated.env]
      exact stuck
    have filled := clockLoop_stuck ctx tms tdi (positive limit rfl) stuck' (Nat.zero_le _)
      (Nat.le_refl _) returned
    rw [filled, Buffer.get_putAll (by simp; omega), Buffer.get_zeros]
    simp [inside]

theorem markerLength_stuck
    (constant : ∀ i ≤ maxBits, output.get i = level) :
    ∃ err, markerLength output maxBits = .error err := by
  cases level with
  | true =>
    have nothing : markerLoop output (List.range (maxBits + 1)) 0 = .ok 0 :=
      markerLoop_skips output (fun i member =>
        constant i (by have := List.mem_range.mp member; omega)) 0
    refine ⟨.text "jtag: IR marker did not return within bound", ?_⟩
    rw [markerLength, nothing]
    rfl
  | false =>
    have first : markerLoop output (List.range (maxBits + 1)) 0 =
        .error (.text "jtag: invalid IR marker response") := by
      rw [List.range_succ_eq_map, markerLoop, if_pos (constant 0 (Nat.zero_le _)),
        if_pos (.inr (by decide))]
    exact ⟨_, by rw [markerLength, first]⟩

theorem measureClocks_stuck
    (stuck : w.env.Stuck level) (returned : measureClocks ctx maxBits w = (.ok output, w')) :
    ∀ i ≤ maxBits, output.get i = level := by
  obtain ⟨start, shifting, flushed, marked, _, first, second, third, fourth, _⟩ :=
    measureClocks_ok returned
  have clocked := (move_completed (congrArg Prod.fst first)).2
  have entered := (move_completed (congrArg Prod.fst second)).2
  have flush := (clock_completed (congrArg Prod.fst third)).1
  rw [first] at clocked
  rw [second] at entered
  rw [third] at flush
  have env : flushed.env = w.env := flush.env.trans (entered.env.trans clocked.env)
  rw [← env] at stuck
  exact fun i inside => clock_stuck stuck fourth (Nat.lt_succ_of_le inside)

/-! ## The measurement -/

/-- From any state that is known, on a wire that works, `MeasureIR` finds the length of the
instruction registers, leaves ones in all of them and ends in Idle; on a wire that is stuck it
fails. -/
theorem measureIR_exact (ctx : Ctx) (w : World) (maxBits : Nat) :
    (Working w.env w → w.conn.state ≠ .unknown → 2 ≤ w.scanPath.irLength →
      w.scanPath.irLength ≤ maxBits → maxBits ≤ 65536 →
      w.clock + 4 * maxBits + 131 ≤ ctx.deadline →
      ∃ w', measureIR ctx maxBits w = (.ok w.scanPath.irLength, w') ∧ w'.scanPath.Bypassed ∧
        w'.scanPath.controller = .runTestIdle ∧ w'.conn.state = .idle) ∧
      ∀ level, w.env.Stuck level → ∃ err, (measureIR ctx maxBits w).1 = .error err := by
  refine ⟨fun working known atLeast within bound alive => ?_, fun level stuck => ?_⟩
  · obtain ⟨w', measured, -, -, left⟩ :=
      measureIR_succeeds maxBits working known atLeast within bound alive
    exact ⟨w', measured, left⟩
  · rw [measureIR, run_bind]
    obtain ⟨ticked, -⟩ := validate_completed ctx w
    generalize validate ctx w = outcome at ticked ⊢
    obtain ⟨err | limit, w₁⟩ := outcome
    · exact ⟨err, rfl⟩
    simp only [run_ite]
    split_ifs
    · exact ⟨_, rfl⟩
    rw [measureBody_eq]
    rcases clocks : measureClocks ctx (maxBits : Int).toNat w₁ with ⟨err | output, w'⟩
    · exact ⟨err, rfl⟩
    · have stuck' : w₁.env.Stuck level := by
        rw [ticked.env]
        exact stuck
      exact markerLength_stuck (measureClocks_stuck stuck' clocks)

/-- A device on a working wire. -/
def lone : World where
  env := ⟨fun _ => ⟨none, 0, fun _ => none⟩, fun _ => 0, none⟩
  clock := 0
  scanPath := ⟨.runTestIdle, [⟨⟨[true, false, true], [true, true, true], fun _ => []⟩,
    [false, false, true], fun _ => [], fun _ => []⟩]⟩
  conn := ⟨.idle, 0, 1⟩
  chains := []
  taps := []
  calls := 0

theorem lone_working : Working lone.env lone where
  same := rfl
  works := ⟨fun _ => rfl, fun _ _ => rfl, nofun⟩
  timeout := by decide
  tracked := fun _ => rfl

/-- The device behind a wire that samples one level and packs what it sampled. -/
def loneStuck (level : Bool) : World :=
  { lone with
    env := ⟨fun _ => ⟨none, 0, fun n => some (.fill n fun _ => level)⟩, fun _ => 0, none⟩ }

theorem loneStuck_stuck (level : Bool) : (loneStuck level).env.Stuck level :=
  fun _ n => ⟨_, rfl, fun i inside => by simp [Buffer.get_fill, inside]⟩

/-- The device is measured, and neither a wire stuck high nor one stuck low is. -/
theorem measureIR_exact_lone :
    (∃ w', measureIR ⟨1000, .canceled⟩ 16 lone = (.ok 3, w') ∧ w'.scanPath.Bypassed ∧
      w'.scanPath.controller = .runTestIdle ∧ w'.conn.state = .idle) ∧
      ∀ level, ∃ err, (measureIR ⟨1000, .canceled⟩ 16 (loneStuck level)).1 = .error err := by
  refine ⟨?_, fun level => ?_⟩
  · exact (measureIR_exact ⟨1000, .canceled⟩ lone 16).1 lone_working (by decide) (by decide)
      (by decide) (by decide) (by decide)
  · exact (measureIR_exact ⟨1000, .canceled⟩ (loneStuck level) 16).2 level (loneStuck_stuck level)

end Ostiole.Jtag
