import Ostiole.Jtag.Tracking

/-!
# Scans of the devices

What one completed scan does to the devices: every device captures, the shift
stages of the column move as one register, and every device updates.
-/

namespace Ostiole.Jtag

open Ostiole Logic

variable {column : Column} {ctx : Ctx} {w : World}

/-- The TMS bits from Idle into the shift state of a column. -/
def Column.entry : Column → List Bool
  | .dr => [true, false, false]
  | .ir => [true, true, false, false]

/-! ## Shifting -/

namespace ScanPath

variable {p : ScanPath} {column : Column}

theorem setStages_stages {stages : List (List Bool)} (fit : stages.length = p.devices.length) :
    (p.setStages column stages).stages column = stages := by
  apply List.ext_getElem
  · simp [ScanPath.stages, setStages, fit]
  · intro index first second
    simp [ScanPath.stages, setStages]

theorem setStages_self : p.setStages column (p.stages column) = p := by
  obtain ⟨controller, devices⟩ := p
  simp only [setStages, ScanPath.stages, ScanPath.mk.injEq, true_and]
  apply List.ext_getElem
  · simp
  · intro index first second
    simp [Device.setStage]

theorem setStages_setStages {first second : List (List Bool)}
    (fit : first.length = p.devices.length) :
    (p.setStages column first).setStages column second = p.setStages column second := by
  simp only [setStages, ScanPath.mk.injEq, true_and]
  apply List.ext_getElem
  · simp [fit]
  · intro index inside _
    simp

/-- One shift cycle with TMS low. -/
theorem clock_shift (shifting : p.controller = .scan column .shift) (tdi : Bool) :
    p.clock false tdi = ((Series.shift (p.stages column) tdi).1,
      p.setStages column (Series.shift (p.stages column) tdi).2) := by
  cases p
  cases shifting
  cases column <;> rfl

/-- The last shift cycle leaves the shift state. -/
theorem clock_exit (shifting : p.controller = .scan column .shift) (tdi : Bool) :
    p.clock true tdi = ((Series.shift (p.stages column) tdi).1,
      { p.setStages column (Series.shift (p.stages column) tdi).2 with
        controller := .scan column .exit1 }) := by
  cases p
  cases shifting
  cases column <;> rfl

/-- Shift cycles with TMS low move the series and nothing else. -/
theorem run_stay (shifting : p.controller = .scan column .shift) (bits : List Bool) :
    p.run (bits.map (false, ·)) = ((Series.run (p.stages column) bits).1,
      p.setStages column (Series.run (p.stages column) bits).2) := by
  induction bits generalizing p with
  | nil => simp [Series.run, setStages_self]
  | cons bit bits ih =>
    have fit : (Series.shift (p.stages column) bit).2.length = p.devices.length := by
      simp [ScanPath.stages]
    rw [List.map_cons, run_cons, clock_shift shifting, ih (by exact shifting),
      setStages_stages fit, setStages_setStages fit]
    rfl

/-- A stream of shift cycles whose last one leaves the state. -/
theorem run_shift (shifting : p.controller = .scan column .shift) (bits : List Bool) (last : Bool) :
    p.run (bits.map (false, ·) ++ [(true, last)]) =
      ((Series.run (p.stages column) (bits ++ [last])).1,
        { p.setStages column (Series.run (p.stages column) (bits ++ [last])).2 with
          controller := .scan column .exit1 }) := by
  have fit : (Series.run (p.stages column) bits).2.length = p.devices.length := by
    simpa [ScanPath.stages] using congrArg List.length (Series.run_lengths (p.stages column) bits)
  rw [run_append, run_stay shifting, run_cons, clock_exit (by exact shifting), setStages_stages fit,
    setStages_setStages fit, Series.run_append]
  rfl

/-! ## A whole scan -/

/-- What a whole scan leaves: every device has updated from its part of the
series. -/
def scanned (p : ScanPath) (column : Column) (bits : List Bool) : ScanPath where
  controller := .runTestIdle
  devices := List.zipWith (fun d stage => (d.setStage column stage).update column) p.devices
    (Series.run (p.devices.map (·.captured column)) bits).2

/-- On the way into the shift state every device captures. -/
theorem run_entry (idle : p.controller = .runTestIdle) (column : Column) :
    (p.run (column.entry.map (·, false))).2 =
      ⟨.scan column .shift, p.devices.map (·.capture column)⟩ := by
  cases p
  cases idle
  cases column <;> rfl

/-- On the way back to Idle every device updates. -/
theorem run_exit (left : p.controller = .scan column .exit1) :
    (p.run [(true, false), (false, false)]).2 =
      ⟨.runTestIdle, p.devices.map (·.update column)⟩ := by
  cases p
  cases left
  cases column <;> rfl

/-- Entry, shifting and exit of a scan, with the bits sampled while shifting. -/
theorem run_scan (idle : p.controller = .runTestIdle) (column : Column) (bits : List Bool)
    (last : Bool) :
    let shifting := (p.run (column.entry.map (·, false))).2
    let shifted := shifting.run (bits.map (false, ·) ++ [(true, last)])
    shifted.1 = (Series.run (p.devices.map (·.captured column)) (bits ++ [last])).1 ∧
      (shifted.2.run [(true, false), (false, false)]).2 = p.scanned column (bits ++ [last]) := by
  intro shifting shifted
  have entered : shifting = ⟨.scan column .shift, p.devices.map (·.capture column)⟩ :=
    run_entry idle column
  have stages : shifting.stages column = p.devices.map (·.captured column) := by
    simp [entered, ScanPath.stages, Device.capture]
  have ready : shifting.controller = .scan column .shift := by rw [entered]
  have ran := run_shift ready bits last
  rw [stages] at ran
  refine ⟨congrArg Prod.fst ran, ?_⟩
  have left : shifted.2.controller = .scan column .exit1 := by
    simp only [shifted]
    rw [ran]
  rw [run_exit left, scanned]
  simp only [shifted]
  rw [ran, entered]
  simp only [setStages, ScanPath.mk.injEq, true_and, List.map_zipWith]
  apply List.ext_getElem
  · simp
  · intro index first second
    simp [Device.capture]

end ScanPath

/-! ## The connection's scans -/

/-- The state after the shift state of a column is left. -/
def Column.exitState : Column → State
  | .dr => .exit1DR
  | .ir => .exit1IR

theorem path_entry (column : Column) : path .idle column.shiftState = column.entry := by
  cases column <;> decide +kernel

theorem path_exit (column : Column) : path column.exitState .idle = [true, false] := by
  cases column <;> decide +kernel

/-- The cycles of a movement keep TDI low. -/
theorem cyclesFrom_move (bits : List Bool) :
    cyclesFrom (.pack bits) (.zeros bits.length) 0 bits.length = bits.map (·, false) := by
  apply List.ext_getElem
  · simp [cyclesFrom]
  · intro index first second
    simp only [cyclesFrom, List.length_map, List.length_range] at first
    simp [cyclesFrom, Buffer.get_pack, first]

/-- The cycles of a scan's data leave the shift state with the last bit. -/
theorem cyclesFrom_data (data : Buffer) (count : Nat) :
    cyclesFrom ((Buffer.zeros (count + 1)).put count true) data 0 (count + 1) =
      (data.bits count).map (false, ·) ++ [(true, data.get count)] := by
  have tms (i : Nat) : ((Buffer.zeros (count + 1)).put count true).get i = decide (count = i) := by
    rw [Buffer.get_put (by simp; omega)]
    simp
  simp only [cyclesFrom, tms, Nat.zero_add, List.range_succ, List.map_append, List.map_cons,
    List.map_nil, decide_true, Buffer.bits, List.map_map]
  congr 1
  apply List.map_congr_left
  intro i member
  have before : i < count := List.mem_range.mp member
  simp [Nat.ne_of_gt before]

theorem bits_succ (data : Buffer) (count : Nat) :
    data.bits (count + 1) = data.bits count ++ [data.get count] := by
  simp [Buffer.bits, List.range_succ]

/-- A movement that returns nil started from a known state and clocked its path. -/
theorem move_completed {target : State}
    (moved : (move ctx target w).1 = none) :
    w.conn.state ≠ .unknown ∧
      Clocked w (move ctx target w).2 ((path w.conn.state target).map (·, false)) := by
  unfold move at moved ⊢
  rw [run_bind] at moved ⊢
  obtain ⟨validated, -⟩ := validate_completed ctx w
  generalize validate ctx w = outcome at moved validated ⊢
  obtain ⟨limit, start⟩ := outcome
  have same : start.conn.state = w.conn.state := validated.state
  cases limit with
  | error err => cases moved
  | ok limit =>
    simp only [run_ite, run_get_bind] at moved ⊢
    split_ifs at moved ⊢ with invalid lost
    · cases moved
    · cases moved
    · rw [run_bind] at moved ⊢
      have completed (output : Buffer) (returned : (clock ctx
          (.pack (path start.conn.state target)) (.zeros (path start.conn.state target).length)
          (path start.conn.state target).length start).1 = .ok output) :=
        (clock_completed returned).1
      generalize clock ctx _ _ _ start = outcome at moved completed ⊢
      obtain ⟨result, final⟩ := outcome
      cases result with
      | error err => cases moved
      | ok output =>
        have clocked := completed output rfl
        rw [cyclesFrom_move, same] at clocked
        exact ⟨same ▸ lost, validated.append clocked⟩

/-- The state a scan tracks from Idle to the end of its data. -/
theorem shift_state (column : Column) (bits : List Bool) (last : Bool) :
    (State.idle.run ((column.entry.map (·, false)).map Prod.fst)).run
      ((bits.map (false, ·) ++ [(true, last)]).map Prod.fst) = column.exitState := by
  have entered : State.idle.run ((column.entry.map (·, false)).map Prod.fst) =
      column.shiftState := by
    cases column <;> rfl
  rw [entered]
  induction bits with
  | nil => cases column <;> rfl
  | cons bit bits ih =>
    have stays : column.shiftState.next false = column.shiftState := by cases column <;> rfl
    rw [List.map_cons, List.cons_append, List.map_cons, State.run, List.foldl_cons, stays]
    exact ih

/-- What a completed scan has done, from the path its devices were on in Idle. -/
structure Scanned (w w' : World) (column : Column) (bits : List Bool) (start : ScanPath) :
    Prop where
  env : w'.env = w.env
  known : w.conn.state ≠ .unknown
  idle : start.controller = .runTestIdle
  moved : start = (w.scanPath.run ((path w.conn.state .idle).map (·, false))).2
  scanPath : w'.scanPath = start.scanned column bits
  state : w'.conn.state = .idle

theorem Scanned.specs {w' : World} {bits : List Bool} {start : ScanPath}
    (scanned : Scanned w w' column bits start) : start.specs = w.scanPath.specs := by
  rw [scanned.moved]
  exact ScanPath.run_specs _ _

/-- A scan from Idle starts where the devices are. -/
theorem Scanned.resting {w' : World} {bits : List Bool} {start : ScanPath}
    (scanned : Scanned w w' column bits start) (idle : w.conn.state = .idle) :
    start = w.scanPath := by
  rw [scanned.moved, idle]
  rfl

/-- A scan that does not fail has run from Idle to Idle, and an honest wire has
returned what left the series. -/
theorem scanBody_completed {data : Buffer} {count : Nat}
    (tracked : Tracked w) (returned : (scanBody ctx data (count + 1) column w).1.2 = none) :
    ∃ output start, (scanBody ctx data (count + 1) column w).1.1 = some output ∧
      Scanned w (scanBody ctx data (count + 1) column w).2 column (data.bits (count + 1)) start ∧
      (w.env.Honest → output = .pack
        (Series.run (start.devices.map (·.captured column)) (data.bits (count + 1))).1) := by
  unfold scanBody at returned ⊢
  rw [run_bind] at returned ⊢
  have toIdle (stopped : (move ctx .idle w).1 = none) := move_completed stopped
  have kept := (move_keeps ctx .idle w tracked).2
  generalize move ctx .idle w = first at returned toIdle kept ⊢
  obtain ⟨result, start⟩ := first
  cases result with
  | some err => cases returned
  | none =>
    obtain ⟨known, clocked⟩ := toIdle rfl
    have idleState := clocked.arrives known
    have idle := kept.idle idleState
    simp only at returned ⊢
    rw [run_bind] at returned ⊢
    have toShift (stopped : (move ctx column.shiftState start).1 = none) :=
      move_completed stopped
    generalize move ctx column.shiftState start = second at returned toShift ⊢
    obtain ⟨result, shifting⟩ := second
    cases result with
    | some err => cases returned
    | none =>
      obtain ⟨-, entered⟩ := toShift rfl
      rw [idleState, path_entry] at entered
      simp only [Nat.add_sub_cancel] at returned ⊢
      rw [run_bind] at returned ⊢
      have shifts (sampled : Buffer) (completed : (clock ctx
          ((Buffer.zeros (count + 1)).put count true) data (count + 1) shifting).1 =
            .ok sampled) := clock_completed completed
      rw [cyclesFrom_data] at shifts
      generalize clock ctx _ data (count + 1) shifting = third at returned shifts ⊢
      obtain ⟨result, shifted⟩ := third
      cases result with
      | error err => cases returned
      | ok sampled =>
        obtain ⟨shift, filled⟩ := shifts sampled rfl
        have exitState : shifted.conn.state = column.exitState := by
          rw [shift.state, entered.state, idleState]
          exact shift_state column (data.bits count) (data.get count)
        simp only at returned ⊢
        rw [run_bind] at returned ⊢
        have toExit (stopped : (move ctx .idle shifted).1 = none) := move_completed stopped
        generalize move ctx .idle shifted = fourth at returned toExit ⊢
        obtain ⟨result, final⟩ := fourth
        cases result with
        | some err => cases returned
        | none =>
          obtain ⟨-, exited⟩ := toExit rfl
          rw [exitState, path_exit] at exited
          obtain ⟨samples, ended⟩ := ScanPath.run_scan idle column (data.bits count)
            (data.get count)
          simp only [run_pure]
          refine ⟨sampled, start.scanPath, rfl,
            ⟨?_, known, idle, clocked.scanPath, ?_, ?_⟩, fun honest => ?_⟩
          · exact exited.env.trans (shift.env.trans (entered.env.trans clocked.env))
          · rw [bits_succ, ← ended, exited.scanPath, shift.scanPath, entered.scanPath]
            rfl
          · rw [exited.state, exitState]
            cases column <;> rfl
          · rw [filled (entered.env ▸ clocked.env ▸ honest), bits_succ, ← samples,
              entered.scanPath]

/-- An outcome without error had none before, and its caller is still waiting. -/
theorem addCause_none {err : Option Err}
    (returned : (addCause ctx err w).1 = none) : err = none ∧ (addCause ctx err w).2 = w.tick := by
  unfold addCause at returned ⊢
  rw [run_bind] at returned ⊢
  have ticked : (ctxErr ctx w).2 = w.tick := rfl
  generalize ctxErr ctx w = polled at returned ticked ⊢
  obtain ⟨cause, after⟩ := polled
  cases cause with
  | none => exact ⟨returned, ticked⟩
  | some cause =>
    have never (name : Sentinel) :
        (if isErr err name then err else Err.joined err (some cause)) ≠ none := by
      cases err with
      | none => exact nofun
      | some err => split_ifs <;> exact nofun
    exfalso
    cases reason : ctx.cause with
    | canceled =>
      rw [reason] at returned
      exact never .canceled returned
    | deadlineExceeded =>
      rw [reason] at returned
      exact never .deadlineExceeded returned

theorem finishScan_none {serial : Nat} {err : Option Err}
    (returned : (finishScan ctx serial err w).1 = none) :
    err = none ∧ (finishScan ctx serial err w).2 = w.tick := by
  unfold finishScan at returned ⊢
  rw [run_get_bind] at returned ⊢
  cases err with
  | some err =>
    exfalso
    dsimp only at returned
    split at returned
    · rw [run_bind] at returned
      exact absurd (addCause_none returned).1 nofun
    · exact absurd (addCause_none returned).1 nofun
  | none =>
    simp only [Option.isSome_none, Bool.false_eq_true, false_and, if_false] at returned ⊢
    exact ⟨trivial, (addCause_none returned).2⟩

/-- A scan that returns no error has returned its capture. -/
theorem scan_completed {data : Buffer} {bits : Int}
    (tracked : Tracked w) (returned : (scan ctx data bits column w).1.2 = none) :
    0 < bits ∧ ∃ output start, (scan ctx data bits column w).1.1 = some output ∧
      Scanned w (scan ctx data bits column w).2 column (data.bits bits.toNat) start ∧
      (w.env.Honest → output = .pack
        (Series.run (start.devices.map (·.captured column)) (data.bits bits.toNat)).1) := by
  unfold scan at returned ⊢
  rw [run_bind] at returned ⊢
  obtain ⟨validated, -⟩ := validate_completed ctx w
  obtain ⟨-, tracked⟩ := validate_keeps ctx w tracked
  generalize validate ctx w = outcome at returned validated tracked ⊢
  obtain ⟨limit, start⟩ := outcome
  cases limit with
  | error err => cases returned
  | ok limit =>
    simp only [run_ite] at returned ⊢
    split_ifs at returned ⊢ with invalid
    · cases returned
    · obtain ⟨count, positive⟩ : ∃ count, bits.toNat = count + 1 := ⟨bits.toNat - 1, by omega⟩
      rw [run_get_bind, run_bind, run_bind, positive] at returned ⊢
      have opened : Clocked start (completionContext start).2 [] := ⟨rfl, rfl, rfl⟩
      have kept : Tracked (completionContext start).2 := (completionContext_keeps _ tracked).2
      generalize completionContext start = opening at returned opened kept ⊢
      obtain ⟨completion, begun⟩ := opening
      have completed (returned : (scanBody completion data (count + 1) column begun).1.2 = none) :=
        scanBody_completed kept returned
      rw [run_bind] at returned ⊢
      simp only at returned completed ⊢
      generalize scanBody completion data (count + 1) column begun = body at returned completed ⊢
      obtain ⟨⟨capture, err⟩, scanned⟩ := body
      simp only [run_pure] at returned completed ⊢
      obtain ⟨clean, finished⟩ := finishScan_none returned
      obtain ⟨output, path, captured, whole, filled⟩ := completed clean
      have same : begun.scanPath = w.scanPath := opened.scanPath.trans validated.scanPath
      have sameState : begun.conn.state = w.conn.state := opened.state.trans validated.state
      have sameEnv : begun.env = w.env := opened.env.trans validated.env
      rw [finished]
      refine ⟨by omega, output, path, captured, ?_, fun honest => filled (sameEnv ▸ honest)⟩
      exact ⟨whole.env.trans sameEnv, sameState ▸ whole.known, whole.idle,
        same ▸ sameState ▸ whole.moved, whole.scanPath, whole.state⟩

/-! ## Idle cycles -/

/-- Cycles with TMS low in Run-Test/Idle change nothing. -/
theorem ScanPath.run_rest {p : ScanPath} (idle : p.controller = .runTestIdle)
    {cycles : List (Bool × Bool)} (low : ∀ cycle ∈ cycles, cycle.1 = false) :
    (p.run cycles).2 = p := by
  induction cycles with
  | nil => rfl
  | cons cycle cycles ih =>
    have rests : (p.clock cycle.1 cycle.2).2 = p := by
      rw [low cycle List.mem_cons_self]
      cases p
      cases idle
      rfl
    rw [run_cons, rests]
    exact ih fun cycle member => low cycle (List.mem_cons_of_mem _ member)

/-- An `Idle` that succeeds from Idle, or without a cycle from an unknown state,
leaves the devices alone. -/
theorem idle_completed {cycles : Int} (tracked : Tracked w)
    (resting : w.conn.state = .idle ∨ w.conn.state = .unknown)
    (returned : (idle ctx cycles w).1 = none) :
    (idle ctx cycles w).2.scanPath = w.scanPath ∧
      (idle ctx cycles w).2.conn.state = w.conn.state := by
  unfold idle at returned ⊢
  rw [run_bind] at returned ⊢
  obtain ⟨validated, -⟩ := validate_completed ctx w
  obtain ⟨-, tracked⟩ := validate_keeps ctx w tracked
  generalize validate ctx w = outcome at returned validated tracked ⊢
  obtain ⟨limit, start⟩ := outcome
  have samePath : start.scanPath = w.scanPath := validated.scanPath
  have sameState : start.conn.state = w.conn.state := validated.state
  cases limit with
  | error err => cases returned
  | ok limit =>
    simp only [run_ite] at returned ⊢
    split_ifs at returned ⊢ with invalid zero
    · cases returned
    · exact ⟨samePath, sameState⟩
    · rw [run_bind] at returned ⊢
      have moves (stopped : (move ctx .idle start).1 = none) := move_completed stopped
      generalize move ctx .idle start = outcome at returned moves ⊢
      obtain ⟨err, middle⟩ := outcome
      cases err with
      | some err => cases returned
      | none =>
        obtain ⟨known, moved⟩ := moves rfl
        have idleState : start.conn.state = .idle := by
          rcases resting with resting | lost
          · exact sameState.trans resting
          · exact absurd (sameState.trans lost) known
        have idleNow := tracked.idle idleState
        have stays : (path start.conn.state .idle).map (·, false) = [] := by
          rw [idleState]
          rfl
        rw [stays] at moved
        have path : middle.scanPath = start.scanPath := moved.scanPath
        have state : middle.conn.state = start.conn.state := moved.state
        simp only at returned ⊢
        rw [run_bind] at returned ⊢
        have clocks (output : Buffer) (completed : (clock ctx (.zeros cycles.toNat)
            (.zeros cycles.toNat) cycles.toNat middle).1 = .ok output) :=
          (clock_completed completed).1
        generalize clock ctx _ _ _ middle = outcome at returned clocks ⊢
        obtain ⟨result, final⟩ := outcome
        cases result with
        | error err => cases returned
        | ok output =>
          have low : ∀ cycle ∈ cyclesFrom (.zeros cycles.toNat) (.zeros cycles.toNat) 0
              cycles.toNat, cycle.1 = false := by
            intro cycle member
            obtain ⟨i, -, rfl⟩ := List.mem_map.mp member
            simp
          have clocked := clocks output rfl
          have rested : ∀ bits : List Bool, (∀ bit ∈ bits, bit = false) →
              State.idle.run bits = .idle := by
            intro bits low
            induction bits with
            | nil => rfl
            | cons bit bits ih =>
              rw [low bit List.mem_cons_self]
              exact ih fun bit member => low bit (List.mem_cons_of_mem _ member)
          refine ⟨?_, ?_⟩
          · refine clocked.scanPath.trans ?_
            rw [path, ScanPath.run_rest idleNow low, samePath]
          · refine clocked.state.trans ?_
            rw [state, idleState, rested _ (by simpa using low), ← sameState, idleState]

end Ostiole.Jtag
