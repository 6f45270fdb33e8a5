import Ostiole.Jtag.Conn
import Ostiole.Logic.Program
import Mathlib.Data.List.GetD

/-!
# State tracking

Whatever the wire does, a state the connection reports is the state its devices
are in. One wire call keeps this; every method is made of wire calls, and only a
completed `Reset` turns an unknown state into a known one.
-/

namespace Ostiole.Jtag

open Ostiole Logic

variable {tdi tms : Buffer} {bits : Nat} {w w' : World} (ctx : Ctx)

/-! ## The driver's table and the controller -/

/-- The controller state a tracked state stands for. -/
def State.controller : State → Option Controller
  | .unknown => none
  | .reset => some .testLogicReset
  | .idle => some .runTestIdle
  | .selectDR => some (.scan .dr .select)
  | .captureDR => some (.scan .dr .capture)
  | .shiftDR => some (.scan .dr .shift)
  | .exit1DR => some (.scan .dr .exit1)
  | .pauseDR => some (.scan .dr .pause)
  | .exit2DR => some (.scan .dr .exit2)
  | .updateDR => some (.scan .dr .update)
  | .selectIR => some (.scan .ir .select)
  | .captureIR => some (.scan .ir .capture)
  | .shiftIR => some (.scan .ir .shift)
  | .exit1IR => some (.scan .ir .exit1)
  | .pauseIR => some (.scan .ir .pause)
  | .exit2IR => some (.scan .ir .exit2)
  | .updateIR => some (.scan .ir .update)

/-- The table follows the controller. -/
theorem State.next_controller {state : State} {controller : Controller}
    (same : state.controller = some controller) (tms : Bool) :
    (state.next tms).controller = some (controller.next tms) := by
  cases state <;> cases tms <;> cases same <;> rfl

theorem State.run_controller {state : State} {controller : Controller}
    (same : state.controller = some controller) (bits : List Bool) :
    (state.run bits).controller = some (bits.foldl Controller.next controller) := by
  induction bits generalizing state controller with
  | nil => exact same
  | cons bit bits ih => exact ih (State.next_controller same bit)

theorem State.run_append (state : State) (first second : List Bool) :
    state.run (first ++ second) = (state.run first).run second :=
  List.foldl_append ..

theorem State.run_unknown (bits : List Bool) : State.unknown.run bits = .unknown := by
  induction bits with
  | nil => rfl
  | cons bit bits ih => cases bit <;> exact ih

/-- Five cycles with TMS high reset the controller from wherever it is. -/
theorem Controller.fiveHigh (controller : Controller) :
    [true, true, true, true, true].foldl Controller.next controller = .testLogicReset := by
  rcases controller with _ | _ | ⟨_ | _, _ | _ | _ | _ | _ | _ | _⟩ <;> rfl

theorem advance_eq_run (state : State) (tms : Buffer) (bits : Nat) :
    advance state tms bits = state.run (tms.bits bits) := by
  have stays (state : State) (tms : Bool) :
      (if state ≠ .unknown then state.next tms else state) = state.next tms := by
    cases state <;> cases tms <;> rfl
  simp only [advance, stays, State.run, Buffer.bits, List.foldl_map]

/-! ## The invariant and what a method may do -/

/-- A state the connection reports is the controller's. -/
def Tracked (w : World) : Prop :=
  w.conn.state ≠ .unknown → w.conn.state.controller = some w.scanPath.controller

theorem Tracked.idle (tracked : Tracked w) (idle : w.conn.state = .idle) :
    w.scanPath.controller = .runTestIdle := by
  have same := tracked (by rw [idle]; decide)
  rw [idle] at same
  exact (Option.some.inj same).symm

/-- The effect every method of the connection has: it leaves the chains alone,
counts its wire calls in `serial`, and moves no device without one. -/
structure Wired (w w' : World) : Prop where
  env : w'.env = w.env
  timeout : w'.conn.completionTimeout = w.conn.completionTimeout
  chains : w'.chains = w.chains
  taps : w'.taps = w.taps
  specs : w'.scanPath.specs = w.scanPath.specs
  counted : ∃ count, w'.calls = w.calls + count ∧ w'.conn.serial = w.conn.serial + count
  still : w'.calls = w.calls → w'.scanPath = w.scanPath ∧
    (w'.conn.state = w.conn.state ∨ w'.conn.state = .unknown)

namespace Wired

protected theorem refl (w : World) : Wired w w :=
  ⟨rfl, rfl, rfl, rfl, rfl, ⟨0, rfl, rfl⟩, fun _ => ⟨rfl, .inl rfl⟩⟩

theorem calls_le (wired : Wired w w') : w.calls ≤ w'.calls := by
  obtain ⟨count, calls, -⟩ := wired.counted
  omega

protected theorem trans {w middle w' : World} (first : Wired w middle) (second : Wired middle w') :
    Wired w w' where
  env := second.env.trans first.env
  timeout := second.timeout.trans first.timeout
  chains := second.chains.trans first.chains
  taps := second.taps.trans first.taps
  specs := second.specs.trans first.specs
  counted := by
    obtain ⟨before, calls, serial⟩ := first.counted
    obtain ⟨after, calls', serial'⟩ := second.counted
    exact ⟨before + after, by omega, by omega⟩
  still quiet := by
    have before := first.calls_le
    have after := second.calls_le
    obtain ⟨path, state⟩ := first.still (by omega)
    obtain ⟨path', state'⟩ := second.still (by omega)
    refine ⟨path'.trans path, ?_⟩
    rcases state' with same | lost
    · rwa [same]
    · exact .inr lost

end Wired

/-- The effect of every method but `Reset`: a lost state stays lost. -/
structure Moved (w w' : World) : Prop extends Wired w w' where
  lost : w.conn.state = .unknown → w'.conn.state = .unknown

namespace Moved

instance : Std.Refl Moved := ⟨fun w => ⟨Wired.refl w, id⟩⟩

instance : IsTrans World Moved :=
  ⟨fun _ _ _ first second => ⟨first.toWired.trans second.toWired, second.lost ∘ first.lost⟩⟩

end Moved

/-- A method keeps the tracked state right and finds no lost one. -/
abbrev Keeps {α : Type} (program : JtagM α) : Prop := Preserves Tracked Moved program

theorem ctxErr_keeps : Keeps (ctxErr ctx) := fun _ tracked =>
  ⟨⟨⟨rfl, rfl, rfl, rfl, rfl, ⟨0, rfl, rfl⟩, fun _ => ⟨rfl, .inl rfl⟩⟩, id⟩, tracked⟩

theorem completionContext_keeps : Keeps completionContext := fun _ tracked =>
  ⟨⟨⟨rfl, rfl, rfl, rfl, rfl, ⟨0, rfl, rfl⟩, fun _ => ⟨rfl, .inl rfl⟩⟩, id⟩, tracked⟩

theorem loseState_keeps : Keeps (modifyConn fun c => { c with state := .unknown }) := fun _ _ =>
  ⟨⟨⟨rfl, rfl, rfl, rfl, rfl, ⟨0, rfl, rfl⟩, fun _ => ⟨rfl, .inr rfl⟩⟩, fun _ => rfl⟩,
    fun known => absurd rfl known⟩

theorem get_keeps : Keeps (get : JtagM World) := Preserves.reads fun _ => rfl

theorem validate_keeps : Keeps (validate ctx) := by
  unfold validate
  refine (ctxErr_keeps ctx).check (fun _ => .pure _) ?_
  refine get_keeps.bind fun w => .ite (.pure _) ?_
  cases w.env.maxTransferBits with
  | none => exact .pure _
  | some limit => exact .ite (.pure _) (.pure _)

/-! ## One wire call -/

theorem cycles_tms (ms di : Buffer) (n : Nat) : (cycles ms di n).map Prod.fst = ms.bits n := by
  simp [cycles, Buffer.bits]

/-- What one wire call does: it fails and the state is lost, or the devices have
seen every cycle and the tracked state has followed them. -/
theorem clockChunk_spec (ms di : Buffer) (n : Nat) (w : World) :
    ∃ path state, (clockChunk ms di n w).2 =
        { w with
          clock := w.clock + 1
          scanPath := path
          conn := { w.conn with serial := w.conn.serial + 1, state := state }
          calls := w.calls + 1 } ∧
      path.specs = w.scanPath.specs ∧
      match (clockChunk ms di n w).1 with
      | .error _ => state = .unknown
      | .ok sampled =>
        path = (w.scanPath.run (cycles ms di n)).2 ∧ state = w.conn.state.run (ms.bits n) ∧
        (w.env.call w.clock).failure = none ∧
        sampled = ((w.env.call w.clock).reply n).getD
          (Buffer.pack (w.scanPath.run (cycles ms di n)).1) := by
  unfold clockChunk
  rw [run_bind]
  cases failed : (w.env.call w.clock).failure with
  | some err =>
    simp only [failed, jtagIO]
    exact ⟨_, _, rfl, ScanPath.run_specs _ _, rfl⟩
  | none =>
    simp only [failed, jtagIO]
    rw [run_bind]
    simp only [run_ite]
    split_ifs with wrong
    · exact ⟨_, _, rfl, ScanPath.run_specs _ _, rfl⟩
    · exact ⟨_, _, rfl, ScanPath.run_specs _ _, rfl, advance_eq_run _ _ _, trivial, rfl⟩

theorem clockChunk_keeps (ms di : Buffer) (n : Nat) : Keeps (clockChunk ms di n) := by
  intro w tracked
  obtain ⟨path, state, after, specs, outcome⟩ := clockChunk_spec ms di n w
  rw [after]
  cases result : (clockChunk ms di n w).1 with
  | error err =>
    rw [result] at outcome
    subst outcome
    exact ⟨⟨⟨rfl, rfl, rfl, rfl, specs, ⟨1, rfl, rfl⟩, fun quiet =>
      absurd quiet (Nat.succ_ne_self _)⟩, fun _ => rfl⟩, fun known => absurd rfl known⟩
  | ok sampled =>
    rw [result] at outcome
    obtain ⟨rfl, rfl, -, -⟩ := outcome
    refine ⟨⟨⟨rfl, rfl, rfl, rfl, specs, ⟨1, rfl, rfl⟩, fun quiet =>
      absurd quiet (Nat.succ_ne_self _)⟩, fun lost => ?_⟩, fun known => ?_⟩
    · simp only [lost, State.run_unknown]
    · have before : w.conn.state ≠ .unknown := by
        intro lost
        refine absurd ?_ known
        simp only [lost, State.run_unknown]
      simp only [ScanPath.run_controller, cycles_tms]
      exact State.run_controller (tracked before) _

theorem clockLoop_keeps (tms tdi : Buffer) (bits limit turns : Nat) :
    ∀ start output, Keeps (clockLoop ctx tms tdi bits limit turns start output) := by
  induction turns with
  | zero => intro start output; exact .pure _
  | succ turns ih =>
    intro start output
    unfold clockLoop
    refine .ite (.pure _) ((ctxErr_keeps ctx).check (fun _ => .pure _) ?_)
    exact (clockChunk_keeps _ _ _).checkOk (fun _ => .pure _) fun _ => ih _ _

theorem clock_keeps (tms tdi : Buffer) (bits : Nat) :
    Keeps (clock ctx tms tdi bits) := by
  exact (validate_keeps ctx).checkOk (fun _ => .pure _) fun _ => clockLoop_keeps _ _ _ _ _ _ _ _

/-! ## A completed clock stream -/

/-- The cycles of a stream from `start` on. -/
def cyclesFrom (tms tdi : Buffer) (start count : Nat) : List (Bool × Bool) :=
  (List.range count).map fun i => (tms.get (start + i), tdi.get (start + i))

theorem cyclesFrom_append (tms tdi : Buffer) (start first second : Nat) :
    cyclesFrom tms tdi start (first + second) =
      cyclesFrom tms tdi start first ++ cyclesFrom tms tdi (start + first) second := by
  simp [cyclesFrom, List.range_add, Nat.add_assoc]

/-- The buffers of one wire call carry its part of the stream. -/
theorem cycles_chunk (tms tdi : Buffer) (start n : Nat) :
    cycles (.fill n fun i => tms.get (start + i)) (.fill n fun i => tdi.get (start + i)) n =
      cyclesFrom tms tdi start n := by
  apply List.map_congr_left
  intro i member
  have inside : i < n := List.mem_range.mp member
  simp [Buffer.get_fill, inside]

/-- The wire returns the bits it sampled. -/
def Env.Honest (env : Env) : Prop := ∀ time bits, (env.call time).reply bits = none

/-- What a completed stream of cycles has done to the world. -/
structure Clocked (w w' : World) (cycles : List (Bool × Bool)) : Prop where
  env : w'.env = w.env
  scanPath : w'.scanPath = (w.scanPath.run cycles).2
  state : w'.conn.state = w.conn.state.run (cycles.map Prod.fst)

/-- The way to Idle ends there. -/
theorem Clocked.arrives (clocked : Clocked w w' ((path w.conn.state .idle).map (·, false)))
    (known : w.conn.state ≠ .unknown) : w'.conn.state = .idle := by
  rw [clocked.state, List.map_map, Function.comp_def, List.map_id']
  exact path_idle_arrives known

theorem Clocked.append {middle : World} {first second : List (Bool × Bool)}
    (before : Clocked w middle first) (after : Clocked middle w' second) :
    Clocked w w' (first ++ second) where
  env := after.env.trans before.env
  scanPath := by rw [after.scanPath, before.scanPath, ScanPath.run_append]
  state := by rw [after.state, before.state, List.map_append, State.run_append]

/-- The part of a stream that one wire call clocks. -/
theorem clockChunk_completed {start n : Nat} {sampled : Buffer}
    (returned : clockChunk (.fill n fun i => tms.get (start + i))
      (.fill n fun i => tdi.get (start + i)) n w = (.ok sampled, w')) :
    Clocked w w' (cyclesFrom tms tdi start n) ∧
      (w.env.Honest → sampled = .pack (w.scanPath.run (cyclesFrom tms tdi start n)).1) := by
  obtain ⟨path, state, after, -, outcome⟩ := clockChunk_spec
    (.fill n fun i => tms.get (start + i)) (.fill n fun i => tdi.get (start + i)) n w
  rw [returned] at after outcome
  simp only [← cycles_tms _ (.fill n fun i => tdi.get (start + i)), cycles_chunk] at outcome
  obtain ⟨pathRan, stateRan, -, sampledBits⟩ := outcome
  simp only at after
  rw [after]
  refine ⟨⟨rfl, pathRan, stateRan⟩, fun honest => ?_⟩
  rw [sampledBits, honest]
  rfl

/-- The loop has clocked the rest of the stream when it returns a buffer, and an
honest wire has filled that buffer with what was sampled. -/
theorem clockLoop_completed (tms tdi : Buffer) {limit : Nat} (positive : 0 < limit)
    (turns : Nat) : ∀ start output (w : World) result, start ≤ bits → bits - start ≤ turns →
      (clockLoop ctx tms tdi bits limit turns start output w).1 = .ok result →
      Clocked w (clockLoop ctx tms tdi bits limit turns start output w).2
        (cyclesFrom tms tdi start (bits - start)) ∧
      (w.env.Honest → result = output.putAll start (bits - start) fun i =>
        (w.scanPath.run (cyclesFrom tms tdi start (bits - start))).1.getD i false) := by
  induction turns with
  | zero =>
    intro start output w result _ enough returned
    have done : bits - start = 0 := by omega
    cases returned
    rw [done]
    exact ⟨⟨rfl, rfl, rfl⟩, fun _ => rfl⟩
  | succ turns ih =>
    intro start output w result inside enough returned
    unfold clockLoop at returned ⊢
    simp only [run_ite] at returned ⊢
    split_ifs at returned ⊢ with finished
    · have done : bits - start = 0 := by omega
      cases returned
      rw [done]
      exact ⟨⟨rfl, rfl, rfl⟩, fun _ => rfl⟩
    · rw [run_bind] at returned ⊢
      generalize (ctxErr ctx w).1 = err at returned ⊢
      cases err with
      | some err => cases returned
      | none =>
        obtain ⟨n, chunk⟩ : ∃ n, n = min limit (bits - start) := ⟨_, rfl⟩
        have parts : bits - start = n + (bits - (start + n)) := by omega
        simp only [← chunk] at returned ⊢
        rw [run_bind] at returned ⊢
        have ticked : Clocked w (ctxErr ctx w).2 [] := ⟨rfl, rfl, rfl⟩
        generalize outcome : clockChunk _ _ n (ctxErr ctx w).2 = reply at returned ⊢
        obtain ⟨reply, middle⟩ := reply
        cases reply with
        | error err => cases returned
        | ok sampled =>
          obtain ⟨first, sampledBits⟩ := clockChunk_completed outcome
          obtain ⟨rest, filled⟩ := ih _ _ _ _ (by omega) (by omega) returned
          rw [parts, cyclesFrom_append, ScanPath.run_append]
          refine ⟨(ticked.append first).append rest, fun honest => ?_⟩
          -- The bits of this call, then those of the turns after it.
          have length : (w.scanPath.run (cyclesFrom tms tdi start n)).1.length = n := by
            simp [cyclesFrom]
          have here : sampled = .pack (w.scanPath.run (cyclesFrom tms tdi start n)).1 :=
            sampledBits honest
          have reached : middle.scanPath = (w.scanPath.run (cyclesFrom tms tdi start n)).2 :=
            first.scanPath
          rw [filled (first.env ▸ honest), ← Buffer.putAll_putAll, reached, here]
          congr 1
          · apply Buffer.putAll_congr
            intro i before
            rw [Buffer.get_pack, List.getD_append _ _ _ _ (length.symm ▸ before)]
          · funext i
            rw [List.getD_append_right _ _ _ _ (by omega), length, Nat.add_sub_cancel_left]

/-- A bound that passed validation is positive. -/
theorem validate_completed (w : World) :
    Clocked w (validate ctx w).2 [] ∧ ∀ limit, (validate ctx w).1 = .ok limit → 0 < limit := by
  unfold validate
  rw [run_bind]
  have ticked : Clocked w (ctxErr ctx w).2 [] := ⟨rfl, rfl, rfl⟩
  generalize (ctxErr ctx w).1 = err
  cases err with
  | some err => exact ⟨ticked, nofun⟩
  | none =>
    simp only [run_get_bind, run_ite]
    split_ifs with expired
    · exact ⟨ticked, nofun⟩
    · cases (ctxErr ctx w).2.env.maxTransferBits with
      | none =>
        refine ⟨ticked, fun limit returned => ?_⟩
        cases returned
        decide
      | some bound =>
        simp only [run_ite]
        split_ifs with invalid
        · exact ⟨ticked, nofun⟩
        · refine ⟨ticked, fun limit returned => ?_⟩
          cases returned
          omega

/-- A clock stream that returns its samples was clocked whole. -/
theorem clock_completed {ctx : Ctx} {result : Buffer}
    (returned : (clock ctx tms tdi bits w).1 = .ok result) :
    Clocked w (clock ctx tms tdi bits w).2 (cyclesFrom tms tdi 0 bits) ∧
      (w.env.Honest → result = .pack (w.scanPath.run (cyclesFrom tms tdi 0 bits)).1) := by
  unfold clock at returned ⊢
  rw [run_bind] at returned ⊢
  obtain ⟨validated, positive⟩ := validate_completed ctx w
  generalize validate ctx w = outcome at returned validated positive ⊢
  obtain ⟨limit, middle⟩ := outcome
  cases limit with
  | error err => cases returned
  | ok limit =>
    obtain ⟨clocked, filled⟩ := clockLoop_completed ctx tms tdi (positive limit rfl) bits 0
      (.zeros bits) middle result (Nat.zero_le _) (Nat.le_refl _) returned
    have same : middle.scanPath = w.scanPath := validated.scanPath
    refine ⟨validated.append clocked, fun honest => ?_⟩
    rw [filled (validated.env ▸ honest), same, Buffer.pack, Buffer.fill]
    simp [cyclesFrom]

/-- A stream that is not empty takes a wire call. -/
theorem clock_sent {ctx : Ctx} {result : Buffer}
    (tracked : Tracked w) (some : 0 < bits)
    (returned : (clock ctx tms tdi bits w).1 = .ok result) :
    w.calls < (clock ctx tms tdi bits w).2.calls := by
  unfold clock at returned ⊢
  rw [run_bind] at returned ⊢
  obtain ⟨validated, tracked⟩ := validate_keeps ctx w tracked
  generalize validate ctx w = outcome at returned validated tracked ⊢
  obtain ⟨limit, start⟩ := outcome
  cases limit with
  | error err => cases returned
  | ok limit =>
    obtain ⟨turns, rfl⟩ : ∃ turns, bits = turns + 1 := ⟨bits - 1, by omega⟩
    simp only [clockLoop, run_ite] at returned ⊢
    rw [if_neg (by omega)] at returned ⊢
    rw [run_bind] at returned ⊢
    obtain ⟨ticked, tracked⟩ := ctxErr_keeps ctx start tracked
    generalize ctxErr ctx start = polled at returned ticked tracked ⊢
    obtain ⟨err, middle⟩ := polled
    cases err with
    | some err => cases returned
    | none =>
      simp only at returned ⊢
      rw [run_bind] at returned ⊢
      obtain ⟨path, state, after, -, -⟩ := clockChunk_spec
        (.fill (min limit (turns + 1 - 0)) fun i => tms.get (0 + i))
        (.fill (min limit (turns + 1 - 0)) fun i => tdi.get (0 + i))
        (min limit (turns + 1 - 0)) middle
      obtain ⟨-, tracked⟩ := clockChunk_keeps
        (.fill (min limit (turns + 1 - 0)) fun i => tms.get (0 + i))
        (.fill (min limit (turns + 1 - 0)) fun i => tdi.get (0 + i))
        (min limit (turns + 1 - 0)) middle tracked
      generalize clockChunk _ _ _ middle = reply at returned after tracked ⊢
      obtain ⟨reply, final⟩ := reply
      obtain ⟨before, counted, -⟩ := validated.counted
      obtain ⟨polls, polled, -⟩ := ticked.counted
      have called : final.calls = middle.calls + 1 := congrArg World.calls after
      cases reply with
      | error err => cases returned
      | ok sampled =>
        obtain ⟨rest, counting, -⟩ :=
          (clockLoop_keeps ctx tms tdi _ limit turns _ _ final tracked).1.counted
        simp only at counted polled
        rw [counting]
        omega

/-! ## Every method -/

theorem move_keeps (target : State) : Keeps (move ctx target) := by
  refine (validate_keeps ctx).checkOk (fun _ => .pure _) fun _ => ?_
  refine .ite (.pure _) (get_keeps.bind fun w => .ite (.pure _) ?_)
  refine (clock_keeps _ _ _ _).bind fun result => ?_
  cases result <;> exact .pure _

/-- `Reset` keeps the tracked state right. A lost state stays lost unless it
succeeds, and it does not succeed without traffic. -/
theorem reset_spec (tracked : Tracked w) :
    Wired w (reset ctx w).2 ∧ Tracked (reset ctx w).2 ∧
      ((reset ctx w).1 ≠ none → Moved w (reset ctx w).2) ∧
      ((reset ctx w).1 = none → w.calls < (reset ctx w).2.calls) := by
  unfold reset
  rw [run_bind]
  obtain ⟨before, tracked⟩ := validate_keeps ctx w tracked
  generalize validate ctx w = validated at before tracked ⊢
  obtain ⟨limit, start⟩ := validated
  cases limit with
  | error err => exact ⟨before.toWired, tracked, fun _ => before, nofun⟩
  | ok limit =>
    simp only
    rw [run_bind]
    obtain ⟨moved, kept⟩ := clock_keeps ctx [31] [0] 5 start tracked
    have completed (output : Buffer) (returned : (clock ctx [31] [0] 5 start).1 = .ok output) :=
      And.intro (clock_completed returned).1.scanPath (clock_sent tracked (by decide) returned)
    generalize clock ctx [31] [0] 5 start = clocked at moved kept completed ⊢
    obtain ⟨result, middle⟩ := clocked
    have whole := IsTrans.trans _ _ _ before moved
    cases result with
    | error err => exact ⟨whole.toWired, kept, fun _ => whole, nofun⟩
    | ok output =>
      -- The five clocks have reset the devices, whatever state they were in.
      have arrived : middle.scanPath.controller = .testLogicReset := by
        rw [(completed output rfl).1, ScanPath.run_controller]
        exact Controller.fiveHigh _
      have sent : w.calls < middle.calls :=
        Nat.lt_of_le_of_lt before.toWired.calls_le (completed output rfl).2
      refine ⟨⟨whole.env, whole.timeout, whole.chains, whole.taps, whole.specs, whole.counted,
        fun quiet => absurd quiet sent.ne'⟩, fun _ => congrArg some arrived.symm,
        fun failed => absurd rfl failed, fun _ => sent⟩

theorem addCause_keeps (err : Option Err) : Keeps (addCause ctx err) := by
  refine (ctxErr_keeps ctx).bind fun cause => ?_
  cases cause with
  | none => exact .pure _
  | some cause => cases ctx.cause <;> exact .pure _

theorem finishScan_keeps (serial : Nat) (err : Option Err) :
    Keeps (finishScan ctx serial err) := by
  refine get_keeps.bind fun w => ?_
  dsimp only
  split
  · exact loseState_keeps.bind fun _ => addCause_keeps ctx err
  · exact addCause_keeps ctx err

theorem scanBody_keeps (data : Buffer) (bits : Nat) (column : Column) :
    Keeps (scanBody ctx data bits column) := by
  refine (move_keeps _ _).check (fun _ => .pure _) ?_
  refine (move_keeps _ _).check (fun _ => .pure _) ?_
  refine (clock_keeps _ _ _ _).checkOk (fun _ => .pure _) fun _ => ?_
  refine (move_keeps _ _).bind fun err => ?_
  cases err <;> exact .pure _

theorem scan_keeps (data : Buffer) (bits : Int) (column : Column) :
    Keeps (scan ctx data bits column) := by
  refine (validate_keeps ctx).checkOk (fun _ => .pure _) fun _ => ?_
  refine .ite (.pure _) (get_keeps.bind fun w => completionContext_keeps.bind fun completion =>
    ?_)
  refine (scanBody_keeps _ _ _ _).bind fun ⟨capture, err⟩ => ?_
  exact (finishScan_keeps _ _ _).bind fun _ => .pure _

theorem idle_keeps (cycles : Int) : Keeps (idle ctx cycles) := by
  refine (validate_keeps ctx).checkOk (fun _ => .pure _) fun _ => ?_
  refine .ite (.pure _) (.ite (.pure _) ?_)
  refine (move_keeps _ _).check (fun _ => .pure _) ?_
  refine (clock_keeps _ _ _ _).bind fun result => ?_
  cases result <;> exact .pure _

theorem measureBody_keeps (maxBits : Nat) : Keeps (measureBody ctx maxBits) := by
  refine (move_keeps _ _).check (fun _ => .pure _) ?_
  refine (move_keeps _ _).check (fun _ => .pure _) ?_
  refine (clock_keeps _ _ _ _).checkOk (fun _ => .pure _) fun _ => ?_
  refine (clock_keeps _ _ _ _).checkOk (fun _ => .pure _) fun _ => ?_
  refine (move_keeps _ _).bind fun err => ?_
  cases err <;> exact .pure _

theorem measureIR_keeps (maxBits : Int) : Keeps (measureIR ctx maxBits) := by
  exact (validate_keeps ctx).checkOk (fun _ => .pure _)
    fun _ => .ite (.pure _) (measureBody_keeps _ _)

/-- `Discover` behind the `Reset`. -/
theorem discovered_keeps (bits : Nat) (maxTAPs : Int) : Keeps (do
    match ← scanDR ctx (.ones bits) bits with
    | (_, some err) => return ([], some err)
    | (capture, none) => return observations (capture.getD []) maxTAPs.toNat) := by
  refine (scan_keeps _ _ _ _).bind fun scanned => ?_
  obtain ⟨capture, err⟩ := scanned
  cases err <;> exact .pure _

/-- `Discover` is a `Reset` and a scan. -/
theorem discover_spec (maxTAPs : Int) (tracked : Tracked w) :
    Wired w (discover ctx maxTAPs w).2 ∧ Tracked (discover ctx maxTAPs w).2 ∧
      ((reset ctx (validate ctx w).2).1 ≠ none → Moved w (discover ctx maxTAPs w).2) ∧
      ((discover ctx maxTAPs w).1.2 = none → w.calls < (discover ctx maxTAPs w).2.calls) := by
  unfold discover
  rw [run_bind]
  obtain ⟨before, tracked⟩ := validate_keeps ctx w tracked
  generalize validate ctx w = validated at before tracked ⊢
  obtain ⟨limit, start⟩ := validated
  cases limit with
  | error err => exact ⟨before.toWired, tracked, fun _ => before, fun none => by cases none⟩
  | ok limit =>
    simp only [run_ite]
    split_ifs with invalid
    · exact ⟨before.toWired, tracked, fun _ => before, fun none => by cases none⟩
    · rw [run_bind]
      obtain ⟨wired, kept, failed, sent⟩ := reset_spec ctx tracked
      generalize reset ctx start = outcome at wired kept failed sent ⊢
      obtain ⟨err, middle⟩ := outcome
      cases err with
      | some err =>
        exact ⟨before.toWired.trans wired, kept,
          fun stopped => IsTrans.trans _ _ _ before (failed stopped), fun none => by cases none⟩
      | none =>
        obtain ⟨moved, final⟩ := discovered_keeps ctx (32 * (maxTAPs.toNat + 1)) maxTAPs middle kept
        refine ⟨(before.toWired.trans wired).trans moved.toWired, final,
          fun stopped => absurd rfl stopped, fun _ => ?_⟩
        obtain ⟨first, counted, -⟩ := before.counted
        obtain ⟨rest, counting, -⟩ := moved.counted
        have called : start.calls < middle.calls := sent rfl
        simp only at counted counting
        exact Nat.lt_of_lt_of_eq (by omega) counting.symm

/-! ## Whole runs -/

/-- A call on the connection. -/
inductive ConnCall where
  | reset (ctx : Ctx)
  | move (ctx : Ctx) (target : State)
  | scanIR (ctx : Ctx) (data : Buffer) (bits : Int)
  | scanDR (ctx : Ctx) (data : Buffer) (bits : Int)
  | idle (ctx : Ctx) (cycles : Int)
  | discover (ctx : Ctx) (maxTAPs : Int)
  | measureIR (ctx : Ctx) (maxBits : Int)
deriving DecidableEq, Repr

/-- The error of a call. -/
def ConnCall.perform : ConnCall → JtagM (Option Err)
  | .reset ctx => Jtag.reset ctx
  | .move ctx target => Jtag.move ctx target
  | .scanIR ctx data bits => Prod.snd <$> Jtag.scanIR ctx data bits
  | .scanDR ctx data bits => Prod.snd <$> Jtag.scanDR ctx data bits
  | .idle ctx cycles => Jtag.idle ctx cycles
  | .discover ctx maxTAPs => Prod.snd <$> Jtag.discover ctx maxTAPs
  | .measureIR ctx maxBits => do
    match ← Jtag.measureIR ctx maxBits with
    | .error err => return some err
    | .ok _ => return none

/-- The call ran a `Reset` that returned nil. -/
def ConnCall.Resets (w : World) : ConnCall → Prop
  | .reset ctx => (Jtag.reset ctx w).1 = none
  | .discover ctx _ => (Jtag.reset ctx (validate ctx w).2).1 = none
  | _ => False

/-- Every call keeps the tracked state right, and a lost state stays lost unless
the call ran a successful `Reset`. -/
theorem perform_spec (call : ConnCall) (tracked : Tracked w) :
    Wired w (call.perform w).2 ∧ Tracked (call.perform w).2 ∧
      (¬call.Resets w → Moved w (call.perform w).2) := by
  have ordinary (other : ConnCall) (keeps : Keeps other.perform) :
      Wired w (other.perform w).2 ∧ Tracked (other.perform w).2 ∧
        (¬other.Resets w → Moved w (other.perform w).2) := by
    obtain ⟨moved, kept⟩ := keeps w tracked
    exact ⟨moved.toWired, kept, fun _ => moved⟩
  cases call with
  | reset ctx =>
    obtain ⟨wired, kept, failed, -⟩ := reset_spec ctx tracked
    exact ⟨wired, kept, failed⟩
  | move ctx target => exact ordinary (.move ctx target) (move_keeps ctx target)
  | scanIR ctx data bits =>
    exact ordinary (.scanIR ctx data bits) ((scan_keeps ctx data bits .ir).map _)
  | scanDR ctx data bits =>
    exact ordinary (.scanDR ctx data bits) ((scan_keeps ctx data bits .dr).map _)
  | idle ctx cycles => exact ordinary (.idle ctx cycles) (idle_keeps ctx cycles)
  | discover ctx maxTAPs =>
    obtain ⟨wired, kept, failed, -⟩ := discover_spec ctx maxTAPs tracked
    exact ⟨wired, kept, failed⟩
  | measureIR ctx maxBits =>
    refine ordinary (.measureIR ctx maxBits)
      ((measureIR_keeps ctx maxBits).bind fun result => ?_)
    cases result <;> exact .pure _

/-- The world after a list of calls. -/
def perform (w : World) (calls : List ConnCall) : World :=
  calls.foldl (fun w call => (call.perform w).2) w

theorem perform_tracked (tracked : Tracked w) (calls : List ConnCall) :
    Tracked (perform w calls) := by
  induction calls generalizing w with
  | nil => exact tracked
  | cons call calls ih => exact ih (perform_spec call tracked).2.1

/-- `New` on a wire with any schedule and devices in any state. -/
def World.fresh (env : Env) (clock : Nat) (scanPath : ScanPath) (completionTimeout : Int)
    (chains : List Chain) : World :=
  ⟨env, clock, scanPath, .new completionTimeout, chains, [], 0⟩

theorem fresh_tracked (env : Env) (clock : Nat) (scanPath : ScanPath) (completionTimeout : Int)
    (chains : List Chain) : Tracked (.fresh env clock scanPath completionTimeout chains) :=
  fun known => absurd rfl known

/-- Whatever the calls, the wire, its limit and the cancellations: a state the
connection reports is the state the clocks delivered have put the controllers
in, and an unknown state becomes known only in a call that ran a `Reset` to its
successful end. -/
theorem state_tracked (env : Env) (clock : Nat) (scanPath : ScanPath) (completionTimeout : Int)
    (chains : List Chain) (calls : List ConnCall) :
    let w := perform (.fresh env clock scanPath completionTimeout chains) calls
    (w.conn.state ≠ .unknown → w.conn.state.controller = some w.scanPath.controller) ∧
      ∀ call : ConnCall, w.conn.state = .unknown → (call.perform w).2.conn.state ≠ .unknown →
        call.Resets w := by
  intro w
  have tracked : Tracked w := perform_tracked (fresh_tracked _ _ _ _ _) calls
  refine ⟨tracked, fun call lost known => ?_⟩
  by_contra stopped
  exact known (((perform_spec call tracked).2.2 stopped).lost lost)

end Ostiole.Jtag
