import Ostiole.Swd.Session

/-!
# ORUNDETECT is restored

`Connect` records the ORUNDETECT bit it inherits before it changes anything and
keeps that record until the connection is idle again. `Retains` is what every
routine below `Connect` and `Release` does with the record, `Untouched` what
those do that run before the transition. The invariant of a session then says
what the target is owed, and that an idle connection owes nothing.
-/

namespace Ostiole.Swd

open Ostiole Logic

variable {l l' l'' : Link} (ctx : Ctx)

/-- The inherited bit stays recorded. A connection does not become idle on the
way; unless `strict`, this is promised only to one that knows its target. -/
structure Retains (strict : Bool) (l l' : Link) : Prop where
  known : l'.conn.originalKnown = l.conn.originalKnown
  original : l'.conn.originalOverrun = l.conn.originalOverrun
  identity : l.conn.identityKnown = true → l'.conn.identityKnown = true
  busy : (strict = false → l.conn.identityKnown = true) → l.conn.state ≠ .idle →
    l'.conn.state ≠ .idle

/-- In addition ORUNDETECT itself stays. -/
structure Untouched (strict : Bool) (l l' : Link) : Prop where
  retains : Retains strict l l'
  overrun : l'.target.overrun = l.target.overrun

variable {strict : Bool}

theorem Retains.trans (first : Retains strict l l') (second : Retains strict l' l'') :
    Retains strict l l'' where
  known := second.known.trans first.known
  original := second.original.trans first.original
  identity := second.identity ∘ first.identity
  busy known state := second.busy (first.identity ∘ known) (first.busy known state)

theorem Retains.refl (l : Link) : Retains strict l l := ⟨rfl, rfl, id, fun _ => id⟩

instance : Std.Refl (Retains strict) := ⟨Retains.refl⟩
instance : IsTrans Link (Retains strict) := ⟨fun _ _ _ => Retains.trans⟩

instance : Std.Refl (Untouched strict) := ⟨fun l => ⟨.refl l, rfl⟩⟩
instance : IsTrans Link (Untouched strict) :=
  ⟨fun _ _ _ first second => ⟨first.retains.trans second.retains,
    second.overrun.trans first.overrun⟩⟩

/-- Programs that keep the record. -/
abbrev Retaining (strict : Bool) {α : Type} (program : LinkM α) : Prop :=
  Preserves (fun _ => True) (Retains strict) program

/-- Programs that keep the record and ORUNDETECT. -/
abbrev Untouching (strict : Bool) {α : Type} (program : LinkM α) : Prop :=
  Preserves (fun _ => True) (Untouched strict) program

/-- What keeps ORUNDETECT keeps the record. -/
theorem Untouching.retaining {α : Type} {program : LinkM α}
    (untouching : Untouching strict program) :
    Retaining strict program :=
  untouching.mono fun _ _ untouched => untouched.retains

/-! ## Steps that keep the record -/

/-- A change of the connection record that leaves the inherited bit alone. -/
structure Modest (f : Conn → Conn) : Prop where
  known : ∀ c, (f c).originalKnown = c.originalKnown
  original : ∀ c, (f c).originalOverrun = c.originalOverrun
  identity : ∀ c, c.identityKnown = true → (f c).identityKnown = true
  busy : ∀ c, c.state ≠ .idle → (f c).state ≠ .idle

/-- Asking for repair leaves the record alone. -/
theorem Modest.requireRepair : Modest (·.requireRepair) := by
  constructor <;> intro c <;> unfold Conn.requireRepair <;>
    split_ifs <;> simp_all [Conn.invalidateBank, Conn.confirmBank]

/-- No response changes the record. -/
theorem Modest.observeTransfer (req : Request) (result data : Word) (err : Option Err) :
    Modest (·.observeTransfer req result data err) := by
  have record (c : Conn) := observeTransfer_record c req result data err
  refine ⟨fun c => congrArg (·.2.2.2.2.1) (record c), fun c => congrArg (·.2.2.2.1) (record c),
    fun c known => (congrArg (·.2.2.1) (record c)).trans known, fun c state => ?_⟩
  unfold Conn.observeTransfer
  split_ifs
  · exact Modest.requireRepair.busy c state
  all_goals
    simp only [Conn.selectBank, Conn.observePendingSelection, Conn.resolveBankZeroCTRLSTAT,
      Conn.invalidateBank, Conn.confirmBank]
    first | exact state | split_ifs <;> exact state

/-- A modest change of the connection does not reach the target. -/
theorem modifyConn_untouching {f : Conn → Conn} (modest : Modest f) :
    Untouching strict (modifyConn f) :=
  fun _ _ => ⟨⟨⟨modest.known _, modest.original _, modest.identity _, fun _ => modest.busy _⟩, rfl⟩,
    trivial⟩

/-- A connection that is left alone, or needs repair. -/
theorem Retains.of_conn (conn : l'.conn = l.conn ∨ l'.conn = l.conn.requireRepair) :
    Retains strict l l' := by
  rcases conn with same | repaired
  · exact ⟨by rw [same], by rw [same], fun known => by rw [same, known],
      fun _ busy => by rwa [same]⟩
  · refine ⟨?_, ?_, fun known => ?_, fun _ busy => ?_⟩ <;> rw [repaired]
    · exact Modest.requireRepair.known _
    · exact Modest.requireRepair.original _
    · exact Modest.requireRepair.identity _ known
    · exact Modest.requireRepair.busy _ busy

theorem repair_untouching : Untouching strict repair := modifyConn_untouching .requireRepair

theorem ctxErr_untouching : Untouching strict (ctxErr ctx) :=
  fun _ _ => ⟨⟨.of_conn (.inl rfl), rfl⟩, trivial⟩

theorem completionError_untouching (err : Option Err) :
    Untouching strict (completionError ctx err) := by
  intro l _
  rw [(completionError_spec ctx err l).1]
  exact ⟨⟨.of_conn (.inl rfl), rfl⟩, trivial⟩

theorem readRaw_untouching (addr : BitVec 8) :
    Untouching strict (readRaw ctx addr) := by
  intro l _
  have read := readRaw_spec ctx addr l
  exact ⟨⟨.of_conn read.conn, read.same.overrun⟩, trivial⟩

/-- A write that may reach CTRL/STAT. -/
theorem writeRaw_retaining (addr : BitVec 8) (value : Word) :
    Retaining strict (writeRaw ctx addr value) :=
  fun l _ => ⟨.of_conn (execute_spec ctx (rawRequest false addr) value l).conn, trivial⟩

/-- ABORT does not reach ORUNDETECT. -/
theorem writeABORT_untouching (value : Word) :
    Untouching strict (writeRaw ctx 0x00 value) :=
  fun l _ => ⟨⟨.of_conn (writeABORT_spec ctx value l).1.conn,
    (writeABORT_spec ctx value l).2.overrun⟩, trivial⟩

/-- SELECT does not reach ORUNDETECT. -/
theorem writeSELECT_untouching (value : Word) :
    Untouching strict (writeRaw ctx 0x08 value) :=
  fun l _ => ⟨⟨.of_conn (writeSELECT_spec ctx value l).1.conn, (writeSELECT_spec ctx value l).2.1⟩,
    trivial⟩

theorem setResponse_untouching (overrun : Bool) : Untouching strict (setResponse overrun) :=
  modifyConn_untouching ⟨fun _ => rfl, fun _ => rfl, fun _ => id, fun _ => id⟩

/-- Bank zero is selected and settled. -/
theorem bankZero_untouching :
    Untouching strict (modifyConn fun c : Conn => { c with bank := ⟨0, true⟩ }) :=
  modifyConn_untouching ⟨fun _ => rfl, fun _ => rfl, fun _ => id, fun _ => id⟩

/-- A line reset leaves ORUNDETECT as it is. -/
theorem exchangeEntry_untouching (resets : Bool) : Untouching strict (exchangeEntry resets) := by
  intro l _
  refine ⟨⟨.of_conn (.inl (exchangeEntry_spec resets l).1), ?_⟩, trivial⟩
  unfold exchangeEntry
  simp only
  split_ifs <;> simp

/-- A failure that ends in repair. -/
theorem fail_untouching {α : Type} (value : α) :
    Untouching strict (do repair; return value) :=
  repair_untouching.bind fun _ => .pure _

/-! ## Protocol entry -/

theorem enterThroughDormant_untouching : Untouching strict enterThroughDormant := by
  refine (exchangeEntry_untouching false).check (fun _ => .pure _) ?_
  exact (exchangeEntry_untouching false).check (fun _ => .pure _) (exchangeEntry_untouching true)

/-- DPIDR is read, after a second entry if need be. -/
theorem readEntryIdentity_untouching : Untouching strict (readEntryIdentity ctx) := by
  refine (readRaw_untouching ctx _).bind fun read => .ite (.pure _) ?_
  refine (ctxErr_untouching ctx).check (fun _ => .pure _) ?_
  exact enterThroughDormant_untouching.check (fun _ => .pure _) (readRaw_untouching ctx _)

/-- Bootstrap clears sticky flags and selects bank zero. -/
theorem bootstrapSelect_untouching (dpidr : Word) (abort : Bool) :
    Untouching strict (bootstrapSelect ctx dpidr abort) := by
  refine (writeABORT_untouching ctx _).check (fun _ => fail_untouching _) ?_
  refine (writeSELECT_untouching ctx _).check (fun _ => fail_untouching _) ?_
  refine (readRaw_untouching ctx _).checkValue (fun _ _ => fail_untouching _) fun _ => ?_
  exact bankZero_untouching.bind fun _ => .pure _

/-- The rest of an attempt, once the identity is accepted. -/
theorem identified_untouching (dpidr : Word) (abort : Bool) : Untouching strict (do
    modifyConn fun c => { c with identity := dpidr, identityKnown := true }
    bootstrapSelect ctx dpidr abort) :=
  have accepted : Modest fun c => { c with identity := dpidr, identityKnown := true } :=
    ⟨fun _ => rfl, fun _ => rfl, fun _ _ => rfl, fun _ => id⟩
  (modifyConn_untouching accepted).bind fun _ => bootstrapSelect_untouching ctx dpidr abort

/-- An attempt touches ORUNDETECT in none of its branches. -/
theorem bootstrapAttempt_untouching (abort : Bool) :
    Untouching false (bootstrapAttempt ctx abort) := by
  refine (readEntryIdentity_untouching ctx).checkValue (fun _ _ => fail_untouching _)
    fun dpidr => ?_
  -- The connection becomes idle here only while it knows no target.
  intro l _
  simp only [run_get_bind, run_ite]
  split_ifs with clear known changed
  · exact fail_untouching _ l trivial
  · exact ⟨⟨⟨rfl, rfl, id, fun isKnown => absurd (isKnown rfl) known⟩, rfl⟩, trivial⟩
  · exact fail_untouching _ l trivial
  · exact identified_untouching ctx dpidr abort l trivial

/-- The connection is not idle. -/
def Busy (l : Link) : Prop := l.conn.state ≠ .idle

/-- Strict routines do not make a connection idle. -/
theorem Untouching.busy {α : Type} {program : LinkM α} (untouching : Untouching true program) :
    Triple Busy program fun _ => Busy :=
  fun l busy => (untouching l trivial).1.retains.busy (by simp) busy

/-- A connection stays busy through an attempt that succeeds or meets a WAIT. -/
theorem bootstrapAttempt_busy (abort : Bool) :
    Triple Busy (bootstrapAttempt ctx abort) fun result l =>
      (result.2 = none ∨ isErr result.2 .swdWait = true) → Busy l := by
  have stays {program : LinkM Result} (untouching : Untouching true program) :
      Triple Busy program fun result l =>
        (result.2 = none ∨ isErr result.2 .swdWait = true) → Busy l :=
    untouching.busy.weaken fun _ _ busy _ => busy
  refine (readEntryIdentity_untouching ctx).busy.bind fun (dpidr, failed) => ?_
  cases failed with
  | some err => exact stays (fail_untouching _)
  | none =>
    intro l busy
    simp only [run_get_bind, run_ite]
    split_ifs
    · exact stays (fail_untouching _) l busy
    · intro goesOn
      simp [run_bind, run_pure, isErr, Err.is] at goesOn
    · exact stays (fail_untouching _) l busy
    · exact stays (identified_untouching ctx dpidr abort) l busy

/-- Starting over with simple responses. -/
theorem restart_untouching :
    Untouching strict (modifyConn fun c : Conn => { c with response := .simple }.invalidateBank) :=
  modifyConn_untouching ⟨fun _ => rfl, fun _ => rfl, fun _ => id, fun _ => id⟩

/-- Neither does a second attempt after a WAIT. -/
theorem bootstrap_untouching : Untouching false (bootstrap ctx) := by
  refine (bootstrapAttempt_untouching ctx false).checkValue (fun _ _ => ?_) fun _ => .pure _
  refine .ite (.pure _) (restart_untouching.bind fun _ => ?_)
  refine (exchangeEntry_untouching true).check (fun _ => .pure _) ?_
  exact (bootstrapAttempt_untouching ctx true).checkValue (fun _ _ => .pure _) fun _ => .pure _

/-- A connection stays busy through a bootstrap that succeeds. -/
theorem bootstrap_busy :
    Triple Busy (bootstrap ctx) fun result l => result.2 = none → Busy l := by
  refine (bootstrapAttempt_busy ctx false).bind fun (dpidr, failed) => ?_
  cases failed with
  | none => exact .pure fun l busy _ => busy (.inl rfl)
  | some err =>
    refine .ite (fun _ => .pure fun _ _ failed => by cases failed) fun other => ?_
    refine Triple.strengthen (restart_untouching.busy.bind fun _ => ?_) fun l busy =>
      busy (.inr (by simpa [isErr] using other))
    refine (exchangeEntry_untouching true).busy.check
      (fun _ => .pure fun _ _ failed => by cases failed) ?_
    refine (bootstrapAttempt_busy ctx true).bind fun (dpidr, failed) => ?_
    cases failed with
    | some cause => exact .pure fun _ _ failed => by cases failed
    | none => exact .pure fun _ busy _ => busy (.inl rfl)

/-- All of `Connect` before the transition. -/
theorem prepareConnection_untouching : Untouching false (prepareConnection ctx) := by
  refine Preserves.bind (modifyConn_untouching ⟨fun _ => rfl, fun _ => rfl, fun _ => id,
    fun _ _ => by simp [Conn.invalidateBank, Conn.confirmBank]⟩) fun _ => ?_
  refine (exchangeEntry_untouching true).check (fun _ => .pure _) ?_
  refine (bootstrap_untouching ctx).checkValue (fun _ _ => .pure _) fun _ => ?_
  exact (readRaw_untouching ctx _).checkValue (fun _ _ => fail_untouching _) fun _ => .pure _

/-- A prepared connection is not idle. -/
theorem prepareConnection_busy :
    Triple (fun _ => True) (prepareConnection ctx) fun result l => result.2.2 = none → Busy l := by
  have started : Triple (fun _ => True) (modifyConn fun c : Conn =>
      { c with state := .repair, response := .simple }.invalidateBank) fun _ => Busy :=
    fun _ _ => by simp [Busy, modifyConn, Conn.invalidateBank, Conn.confirmBank]
  refine started.bind fun _ => ?_
  refine (exchangeEntry_untouching true).busy.check
    (fun _ => .pure fun _ _ failed => by cases failed) ?_
  refine (bootstrap_busy ctx).bind ?_
  rintro ⟨dpidr, _ | err⟩
  · refine Triple.strengthen ((readRaw_untouching ctx _).busy.bind ?_) fun l busy => busy rfl
    rintro ⟨state, _ | err⟩
    · exact .pure fun _ busy _ => busy
    · exact fun _ _ failed => by cases failed
  · exact .pure fun _ _ failed => by cases failed

/-! ## The way into a release -/

/-- A release enters the protocol again as `Connect` does. -/
theorem reenterForRelease_untouching : Untouching false (reenterForRelease ctx) := by
  refine restart_untouching.bind fun _ => ?_
  refine (exchangeEntry_untouching true).check (fun _ => fail_untouching _) ?_
  refine (bootstrap_untouching ctx).checkValue (fun _ _ => .pure _) fun _ => ?_
  refine (readRaw_untouching ctx _).checkValue (fun _ _ => fail_untouching _) fun _ => ?_
  exact .ite ((setResponse_untouching true).bind fun _ => .pure _) (.pure _)

theorem selectBankZero_untouching : Untouching strict (selectBankZero ctx) := by
  refine (Preserves.reads fun _ => rfl).bind fun l => .ite (.pure _) ?_
  refine (writeSELECT_untouching ctx _).check (fun _ => fail_untouching _) ?_
  refine (readRaw_untouching ctx _).checkValue (fun _ _ => fail_untouching _) fun _ => ?_
  exact bankZero_untouching.bind fun _ => .pure _

/-- All of `Release` before the transition. -/
theorem prepareRelease_untouching : Untouching false (prepareRelease ctx) := by
  refine (Preserves.reads fun _ => rfl).bind fun l => .ite ?_ (selectBankZero_untouching ctx)
  exact (reenterForRelease_untouching ctx).check (fun _ => .pure _) (selectBankZero_untouching ctx)

/-! ## The transition -/

/-- Sticky flags are cleared before the transition. -/
theorem prepareOverrunWrite_untouching (state : Word) :
    Untouching strict (prepareOverrunWrite ctx state) := by
  refine (Preserves.reads fun _ => rfl).bind fun l => .ite (.pure _) ?_
  exact (writeABORT_untouching ctx _).check (fun _ => fail_untouching _) (.pure _)

/-- The new mode is only read back. -/
theorem verifyOverrunChange_untouching (enabled allowFallback : Bool) :
    Untouching strict (verifyOverrunChange ctx enabled allowFallback) := by
  refine (setResponse_untouching enabled).bind fun _ => ?_
  refine (readRaw_untouching ctx _).checkValue (fun _ _ => fail_untouching _) fun _ => ?_
  refine .ite (.pure _) ((setResponse_untouching false).bind fun _ => ?_)
  exact .ite (.pure _) (fail_untouching _)

/-- An abandoned write is cleared, not repeated. -/
theorem recoverAbandonedOverrunWrite_untouching :
    Untouching strict (recoverAbandonedOverrunWrite ctx) := by
  refine (readRaw_untouching ctx _).checkValue (fun _ _ => fail_untouching _) fun _ => ?_
  exact .ite (.pure _) ((writeABORT_untouching ctx _).check (fun _ => fail_untouching _) (.pure _))

theorem clearOverrunTransitionFault_untouching (state : Word) :
    Untouching strict (clearOverrunTransitionFault ctx state) :=
  .ite (.pure _) ((writeABORT_untouching ctx _).check (fun _ => fail_untouching _) (.pure _))

/-- A fault is cleared in the mode the target is found in. -/
theorem resolveOverrunFault_untouching (enabled allowFallback : Bool) :
    Untouching strict (resolveOverrunFault ctx enabled allowFallback) := by
  refine (readRaw_untouching ctx _).checkValue (fun _ _ => fail_untouching _) fun state => ?_
  refine (setResponse_untouching _).bind fun _ => ?_
  refine (clearOverrunTransitionFault_untouching ctx state).check (fun _ => .pure _) ?_
  exact .ite (.pure _) (.pure _)

theorem resolveOverrunBarrier_untouching (barrierErr : Option Err)
    (enabled allowFallback : Bool) :
    Untouching strict (resolveOverrunBarrier ctx barrierErr enabled allowFallback) :=
  .ite ((verifyOverrunChange_untouching ctx enabled allowFallback).bind fun _ => .pure _)
    (.ite ((recoverAbandonedOverrunWrite_untouching ctx).bind fun _ => .pure _)
      (.ite (resolveOverrunFault_untouching ctx enabled allowFallback) (fail_untouching _)))

/-- By induction on the attempts: the barrier reads until it is answered. -/
theorem settleOverrunWrite_untouching (enabled allowFallback : Bool) :
    ∀ attempts, Untouching strict (settleOverrunWrite ctx enabled allowFallback attempts)
  | 0 => fail_untouching _
  | attempts + 1 => by
    refine (readRaw_untouching ctx _).bind fun (_, failed) => ?_
    refine (Preserves.reads fun _ => rfl).bind fun l => ?_
    exact .ite (settleOverrunWrite_untouching enabled allowFallback attempts)
      (resolveOverrunBarrier_untouching ctx failed enabled allowFallback)

/-- Only the CTRL/STAT write of the transition moves ORUNDETECT; the record stays. -/
theorem changeOverrun_retaining (enabled allowFallback : Bool) :
    ∀ attempts state, Retaining strict (changeOverrun ctx enabled allowFallback attempts state)
  | 0, _ => (fail_untouching _).retaining
  | attempts + 1, state => by
    refine (prepareOverrunWrite_untouching ctx state).retaining.checkValue (fun _ _ => .pure _)
      fun _ => ?_
    refine (writeRaw_retaining ctx _ _).check (fun _ => (fail_untouching _).retaining) ?_
    refine (settleOverrunWrite_untouching ctx enabled allowFallback _).retaining.bind fun _ => ?_
    exact .ite (.pure _) (changeOverrun_retaining enabled allowFallback attempts _)

/-- The record is read, not written, when the bit is restored. -/
theorem restoreOverrun_retaining : Retaining strict (restoreOverrun ctx) := by
  refine (readRaw_untouching ctx _).retaining.checkValue
    (fun _ _ => (fail_untouching _).retaining) fun _ => ?_
  refine (Preserves.reads fun _ => rfl).bind fun l => .ite (.pure _) ?_
  exact (changeOverrun_retaining ctx _ _ _ _).checkValue (fun _ _ => .pure _) fun _ => .pure _

/-- `Connect` makes its record before it chooses a mode. -/
theorem chooseResponse_retaining (state : Word) :
    Retaining strict (chooseResponse ctx state) :=
  .ite ((setResponse_untouching true).retaining.bind fun _ => .pure _)
    ((changeOverrun_retaining ctx _ _ _ _).bind fun _ => .pure _)

/-! ## The register interface -/

/-- One frame and its cleanup. -/
theorem executeFrame_retaining (req : Request) (value : Word) :
    Retaining strict (executeFrame req value) := by
  intro l _
  obtain ⟨e, cleanup, executed⟩ := executeFrame_spec req value l
  exact ⟨.of_conn executed.conn, trivial⟩

theorem observe_retaining (req : Request) (result data : Word) (err : Option Err) :
    Retaining strict (modifyConn (·.observeTransfer req result data err)) :=
  (modifyConn_untouching (.observeTransfer req result data err)).retaining

/-- A request that has passed its checks. -/
theorem send_retaining (ctx : Option Ctx) (req : Request) (value : Word) :
    Retaining strict (do
      let (result, err) ← executeFrame req value
      modifyConn (·.observeTransfer req result value err)
      match ctx with
      | some ctx => return (result, ← completionError ctx err)
      | none => return (result, err)) := by
  refine (executeFrame_retaining req value).bind fun (result, err) => ?_
  refine (observe_retaining req result value err).bind fun _ => ?_
  cases ctx with
  | some ctx => exact (completionError_untouching ctx err).retaining.bind fun _ => .pure _
  | none => exact .pure _

/-- The checks between the context tests and the frame only read. -/
theorem checked_retaining (ctx : Option Ctx) (req : Request) (value : Word) :
    Retaining strict (do
      if let some err := (← get).conn.validateCompletion then
        return ((0 : Word), some (notExecuted err))
      let (result, err) ← executeFrame req value
      modifyConn (·.observeTransfer req result value err)
      match ctx with
      | some ctx => return (result, ← completionError ctx err)
      | none => return (result, err)) := by
  refine (Preserves.reads fun _ => rfl).bind fun l => ?_
  cases l.conn.validateCompletion with
  | some err => exact .pure _
  | none => exact send_retaining ctx req value

/-- A request, through every check that can refuse it. -/
theorem transfer_retaining (ctx : Option Ctx) (req : Request) (value : Word) :
    Retaining strict (transfer ctx req value) := by
  refine (Preserves.reads fun _ => rfl).bind fun l => .ite (.pure _) ?_
  have checked : Retaining strict _ := checked_retaining ctx req value
  cases ctx with
  | none =>
    refine (Preserves.reads fun _ => rfl).bind fun l => ?_
    cases l.conn.validateTransfer req value with
    | some err => exact .pure _
    | none => exact checked
  | some ctx =>
    refine (ctxErr_untouching ctx).retaining.check (fun _ => .pure _) ?_
    refine (Preserves.reads fun _ => rfl).bind fun l => ?_
    cases l.conn.validateTransfer req value with
    | some err => exact .pure _
    | none => exact (ctxErr_untouching ctx).retaining.check (fun _ => .pure _) checked

theorem access_retaining (req : Request) (value : Word) :
    Retaining strict (access ctx req value) := by
  unfold access
  cases newRequestErr req.addr with
  | some err => exact .pure _
  | none => exact transfer_retaining (some ctx) req value

/-- By induction on the queue. -/
theorem commitSequential_retaining :
    ∀ ops index, Retaining strict (commitSequential ctx index ops)
  | [], _ => .pure _
  | op :: rest, index => by
    refine (ctxErr_untouching ctx).retaining.check (fun _ => .pure _) ?_
    refine (Preserves.reads fun _ => rfl).bind fun l => ?_
    cases l.conn.validateTransfer op.req op.data with
    | some err => exact .pure _
    | none =>
      refine (transfer_retaining none op.req op.data).bind fun (value, err) => ?_
      simp only
      cases (if completeTransfer err then err else err.map (.join errIndeterminate)) with
      | some err => exact (completionError_untouching ctx _).retaining.bind fun _ => .pure _
      | none =>
        refine (ctxErr_untouching ctx).retaining.check (fun _ => .pure _) ?_
        exact (commitSequential_retaining rest (index + 1)).bind fun _ => .pure _

theorem observedLater_retaining {ops : List BatchOp} {replies : List Target.Reply} (pending : Bool)
    (frame : Decoded)
    (later : Retaining strict (observeOverrunChunk ops replies)) : Retaining strict (do
      let (laterWAIT, rest) ← observeOverrunChunk ops replies
      return (pending || laterWAIT, frame :: rest)) :=
  later.bind fun _ => .pure _

/-- By induction on the replies of a packed call. -/
theorem observeOverrunChunk_retaining :
    ∀ ops replies, Retaining strict (observeOverrunChunk ops replies)
  | [], _ => .pure _
  | _ :: _, [] => .pure _
  | op :: ops, reply :: replies => by
    refine (Preserves.reads fun _ => rfl).bind fun l => ?_
    have later := observeOverrunChunk_retaining ops replies
    exact .ite ((observe_retaining _ _ _ _).bind fun _ => observedLater_retaining _ _ later)
      (observedLater_retaining _ _ later)

theorem loseProtocol_retaining (frames : List Decoded) :
    Retaining strict (loseProtocol frames) := by
  unfold loseProtocol
  split
  · exact .pure _
  · exact repair_untouching.retaining.bind fun _ => .pure _

/-- A suffix that was not abandoned asks for repair. -/
theorem checkAbandonedSuffix_retaining (start stop : Nat) (frames : List Decoded) :
    Retaining strict (checkAbandonedSuffix start stop frames) := by
  unfold checkAbandonedSuffix validateAbandonedSuffix
  split
  · exact .pure _
  · split
    · exact .pure _
    · exact repair_untouching.retaining.bind fun _ => .pure _

/-- The cleanup of a WAIT ends in repair at worst. -/
theorem cleanupPackedWAIT_retaining (req : Request) (waitWithPending : Bool) :
    Retaining strict (cleanupPackedWAIT req waitWithPending) := by
  have repaired : Retaining strict repair := repair_untouching.retaining
  have cleared : Retaining strict clearOverrunAfterWAIT := fun l _ =>
    have ⟨_, cleaned⟩ := clearOverrunAfterWAIT_spec l
    ⟨.of_conn cleaned.conn, trivial⟩
  have finish (err : Option Err) : Retaining strict (do
      if waitWithPending then modifyConn (·.requireRepair)
      return err) := .ite (repaired.bind fun _ => .pure _) (.pure _)
  exact .ite (repaired.bind fun _ => (Preserves.pure _).bind fun _ => finish _)
    (cleared.bind fun _ => finish _)

theorem clearPackedWAIT_retaining (ops : List BatchOp) (waitWithPending : Bool)
    (frames : List Decoded) : Retaining strict (clearPackedWAIT ops waitWithPending frames) := by
  refine (Preserves.reads fun _ => rfl).bind fun l => ?_
  split
  · split
    · exact (cleanupPackedWAIT_retaining _ _).bind fun _ => .pure _
    · exact .pure _
  · exact .pure _

theorem finishOverrunChunk_retaining (start : Nat) (ops : List BatchOp) (frames : List Decoded)
    (waitWithPending : Bool) :
    Retaining strict (finishOverrunChunk start ops frames waitWithPending) :=
  (loseProtocol_retaining frames).bind fun _ =>
    (checkAbandonedSuffix_retaining start _ _).bind fun _ =>
      (clearPackedWAIT_retaining ops waitWithPending _).bind fun _ => .pure _

/-- One packed call. -/
theorem commitOverrunChunk_retaining (start : Nat) (ops : List BatchOp) :
    Retaining strict (commitOverrunChunk ctx start ops) := by
  have begun : Retaining strict (completionContext ctx) := fun l _ => by
    rw [(completionContext_spec ctx l).1]
    exact ⟨.of_conn (.inl rfl), trivial⟩
  have clocked : Retaining strict (exchangeFixed (ops.map fun op => (op.req, op.data))) :=
    fun l _ => by
    refine ⟨.of_conn (.inl ?_), trivial⟩
    unfold exchangeFixed
    simp only
    split <;> rfl
  have ended (results : List BatchResult) (err : Option Err) : Retaining strict (do
      return (results, ← completionError ctx err)) :=
    (completionError_untouching ctx err).retaining.bind fun _ => .pure _
  refine begun.check (fun _ => .pure _) ?_
  refine clocked.checkOk (fun _ => repair_untouching.retaining.bind fun _ => ended _ _)
    fun replies => ?_
  exact (observeOverrunChunk_retaining ops replies).bind fun _ =>
    (finishOverrunChunk_retaining start ops _ _).bind fun _ => ended _ _

/-- By induction on the calls. -/
theorem commitOverrun_retaining (frames : Nat) :
    ∀ turns start ops, Retaining strict (commitOverrun ctx frames turns start ops)
  | 0, _, _ => .pure _
  | _ + 1, _, [] => .pure _
  | turns + 1, start, first :: rest => by
    refine (ctxErr_untouching ctx).retaining.check (fun _ => .pure _) ?_
    refine (Preserves.reads fun _ => rfl).bind fun l => ?_
    cases l.conn.validateTransfer first.req first.data with
    | some err => exact .pure _
    | none =>
      refine (Preserves.reads fun _ => rfl).bind fun l => ?_
      refine (commitOverrunChunk_retaining ctx start _).bind fun _ => .ite (.pure _) ?_
      exact (commitOverrun_retaining frames turns _ _).bind fun _ => .pure _

theorem commit_retaining (ops : List BatchOp) : Retaining strict (commit ctx ops) := by
  have checked : Retaining strict (validate ctx ops) := fun l _ => by
    refine ⟨.of_conn (.inl ?_), trivial⟩
    rcases (validate_spec ctx ops l).idle with same | ticked
    · rw [same]
    · rw [ticked]
      rfl
  refine .ite (.pure _) (checked.bind fun _ => .ite (.pure _) ?_)
  refine (Preserves.reads fun _ => rfl).bind fun l => .ite (commitSequential_retaining ctx ops 0) ?_
  refine (Preserves.reads fun _ => rfl).bind fun l => ?_
  split
  · exact .pure _
  · exact commitOverrun_retaining ctx _ _ _ _

/-- The register interface keeps the record. -/
theorem perform_retains (l : Link) (call : ConnCall) : Retains strict l (call.perform l) := by
  cases call with
  | readDP ctx addr => exact (access_retaining ctx _ _ l trivial).1
  | writeDP ctx addr value => exact (access_retaining ctx _ _ l trivial).1
  | readAP ctx addr => exact (access_retaining ctx _ _ l trivial).1
  | writeAP ctx addr value => exact (access_retaining ctx _ _ l trivial).1
  | commit ctx ops => exact (commit_retaining ctx ops l trivial).1

/-! ## What the target is owed -/

/-- `inherited` is the ORUNDETECT value of an idle connection's target. A record
holds that value, without a record ORUNDETECT has not moved, and an idle
connection keeps no record. -/
structure Restorable (inherited : Bool) (l : Link) : Prop where
  known : l.conn.originalKnown = true →
    l.conn.originalOverrun = inherited ∧ l.conn.identityKnown = true
  unknown : l.conn.originalKnown = false → l.target.overrun = inherited
  idle : l.conn.state = .idle → l.conn.originalKnown = false

section Restorable

variable {inherited : Bool} {l l' : Link}

/-- What is owed is the inherited bit. -/
theorem Restorable.owed (restorable : Restorable inherited l) : l.owed = inherited := by
  unfold Link.owed
  cases known : l.conn.originalKnown with
  | true => exact (restorable.known known).1
  | false => exact restorable.unknown known

/-- Routines that keep the record keep the debt, once they answer for ORUNDETECT. -/
theorem Restorable.retained (restorable : Restorable inherited l) (retains : Retains false l l')
    (overrun : l.conn.originalKnown = false → l'.target.overrun = l.target.overrun) :
    Restorable inherited l' where
  known isKnown := by
    rw [retains.known] at isKnown
    obtain ⟨original, identified⟩ := restorable.known isKnown
    exact ⟨retains.original.trans original, retains.identity identified⟩
  unknown notKnown := by
    rw [retains.known] at notKnown
    exact (overrun notKnown).trans (restorable.unknown notKnown)
  idle isIdle := by
    by_contra isKnown
    rw [retains.known, Bool.not_eq_false] at isKnown
    refine retains.busy (fun _ => (restorable.known isKnown).2) (fun wasIdle => ?_) isIdle
    simp [restorable.idle wasIdle] at isKnown

/-- Routines before the transition keep the debt. -/
theorem Restorable.untouched (restorable : Restorable inherited l)
    (untouched : Untouched false l l') :
    Restorable inherited l' :=
  restorable.retained untouched.retains fun _ => untouched.overrun

/-- A connection that has paid its debt starts over. -/
theorem Restorable.finish (paid : l.target.overrun = inherited) :
    Restorable inherited (finishRelease l).2 :=
  ⟨fun known => by simp [finishRelease, modifyConn, Conn.invalidateBank, Conn.confirmBank] at known,
    fun _ => paid, fun _ => rfl⟩

/-- No record is made. -/
def Sheds (l l' : Link) : Prop :=
  l'.conn.originalKnown = true →
    l.conn.originalKnown = true ∧ l'.conn.originalOverrun = l.conn.originalOverrun

/-- A connection that starts over has no record. -/
theorem finishRelease_sheds (l l' : Link) : Sheds l (finishRelease l').2 := fun known => by
  simp [finishRelease, modifyConn, Conn.invalidateBank, Conn.confirmBank] at known

/-- A record that stays is not a new one. -/
theorem Retains.sheds (retains : Retains false l l') : Sheds l l' :=
  fun known => ⟨retains.known ▸ known, retains.original⟩

theorem Sheds.trans (first : Sheds l l') (second : Sheds l' l'') : Sheds l l'' := by
  intro known
  obtain ⟨before, same⟩ := second known
  exact ⟨(first before).1, same.trans (first before).2⟩

/-- The completion check leaves the connection alone. -/
theorem Restorable.completes (restorable : Restorable inherited l') (sheds : Sheds l l')
    (err : Option Err) :
    Ends (completionError ctx err) l' fun _ l'' => Restorable inherited l'' ∧ Sheds l l'' :=
  have untouched := (completionError_untouching ctx err l' trivial).1
  ⟨restorable.untouched untouched, sheds.trans untouched.retains.sheds⟩

/-- `Release` keeps the debt until it has paid it. -/
theorem release_restorable (sane : Sane l) (restorable : Restorable inherited l) :
    Ends (release ctx) l fun _ l' => Restorable inherited l' ∧ Sheds l l' := by
  have ticked : Untouched false l l.tick := ⟨.of_conn (.inl rfl), rfl⟩
  refine .get_bind (.ite (fun _ => .pure ⟨restorable, (Retains.refl l).sheds⟩) fun _ =>
    .bind (fun _ l₁ => l₁ = l.tick) rfl ?_)
  rintro (_ | err) _ rfl
  · refine .bind _ (((prepareRelease_untouching ctx).ends trivial).and
      (prepareRelease_spec ctx fun ready => (sane ready).tracked ready)) ?_
    rintro err l₁ ⟨prepared, _, bank⟩
    have restorable₁ := (restorable.untouched ticked).untouched prepared
    have sheds₁ := ticked.retains.sheds.trans prepared.retains.sheds
    cases err with
    | some err => exact restorable₁.completes ctx sheds₁ _
    | none =>
      have restores : Retaining false (restoreOverrun ctx) := restoreOverrun_retaining ctx
      refine .bind _ ((restores.ends trivial).and (restoreOverrun_spec ctx (bank rfl))) ?_
      rintro err l₂ ⟨retains, _, paid⟩
      rw [restorable₁.owed] at paid
      cases err with
      | some err =>
        have restorable₂ := restorable₁.retained retains fun unknown =>
          (paid (.inr unknown)).trans (restorable₁.unknown unknown).symm
        exact restorable₂.completes ctx (sheds₁.trans retains.sheds) _
      | none =>
        have finished : Restorable inherited (finishRelease l₂).2 := .finish (paid (.inl rfl))
        exact modifyConn_bind (finished.completes ctx (finishRelease_sheds l l₂) _)
  · exact .pure ⟨restorable.untouched ticked, ticked.retains.sheds⟩

/-- The bit on record was read from CTRL/STAT since `l`. -/
def Reads (l l' : Link) : Prop :=
  ∃ earlier e later, l'.log = l.log ++ earlier ++ e :: later ∧ e.req = rawRequest true 0x04 ∧
    e.seen = some .ok ∧ l'.conn.originalOverrun = e.value.has overrunDetect

/-- What a call does with the record: one that exists is not replaced, and a new
one holds a bit that the call has read. -/
structure Records (l l' : Link) : Prop where
  kept : l.conn.originalKnown = true → l'.conn.originalKnown = true →
    l'.conn.originalOverrun = l.conn.originalOverrun
  read : l.conn.originalKnown = false → l'.conn.originalKnown = true → Reads l l'

/-- What makes no record replaces none. -/
theorem Sheds.records (sheds : Sheds l l') : Records l l' :=
  ⟨fun _ known => (sheds known).2, fun unknown known => by simp [(sheds known).1] at unknown⟩

/-- A record survives what makes none. -/
theorem Records.trans (records : Records l l') (sheds : Sheds l' l'')
    (grows : ∃ events, l''.log = l'.log ++ events) : Records l l'' where
  kept before known := (sheds known).2.trans (records.kept before (sheds known).1)
  read before known := by
    obtain ⟨earlier, e, later, log, request, seen, value⟩ := records.read before (sheds known).1
    obtain ⟨events, grown⟩ := grows
    exact ⟨earlier, e, later ++ events, by simp [grown, log], request, seen,
      (sheds known).2.trans value⟩

theorem Maintained.log (maintained : Maintained l l') :
    ∃ events, l'.log = l.log ++ events :=
  have ⟨events, grows, _⟩ := maintained.grows
  ⟨events, grows.log⟩

/-- A new record holds the bit that was read, which is the inherited one. -/
theorem Prepared.recorded {start : Link} {state : Word} (prepared : Prepared start state l)
    (busy : l.conn.state ≠ .idle) (restorable : Restorable inherited l)
    (unknown : l.conn.originalKnown = false) (fresh : start.conn.originalKnown = false) :
    Restorable inherited (l.remember state) ∧ Records start (l.remember state) := by
  refine ⟨⟨fun _ => ⟨prepared.overrun.trans (restorable.unknown unknown), prepared.identified⟩,
    by simp [Link.remember], fun isIdle => absurd isIdle busy⟩, by simp [fresh], fun _ _ => ?_⟩
  obtain ⟨earlier, e, log, request, seen, value⟩ := prepared.read
  exact ⟨earlier, e, [], log, request, seen, congrArg (·.has overrunDetect) value⟩

/-- The record is made before ORUNDETECT moves. -/
theorem establishResponse_restorable {start : Link} {state : Word}
    (prepared : Prepared start state l) (busy : l.conn.state ≠ .idle)
    (restorable : Restorable inherited l) (untouched : Untouched false start l) :
    Ends (establishResponse ctx state) l fun _ l' => Restorable inherited l' ∧ Records start l' ∧
      l'.conn.originalKnown = true := by
  have choose (l : Link) : Retains false l (chooseResponse ctx state l).2 :=
    (chooseResponse_retaining ctx state l trivial).1
  refine .get_bind ?_
  cases known : l.conn.originalKnown with
  | true =>
    exact ⟨restorable.retained (choose l) (by simp [known]),
      (untouched.retains.sheds.trans (choose l).sheds).records, (choose l).known.trans known⟩
  | false =>
    obtain ⟨recorded, records⟩ := prepared.recorded busy restorable known
      (untouched.retains.known ▸ known)
    have grows := (chooseResponse_spec ctx prepared.remember).1.maintained.log
    have retains := choose (l.remember state)
    exact ⟨recorded.retained retains (by simp [Link.remember]),
      records.trans retains.sheds grows, retains.known⟩

/-- `Connect` up to its cleanup. -/
theorem connectBody_restorable (restorable : Restorable inherited l) :
    Ends (connectBody ctx) l fun _ l' => Restorable inherited l' ∧ Records l l' := by
  have busy : Ends (prepareConnection ctx) l fun result l' => result.2.2 = none → Busy l' :=
    prepareConnection_busy ctx l trivial
  refine .bind _ (((prepareConnection_untouching ctx).ends trivial).and
    ((prepareConnection_spec ctx l).and busy)) ?_
  rintro ⟨dpidr, state, failed⟩ l₁ ⟨untouched, ⟨_, _, prepared⟩, busy⟩
  have restorable₁ := restorable.untouched untouched
  cases failed with
  | some err => exact .pure ⟨restorable₁, untouched.retains.sheds.records⟩
  | none =>
    refine .bind _ (establishResponse_restorable ctx (prepared rfl) (busy rfl) restorable₁
      untouched) ?_
    rintro (_ | err) l₂ ⟨restorable₂, records, known⟩
    · refine modifyConn_bind (.pure ⟨⟨restorable₂.known, fun unknown => ?_, nofun⟩, records.kept,
        records.read⟩)
      exact absurd (known.symm.trans unknown) nofun
    · exact .pure ⟨restorable₂, records⟩

/-- Without a record there is nothing to restore; otherwise the cleanup is a release. -/
theorem cleanupFailedConnect_restorable (err : Err) (sane : Sane l)
    (restorable : Restorable inherited l) :
    Ends (cleanupFailedConnect err) l fun _ l' => Restorable inherited l' ∧ Sheds l l' := by
  have ticked : Untouched false l l.tick := ⟨.of_conn (.inl rfl), rfl⟩
  refine .get_bind (.ite (fun unknown => ?_) fun _ => .ite
    (fun _ => .pure ⟨restorable, (Retains.refl l).sheds⟩) fun _ =>
      .bind (fun _ l₁ => l₁ = l.tick) rfl ?_)
  · have finished : Restorable inherited (finishRelease l).2 :=
      .finish (restorable.unknown (by simpa using unknown))
    exact modifyConn_bind (.pure ⟨finished, finishRelease_sheds l l⟩)
  · rintro ctx _ rfl
    refine .bind _ (release_restorable ctx (fun ready => (sane ready).tick)
      (restorable.untouched ticked)) ?_
    rintro failed l₁ ⟨released, sheds⟩
    cases failed <;> exact .pure ⟨released, ticked.retains.sheds.trans sheds⟩

/-- `Connect`, whichever way it ends. -/
theorem connect_restorable (cleanupTimeout : Int) (restorable : Restorable inherited l) :
    Ends (connect ctx cleanupTimeout) l fun _ l' => Restorable inherited l' ∧ Records l l' := by
  have ticked (l : Link) : Untouched false l l.tick := ⟨.of_conn (.inl rfl), rfl⟩
  have restorable₀ := restorable.untouched (ticked l)
  have refused : Restorable inherited l.tick ∧ Records l l.tick :=
    ⟨restorable₀, (ticked l).retains.sheds.records⟩
  refine .bind (fun _ l₁ => l₁ = l.tick) rfl ?_
  rintro (_ | err) _ rfl
  · refine .ite (fun _ => .pure refused) fun _ => .bind _ ((connectBody_spec ctx l.tick).and
      (connectBody_restorable ctx restorable₀)) ?_
    rintro ⟨dpidr, err⟩ l₁ ⟨⟨_, failed, connected⟩, restorable₁, records⟩
    have restorable₂ := restorable₁.untouched (ticked l₁)
    have records₂ : Records l l₁.tick := ⟨records.kept, records.read⟩
    refine .bind (fun _ l₂ => l₂ = l₁.tick) (completionError_spec ctx err l₁).1 ?_
    rintro (_ | cause) _ rfl
    · exact .pure ⟨restorable₂, records₂⟩
    · have ready (isReady : l₁.tick.conn.state = .ready) : Connected l₁.tick := by
        by_contra wrong
        exact failed (fun clean => wrong ((connected clean).congr rfl rfl)) isReady
      refine .bind _ ((cleanupFailedConnect_spec cause ready).and
        (cleanupFailedConnect_restorable cause (fun isReady => (ready isReady).coherent)
          restorable₂)) ?_
      rintro _ l₃ ⟨⟨grown, _⟩, cleaned, sheds⟩
      exact .pure ⟨cleaned, records₂.trans sheds grown.log⟩
  · exact .pure refused

/-- The register interface moves neither the record nor ORUNDETECT. -/
theorem perform_restorable (sane : Sane l) (restorable : Restorable inherited l) (call : ConnCall) :
    Restorable inherited (call.perform l) ∧ Records l (call.perform l) := by
  have retains : Retains false l (call.perform l) := perform_retains l call
  refine ⟨restorable.retained retains fun _ => ?_, retains.sheds.records⟩
  by_cases ready : l.conn.state = .ready
  · have kept := perform_kept (sane ready) call
    have before := (sane ready).framed.mode_eq
    have after := kept.coherent.framed.mode_eq
    rw [kept.response] at after
    exact after.symm.trans before
  · rw [perform_notReady ready]

/-- One call of a session. -/
theorem LinkCall.restorable (sane : Sane l) (restorable : Restorable inherited l)
    (call : LinkCall) :
    Restorable inherited (call.perform l) ∧ Records l (call.perform l) := by
  cases call with
  | connect ctx cleanupTimeout => exact connect_restorable ctx cleanupTimeout restorable
  | release ctx =>
    obtain ⟨released, sheds⟩ := release_restorable ctx sane restorable
    exact ⟨released, sheds.records⟩
  | register call => exact perform_restorable sane restorable call

end Restorable

/-- At any point of any session: the record holds the ORUNDETECT bit that the
first `Connect` since the connection was idle has read, no call replaces it, a
nil `Release` leaves the connection idle, and an idle connection has left the
target with the bit on record, or as it was when there was no record. -/
theorem overrunDetect_restored (env : Env) (clock : Nat) (target : Target) (log : List Event)
    (completionTimeout : Int) (calls : List LinkCall) (call : LinkCall) :
    let l := session (.fresh env clock target log completionTimeout) calls
    let l' := call.perform l
    (l.conn.state = .idle → l.conn.originalKnown = false) ∧
    (l.conn.originalKnown = false → l'.conn.originalKnown = true → Reads l l') ∧
    (l.conn.originalKnown = true → l'.conn.originalKnown = true →
      l'.conn.originalOverrun = l.conn.originalOverrun) ∧
    (∀ ctx, (release ctx l).1 = none → (release ctx l).2.conn.state = .idle) ∧
    (l'.conn.state = .idle → l'.target.overrun =
      if l.conn.originalKnown then l.conn.originalOverrun else l.target.overrun) ∧
    (l'.conn.state = .idle → l'.target.overrun = target.overrun) ∧
    (l'.conn.originalKnown = true → l'.conn.originalOverrun = target.overrun) := by
  intro l l'
  obtain ⟨sane, restorable⟩ : Sane l ∧ Restorable target.overrun l := by
    refine session_invariant (fun l => Sane l ∧ Restorable target.overrun l)
      (fun l call holds => ⟨LinkCall.sane holds.1 call,
        (LinkCall.restorable holds.1 holds.2 call).1⟩)
      ⟨fun ready => ?_, fun known => ?_, fun _ => rfl, fun _ => rfl⟩ calls
    · simp [Link.fresh, Conn.new] at ready
    · simp [Link.fresh, Conn.new] at known
  obtain ⟨restorable', records⟩ := LinkCall.restorable sane restorable call
  have paid (idle : l'.conn.state = .idle) : l'.target.overrun = target.overrun :=
    restorable'.unknown (restorable'.idle idle)
  refine ⟨restorable.idle, records.read, records.kept, fun ctx => ?_, fun idle => ?_, paid,
    fun known => (restorable'.known known).1⟩
  · exact (release_spec ctx fun ready => (sane ready).tracked ready).2
  · exact (paid idle).trans restorable.owed.symm

end Ostiole.Swd
