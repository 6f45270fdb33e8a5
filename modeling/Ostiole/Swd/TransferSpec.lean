import Ostiole.Swd.ChunkSpec

/-!
# Single transfers meet their specification

A register method either refuses before anything is clocked, or clocks one
frame, perhaps followed by the connection's own ABORT, and observes it.
-/

namespace Ostiole.Swd

open Ostiole Logic

variable {err : Err} {e : Event} {l l' : Link} {cleanup : List Event} {req : Request}
    {result : Result} {data value : Word}

/-! ## Contexts and errors -/

theorem CtxCause.err_quiet (cause : CtxCause) : cause.err.quiet = true := by cases cause <;> rfl

theorem ctxErr_quiet {ctx : Ctx} (ended : (ctxErr ctx l).1 = some err) :
    err.quiet = true := by
  simp only [ctxErr, Ctx.err] at ended
  split at ended
  · obtain rfl := Option.some.inj ended
    exact CtxCause.err_quiet ctx.cause
  · simp at ended

theorem WireFault.err_ofSwd (fault : WireFault) : fault.err.ofSwd = true := by cases fault <;> rfl

theorem validateCompletion_quiet {c : Conn} (failed : c.validateCompletion = some err) :
    err.quiet = true := by
  unfold Conn.validateCompletion at failed
  split_ifs at failed
  obtain rfl := Option.some.inj failed
  rfl

section Tick

variable (l : Link)

@[simp] theorem Link.tick_conn : l.tick.conn = l.conn := rfl
@[simp] theorem Link.tick_target : l.tick.target = l.target := rfl

theorem ctxErr_link (ctx : Ctx) : (ctxErr ctx l).2 = l.tick := rfl

end Tick

/-- The link one tick later. -/
theorem Sends.tick (l : Link) : Sends l [] l.tick := .idle l l.conn 1

/-- What the caller's context adds to an outcome. -/
structure Completed (err final : Option Err) : Prop where
  clean : final = none → err = none
  quiet : err = none → ∀ cause, final = some cause → cause.quiet = true
  leaves : ∀ {holds : Sentinel → Bool}, holds .canceled = true → holds .deadlineExceeded = true →
    (∀ cause, err = some cause → cause.leaves holds = true) →
    ∀ cause, final = some cause → cause.leaves holds = true
  kept : ∀ name, isErr err name = true → isErr final name = true

theorem Completed.refl (err : Option Err) : Completed err err :=
  ⟨id, fun none cause failed => by simp [none] at failed, fun _ _ holds => holds, fun _ => id⟩

theorem completionError_spec (ctx : Ctx) (err : Option Err) (l : Link) :
    Ends (completionError ctx err) l fun final l' => l' = l.tick ∧ Completed err final := by
  have joins (cause : CtxCause) : Completed err (Err.joined err (some cause.err)) := by
    refine ⟨fun none => ?_, fun none final failed => ?_, fun canceled deadline holds final failed =>
      ?_, fun name found => ?_⟩
    · cases err <;> simp [Err.joined] at none
    · subst none
      obtain rfl := Option.some.inj failed
      cases cause <;> rfl
    · have leaf : ∀ {holds : Sentinel → Bool}, holds .canceled = true →
          holds .deadlineExceeded = true → cause.err.leaves holds = true := by
        intro holds canceled deadline
        cases cause <;> assumption
      cases err with
      | none =>
        obtain rfl := Option.some.inj failed
        exact leaf canceled deadline
      | some own =>
        obtain rfl := Option.some.inj failed
        simp [Err.leaves, holds own rfl, leaf canceled deadline]
    · cases err with
      | none => simp [isErr] at found
      | some own => simp_all [Err.joined, isErr, Err.is]
  unfold completionError Ends
  simp only [run_bind, ctxErr]
  cases ended : ctx.err l.clock with
  | none => exact ⟨rfl, .refl err⟩
  | some cause =>
    obtain rfl : cause = ctx.cause.err := by
      simp only [Ctx.err] at ended
      split at ended <;> simp_all
    cases kind : ctx.cause <;> simp only [run_pure, true_and] <;> split
    · exact .refl err
    · exact joins .canceled
    · exact .refl err
    · exact joins .deadlineExceeded

theorem completionContext_spec (ctx : Ctx) (l : Link) :
    Ends (completionContext ctx) l fun failed l' => l' = l.tick ∧
      ∀ err, failed = some err → err.quiet = true := by
  unfold completionContext Ends
  simp only [run_bind]
  cases ended : (ctxErr ctx l).1 with
  | some cause =>
    refine ⟨rfl, fun err same => ?_⟩
    obtain rfl := Option.some.inj same
    exact ctxErr_quiet ended
  | none => exact ⟨rfl, fun err failed => validateCompletion_quiet failed⟩

/-! ## One frame with its cleanup -/

/-- What a request that was clocked on its own came to. -/
inductive Answered (e : Event) : Result → Prop
  | confirmed {value : Word} {err : Option Err} (confirmed : Confirmed e ⟨value, err⟩) :
      Answered e (value, err)
  | waited {value : Word} {err : Option Err} (waited : Waited e ⟨value, err⟩) :
      Answered e (value, err)
  | faulted {value : Word} {err : Option Err} (faulted : Faulted e ⟨value, err⟩) :
      Answered e (value, err)
  | lost {err : Err} (lost : LostErr err) : Answered e (0, some err)

/-- One frame outside the tracked methods. -/
structure Executed (req : Request) (data : Word) (l : Link) (e : Event) (cleanup : List Event)
    (result : Result) (l' : Link) : Prop where
  sends : Sends l (e :: cleanup) l'
  req : e.req = req
  data : e.data = data
  time : l.clock ≤ e.time
  record : l'.conn.record = l.conn.record
  answered : Answered e result
  aborts : ∀ f ∈ cleanup, f.req = rawRequest false 0x00 ∧ f.data = clearStickyOverrun
  single : cleanup.length ≤ 1
  needed : cleanup ≠ [] → e.seen = some .wait ∧ l.conn.response = .overrun
  conn : l'.conn = l.conn ∨ l'.conn = l.conn.requireRepair
  kept : isErr result.2 .swdWait = false → l'.conn = l.conn
  simple : l.conn.response ≠ .overrun → FrameOutcome e result

/-- A frame of its own, before any cleanup. -/
private theorem FrameOutcome.answered
    (outcome : FrameOutcome e result) : Answered e result := by
  cases outcome with
  | done seen => exact .confirmed ⟨seen, .inl rfl⟩
  | parity seen read => exact .confirmed ⟨seen, .inr ⟨rfl, read⟩⟩
  | wait seen => exact .waited ⟨seen, .inl rfl⟩
  | fault seen => exact .faulted ⟨seen, rfl⟩
  | lost lost => exact .lost lost

/-- Only a WAIT acknowledgement alone is exactly a WAIT. -/
private theorem FrameOutcome.wait_of_exactly
    (outcome : FrameOutcome e result) (exactly : isExactly result.2 .swdWait = true) :
    e.seen = some .wait ∧ result = (0, some errWait) := by
  cases outcome with
  | wait seen => exact ⟨seen, rfl⟩
  | lost lost =>
    cases lost with
    | wire fault => cases fault <;> simp [isExactly, WireFault.err] at exactly
    | protocol => simp [isExactly, errProtocol] at exactly
    | cleanup => simp [isExactly] at exactly
  | _ => simp [isExactly, errParity, errFault] at exactly

theorem executeFrame_spec (req : Request) (value : Word) (l : Link) :
    Ends (executeFrame req value) l fun result l' =>
      ∃ e cleanup, Executed req value l e cleanup result l' := by
  refine .bind _ (transferFrame_spec req value l) ?_
  rintro ⟨result, err⟩ l₁ ⟨e, clocked, outcome⟩
  have plain : Executed req value l e [] (result, err) l₁ :=
    ⟨clocked.sends, clocked.req, clocked.data, clocked.time.1, by rw [clocked.conn],
      outcome.answered, by simp, by simp, by simp, .inl clocked.conn, fun _ => clocked.conn,
      fun _ => outcome⟩
  refine .get_bind (.ite (fun _ => .pure ⟨e, [], plain⟩) fun simple => ?_)
  obtain ⟨mode, exactly⟩ : l₁.conn.response = .overrun ∧ isExactly err .swdWait = true := by
    simpa using simple
  obtain ⟨seen, same⟩ := outcome.wait_of_exactly exactly
  obtain ⟨rfl, rfl⟩ := Prod.mk.inj same
  have kept {holds : Prop} {cause : Err} (waits : isErr (some (errWait.join cause)) .swdWait =
    false) :
      holds := by simp [isErr, Err.is, errWait] at waits
  refine .ite (fun _ => ?_) fun _ => ?_
  · exact ⟨e, [], clocked.sends.trans_silent (.idle l₁ _ 0), clocked.req, clocked.data,
      clocked.time.1, (requireRepair_record l₁.conn).trans (congrArg Conn.record clocked.conn),
      .waited ⟨seen, .inr ⟨abortWAITErr, rfl, rfl⟩⟩, by simp, by simp, by simp,
      .inr (congrArg Conn.requireRepair clocked.conn), kept,
      fun simple => absurd (clocked.conn ▸ mode) simple⟩
  refine .bind _ (clearOverrunAfterWAIT_spec l₁) ?_
  rintro failed l₂ ⟨cleanup, cleaned⟩
  have finish {err : Option Err} {l₃ : Link} (same : l₃ = l₂ ∨ l₃ = l₂.repaired)
      (waited : Waited e ⟨0, err⟩) (kept : isErr err .swdWait = false → l₃.conn = l.conn) :
      Executed req value l e cleanup (0, err) l₃ := by
    have ends : Cleaned l₁ failed l₃ cleanup := by
      rcases same with rfl | rfl
      · exact cleaned
      · exact cleaned.repair
    rw [clocked.conn] at mode
    have moved := ends.conn
    rw [clocked.conn] at moved
    exact ⟨by simpa using clocked.sends.trans ends.sends, clocked.req, clocked.data,
      clocked.time.1, ends.record.trans (congrArg Conn.record clocked.conn), .waited waited,
      ends.aborts, ends.single, fun _ => ⟨seen, mode⟩, moved, kept, absurd mode⟩
  cases failed with
  | some cause =>
    exact .pure ⟨e, cleanup, finish (.inl rfl) ⟨seen, .inr ⟨cause, cleaned.ofWire cause rfl, rfl⟩⟩
      kept⟩
  | none =>
    have waits {holds : Prop} (none : isErr (some errWait) .swdWait = false) : holds := by
      simp [isErr, Err.is, errWait] at none
    refine .get_bind (.ite (fun _ => ?_) fun _ => ?_)
    · exact ⟨e, cleanup, finish (.inr rfl) ⟨seen, .inl rfl⟩ waits⟩
    · exact ⟨e, cleanup, finish (.inl rfl) ⟨seen, .inl rfl⟩ waits⟩

/-! ## The register methods -/

/-- One request that a register method clocked and observed. -/
structure Sent (req : Request) (data : Word) (l : Link) (e : Event) (cleanup : List Event)
    (result : Result) (l' : Link) : Prop where
  sends : Sends l (e :: cleanup) l'
  req : e.req = req
  data : e.data = data
  time : l.clock ≤ e.time
  record : l'.conn.record = l.conn.record
  answered : Answered e result
  aborts : ∀ f ∈ cleanup, f.req = rawRequest false 0x00 ∧ f.data = clearStickyOverrun
  single : cleanup.length ≤ 1
  needed : cleanup ≠ [] → e.seen = some .wait ∧ l.conn.response = .overrun
  framed : Framed l.conn.response l'.target
  keeps : e.keepsFraming (l.conn.response == .overrun)
  ready : l'.conn.state = .ready → completeTransfer result.2 = true ∧ Tracked l'.conn l'.target
  stays : result.2 = none → l'.conn.state = .ready
  simple : l.conn.response ≠ .overrun → FrameOutcome e result

/-- What a register method does: nothing, or one request. -/
inductive Transferred (req : Request) (data : Word) (l : Link) : Result → Link → Prop
  | unsent {err : Err} {l' : Link} (quiet : err.quiet = true) (sends : Sends l [] l')
      (conn : l'.conn = l.conn) : Transferred req data l (0, some (notExecuted err)) l'
  | sent {e : Event} {cleanup : List Event} {value : Word} {err final : Option Err} {l' : Link}
      (started : l.conn.state = .ready) (sent : Sent req data l e cleanup (value, err) l')
      (completed : Completed err final) : Transferred req data l (value, final) l'

/-- The connection's own ABORTs move neither bank nor framing. -/
theorem Steps.cleanedUp {world : PortWorld} {t t' : Target}
    (steps : Steps world t cleanup t')
    (aborts : ∀ f ∈ cleanup, f.req = rawRequest false 0x00 ∧ f.data = clearStickyOverrun) :
    (∀ {c : Conn}, Tracked c t → Tracked c t') ∧
      ∀ {mode : ResponseMode}, Framed mode t → Framed mode t' := by
  induction steps with
  | nil t => exact ⟨id, id⟩
  | cons transition later ih =>
    obtain ⟨request, data⟩ := aborts _ (List.mem_cons_self ..)
    obtain ⟨tracks, frames⟩ := ih fun f member => aborts f (by simp [member])
    exact ⟨fun tracked => tracks (tracked.cleanedUp transition request data),
      fun framed => frames (framed.cleanedUp transition request)⟩

theorem LostErr.incomplete (lost : LostErr err) : completeTransfer (some err) = false := by
  cases lost with
  | wire fault => cases fault <;> rfl
  | protocol => rfl
  | cleanup => rfl

/-- An outcome that leaves the framing known. -/
theorem Answered.complete {err : Option Err}
    (answered : Answered e (value, err)) (complete : completeTransfer err = true) :
    (e.seen = some .ok ∧ AcceptedErr e.req err ∧
        (err = none → value = if e.req.read then e.value else 0)) ∨
      ((e.seen = some .wait ∨ e.seen = some .fault) ∧ value = 0 ∧
        (err = some errWait ∨ err = some errFault)) := by
  cases answered with
  | confirmed confirmed =>
    obtain ⟨seen, result | ⟨result, read⟩⟩ := confirmed
    · exact .inl ⟨seen, .inl (congrArg BatchResult.err result),
        fun _ => congrArg BatchResult.value result⟩
    · obtain rfl : err = _ := congrArg BatchResult.err result
      exact .inl ⟨seen, .inr ⟨rfl, read⟩, by simp⟩
  | waited waited =>
    obtain ⟨seen, result | ⟨cause, _, result⟩⟩ := waited
    · exact .inr ⟨.inl seen, congrArg BatchResult.value result,
        .inl (congrArg BatchResult.err result)⟩
    · obtain rfl : err = _ := congrArg BatchResult.err result
      simp [completeTransfer, isExactly] at complete
  | faulted faulted =>
    obtain ⟨seen, result⟩ := faulted
    exact .inr ⟨.inr seen, congrArg BatchResult.value result,
      .inr (congrArg BatchResult.err result)⟩
  | lost lost => simp [lost.incomplete] at complete

/-- The frame of a validated request, observed. -/
theorem Executed.observe (executed : Executed req data l e cleanup result l')
    (started : l.conn.state = .ready) (framed : Framed l.conn.response l.target)
    (tracked : Tracked l.conn l.target) (valid : l.conn.validateTransfer req data = none) :
    Sent req data l e cleanup result
      { l' with conn := l'.conn.observeTransfer req result.1 data result.2 } := by
  obtain ⟨value, err⟩ := result
  obtain ⟨t, transition, later⟩ : ∃ t, Step l.env.world l.target e t ∧
      Steps l.env.world t cleanup l'.target := by
    cases executed.sends.steps with
    | cons transition later => exact ⟨_, transition, later⟩
  obtain ⟨tracks, frames⟩ := later.cleanedUp executed.aborts
  have keeps : e.keepsFraming l.target.overrun :=
    tracked.keepsFraming framed transition (by rw [executed.req, executed.data]; exact valid)
  refine ⟨executed.sends.trans_silent (.idle l' _ 0), executed.req, executed.data, executed.time,
    (observeTransfer_record _ _ _ _ _).trans executed.record, executed.answered, executed.aborts,
    executed.single, executed.needed,
      frames (framed.step transition keeps), by rwa [framed.mode_eq],
    fun ready => ?_, fun none => ?_, executed.simple⟩
  · obtain ⟨before, complete⟩ := observeTransfer_ready _ _ _ _ _ ready
    have conn : l'.conn = l.conn := by
      rcases executed.conn with same | repaired
      · exact same
      · rw [repaired] at before
        exact (Link.repaired_ready before).elim
    refine ⟨complete, ?_⟩
    rw [conn, ← executed.req, ← executed.data]
    rcases executed.answered.complete complete with ⟨seen, kind, _⟩ | ⟨seen, rfl, refused⟩
    · exact tracks (tracked.accepted transition (transition.accepted_of_ok seen) value kind)
    · have same : l.conn.observeTransfer e.req 0 e.data err = l.conn := by
        rcases refused with rfl | rfl
        · exact observeTransfer_wait _ _ _
        · exact observeTransfer_fault _ _ _
      rw [same]
      exact tracks (tracked.refused transition (transition.refused_of_seen seen))
  · obtain rfl : err = Option.none := none
    rw [observeTransfer_state _ _ _ _ _ rfl, executed.kept rfl]
    exact started

/-- What holds of a link between calls while its connection is ready. -/
structure Coherent (l : Link) : Prop where
  framed : Framed l.conn.response l.target
  tracked : l.conn.state = .ready → Tracked l.conn l.target

theorem Coherent.tick (coherent : Coherent l) : Coherent l.tick :=
  ⟨coherent.framed, coherent.tracked⟩

theorem validateTransfer_text {c : Conn}
    (failed : c.validateTransfer req value = some err) : ∃ message, err = .text message := by
  unfold Conn.validateTransfer at failed
  split_ifs at failed <;> exact ⟨_, (Option.some.inj failed).symm⟩

theorem Sent.afterIdle {l₁ : Link} (sent : Sent req data l₁ e cleanup result l')
    (idle : Sends l [] l₁) (conn : l₁.conn = l.conn) : Sent req data l e cleanup result l' where
  sends := idle.silent_trans sent.sends
  req := sent.req
  data := sent.data
  time := idle.clock.trans sent.time
  record := conn ▸ sent.record
  answered := sent.answered
  aborts := sent.aborts
  single := sent.single
  needed := conn ▸ sent.needed
  framed := conn ▸ sent.framed
  keeps := conn ▸ sent.keeps
  ready := sent.ready
  stays := sent.stays
  simple := conn ▸ sent.simple

theorem Sent.beforeTick (sent : Sent req data l e cleanup result l') :
    Sent req data l e cleanup result l'.tick :=
  { sent with sends := sent.sends.trans_silent (.tick l') }

/-- The part of `transfer` after its checks. -/
theorem transfer_checked (coherent : Coherent l) (started : l.conn.state = .ready)
    (valid : l.conn.validateTransfer req value = none) :
    ∃ e cleanup, Sent req value l e cleanup (executeFrame req value l).1
      (modifyConn (·.observeTransfer req (executeFrame req value l).1.1 value
        (executeFrame req value l).1.2) (executeFrame req value l).2).2 := by
  obtain ⟨e, cleanup, executed⟩ := executeFrame_spec req value l
  exact ⟨e, cleanup, executed.observe started coherent.framed (coherent.tracked started) valid⟩

/-- Without a context, a ready connection sends what it validated. -/
theorem transfer_sent (coherent : Coherent l) (started : l.conn.state = .ready)
    (valid : l.conn.validateTransfer req value = none)
    (timeout : l.conn.validateCompletion = none) :
    ∃ e cleanup, Sent req value l e cleanup (transfer none req value l).1
      (transfer none req value l).2 := by
  obtain ⟨e, cleanup, sent⟩ := transfer_checked coherent started valid
  unfold transfer
  simp only [run_get_bind, run_ite]
  rw [if_neg (by simp [started])]
  simp only [run_get_bind, valid, timeout]
  simp only [run_bind]
  exact ⟨e, cleanup, sent⟩

theorem transfer_spec (coherent : Coherent l) (ctx : Option Ctx) (req : Request)
    (value : Word) :
    Transferred req value l (transfer ctx req value l).1 (transfer ctx req value l).2 := by
  unfold transfer
  simp only [run_get_bind, run_ite]
  split_ifs with busy
  · exact .unsent rfl (.refl l) rfl
  have started : l.conn.state = .ready := by simpa using busy
  cases ctx with
  | none =>
    simp only [run_get_bind]
    cases checked : l.conn.validateTransfer req value with
    | some err =>
      obtain ⟨message, rfl⟩ := validateTransfer_text checked
      exact .unsent rfl (.refl l) rfl
    | none =>
      simp only [run_get_bind]
      cases timeout : l.conn.validateCompletion with
      | some err => exact .unsent (validateCompletion_quiet timeout) (.refl l) rfl
      | none =>
        obtain ⟨e, cleanup, sent⟩ := transfer_checked coherent started checked
        simp only [run_bind]
        generalize executeFrame req value l = frame at sent ⊢
        exact .sent started sent (.refl _)
  | some ctx =>
    simp only [run_bind]
    cases ended : (ctxErr ctx l).1 with
    | some err => exact .unsent (ctxErr_quiet ended) (.tick l) rfl
    | none =>
      simp only [run_get_bind, ctxErr_link, Link.tick_conn]
      cases checked : l.conn.validateTransfer req value with
      | some err =>
        obtain ⟨message, rfl⟩ := validateTransfer_text checked
        exact .unsent rfl (.tick l) rfl
      | none =>
        simp only [run_bind]
        have idle : Sends l [] l.tick.tick := (Sends.tick l).trans_silent (.tick l.tick)
        cases again : (ctxErr ctx l.tick).1 with
        | some err => exact .unsent (ctxErr_quiet again) idle rfl
        | none =>
          simp only [run_get_bind, ctxErr_link, Link.tick_conn]
          cases timeout : l.conn.validateCompletion with
          | some err => exact .unsent (validateCompletion_quiet timeout) idle rfl
          | none =>
            obtain ⟨e, cleanup, sent⟩ := transfer_checked coherent.tick.tick started checked
            simp only [run_bind]
            generalize executeFrame req value l.tick.tick = frame at sent ⊢
            generalize (modifyConn _ frame.2).2 = l₁ at sent ⊢
            obtain ⟨ticks, completed⟩ := completionError_spec ctx frame.1.2 l₁
            simp only [run_pure]
            rw [ticks]
            exact .sent started (sent.afterIdle idle rfl).beforeTick completed

end Ostiole.Swd
