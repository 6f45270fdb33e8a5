import Ostiole.Logic.Lasts
import Ostiole.Swd.Session
import Ostiole.Swd.Wire

/-!
# Packing is unobservable

A target that answers every request is a sequential machine: `answerAll` carries
a queue out one operation at a time and says nothing about exchanges. A packed
commit, one commit for each operation and a commit with simple responses are
all runs of that machine, with the same tracked bank at the end.
-/

namespace Ostiole

variable {c : Conn} {ctx : Ctx} {results : List BatchResult} {events : List Event}

/-- Immediate acceptance with correct parity, whatever values are read. -/
structure FrameChoice.Accepts (c : FrameChoice) : Prop where
  ack : c.ack = .ok
  raise : c.raise = 0
  parity : c.badParity = false
  carried : c.drop = false

namespace Swd

open Logic

/-- The wire never fails and the target treats every frame alike. -/
structure Env.Answers (env : Env) (choice : FrameChoice) : Prop where
  delivered : ∀ time, (env.exchange time).failure = none
  frames : ∀ time i, (env.exchange time).frames i = choice
  accepts : choice.Accepts

/-- A target that has no reason to refuse a request. -/
structure Target.Clear (t : Target) : Prop where
  sticky : t.sticky = false
  unlocked : t.lockout = false

/-- One operation, carried out by itself. -/
def answer (world : PortWorld) (choice : FrameChoice) (op : BatchOp) (t : Target) :
    BatchResult × Target :=
  if op.req.read then
    (⟨(t.read world choice op.req).1, none⟩, (t.read world choice op.req).2)
  else (⟨0, none⟩, t.write op.req op.data)

/-- A queue, one operation after the other. -/
def answerAll (world : PortWorld) (choice : FrameChoice) :
    List BatchOp → Target → List BatchResult × Target
  | [], t => ([], t)
  | op :: rest, t =>
    let first := answer world choice op t
    let later := answerAll world choice rest first.2
    (first.1 :: later.1, later.2)

section Machine

variable {world : PortWorld} {choice : FrameChoice} {t : Target}

theorem answerAll_append (first second : List BatchOp) (t : Target) :
    answerAll world choice (first ++ second) t =
      ((answerAll world choice first t).1 ++
        (answerAll world choice second (answerAll world choice first t).2).1,
        (answerAll world choice second (answerAll world choice first t).2).2) := by
  induction first generalizing t with
  | nil => rfl
  | cons op rest ih => simp [answerAll, ih]

theorem length_answerAll (ops : List BatchOp) (t : Target) :
    (answerAll world choice ops t).1.length = ops.length := by
  induction ops generalizing t with
  | nil => rfl
  | cons op rest ih => simp [answerAll, ih]

theorem raised_of_accepts (accepts : choice.Accepts) (t : Target) : t.raised choice = t := by
  simp [Target.raised, Target.setSticky, accepts.raise]

theorem acknowledge_of_clear (accepts : choice.Accepts) (clear : Target.Clear t) (req : Request) :
    t.acknowledge choice req = .ok := by
  simp [Target.acknowledge, clear.sticky, clear.unlocked, accepts.ack]

/-- Such a target carries every frame out. -/
theorem frame_of_clear (accepts : choice.Accepts) (clear : Target.Clear t) (op : BatchOp) :
    t.frame world choice op.req op.data =
      (⟨⟨.ok, (answer world choice op t).1.value, true⟩, t.select, true, true⟩,
        (answer world choice op t).2) := by
  have ack := acknowledge_of_clear accepts clear op.req
  have accepted : t.accepts choice op.req = true := by simp [Target.accepts, ack]
  unfold Target.frame answer
  simp only [raised_of_accepts accepts, ack, accepted, accepts.parity, accepts.carried]
  cases op.req.read <;> simp [Target.observeResponse, Target.writePhase, accepts.carried]

theorem abort_sticky (value : Word) (clear : t.sticky = false) :
    (t.abort value).sticky = false := by
  have fewer (kept : Word) : (t.ctrlStat &&& kept).has stickyFlags = false := by
    have none : t.ctrlStat &&& stickyFlags = 0#32 := by simpa [Target.sticky, Word.has] using clear
    have all : t.ctrlStat &&& kept &&& stickyFlags = 0#32 := by
      rw [BitVec.and_assoc, BitVec.and_comm kept, ← BitVec.and_assoc, none, BitVec.zero_and]
    simp [Word.has, all]
  exact fewer _

theorem Target.Clear.answer (clear : Target.Clear t) (op : BatchOp) :
    Target.Clear (answer world choice op t).2 := by
  unfold Swd.answer
  split
  · unfold Target.read
    split
    · exact ⟨clear.sticky, clear.unlocked⟩
    · exact clear
  · obtain ⟨_, result⟩ | ⟨_, _, _, result⟩ | ⟨_, _, result⟩ | ⟨_, _, result⟩ | ⟨_, _, _, _,
      result⟩ :=
      t.write_cases op.req op.data
    all_goals rw [result]
    · exact ⟨clear.sticky, clear.unlocked⟩
    · exact ⟨abort_sticky _ clear.sticky, clear.unlocked⟩
    · exact ⟨(t.writeBanked_sticky _).trans clear.sticky,
        (t.writeBanked_lockout _).trans clear.unlocked⟩
    · exact ⟨clear.sticky, clear.unlocked⟩
    · exact clear

theorem answer_result (op : BatchOp) : (answer world choice op t).1 =
    ⟨if op.req.read then (answer world choice op t).1.value else 0, none⟩ := by
  unfold answer
  split <;> simp_all

theorem answer_select (op : BatchOp) : (answer world choice op t).2.select =
    if op.req.isSELECTWrite then op.data else t.select := by
  unfold answer
  split
  · next read =>
      unfold Target.read
      split <;> simp [Request.isSELECTWrite, read]
  · next write =>
      have write : op.req.read = false := by simpa using write
      obtain ⟨ap, result⟩ | ⟨_, ap, addr, result⟩ | ⟨ap, addr, result⟩ | ⟨ap, addr, result⟩ |
          ⟨ap, zero, four, eight, result⟩ := t.write_cases op.req op.data <;> rw [result]
      · simp [Request.isSELECTWrite, ap]
      · simp [Request.isSELECTWrite, ap, write, addr]
      · simp [Request.isSELECTWrite, ap, write, addr]
      · simp [Request.isSELECTWrite, ap, write, addr]
      · simp [Request.isSELECTWrite, ap, write, eight]

end Machine

/-! ## The tracked bank -/

/-- A valid bank is the selected one. Nothing a clear target does can be pending. -/
def Points (c : Conn) (t : Target) : Prop := c.bank.valid = true → t.dpBank = c.bank.bank

theorem Tracked.points {t : Target} (tracked : Tracked c t) (clear : Target.Clear t) :
    Points c t := by
  intro valid
  cases pending : c.selectPending with
  | false => exact tracked.settled valid pending
  | true =>
    obtain ⟨_, inEffect | ⟨set, _⟩⟩ := tracked.pending pending
    · exact inEffect
    · exact absurd (Target.writeDataError_sticky set) (by simp [clear.sticky])

section Bank

variable {world : PortWorld} {choice : FrameChoice} {c : Conn} {t : Target}

/-- The value read tells the connection nothing that the request did not. -/
theorem observe_answer (clear : Target.Clear t) (points : Points c t) (op : BatchOp) :
    c.observeTransfer op.req (answer world choice op t).1.value op.data none =
      c.observeTransfer op.req 0 op.data none := by
  have resolved : c.observePendingSelection op.req (answer world choice op t).1.value none =
      c.observePendingSelection op.req 0 none := by
    unfold Conn.observePendingSelection
    by_cases zero : isBankZeroCTRLSTATRead op.req c.bank c.priorBank = true
    · obtain ⟨⟨⟨⟨isRead, valid⟩, bank⟩, _⟩, _⟩ : (((op.req.isCTRLSTATRead = true ∧
          c.bank.valid = true) ∧ c.bank.bank = 0) ∧ c.priorBank.valid = true) ∧
          c.priorBank.bank = 0 := by simpa [isBankZeroCTRLSTATRead] using zero
      obtain ⟨⟨ap, read⟩, addr⟩ : (op.req.ap = false ∧ op.req.read = true) ∧
        op.req.addr = 0x04 := by
        simpa [Request.isCTRLSTATRead] using isRead
      have clean : (answer world choice op t).1.value.has writeDataError = false := by
        have shown : (answer world choice op t).1.value = t.readCTRLSTAT choice := by
          simp [answer, read, Target.read, ap, Target.readDP, addr, points valid, bank]
        rw [shown, Target.readCTRLSTAT_has t choice (by decide) (by decide)]
        by_contra set
        exact absurd (Target.writeDataError_sticky (by simpa using set)) (by simp [clear.sticky])
      simp [Conn.resolveBankZeroCTRLSTAT, clean]
    · simp only [zero, Bool.false_eq_true, if_false]
  unfold Conn.observeTransfer
  rw [resolved]

theorem Points.observe (points : Points c t) (op : BatchOp) :
    Points (c.observeTransfer op.req 0 op.data none) (answer world choice op t).2 := by
  have pending : Points (c.observePendingSelection op.req 0 none) t := by
    unfold Conn.observePendingSelection Conn.resolveBankZeroCTRLSTAT
    split_ifs
    all_goals first
      | exact points
      | exact fun valid =>
          absurd valid (by simp [Conn.invalidateBank, Conn.confirmBank, BankSelection.zero])
  have before : Points (if c.selectPending then c.observePendingSelection op.req 0 none
      else c) t := by
    split_ifs
    · exact pending
    · exact points
  unfold Conn.observeTransfer
  simp only [completeTransfer, Option.isNone_none, Bool.true_or, Bool.not_true, Bool.false_eq_true,
    if_false, Bool.and_true]
  unfold Points Target.dpBank
  rw [answer_select]
  by_cases select : op.req.isSELECTWrite = true
  · simp only [select, if_true]
    exact fun _ => rfl
  · simp only [select]
    exact before

end Bank

/-- A banked write passes only with a known bank, and in bank zero only if it
keeps ORUNDETECT. -/
theorem validateTransfer_keeps {req : Request} {value : Word}
    (banked : req.isBankedWrite = true) (valid : c.validateTransfer req value = none) :
    c.bank.valid = true ∧ (c.bank.bank = 0 → value.has 1 = (c.response == .overrun)) := by
  obtain ⟨⟨ap, write⟩, addr⟩ : (req.ap = false ∧ req.read = false) ∧ req.addr = 0x04 := by
    simpa [Request.isBankedWrite] using banked
  rw [Conn.validateTransfer, if_neg (by simp [ap, write, addr])] at valid
  split_ifs at valid with unknown owned
  obtain ⟨_, known⟩ : c.selectPending = false ∧ c.bank.valid = true := by simpa using unknown
  exact ⟨known, fun zero => by simpa [zero] using owned⟩

/-! ## One exchange -/

/-- The result that a frame answered with OK shows. -/
def Event.result (e : Event) : BatchResult := ⟨if e.req.read then e.value else 0, none⟩

/-- The reply behind a result of the sequential machine. -/
def replyOf (result : BatchResult) : Target.Reply := ⟨.ok, result.value, true⟩

section Exchange

variable {choice : FrameChoice} {ops : List BatchOp} {l : Link}

/-- The frames of an exchange that goes through. -/
structure Carried (time : Nat) (ops : List BatchOp) (results : List BatchResult)
    (events : List Event) : Prop where
  requests : events.map Event.op = ops
  shown : events.map Event.result = results
  seen : ∀ e ∈ events, e.seen = some .ok ∧ e.accepted = true ∧ e.time = time

theorem frames_carried {world : PortWorld} (accepts : choice.Accepts) (time : Nat) :
    ∀ (ops : List BatchOp) (index : Nat) {t : Target}, Target.Clear t →
      let served := Target.frames world (fun _ => choice) index (ops.map fun op =>
        (op.req, op.data)) t
      served.2 = (answerAll world choice ops t).2 ∧
        served.1.map (·.reply) = (answerAll world choice ops t).1.map replyOf ∧
        Carried time ops (answerAll world choice ops t).1
          ((ops.map fun op => (op.req, op.data)).zipWith
            (fun frame s => eventOf time frame.1 frame.2 s (some s.reply.ack) true) served.1)
  | [], _, _, _ => ⟨rfl, rfl, rfl, rfl, by simp⟩
  | op :: rest, index, t, clear => by
    have after : Target.Clear (answer world choice op t).2 := clear.answer op
    obtain ⟨target, replies, carried⟩ := frames_carried accepts time rest (index + 1) after
    simp only [List.map_cons, Target.frames, frame_of_clear accepts clear, answerAll]
    refine ⟨target, by simp [replies, replyOf], ?_, ?_, ?_⟩
    · simpa [eventOf, Event.op] using carried.requests
    · simp only [List.zipWith_cons_cons, List.map_cons, carried.shown]
      exact congrArg (· :: _) (answer_result op).symm
    · simpa [eventOf] using carried.seen

theorem exchangeFixed_answers (answers : l.env.Answers choice) (clear : Target.Clear l.target)
    (ops : List BatchOp) : ∃ l' events,
    exchangeFixed (ops.map fun op => (op.req, op.data)) l =
      (.ok ((answerAll l.env.world choice ops l.target).1.map replyOf), l') ∧
      l'.env = l.env ∧ l'.clock = l.clock + 1 ∧ l'.log = l.log ++ events ∧ l'.conn = l.conn ∧
      l'.target = (answerAll l.env.world choice ops l.target).2 ∧
      Carried l.clock ops (answerAll l.env.world choice ops l.target).1 events := by
  obtain ⟨target, replies, carried⟩ := frames_carried answers.accepts l.clock ops 0 clear
  have frames : (l.env.exchange l.clock).frames = fun _ => choice := funext (answers.frames l.clock)
  refine ⟨{ l.tick with
    target := (answerAll l.env.world choice ops l.target).2, log := l.log ++ _ },
    _, ?_, rfl, rfl, rfl, rfl, rfl, carried⟩
  simp only [exchangeFixed, answers.delivered, frames, target, replies]

/-- Every frame of a chunk confirms what the queue assumed. -/
theorem observeOverrunChunk_answers (world : PortWorld) (choice : FrameChoice) :
    ∀ (ops : List BatchOp) {l : Link} {t : Target}, Target.Clear t → Points l.conn t →
      ∃ frames : List Decoded,
        observeOverrunChunk ops ((answerAll world choice ops t).1.map replyOf) l =
          ((false, frames), { l with conn := shadowAfter l.conn ops }) ∧
        frames.map (·.result) = (answerAll world choice ops t).1 ∧
        ∀ frame ∈ frames, frame.decoded = none ∧ frame.result.err = none
  | [], _, _, _, _ => ⟨[], rfl, rfl, by simp⟩
  | op :: rest, l, t, clear, points => by
    have decoded : decodeFixedFrame (replyOf (answer world choice op t).1) op.req =
        ((answer world choice op t).1.value, none) := by
      unfold decodeFixedFrame replyOf answer
      cases op.req.read <;> rfl
    have after : Target.Clear (answer world choice op t).2 := clear.answer op
    obtain ⟨frames, observed, results, clean⟩ := observeOverrunChunk_answers world choice rest
      (l := { l with conn := l.conn.observeTransfer op.req 0 op.data none }) after
        (points.observe op)
    refine ⟨⟨⟨(answer world choice op t).1.value, none⟩, none, l.conn.stickyExempt op.req⟩ ::
      frames, ?_, ?_, ?_⟩
    · have same : l.conn.observeTransfer op.req (answer world choice op t).1.value op.data none =
          l.conn.observeTransfer op.req 0 op.data none := observe_answer clear points op
      have confirmed : (modifyConn (·.observeTransfer op.req (answer world choice op t).1.value
          op.data none) l).2 = { l with conn := l.conn.observeTransfer op.req 0 op.data none } := by
        simp only [modifyConn, same]
      have answered : isExactly none .swdWait = false := rfl
      simp only [answerAll, List.map_cons, observeOverrunChunk, decoded, run_get_bind, answered,
        Bool.false_and, Bool.not_false, if_true]
      rw [run_bind, run_bind, confirmed, observed]
      rfl
    · simp only [List.map_cons, results, answerAll]
      rw [answer_result op]
    · simpa using clean

theorem finishOverrunChunk_clean (start : Nat) (ops : List BatchOp) {frames : List Decoded}
    (clean : ∀ frame ∈ frames, frame.decoded = none ∧ frame.result.err = none) (l : Link) :
    finishOverrunChunk start ops frames false l = ((frames.map (·.result), none), l) := by
  have none (errs : List Sentinel) : firstFrameError frames errs = none := by
    refine List.findIdx?_eq_none_iff.mpr fun frame member => ?_
    simp [(clean frame member).1, isExactly]
  have quiet : chunkErrs start frames = [] := by
    refine List.filterMap_eq_nil_iff.mpr fun err member => ?_
    obtain ⟨i, bound, rfl⟩ := List.mem_mapIdx.mp member
    simp [(clean _ (List.getElem_mem bound)).2]
  simp [finishOverrunChunk, loseProtocol, checkAbandonedSuffix, clearPackedWAIT, none, quiet,
    run_bind, run_pure, run_get, joinErrs]

end Exchange

/-! ## Whole commits -/

/-- A run that carries a queue out, in exchanges of at most `frames` frames. -/
structure Served (choice : FrameChoice) (frames : Nat) (ops : List BatchOp) (l : Link)
    (results : List BatchResult) (l' : Link) (events : List Event) : Prop where
  env : l'.env = l.env
  log : l'.log = l.log ++ events
  conn : l'.conn = shadowAfter l.conn ops
  target : l'.target = (answerAll l.env.world choice ops l.target).2
  values : results = (answerAll l.env.world choice ops l.target).1
  requests : events.map Event.op = ops
  shown : events.map Event.result = results
  seen : ∀ e ∈ events, e.seen = some .ok ∧ e.accepted = true
  times : ∀ e ∈ events, l.clock ≤ e.time ∧ e.time < l'.clock
  ordered : events.Pairwise fun e e' => e.time ≤ e'.time
  sizes : ∀ time, (events.filter (·.time == time)).length ≤ frames
  clock : l.clock ≤ l'.clock

section Runs

variable {choice : FrameChoice} {frames : Nat} {ops : List BatchOp} {l l' : Link}

theorem Served.nil (l : Link) : Served choice frames [] l [] l [] where
  env := rfl
  log := by simp
  conn := rfl
  target := rfl
  values := rfl
  requests := rfl
  shown := rfl
  seen := by simp
  times := by simp
  ordered := .nil
  sizes := by simp
  clock := le_rfl

/-- Reading the clock before and after a run. -/
theorem Served.ticks {before after : Link}
    (served : Served choice frames ops l results l' events) (env : l.env = before.env)
    (log : l.log = before.log) (conn : l.conn = before.conn) (target : l.target = before.target)
    (clock : before.clock ≤ l.clock) (env' : after.env = l'.env) (log' : after.log = l'.log)
    (conn' : after.conn = l'.conn) (target' : after.target = l'.target)
    (clock' : l'.clock ≤ after.clock) : Served choice frames ops before results after events where
  env := by rw [env', served.env, env]
  log := by rw [log', served.log, log]
  conn := by rw [conn', served.conn, conn]
  target := by rw [target', served.target, env, target]
  values := by rw [served.values, env, target]
  requests := served.requests
  shown := served.shown
  seen := served.seen
  times e member := ⟨clock.trans (served.times e member).1,
    (served.times e member).2.trans_le clock'⟩
  ordered := served.ordered
  sizes := served.sizes
  clock := clock.trans (served.clock.trans clock')

theorem Served.append {second : List BatchOp} {l'' : Link} {later : List BatchResult}
    {more : List Event} (first : Served choice frames ops l results l' events)
    (next : Served choice frames second l' later l'' more) :
    Served choice frames (ops ++ second) l (results ++ later) l'' (events ++ more) where
  env := next.env.trans first.env
  log := by rw [next.log, first.log, List.append_assoc]
  conn := by rw [next.conn, first.conn, shadowAfter, shadowAfter, shadowAfter, List.foldl_append]
  target := by rw [next.target, first.target, first.env, answerAll_append]
  values := by rw [next.values, first.values, first.target, first.env, answerAll_append]
  requests := by rw [List.map_append, first.requests, next.requests]
  shown := by rw [List.map_append, first.shown, next.shown]
  seen e member := (List.mem_append.mp member).elim (first.seen e) (next.seen e)
  times e member := by
    rcases List.mem_append.mp member with member | member
    · exact ⟨(first.times e member).1, (first.times e member).2.trans_le next.clock⟩
    · exact ⟨first.clock.trans (next.times e member).1, (next.times e member).2⟩
  ordered := by
    refine List.pairwise_append.mpr ⟨first.ordered, next.ordered, fun e member e' later => ?_⟩
    exact ((first.times e member).2.trans_le (next.times e' later).1).le
  sizes time := by
    -- No instant belongs to both runs.
    rw [List.filter_append]
    by_cases before : time < l'.clock
    · have none : more.filter (·.time == time) = [] := by
        refine List.filter_eq_nil_iff.mpr fun e member => ?_
        have := (next.times e member).1
        simp only [beq_iff_eq]
        omega
      rw [none, List.append_nil]
      exact first.sizes time
    · have none : events.filter (·.time == time) = [] := by
        refine List.filter_eq_nil_iff.mpr fun e member => ?_
        have := (first.times e member).2
        simp only [beq_iff_eq]
        omega
      rw [none, List.nil_append]
      exact next.sizes time
  clock := first.clock.trans next.clock

/-- What a run needs: an answering wire, a clear target and a bank that is right. -/
structure Fit (choice : FrameChoice) (l : Link) : Prop where
  answers : l.env.Answers choice
  clear : Target.Clear l.target
  points : Points l.conn l.target

theorem Fit.served (fit : Fit choice l)
    (served : Served choice frames ops l results l' events) : Fit choice l' := by
  have machine : ∀ (ops : List BatchOp) {c : Conn} {t : Target}, Target.Clear t → Points c t →
      Target.Clear (answerAll l.env.world choice ops t).2 ∧
        Points (shadowAfter c ops) (answerAll l.env.world choice ops t).2 := by
    intro ops
    induction ops with
    | nil => exact fun clear points => ⟨clear, points⟩
    | cons op rest ih =>
      exact fun clear points => ih (clear.answer op) (points.observe op)
  obtain ⟨clear, points⟩ := machine ops fit.clear fit.points
  exact ⟨served.env ▸ fit.answers, served.target ▸ clear,
    by rw [served.target, served.conn]; exact points⟩

theorem ctxErr_alive (alive : l.clock < ctx.deadline) : ctxErr ctx l = (none, l.tick) := by
  simp [ctxErr, Ctx.err, Nat.not_le.mpr alive]

theorem completionError_alive (alive : l.clock < ctx.deadline) :
    completionError ctx none l = (none, l.tick) := by
  simp [completionError, run_bind, ctxErr_alive alive, run_pure]

theorem completionContext_alive (alive : l.clock < ctx.deadline)
    (timeout : l.conn.validateCompletion = none) : completionContext ctx l = (none, l.tick) := by
  rw [completionContext, run_bind, ctxErr_alive alive]
  exact congrArg (·, l.tick) timeout

/-- A run in any context that is live until it ends. -/
abbrev Lasts {α : Type} (program : Ctx → LinkM α) (l : Link) (value : α) (l' : Link) : Prop :=
  Logic.Lasts Link.clock Ctx.deadline program l value l'

/-- The packed run of one chunk. -/
theorem commitOverrunChunk_answers (frames : Nat) (fit : Fit choice l) (start : Nat)
    {ops : List BatchOp} (timeout : l.conn.validateCompletion = none)
    (few : ops.length ≤ frames) : ∃ results l' events,
    Lasts (commitOverrunChunk · start ops) l (results, none) l' ∧
      Served choice frames ops l results l' events ∧ l'.clock = l.clock + 3 := by
  obtain ⟨l₁, events, exchanged, env, clock, log, conn, target, carried⟩ :=
    exchangeFixed_answers (l := l.tick) fit.answers fit.clear ops
  obtain ⟨decoded, observed, results, clean⟩ := observeOverrunChunk_answers l.env.world choice ops
    (l := l₁) (t := l.target) fit.clear (conn ▸ fit.points)
  have ends : l₁.tick.clock = l.clock + 3 := by simp [Link.tick, clock]
  refine ⟨(answerAll l.env.world choice ops l.target).1,
    { l₁.tick with conn := shadowAfter l₁.conn ops }, events, ⟨?_, fun ctx alive => ?_⟩, ?_, ends⟩
  · simp only [ends]
    omega
  · simp only [ends] at alive
    have late : l₁.clock < ctx.deadline := by
      simp only [Link.tick] at ends
      omega
    rw [commitOverrunChunk, run_bind, completionContext_alive (by omega) timeout]
    simp only [run_bind]
    rw [exchanged]
    simp only [run_bind]
    rw [show observeOverrunChunk ops (List.map replyOf (answerAll l.tick.env.world choice ops
      l.tick.target).1) l₁ = _ from observed]
    simp only
    rw [finishOverrunChunk_clean start ops clean, results]
    simp only
    rw [completionError_alive (l := { l₁ with conn := shadowAfter l₁.conn ops }) late]
    rfl
  · have shadow : shadowAfter l₁.conn ops = shadowAfter l.conn ops := by rw [conn]; rfl
    exact {
      env := env
      log := log
      conn := shadow
      target := target
      values := rfl
      requests := carried.requests
      shown := carried.shown
      seen := fun e member => ⟨(carried.seen e member).1, (carried.seen e member).2.1⟩
      times := fun e member => by
        rw [(carried.seen e member).2.2]
        simp only [Link.tick, clock]
        omega
      ordered := List.pairwise_of_forall_mem_list fun e member e' member' => by
        rw [(carried.seen e member).2.2, (carried.seen e' member').2.2]
      sizes := fun time => by
        have length : events.length = ops.length := by rw [← carried.requests, List.length_map]
        exact (List.length_filter_le _ _).trans (length.trans_le few)
      clock := by
        simp only [Link.tick, clock]
        omega }

theorem shadowAfter_record (c : Conn) (ops : List BatchOp) :
    (shadowAfter c ops).record = c.record := by
  induction ops generalizing c with
  | nil => rfl
  | cons op rest ih =>
    exact (ih _).trans (observeTransfer_record _ _ _ _ _)

theorem shadowAfter_timeout (timeout : c.validateCompletion = none) (ops : List BatchOp) :
    (shadowAfter c ops).validateCompletion = none := by
  have same : (shadowAfter c ops).completionTimeout = c.completionTimeout :=
    congrArg (·.2.2.2.2.2) (shadowAfter_record c ops)
  simpa [Conn.validateCompletion, same] using timeout

/-- The packed run of a whole queue, chunk by chunk. -/
theorem commitOverrun_answers (fits : 0 < frames) :
    ∀ (turns start : Nat) {ops : List BatchOp} {l : Link}, ops.length ≤ turns → Fit choice l →
      Safe l.conn ops → l.conn.validateCompletion = none → ∃ results l' events,
        Lasts (commitOverrun · frames turns start ops) l (results, none) l' ∧
          Served choice frames ops l results l' events ∧ l'.clock ≤ l.clock + 4 * ops.length
  | 0, _, ops, l, few, _, _, _ => by
    obtain rfl := List.eq_nil_of_length_eq_zero (Nat.le_zero.mp few)
    exact ⟨[], l, [], .pure _ l, .nil l, le_rfl⟩
  | turns + 1, start, [], l, _, _, _, _ => ⟨[], l, [], .pure _ l, .nil l, le_rfl⟩
  | turns + 1, start, first :: rest, l, few, fit, safe, timeout => by
    have turned (ctx : Ctx) (now : l.clock < ctx.deadline) :
        commitOverrun ctx frames (turns + 1) start (first :: rest) l =
          let count := overrunChunkLength l.conn ((first :: rest).take frames)
          let chunk := commitOverrunChunk ctx start ((first :: rest).take count) l.tick
          let later := commitOverrun ctx frames turns (start + count) ((first :: rest).drop count)
            chunk.2
          if chunk.1.2.isSome then
            ((chunk.1.1 ++ resolveSuffix ((first :: rest).drop count), chunk.1.2), chunk.2)
          else ((chunk.1.1 ++ later.1.1, later.1.2), later.2) := by
      rw [commitOverrun_turn, ctxErr_alive now, safe.1]
    have nonempty : first :: rest ≠ [] := by simp
    generalize first :: rest = ops at *
    obtain ⟨positive, _⟩ := chunk_packed fits nonempty safe l.conn
    have bound := overrunChunkLength_le l.conn (ops.take frames)
    rw [List.length_take] at bound
    generalize overrunChunkLength l.conn (ops.take frames) = count at positive bound turned
    have taken : (ops.take count).length = count := by
      rw [List.length_take]
      omega
    have fit₀ : Fit choice l.tick := ⟨fit.answers, fit.clear, fit.points⟩
    obtain ⟨results, l₁, events, chunk, served, clock⟩ := commitOverrunChunk_answers frames fit₀
      start timeout (taken.trans_le (by omega))
    have served₁ : Served choice frames (ops.take count) l results l₁ events :=
      served.ticks rfl rfl rfl rfl (Nat.le_succ _) rfl rfl rfl rfl le_rfl
    have left : (ops.drop count).length = ops.length - count := List.length_drop
    simp only [Link.tick] at clock
    have shorter : (ops.drop count).length ≤ turns := by omega
    obtain ⟨later, l₂, more, run, next, bounded⟩ := commitOverrun_answers fits turns
      (start + count) shorter (fit.served served₁) (served₁.conn ▸ safe.drop count)
      (served₁.conn ▸ shadowAfter_timeout timeout _)
    have after := run.later
    refine ⟨results ++ later, l₂, events ++ more, ⟨by omega, fun ctx alive => ?_⟩, ?_, by omega⟩
    · rw [turned ctx (by omega)]
      simp only
      rw [chunk.run ctx (after.trans alive)]
      simp only [Option.isSome_none, Bool.false_eq_true, if_false]
      rw [run.run ctx alive]
    · have whole := served₁.append next
      rwa [List.take_append_drop] at whole

/-- A queue that `validate` lets through. -/
structure Valid (ops : List BatchOp) (l : Link) : Prop where
  addresses : ∀ op ∈ ops, newRequestErr op.req.addr = none
  ready : l.conn.state = .ready
  timeout : l.conn.validateCompletion = none
  safe : Safe l.conn ops

theorem shadowAfter_state (c : Conn) (ops : List BatchOp) :
    (shadowAfter c ops).state = c.state := by
  induction ops generalizing c with
  | nil => rfl
  | cons op rest ih =>
    exact (ih _).trans (observeTransfer_state _ _ _ _ _ rfl)

/-- After the front of a valid queue its rest is valid. -/
theorem Valid.rest {op : BatchOp} (valid : Valid (op :: ops) l)
    (conn : l'.conn = shadowAfter l.conn [op]) : Valid ops l' where
  addresses := fun later member => valid.addresses later (List.mem_cons_of_mem _ member)
  ready := by rw [conn, shadowAfter_state, valid.ready]
  timeout := by rw [conn, shadowAfter_timeout valid.timeout]
  safe := conn ▸ valid.safe.2

/-- Errors are joined to none only when there are none. -/
theorem all_none_iff {errs : List (Option Err)} :
    joinErrs (errs.filterMap id) = none ↔ ∀ err ∈ errs, err = none := by
  rw [joinErrs_eq_none, List.filterMap_eq_nil_iff]
  rfl

theorem requestErrs_none_iff (start : Nat) (ops : List BatchOp) :
    (∀ err ∈ requestErrs start ops, err = none) ↔ ∀ op ∈ ops, newRequestErr op.req.addr = none := by
  simp only [requestErrs, List.forall_mem_iff_forall_getElem, List.length_mapIdx,
    List.getElem_mapIdx, Option.map_eq_none_iff]

theorem shadowErrs_none_of_safe : ∀ {ops : List BatchOp} {shadow : Conn} (start : Nat),
    Safe shadow ops → ∀ err ∈ shadowErrs shadow start ops, err = none
  | [], _, _, _ => by simp [shadowErrs]
  | op :: rest, shadow, start, ⟨valid, later⟩ => by
    simp only [shadowErrs, valid, List.mem_cons, forall_eq_or_imp, true_and]
    exact shadowErrs_none_of_safe (start + 1) later

theorem validate_passed (passed : (validate ctx ops l).1.2 = none) : Valid ops l := by
  obtain ⟨ready, timeout, safe⟩ := (validate_spec ctx ops l).passed passed
  refine ⟨?_, ready, timeout, safe⟩
  rw [← requestErrs_none_iff 0, ← all_none_iff]
  unfold validate at passed
  cases joined : joinErrs ((requestErrs 0 ops).filterMap id) with
  | none => rfl
  | some err => simp only [joined, run_pure, reduceCtorEq] at passed

theorem Valid.passes (valid : Valid ops l) (ctx : Ctx) (alive : l.clock < ctx.deadline) :
    validate ctx ops l = ((shadowErrs l.conn 0 ops, none), l.tick) := by
  have requests : joinErrs ((requestErrs 0 ops).filterMap id) = none :=
    all_none_iff.mpr ((requestErrs_none_iff 0 ops).mpr valid.addresses)
  have shadows : joinErrs ((shadowErrs l.conn 0 ops).filterMap id) = none :=
    all_none_iff.mpr (shadowErrs_none_of_safe 0 valid.safe)
  have ready : ¬ l.conn.state ≠ .ready := not_not.mpr valid.ready
  have timeout : l.tick.conn.validateCompletion = none := valid.timeout
  simp only [validate, requests, run_get_bind, run_ite]
  rw [if_neg ready, run_bind, ctxErr_alive alive]
  simp only [run_get_bind, timeout]
  exact congrArg (fun err => ((shadowErrs l.conn 0 ops, err), l.tick)) shadows

/-! ### Simple responses -/

/-- The served header of an answered request. Its write data is still to come. -/
def headerServed (world : PortWorld) (choice : FrameChoice) (op : BatchOp) (t : Target) :
    Target.Served :=
  ⟨replyOf (answer world choice op t).1, t.select, op.req.read, op.req.read⟩

theorem exchangeHeader_answers (fit : Fit choice l) (op : BatchOp) : ∃ l',
    exchangeHeader op.req op.data l = (.ok (headerServed l.env.world choice op l.target), l') ∧
      l'.env = l.env ∧ l'.clock = l.clock + 1 ∧ l'.log = l.log ∧ l'.conn = l.conn ∧
      l'.target = if op.req.read then (answer l.env.world choice op l.target).2 else l.target := by
  have frames : (l.env.exchange l.clock).frames 0 = choice := fit.answers.frames _ _
  have accepts := fit.answers.accepts
  have frame : l.target.frame l.env.world choice op.req op.data = _ :=
    frame_of_clear accepts fit.clear op
  have header : l.target.header choice op.req =
      (⟨⟨.ok, 0, true⟩, l.target.select, false, false⟩, l.target) := by
    simp [Target.header, raised_of_accepts accepts, acknowledge_of_clear accepts fit.clear,
      Target.observeResponse]
  refine ⟨{ l.tick with
    target := if op.req.read then (answer l.env.world choice op l.target).2 else l.target },
    ?_, rfl, rfl, rfl, rfl, rfl⟩
  simp only [exchangeHeader, frames, frame, header, fit.answers.delivered, headerServed]
  cases read : op.req.read <;> simp [read, replyOf, answer]

theorem exchangeData_answers (answers : l.env.Answers choice) (op : BatchOp)
    (served : Target.Served) (ok : served.reply.ack = .ok)
    (reads : op.req.read = true → served.accepted = true) :
    ∃ l' e, exchangeData op.req op.data served l = (none, l') ∧
      l'.env = l.env ∧ l'.clock = l.clock + 1 ∧ l'.log = l.log ++ [e] ∧ l'.conn = l.conn ∧
      l'.target = (if op.req.read then l.target else l.target.write op.req op.data) ∧
      e.op = op ∧ e.value = served.reply.data ∧ e.seen = some .ok ∧ e.accepted = true ∧
      e.time = l.clock := by
  have frames : (l.env.exchange l.clock).frames 0 = choice := answers.frames _ _
  cases read : op.req.read with
  | true =>
    refine ⟨{ l.tick with log := l.log ++ [eventOf l.clock op.req op.data served (some .ok) true] },
      _, ?_, rfl, rfl, rfl, rfl, rfl, rfl, rfl, rfl, reads read, rfl⟩
    simp [exchangeData, read, answers.delivered, ok, Link.tick]
  | false =>
    refine ⟨{ l.tick with
      target := l.target.write op.req op.data
      log := l.log ++ [eventOf l.clock op.req op.data
        { served with accepted := true, effective := true } (some .ok) true] },
      _, ?_, rfl, rfl, rfl, rfl, rfl, rfl, rfl, rfl, rfl, rfl⟩
    simp [exchangeData, read, answers.delivered, ok, Link.tick, frames, answers.accepts.carried,
      Target.writePhase]

/-- The two exchanges of a simple response. -/
theorem transferSimple_answers (fit : Fit choice l) (op : BatchOp) : ∃ l' e,
    transferSimple op.req op.data l = (((answer l.env.world choice op l.target).1.value, none),
      l') ∧
      l'.env = l.env ∧ l'.clock = l.clock + 2 ∧ l'.log = l.log ++ [e] ∧ l'.conn = l.conn ∧
      l'.target = (answer l.env.world choice op l.target).2 ∧
      Carried (l.clock + 1) [op] [(answer l.env.world choice op l.target).1] [e] := by
  obtain ⟨l₁, first, env₁, clock₁, log₁, conn₁, target₁⟩ := exchangeHeader_answers fit op
  obtain ⟨l₂, e, second, env₂, clock₂, log₂, conn₂, target₂, request, value, seen, accepted,
    time⟩ :=
    exchangeData_answers (l := l₁) (env₁ ▸ fit.answers) op
      (headerServed l.env.world choice op l.target) rfl id
  have own : e.req = op.req := congrArg BatchOp.req request
  refine ⟨l₂, e, ?_, env₂.trans env₁, by omega, log₁ ▸ log₂, conn₂.trans conn₁, ?_, ?_⟩
  · have acknowledged : ackError (headerServed l.env.world choice op l.target).reply.ack = none :=
      rfl
    rw [transferSimple, run_bind, first]
    cases read : op.req.read with
    | true =>
      simp only [acknowledged, if_true, readData]
      rw [run_bind, second]
      rfl
    | false =>
      simp only [acknowledged, Bool.false_eq_true, if_false, writeData]
      rw [run_bind, second]
      simp [answer, read, run_pure]
  · rw [target₂, target₁]
    cases read : op.req.read <;> simp [answer, read]
  · refine ⟨by simp [request], ?_, by simp [seen, accepted, time, clock₁]⟩
    rw [answer_result op]
    simp [Event.result, value, own, headerServed, replyOf]

/-- A request in simple mode, with the bank tracked as if it had read zero. -/
theorem transfer_answers (fit : Fit choice l) {op : BatchOp} (ready : l.conn.state = .ready)
    (mode : l.conn.response = .simple) (valid : l.conn.validateTransfer op.req op.data = none)
    (timeout : l.conn.validateCompletion = none) (fits : 0 < frames) : ∃ l' e,
    transfer none op.req op.data l = (((answer l.env.world choice op l.target).1.value, none), l') ∧
      Served choice frames [op] l [(answer l.env.world choice op l.target).1] l' [e] ∧
      l'.clock = l.clock + 2 := by
  obtain ⟨l₁, e, run, env, clock, log, conn, target, carried⟩ := transferSimple_answers fit op
  have frame : transferFrame op.req op.data l =
      (((answer l.env.world choice op l.target).1.value, none), l₁) := by
    simp only [transferFrame, run_get_bind, mode, reduceCtorEq, if_false, run]
  have executed : executeFrame op.req op.data l =
      (((answer l.env.world choice op l.target).1.value, none), l₁) := by
    have simple : l₁.conn.response ≠ .overrun := by simp [conn, mode]
    rw [executeFrame, run_bind, frame]
    simp only [run_get_bind, run_ite]
    rw [if_pos (Or.inl simple), run_pure]
  have observed : l₁.conn.observeTransfer op.req (answer l.env.world choice op l.target).1.value
      op.data none = shadowAfter l.conn [op] := by
    rw [conn]
    exact observe_answer fit.clear fit.points op
  refine ⟨{ l₁ with conn := shadowAfter l.conn [op] }, e, ?_, ?_, clock⟩
  · unfold transfer
    simp only [run_get_bind, run_ite]
    rw [if_neg (by simp [ready])]
    simp only [run_get_bind, valid, timeout]
    rw [run_bind, executed]
    simp only [run_bind, modifyConn, observed]
    rfl
  · have early : (l.clock ≤ e.time ∧ e.time < l₁.clock) := by
      have := (carried.seen e (by simp)).2.2
      omega
    exact {
      env := env
      log := log
      conn := rfl
      target := target
      values := rfl
      requests := carried.requests
      shown := carried.shown
      seen := fun e member => ⟨(carried.seen e member).1, (carried.seen e member).2.1⟩
      times := fun e' member => by
        obtain rfl := List.mem_singleton.mp member
        exact early
      ordered := List.pairwise_singleton _ _
      sizes := fun time => (List.length_filter_le _ _).trans fits
      clock := by simp [clock] }

/-- The sequential run of a queue in simple mode. -/
theorem commitSequential_answers (fits : 0 < frames) :
    ∀ (index : Nat) {ops : List BatchOp} {l : Link}, Fit choice l → Valid ops l →
      l.conn.response = .simple → ∃ results l' events,
        Lasts (commitSequential · index ops) l (results, none) l' ∧
          Served choice frames ops l results l' events ∧ l'.clock ≤ l.clock + 4 * ops.length
  | _, [], l, _, _, _ => ⟨[], l, [], .pure _ l, .nil l, le_rfl⟩
  | index, op :: rest, l, fit, valid, mode => by
    have fit₀ : Fit choice l.tick := ⟨fit.answers, fit.clear, fit.points⟩
    obtain ⟨l₁, e, sent, served, clock⟩ :=
      transfer_answers fit₀ valid.ready mode valid.safe.1 valid.timeout fits
    have served₁ : Served choice frames [op] l [(answer l.env.world choice op l.target).1] l₁.tick
        [e] :=
      served.ticks rfl rfl rfl rfl (Nat.le_succ _) rfl rfl rfl rfl (Nat.le_succ _)
    simp only [Link.tick] at clock
    have mode₁ : l₁.tick.conn.response = .simple := by
      rw [served₁.conn, shadowAfter_response, mode]
    have clock₁ : l₁.tick.clock = l.clock + 4 := by rw [Link.tick, clock]
    obtain ⟨later, l₂, more, run, next, bounded⟩ := commitSequential_answers fits (index + 1)
      (fit.served served₁) (valid.rest served₁.conn) mode₁
    have after := run.later
    refine ⟨_, l₂, _, ⟨by omega, fun ctx alive => ?_⟩,
      served₁.append next, by rw [List.length_cons]; omega⟩
    have now : l.clock < ctx.deadline := by omega
    have still : l₁.clock < ctx.deadline := by omega
    have passes : l.tick.conn.validateTransfer op.req op.data = none := valid.safe.1
    have value : (⟨(answer l.env.world choice op l.target).1.value, none⟩ : BatchResult) =
        (answer l.env.world choice op l.target).1 := by rw [answer_result op]
    rw [commitSequential, run_bind, ctxErr_alive now]
    simp only [run_get_bind, passes]
    rw [run_bind, sent]
    simp only [completeTransfer, Option.isNone_none, Bool.true_or, if_true]
    rw [run_bind, ctxErr_alive still]
    simp only
    rw [run_bind, run.run ctx alive, ← value]
    rfl

/-! ### Both modes -/

/-- The frames that fit one `SWDIO` call, none when `transferLimit` refuses. -/
def Env.frameLimit (env : Env) : Nat :=
  match transferLimit env with
  | .ok limit => (limit / fixedFrameBits).toNat
  | .error _ => 0

theorem transferLimit_wide {env : Env} (wide : ∀ bits, env.maxTransferBits = some bits →
    54 ≤ bits) :
    ∃ limit, transferLimit env = .ok limit ∧ (limit / fixedFrameBits).toNat = env.frameLimit ∧
      0 < env.frameLimit ∧ ∀ bits, env.maxTransferBits = some bits →
        54 * (env.frameLimit : Int) ≤ bits := by
  unfold Env.frameLimit transferLimit
  cases known : env.maxTransferBits with
  | none => exact ⟨54, rfl, rfl, by decide, by simp⟩
  | some bits =>
    have enough := wide bits known
    have large : ¬ bits < fixedFrameBits := by simpa [fixedFrameBits] using enough
    simp only [large, if_false]
    refine ⟨_, rfl, rfl, ?_, ?_⟩
    · simp only [fixedFrameBits]
      omega
    · rintro _ ⟨⟩
      simp only [fixedFrameBits]
      omega

/-- A commit carries a valid queue out, whatever the response mode. -/
theorem commit_answers (fit : Fit choice l)
    (wide : ∀ bits, l.env.maxTransferBits = some bits → 54 ≤ bits) (valid : Valid ops l) :
    ∃ results l' events, Lasts (commit · ops) l (results, none) l' ∧
      Served choice l.env.frameLimit ops l results l' events ∧
        l'.clock ≤ l.clock + 1 + 4 * ops.length := by
  cases ops with
  | nil => exact ⟨[], l, [], .pure _ l, .nil l, by omega⟩
  | cons op rest =>
    generalize queue : op :: rest = ops at *
    have nonempty : ops ≠ [] := by simp [← queue]
    obtain ⟨limit, known, frames, fits, _⟩ := transferLimit_wide wide
    have fit₀ : Fit choice l.tick := ⟨fit.answers, fit.clear, fit.points⟩
    cases mode : l.conn.response with
    | simple =>
      obtain ⟨results, l', events, run, served, clock⟩ := commitSequential_answers fits 0 fit₀
        ⟨valid.addresses, valid.ready, valid.timeout, valid.safe⟩ mode
      have after : l.clock + 1 ≤ l'.clock := run.later
      refine ⟨results, l', events, ⟨by omega, fun ctx alive => ?_⟩,
        served.ticks rfl rfl rfl rfl (Nat.le_succ _) rfl rfl rfl rfl le_rfl, clock⟩
      simp only [commit, nonempty, if_false]
      rw [run_bind, valid.passes ctx (by omega)]
      simp only [Option.isSome_none, Bool.false_eq_true, if_false, run_get_bind, run_ite]
      rw [if_pos (show l.tick.conn.response = .simple from mode), run.run ctx alive]
    | overrun =>
      obtain ⟨results, l', events, run, served, clock⟩ := commitOverrun_answers fits ops.length 0
        le_rfl fit₀ valid.safe valid.timeout
      have after : l.clock + 1 ≤ l'.clock := run.later
      refine ⟨results, l', events, ⟨by omega, fun ctx alive => ?_⟩,
        served.ticks rfl rfl rfl rfl (Nat.le_succ _) rfl rfl rfl rfl le_rfl, clock⟩
      have packed : ¬ l.tick.conn.response = .simple := by simp [Link.tick, mode]
      have limited : transferLimit l.tick.env = .ok limit := known
      simp only [commit, nonempty, if_false]
      rw [run_bind, valid.passes ctx (by omega)]
      simp only [Option.isSome_none, Bool.false_eq_true, if_false, run_get_bind, run_ite]
      rw [if_neg packed, limited]
      simp only [frames, run.run ctx alive]

end Runs

/-- Each operation of a queue in a batch of its own. -/
def commitEach (ctx : Ctx) : List BatchOp → LinkM (List BatchResult × Option Err)
  | [] => return ([], none)
  | op :: rest => do
    let (results, err) ← commit ctx [op]
    let (later, laterErr) ← commitEach ctx rest
    return (results ++ later, Err.joined err laterErr)

theorem commitEach_answers {choice : FrameChoice} : ∀ {ops : List BatchOp} {l : Link},
    Fit choice l → (∀ bits, l.env.maxTransferBits = some bits → 54 ≤ bits) → Valid ops l →
    ∃ results l' events, Lasts (commitEach · ops) l (results, none) l' ∧
      Served choice l.env.frameLimit ops l results l' events ∧ l'.clock ≤ l.clock + 5 * ops.length
  | [], l, _, _, _ => ⟨[], l, [], .pure _ l, .nil l, le_rfl⟩
  | op :: rest, l, fit, wide, valid => by
    have single : Valid [op] l :=
      ⟨by simpa using valid.addresses op List.mem_cons_self, valid.ready, valid.timeout,
        valid.safe.1, trivial⟩
    obtain ⟨results, l₁, events, own, served, clock⟩ :=
      commit_answers fit wide single
    rw [List.length_singleton] at clock
    obtain ⟨later, l₂, more, run, next, bounded⟩ := commitEach_answers (fit.served served)
      (served.env ▸ wide) (valid.rest served.conn)
    rw [served.env] at next
    refine ⟨_, l₂, _, own.bind (run.bind (.pure _ _)), served.append next, ?_⟩
    rw [List.length_cons]
    omega

end Swd

end Ostiole
