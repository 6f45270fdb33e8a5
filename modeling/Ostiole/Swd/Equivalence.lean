import Ostiole.Swd.Packing

/-!
# What packing and the response mode change

Two comparisons rest on the sequential machine. The frames of one `SWDIO` call
are clocked and decoded as if each were alone. A target with ORUNDETECT clear
answers like one with it set, but for that bit of CTRL/STAT.
-/

namespace Ostiole

/-- The same target with ORUNDETECT clear. -/
def Target.withoutOverrun (t : Target) : Target :=
  { t with ctrlStat := t.ctrlStat &&& ~~~overrunDetect }

namespace Swd

open Logic

/-! ## ORUNDETECT -/

/-- A result as a target without ORUNDETECT shows it. -/
def hideOverrun (select : Word) (op : BatchOp) (result : BatchResult) : BatchResult :=
  if op.req.isCTRLSTATRead = true ∧ select.setWidth 4 = 0#4 then
    { result with value := result.value &&& ~~~overrunDetect }
  else result

/-- The results of a queue that starts with this value of SELECT. -/
def hideOverruns : Word → List BatchOp → List BatchResult → List BatchResult
  | select, op :: ops, result :: results =>
    hideOverrun select op result ::
      hideOverruns (if op.req.isSELECTWrite then op.data else select) ops results
  | _, _, _ => []

section Overrun

variable {world : PortWorld} {choice : FrameChoice} {t : Target}

theorem withoutOverrun_has (t : Target) {mask : Word}
    (disjoint : ~~~overrunDetect &&& mask = mask) :
    t.withoutOverrun.ctrlStat.has mask = t.ctrlStat.has mask := by
  rw [Target.withoutOverrun, Word.has_and, disjoint]

theorem withoutOverrun_readCTRLSTAT (t : Target) (choice : FrameChoice) :
    t.withoutOverrun.readCTRLSTAT choice = t.readCTRLSTAT choice &&& ~~~overrunDetect := by
  have acks (shown : Word) :
      (t.ctrlStat &&& ~~~overrunDetect &&& ~~~powerAckFlags) ||| (shown &&& powerAckFlags) =
        ((t.ctrlStat &&& ~~~powerAckFlags) ||| (shown &&& powerAckFlags)) &&& ~~~overrunDetect := by
    have visible : powerAckFlags &&& ~~~overrunDetect = powerAckFlags := by decide
    rw [BitVec.and_or_distrib_right, BitVec.and_assoc shown, visible, BitVec.and_assoc,
      BitVec.and_comm (~~~overrunDetect), ← BitVec.and_assoc]
  unfold Target.readCTRLSTAT
  rw [withoutOverrun_has t (by decide), withoutOverrun_has t (by decide)]
  exact acks _

theorem withoutOverrun_abort (t : Target) (value : Word) :
    t.withoutOverrun.abort value = (t.abort value).withoutOverrun := by
  simp only [Target.abort, Target.withoutOverrun, BitVec.and_assoc,
    BitVec.and_comm (~~~overrunDetect)]

theorem withoutOverrun_readDP (t : Target) (choice : FrameChoice) (addr : BitVec 8) :
    t.withoutOverrun.readDP choice addr =
      if addr = 0x04 ∧ t.dpBank = 0 then t.readDP choice addr &&& ~~~overrunDetect
      else t.readDP choice addr := by
  have bank : t.withoutOverrun.dpBank = t.dpBank := rfl
  have version : t.withoutOverrun.version = t.version := rfl
  unfold Target.readDP
  rw [bank, version, withoutOverrun_readCTRLSTAT]
  by_cases four : addr = 0x04
  · by_cases zero : t.dpBank = 0
    · simp [four, zero]
    · simp only [four, zero, and_false, if_false]
      rfl
  · simp only [four, false_and, if_false]
    rfl

theorem withoutOverrun_write (t : Target) {req : Request} (value : Word) (write : req.read = false)
    (elsewhere : req.isBankedWrite = true → t.dpBank ≠ 0) :
    t.withoutOverrun.write req value = (t.write req value).withoutOverrun := by
  have banked (nonzero : t.dpBank ≠ 0) :
      t.withoutOverrun.writeBanked value = (t.writeBanked value).withoutOverrun := by
    have bank : t.withoutOverrun.dpBank = t.dpBank := rfl
    have version : t.withoutOverrun.version = t.version := rfl
    unfold Target.writeBanked
    rw [bank, version, if_neg nonzero, if_neg nonzero]
    split_ifs <;> rfl
  unfold Target.write
  split_ifs with ap zero four eight
  · rfl
  · exact withoutOverrun_abort t value
  · exact banked (elsewhere (by simp [Request.isBankedWrite, ap, write, four]))
  · rfl
  · rfl

/-- Without a bank-zero write, ORUNDETECT is seen in CTRL/STAT alone. -/
theorem answer_withoutOverrun (op : BatchOp) (elsewhere : op.req.isBankedWrite = true →
    t.dpBank ≠ 0) :
    answer world choice op t.withoutOverrun =
      (hideOverrun t.select op (answer world choice op t).1,
        (answer world choice op t).2.withoutOverrun) := by
  unfold answer hideOverrun
  cases read : op.req.read with
  | true =>
    cases ap : op.req.ap with
    | true =>
      simp only [Target.read, ap, Request.isCTRLSTATRead, if_true, Bool.not_true, Bool.false_and,
        Bool.false_eq_true, false_and, if_false]
      rfl
    | false =>
      have bank : (t.select.setWidth 4 = 0#4) = (t.dpBank = 0) := rfl
      simp only [Target.read, ap, Request.isCTRLSTATRead, withoutOverrun_readDP, bank, read,
        Bool.not_false, Bool.and_true, Bool.true_and, beq_iff_eq, if_true, Bool.false_eq_true,
          if_false]
      split_ifs <;> rfl
  | false =>
    have other : op.req.isCTRLSTATRead = false := by simp [Request.isCTRLSTATRead, read]
    simp only [Bool.false_eq_true, if_false, other, false_and,
      withoutOverrun_write t op.data read elsewhere]

end Overrun

/-- The same connection, expecting simple responses. -/
def Conn.asSimple (c : Conn) : Conn := { c with response := .simple }

theorem asSimple_observeTransfer (c : Conn) (req : Request) (result data : Word) :
    c.asSimple.observeTransfer req result data none =
      (c.observeTransfer req result data none).asSimple := by
  unfold Conn.observeTransfer Conn.observePendingSelection Conn.resolveBankZeroCTRLSTAT
    Conn.asSimple
  simp only [completeTransfer, Option.isNone_none, Bool.true_or, Bool.not_true, Bool.false_eq_true,
    if_false, Bool.and_true, Option.isSome_none, if_true]
  split_ifs <;> rfl

/-- A write which both modes accept does not reach CTRL/STAT. -/
theorem validateTransfer_elsewhere {c : Conn} {t : Target} (points : Points c t)
    (mode : c.response = .overrun) {op : BatchOp}
    (packed : c.validateTransfer op.req op.data = none)
    (simple : c.asSimple.validateTransfer op.req op.data = none)
    (banked : op.req.isBankedWrite = true) : t.dpBank ≠ 0 := by
  obtain ⟨valid, set⟩ := validateTransfer_keeps banked packed
  obtain ⟨_, clear⟩ := validateTransfer_keeps banked simple
  intro zero
  have bank : c.bank.bank = 0 := (points valid).symm.trans zero
  -- The two modes ask for opposite values of the same bit.
  have opposite : (c.response == .overrun) = (ResponseMode.simple == .overrun) :=
    (set bank).symm.trans (clear bank)
  rw [mode] at opposite
  exact absurd opposite (by decide)

theorem answerAll_withoutOverrun {world : PortWorld} {choice : FrameChoice} :
    ∀ {ops : List BatchOp} {c : Conn} {t : Target}, Points c t → c.response = .overrun →
      Safe c ops → Safe c.asSimple ops →
      answerAll world choice ops t.withoutOverrun =
        (hideOverruns t.select ops (answerAll world choice ops t).1,
          (answerAll world choice ops t).2.withoutOverrun)
  | [], _, _, _, _, _, _ => rfl
  | op :: rest, c, t, points, mode, ⟨packed, packedRest⟩, ⟨simple, simpleRest⟩ => by
    rw [asSimple_observeTransfer] at simpleRest
    have here : answer world choice op t.withoutOverrun = _ :=
      answer_withoutOverrun op (validateTransfer_elsewhere points mode packed simple)
    have later : answerAll world choice rest (answer world choice op t).2.withoutOverrun = _ :=
      answerAll_withoutOverrun (points.observe op)
        ((observeTransfer_response _ _ _ _ _).trans mode) packedRest simpleRest
    simp only [answerAll, here, later, hideOverruns, answer_select]

/-! ## The clocks of one call -/

/-- The clocks of one call into a target, and the levels they return. -/
def clockCall (world : PortWorld) (choice : FrameChoice) (echo : Nat → Nat → Bool)
    (pattern : BitVec 3) (call : List Event) (t : Target) : List Bool × Target :=
  Wire.clockFrames world (fun _ => choice) echo pattern 0 call.length
    (call.flatMap fun e => Wire.fixedFrame e.req e.data) t

/-- A call within the wire's limit whose levels decode, frame by frame at the
frame's own offset, to the result of each operation. -/
structure CallClocked (env : Env) (choice : FrameChoice) (t : Target) (call : List Event) :
    Prop where
  fits : ∀ bits, env.maxTransferBits = some bits →
    ((call.flatMap fun e => Wire.fixedFrame e.req e.data).length : Int) ≤ bits
  target : ∀ echo pattern, Wire.ackOf pattern = .undefined →
    (clockCall env.world choice echo pattern call t).2 =
      (answerAll env.world choice (call.map Event.op) t).2
  decoded : ∀ echo pattern, Wire.ackOf pattern = .undefined → ∀ (i : Nat) (e : Event),
    call[i]? = some e →
    Wire.decodeFixedFrame (clockCall env.world choice echo pattern call t).1 (54 * i) e.req =
      (e.result.value, none)

section Calls

variable {choice : FrameChoice} {frames : Nat} {ops : List BatchOp} {results : List BatchResult}
  {l l' : Link} {events : List Event}

/-- Events in the order of time, cut at one instant. -/
theorem ordered_cut (time : Nat) : ∀ {events : List Event},
    events.Pairwise (fun e e' => e.time ≤ e'.time) →
    events = events.filter (·.time < time) ++
      (events.filter (·.time == time) ++ events.filter (time < ·.time))
  | [], _ => rfl
  | e :: rest, ordered => by
    obtain ⟨first, later⟩ := List.pairwise_cons.mp ordered
    have ih := ordered_cut time later
    have none (p : Event → Bool) (out : ∀ e' ∈ rest, p e' = false) : rest.filter p = [] :=
      List.filter_eq_nil_iff.mpr fun e' member => by simp [out e' member]
    rcases Nat.lt_trichotomy e.time time with before | now | after
    · simpa [before, before.ne, before.le, Nat.not_lt.mpr before.le] using ih
    · have early := none (·.time < time) fun e' member => by
        have := first e' member
        simp only [decide_eq_false_iff_not]
        omega
      rw [early] at ih
      simpa [now, early] using ih
    · have early := none (·.time < time) fun e' member => by
        have := first e' member
        simp only [decide_eq_false_iff_not]
        omega
      have same := none (·.time == time) fun e' member => by
        have := first e' member
        simp only [beq_eq_false_iff_ne]
        omega
      rw [early, same] at ih
      simpa [after, after.ne', Nat.not_lt.mpr after.le, early, same] using ih

/-- The state in which a call finds the target. -/
def targetBefore (world : PortWorld) (choice : FrameChoice) (time : Nat) (events : List Event)
    (t : Target) : Target :=
  (answerAll world choice ((events.filter (·.time < time)).map Event.op) t).2

theorem Target.Clear.answerAll {world : PortWorld} : ∀ (ops : List BatchOp) {t : Target},
    Target.Clear t → Target.Clear (answerAll world choice ops t).2
  | [], _, clear => clear
  | op :: rest, _, clear => Target.Clear.answerAll rest (clear.answer op)

/-- A call shows what the machine answers from the state it finds. -/
theorem Served.call (served : Served choice frames ops l results l' events) (time : Nat) :
    (events.filter (·.time == time)).map Event.result =
      (answerAll l.env.world choice ((events.filter (·.time == time)).map Event.op)
        (targetBefore l.env.world choice time events l.target)).1 := by
  have cut := ordered_cut time served.ordered
  have shown : events.map Event.result =
      (answerAll l.env.world choice (events.map Event.op) l.target).1 := by
    rw [served.requests, served.shown, served.values]
  unfold targetBefore
  generalize events.filter (·.time < time) = before at cut ⊢
  generalize events.filter (·.time == time) = call at cut ⊢
  rw [cut] at shown
  simp only [List.map_append, answerAll_append] at shown
  obtain ⟨_, later⟩ := List.append_inj shown (by rw [length_answerAll]; simp)
  exact (List.append_inj later (by rw [length_answerAll]; simp)).1

theorem decodeFixedFrame_result (e : Event) :
    decodeFixedFrame (replyOf e.result) e.req = (e.result.value, none) := by
  unfold decodeFixedFrame replyOf Event.result
  cases e.req.read <;> rfl

theorem clockCall_frames {world : PortWorld} {t : Target} {call : List Event}
    (addressed : ∀ e ∈ call, Wire.Addressed e.req) (echo : Nat → Nat → Bool) {pattern : BitVec 3}
    (undefined : Wire.ackOf pattern = .undefined) :
    let served := Target.frames world (fun _ => choice) 0 (call.map fun e => (e.req, e.data)) t
    (clockCall world choice echo pattern call t).2 = served.2 ∧
      ∀ (i : Nat) (e : Event) (frame : Target.Served), call[i]? = some e →
        served.1[i]? = some frame →
        Wire.decodeFixedFrame (clockCall world choice echo pattern call t).1 (54 * i) e.req =
          decodeFixedFrame frame.reply e.req := by
  have own : ∀ frame ∈ call.map (fun e => (e.req, e.data)), Wire.Addressed frame.1 := by
    simpa using addressed
  obtain ⟨target, decoded⟩ := Wire.clockFrames_spec world (fun _ => choice) echo undefined own t
  rw [List.length_map, List.flatMap_map] at target decoded
  refine ⟨target, fun i e frame here served => ?_⟩
  exact decoded i (e.req, e.data) frame (by simp [here]) served

/-- Clocking a call gives every operation the answer of the machine. -/
theorem callClocked {env : Env} {t : Target} {call : List Event} (accepts : choice.Accepts)
    (clear : Target.Clear t) (addressed : ∀ e ∈ call, Wire.Addressed e.req)
    (shown : call.map Event.result = (answerAll env.world choice (call.map Event.op) t).1)
    (fits : ∀ bits, env.maxTransferBits = some bits → 54 * (call.length : Int) ≤ bits) :
    CallClocked env choice t call := by
  have same : (call.map fun e => (e.req, e.data)) =
      (call.map Event.op).map fun op => (op.req, op.data) := by simp [Event.op]
  obtain ⟨target, replies, _⟩ :
      (Target.frames env.world (fun _ => choice) 0 _ t).2 = _ ∧ _ ∧ _ :=
    frames_carried accepts 0 (call.map Event.op) 0 clear
  rw [← same] at target replies
  refine ⟨fun bits known => ?_, fun echo pattern undefined => ?_,
    fun echo pattern undefined i e here => ?_⟩
  · have clocks : (call.flatMap fun e => Wire.fixedFrame e.req e.data).length =
        54 * call.length := by
      simp [List.length_flatMap, Wire.length_fixedFrame, Nat.mul_comm]
    rw [clocks]
    exact_mod_cast fits bits known
  · rw [(clockCall_frames addressed echo undefined).1, target]
  · -- The frame's reply is the one behind the event's result.
    have reply := congrArg (·[i]?) replies
    simp only [← shown, List.getElem?_map, here, Option.map_some] at reply
    obtain ⟨frame, served, replied⟩ := Option.map_eq_some_iff.mp reply
    rw [(clockCall_frames addressed echo undefined).2 i e frame here served, replied,
      decodeFixedFrame_result]

theorem Served.clocked (served : Served choice frames ops l results l' events) (fit : Fit choice l)
    (addresses : ∀ op ∈ ops, newRequestErr op.req.addr = none)
    (limited : ∀ bits, l.env.maxTransferBits = some bits → 54 * (frames : Int) ≤ bits)
    (time : Nat) :
    CallClocked l.env choice (targetBefore l.env.world choice time events l.target)
      (events.filter (·.time == time)) := by
  refine callClocked fit.answers.accepts (fit.clear.answerAll _)
    (fun e member => ?_) (served.call time)
    fun bits known => ?_
  · have own := addresses e.op (served.requests ▸ List.mem_map_of_mem
      (List.mem_of_mem_filter member))
    unfold newRequestErr at own
    split_ifs at own with known
    exact known
  · have few := served.sizes time
    have := limited bits known
    omega

end Calls

/-! ## The comparison -/

/-- The link as simple responses find it: another mode and ORUNDETECT clear. -/
def Link.asSimple (l : Link) : Link :=
  { l with conn := l.conn.asSimple, target := l.target.withoutOverrun }

/-- Packing does not show. On a target that answers every request, a packed
commit, a commit for each operation and simple responses give the same results,
ORUNDETECT as read from CTRL/STAT excepted. The packed commit clocks one frame
for each operation, in calls within the limit. -/
theorem commit_unpacked {choice : FrameChoice} {l : Link} {ops : List BatchOp} {ctx : Ctx}
    (answers : l.env.Answers choice) (clear : Target.Clear l.target)
    (tracked : Tracked l.conn l.target) (mode : l.conn.response = .overrun)
    (wide : ∀ bits, l.env.maxTransferBits = some bits → 54 ≤ bits)
    (valid : (validate ctx ops l).1.2 = none)
    (alive : l.clock + 5 * ops.length < ctx.deadline) :
    let packed := commit ctx ops l
    let each := commitEach ctx ops l
    packed.1.2 = none ∧ packed.1 = each.1 ∧ packed.2.target = each.2.target ∧
      packed.2.conn = each.2.conn ∧
      (∃ events, packed.2.log = l.log ++ events ∧ events.length = ops.length ∧
        events.map Event.op = ops ∧ events.map Event.result = packed.1.1 ∧
        ∀ time, CallClocked l.env choice (targetBefore l.env.world choice time events l.target)
          (events.filter (·.time == time))) ∧
      ((validate ctx ops l.asSimple).1.2 = none →
        (commit ctx ops { l with conn := l.conn.asSimple }).1 = packed.1 ∧
        (commit ctx ops l.asSimple).1 = (hideOverruns l.target.select ops packed.1.1, none)) := by
  have fit : Fit choice l := ⟨answers, clear, tracked.points clear⟩
  have fitting := validate_passed valid
  obtain ⟨_, _, _, _, limited⟩ := transferLimit_wide wide
  obtain ⟨results, l₁, events, packedRun, packed, bound⟩ := commit_answers fit wide fitting
  obtain ⟨alone, l₂, _, eachRun, each, eachBound⟩ := commitEach_answers fit wide fitting
  intro packed' each'
  rw [show packed' = _ from packedRun.run ctx (by omega),
    show each' = _ from eachRun.run ctx (by omega)]
  refine ⟨rfl, ?_, ?_, ?_, ⟨events, packed.log, ?_, packed.requests, packed.shown,
    packed.clocked fit fitting.addresses limited⟩, fun simple => ?_⟩
  · rw [packed.values, each.values]
  · exact packed.target.trans each.target.symm
  · exact packed.conn.trans each.conn.symm
  · rw [← packed.requests, List.length_map]
  · have validSimple := validate_passed simple
    have points : Points l.conn.asSimple l.target := fit.points
    obtain ⟨framed, _, _, framedRun, same, framedBound⟩ := commit_answers
      (l := { l with conn := l.conn.asSimple }) ⟨answers, clear, points⟩ wide
      ⟨validSimple.addresses, validSimple.ready, validSimple.timeout, validSimple.safe⟩
    have clear' : Target.Clear l.target.withoutOverrun :=
      ⟨(withoutOverrun_has l.target (by decide)).trans clear.sticky, clear.unlocked⟩
    obtain ⟨shown, _, _, simpleRun, served, simpleBound⟩ := commit_answers (l := l.asSimple)
      ⟨answers, clear', points⟩ wide validSimple
    change _ ≤ l.clock + 1 + _ at framedBound simpleBound
    have machine : answerAll l.env.world choice ops l.target.withoutOverrun = _ :=
      answerAll_withoutOverrun fit.points mode fitting.safe validSimple.safe
    rw [framedRun.run ctx (by omega), simpleRun.run ctx (by omega)]
    refine ⟨?_, ?_⟩
    · rw [same.values, packed.values]
    · have values : shown = _ := served.values.trans (congrArg Prod.fst machine)
      rw [values, packed.values]

/-- A connection ready in overrun mode on a wire that never refuses. -/
private def packedLink : Link where
  env := Env.quiet
  clock := 0
  target := { resetTarget with ctrlStat := overrunDetect }
  log := []
  conn := { Conn.new 1 with response := .overrun, state := .ready, bank := ⟨0, true⟩ }

/-- A queue longer than one call, across a change of bank and an ABORT. -/
private def mixedQueue : List BatchOp :=
  [⟨⟨false, true, 0x04, none⟩, 0⟩, ⟨⟨true, true, 0x0c, none⟩, 0⟩, ⟨⟨false, false, 0x08, none⟩, 1⟩,
    ⟨⟨false, true, 0x0c, none⟩, 0⟩, ⟨⟨false, true, 0x04, none⟩, 0⟩, ⟨⟨false, false, 0x00, none⟩, 4⟩]

/-- The mixed queue returns the same in packed calls and one request a call, and in simple
mode but for the ORUNDETECT bits it reads. -/
theorem commit_unpacked_mixedQueue :
    let packed := commit ⟨1000, .canceled⟩ mixedQueue packedLink
    packed.1 = (commitEach ⟨1000, .canceled⟩ mixedQueue packedLink).1 ∧
      (commit ⟨1000, .canceled⟩ mixedQueue packedLink.asSimple).1 =
        (hideOverruns 0 mixedQueue packed.1.1, none) := by
  have quiet : packedLink.env.Answers FrameChoice.quiet :=
    ⟨fun _ => rfl, fun _ _ => rfl, rfl, rfl, rfl, rfl⟩
  have tracked : Tracked packedLink.conn packedLink.target := ⟨fun _ _ => by decide, by decide⟩
  have valid : (validate ⟨1000, .canceled⟩ mixedQueue packedLink).1.2 = none := by decide +kernel
  have compared := commit_unpacked quiet ⟨by decide, by decide⟩ tracked rfl (by decide) valid
    (by decide)
  exact ⟨compared.2.1, (compared.2.2.2.2.2 (by decide +kernel)).2⟩

/-- A queue that reads CTRL/STAT. -/
private def statusQueue : List BatchOp := [⟨⟨false, true, 0x04, none⟩, 0⟩]

/-- Two targets that differ in whether they implement overrun detection, each
connected: the same queue shows the mode the connection chose. -/
theorem commit_showsOverrun :
    let ctx : Ctx := ⟨1000, .canceled⟩
    let packed := (connect ctx 1 freshLink).2
    let simple := (connect ctx 1
      { freshLink with target := { resetTarget with overrunImplemented := false } }).2
    packed.conn.response = .overrun ∧ simple.conn.response = .simple ∧
      (commit ctx statusQueue packed).1 = ([⟨1, none⟩], none) ∧
      (commit ctx statusQueue simple).1 = ([⟨0, none⟩], none) := by
  decide +kernel

end Swd

end Ostiole
