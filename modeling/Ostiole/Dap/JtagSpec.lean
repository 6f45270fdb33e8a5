import Ostiole.Dap.Jtag
import Ostiole.Logic.Program

/-!
# The JTAG pipeline

A scan shows the result of the request accepted before it and, unless the
acknowledgement is WAIT, hands its own request over. `jtagTransfer` shifts its
request until it is accepted and then RDBUFF until the result shows. The outcome
it reports is read off the scans of those two polls.
-/

namespace Ostiole.Dap

open Ostiole Logic

variable {err : Err} {framing : ResponseState}

/-- The identity of the request a scan carries. -/
def Scan.id (e : Scan) : Option Nat := e.req.tag.map (·.id)

/-- Whether a scan shifts this request with this data, whatever its identity. -/
def Scan.carries (e : Scan) (req : Request) (data : Word) : Bool :=
  e.req.ap == req.ap && e.req.read == req.read && e.req.addr == req.addr && e.data == data

theorem Scan.carries_stamp {e : Scan} {req : Request} {data : Word} {w : World}
    (request : e.req = (stamp req w).1 ∧ e.data = data) : e.carries req data = true := by
  simp [Scan.carries, request, stamp]

/-- A read of RDBUFF, under the identity of the poll it belongs to. -/
structure Scan.Completes (id : Nat) (e : Scan) : Prop where
  identity : e.id = some id
  reads : e.carries (dpTransferRequest .rdbuff true) 0 = true

/-- WAIT: the request of this scan was discarded. -/
structure Scan.Discarded (e : Scan) : Prop where
  seen : e.seen = some 1
  dropped : e.accepted = false

/-- OK or FAULT: the request of this scan was taken. -/
structure Scan.Taken (e : Scan) : Prop where
  seen : e.seen = some 2
  accepted : e.accepted = true

/-- A scan that failed, or an acknowledgement that is not defined. -/
def Scan.broken (e : Scan) : Bool :=
  match e.seen with
  | none => true
  | some ack => ack != 1 && ack != 2

theorem Scan.Discarded.sound {e : Scan} (discarded : e.Discarded) : e.broken = false := by
  simp [Scan.broken, discarded.seen]

theorem Scan.Taken.sound {e : Scan} (taken : e.Taken) : e.broken = false := by
  simp [Scan.broken, taken.seen]

/-! ## Polls -/

/-- The scans of one poll, and the outcome they explain. -/
inductive Polled (w : World) : List Scan → Swd.Result → World → Prop
  /-- Taken at last; the value shown is the result that was waiting. -/
  | taken {waits : List Scan} {last : Scan} {w' : World} (discarded : ∀ e ∈ waits, e.Discarded)
      (taken : last.Taken) (left : w'.chain.target.result = last.result) (port : w'.dp = w.dp) :
      Polled w (waits ++ [last]) (w.chain.target.result, none) w'
  /-- Given up while the pipeline was busy. -/
  | stopped {waits : List Scan} {err : Err} {w' : World} (discarded : ∀ e ∈ waits, e.Discarded)
      (port : w'.dp = w.dp) : Polled w waits (0, some err) w'
  /-- Ended by a scan of which nothing is known. -/
  | lost {waits : List Scan} {last : Scan} {err : Err} {w' : World}
      (discarded : ∀ e ∈ waits, e.Discarded) (broken : last.broken = true)
      (framing : w'.dp.state.response = .lost) : Polled w (waits ++ [last]) (0, some err) w'

/-- What the log of a poll shows. -/
structure Scanned (req : Request) (data : Word) (w : World) (scans : List Scan) (w' : World) :
    Prop where
  log : w'.chain.log = w.chain.log ++ scans
  requests : ∀ e ∈ scans, e.req = req ∧ e.data = data
  ids : w'.nextId = w.nextId

/-- The result of one scan: what it shows, or why it is not known. -/
inductive Exchanged (w : World) (e : Scan) : Except Err (Word × BitVec 3) → World → Prop
  | failed {err : Err} {w' : World} (broken : e.broken = true)
      (framing : w'.dp.state.response = .lost) : Exchanged w e (.error err) w'
  | wait {value : Word} {w' : World} (discarded : e.Discarded)
      (kept : w'.chain.target.result = w.chain.target.result) (port : w'.dp = w.dp) :
      Exchanged w e (.ok (value, 1)) w'
  | taken {w' : World} (taken : e.Taken) (left : w'.chain.target.result = e.result)
      (port : w'.dp = w.dp) : Exchanged w e (.ok (w.chain.target.result, 2)) w'
  | undefined {value : Word} {ack : BitVec 3} {w' : World} (broken : e.broken = true)
      (notWait : ack ≠ 1) (notOk : ack ≠ 2) (port : w'.dp = w.dp) :
      Exchanged w e (.ok (value, ack)) w'

/-- A data scan whose failure has not been noticed yet. -/
theorem scanAccess_spec (req : Request) (data : Word) (w : World) : ∃ e,
    Scanned req data w [e] (scanAccess req data w).2 ∧ (scanAccess req data w).2.dp = w.dp ∧
      ((∃ err, (scanAccess req data w).1 = .error err ∧ e.broken = true) ∨
        Exchanged w e (scanAccess req data w).1 (scanAccess req data w).2) := by
  refine ⟨_, ⟨rfl, by simp, rfl⟩, rfl, ?_⟩
  cases failure : (w.chain.scanDR w.link.clock).failure with
  | some fault =>
    refine .inl ⟨fault.err, by simp only [scanAccess, failure], ?_⟩
    simp [Scan.broken]
  | none =>
    refine .inr ?_
    simp only [scanAccess, failure]
    by_cases wait : (w.chain.scanDR w.link.clock).ack = 1
    · rw [wait]
      exact .wait ⟨by simp, by simp⟩ (by simp) rfl
    · by_cases ok : (w.chain.scanDR w.link.clock).ack = 2
      · rw [ok]
        exact .taken ⟨by simp, by simp⟩ (by simp) rfl
      · exact .undefined (by simpa [Scan.broken] using And.intro wait ok) wait ok rfl

theorem jtagExchange_spec (req : Request) (data : Word) (w : World) : ∃ e,
    Scanned req data w [e] (jtagExchange req data w).2 ∧
      Exchanged w e (jtagExchange req data w).1 (jtagExchange req data w).2 := by
  unfold jtagExchange
  rw [run_bind]
  cases (scanIR w).1 with
  | some err => exact ⟨_, ⟨rfl, by simp, rfl⟩, .failed rfl rfl⟩
  | none =>
    obtain ⟨e, scanned, port, outcome⟩ := scanAccess_spec req data (scanIR w).2
    have own : Scanned req data w [e] (scanAccess req data (scanIR w).2).2 :=
      ⟨scanned.log, scanned.requests, scanned.ids⟩
    refine ⟨e, ?_⟩
    simp only
    rw [run_bind]
    generalize scanAccess req data (scanIR w).2 = answer at own port outcome ⊢
    obtain ⟨reply, w'⟩ := answer
    rcases outcome with ⟨err, rfl, broken⟩ | exchanged
    · exact ⟨⟨own.log, own.requests, own.ids⟩, .failed broken rfl⟩
    · cases exchanged with
      | failed broken framing => exact ⟨⟨own.log, own.requests, own.ids⟩, .failed broken rfl⟩
      | wait discarded kept same => exact ⟨own, .wait discarded kept same⟩
      | taken taken left same => exact ⟨own, .taken taken left same⟩
      | undefined broken notWait notOk same => exact ⟨own, .undefined broken notWait notOk same⟩

section Loop

variable {req : Request} {data : Word} {w w₁ w' : World} {scans : List Scan} {e : Scan}
  {result : Swd.Result}

theorem Scanned.none (log : w'.chain.log = w.chain.log) (ids : w'.nextId = w.nextId) :
    Scanned req data w [] w' := ⟨by simp [log], by simp, ids⟩

theorem Scanned.append {more : List Scan} (first : Scanned req data w scans w₁)
    (second : Scanned req data w₁ more w') : Scanned req data w (scans ++ more) w' where
  log := by rw [second.log, first.log, List.append_assoc]
  requests e member := (List.mem_append.mp member).elim (first.requests e) (second.requests e)
  ids := second.ids.trans first.ids

/-- A discarded scan before a poll. -/
theorem Polled.again (rest : Polled w₁ scans result w') (discarded : e.Discarded)
    (kept : w₁.chain.target.result = w.chain.target.result) (port : w₁.dp = w.dp) :
    Polled w (e :: scans) result w' := by
  have both {waits : List Scan} (all : ∀ e ∈ waits, e.Discarded) : ∀ e' ∈ e :: waits,
      e'.Discarded := by
    simpa [discarded] using all
  cases rest with
  | taken all last left same =>
    rw [kept]
    exact .taken (both all) last left (same.trans port)
  | stopped all same => exact .stopped (both all) (same.trans port)
  | lost all broken framing => exact .lost (both all) broken framing

theorem pollLoop_spec (ctx : Ctx) (req : Request) (data : Word) : ∀ (turns waits : Nat) (w : World),
    ∃ scans, Scanned req data w scans (pollLoop ctx req data turns waits w).2 ∧
      Polled w scans (pollLoop ctx req data turns waits w).1 (pollLoop ctx req data turns waits w).2
  | 0, _, w => ⟨[], .none rfl rfl, .stopped (by simp) rfl⟩
  | turns + 1, waits, w => by
    unfold pollLoop
    rw [run_bind]
    cases (ctxErr ctx w).1 with
    | some err => exact ⟨[], .none rfl rfl, .stopped (by simp) rfl⟩
    | none =>
      obtain ⟨e, scanned, exchanged⟩ := jtagExchange_spec req data (ctxErr ctx w).2
      have own : Scanned req data w [e] (jtagExchange req data (ctxErr ctx w).2).2 :=
        ⟨scanned.log, scanned.requests, scanned.ids⟩
      simp only
      rw [run_bind]
      generalize jtagExchange req data (ctxErr ctx w).2 = answer at own exchanged ⊢
      obtain ⟨reply, w₁⟩ := answer
      cases exchanged with
      | failed broken framing => exact ⟨[] ++ [e], own, .lost (by simp) broken framing⟩
      | taken taken left port => exact ⟨[] ++ [e], own, .taken (by simp) taken left port⟩
      | undefined broken notWait notOk port =>
        simp only [notOk, notWait, if_false]
        have noticed : Scanned req data w [e] (modifyState (·.loseFraming) w₁).2 :=
          own.append (.none rfl rfl)
        exact ⟨[] ++ [e], noticed, .lost (by simp) broken rfl⟩
      | wait discarded kept port =>
        have stopped {err : Err} {w₂ : World} (log : w₂.chain.log = w₁.chain.log)
            (ids : w₂.nextId = w₁.nextId) (same : w₂.dp = w₁.dp) : ∃ scans,
            Scanned req data w scans w₂ ∧ Polled w scans (0, some err) w₂ :=
          ⟨[e], own.append (.none log ids), .stopped (by simpa using discarded) (same.trans port)⟩
        simp only [BitVec.reduceEq, if_false, if_true]
        rw [run_bind]
        cases (ctxErr ctx w₁).1 with
        | some err => exact stopped rfl rfl rfl
        | none =>
          simp only
          rw [run_bind]
          split_ifs with limit
          · exact stopped rfl rfl rfl
          · obtain ⟨scans, later, polled⟩ := pollLoop_spec ctx req data turns (waits + 1)
              (getDP (ctxErr ctx w₁).2).2
            exact ⟨e :: scans, own.append ⟨later.log, later.requests, later.ids⟩,
              polled.again discarded kept port⟩

/-- The state a poll starts from matters in two places. -/
theorem Polled.congr (polled : Polled w₁ scans result w')
    (kept : w₁.chain.target.result = w.chain.target.result) (port : w₁.dp = w.dp) :
    Polled w scans result w' := by
  cases polled with
  | taken all last left same => rw [kept]; exact .taken all last left (same.trans port)
  | stopped all same => exact .stopped all (same.trans port)
  | lost all broken framing => exact .lost all broken framing

theorem poll_spec (ctx : Ctx) (req : Request) (data : Word) (w : World) : ∃ scans,
    (poll ctx req data w).2.chain.log = w.chain.log ++ scans ∧
      (∀ e ∈ scans, e.req = (stamp req w).1 ∧ e.data = data) ∧
      (poll ctx req data w).2.nextId = w.nextId + 1 ∧
      Polled w scans (poll ctx req data w).1 (poll ctx req data w).2 := by
  obtain ⟨scans, scanned, polled⟩ := pollLoop_spec ctx (stamp req w).1 data
    (ctx.turns w.link.clock + 1) 0 (stamp req w).2
  exact ⟨scans, scanned.log, scanned.requests, scanned.ids, polled.congr rfl rfl⟩

end Loop

/-! ## Transfers -/

/-- What one transfer reports, against the scans of its request and of the
RDBUFF reads that complete it. -/
structure Pipelined (result : TransferResult) (framing : ResponseState)
    (own completion : List Scan) :
    Prop where
  once : own.countP (·.accepted) ≤ 1
  confirmed : result.outcome = .confirmed →
    ∃ e ∈ own, e.accepted = true ∧ result.data = e.result ∧ result.cause = none
  unsent : result.outcome = .unsent → completion = [] ∧ ∀ e ∈ own, e.accepted = false
  inFlight : result.outcome = .inFlight →
    own.countP (·.accepted) = 1 ∧ ∀ e ∈ completion, e.Discarded
  broken : ∀ e ∈ own ++ completion, e.broken = true →
    result.outcome = .indeterminate ∧ framing = .lost

section Transfer

variable {waits more : List Scan} {last : Scan}

theorem discarded_count (discarded : ∀ e ∈ waits, e.Discarded) : waits.countP (·.accepted) = 0 :=
  List.countP_eq_zero.mpr fun e member => by simp [(discarded e member).dropped]

theorem discarded_sound (discarded : ∀ e ∈ waits, e.Discarded) : ∀ e ∈ waits, e.broken = false :=
  fun e member => (discarded e member).sound

/-- The request was never taken. -/
theorem Pipelined.unsentOf {outcome : TransferOutcome}
    (discarded : ∀ e ∈ waits, e.Discarded) (kind : outcome = .unsent ∨ outcome = .indeterminate) :
    Pipelined ⟨0, some err, outcome⟩ framing waits [] where
  once := by rw [discarded_count discarded]; exact Nat.zero_le 1
  confirmed same := by rcases kind with rfl | rfl <;> cases same
  unsent _ := ⟨rfl, fun e member => (discarded e member).dropped⟩
  inFlight same := by rcases kind with rfl | rfl <;> cases same
  broken e member broken := by
    rw [List.append_nil] at member
    simp [discarded_sound discarded e member] at broken

theorem Pipelined.lostOf (discarded : ∀ e ∈ waits, e.Discarded) :
    Pipelined ⟨0, some err, .indeterminate⟩ .lost (waits ++ [last]) [] where
  once := by
    rw [List.countP_append, discarded_count discarded, Nat.zero_add]
    exact List.countP_le_length
  confirmed same := by cases same
  unsent same := by cases same
  inFlight same := by cases same
  broken _ _ _ := ⟨rfl, rfl⟩

section Taken

variable (discarded : ∀ e ∈ waits, e.Discarded) (taken : last.Taken)

include discarded taken

theorem taken_count : (waits ++ [last]).countP (·.accepted) = 1 := by
  rw [List.countP_append, discarded_count discarded, Nat.zero_add]
  simp [taken.accepted]

theorem taken_sound : ∀ e ∈ waits ++ [last], e.broken = false := by
  intro e member
  rcases List.mem_append.mp member with early | late
  · exact discarded_sound discarded e early
  · obtain rfl := List.mem_singleton.mp late
    exact taken.sound

theorem Pipelined.inFlightOf {outcome : TransferOutcome}
    (unfinished : ∀ e ∈ more, e.Discarded) (kind : outcome = .inFlight ∨ outcome = .indeterminate) :
    Pipelined ⟨0, some err, outcome⟩ framing (waits ++ [last]) more where
  once := (taken_count discarded taken).le
  confirmed same := by rcases kind with rfl | rfl <;> cases same
  unsent same := by rcases kind with rfl | rfl <;> cases same
  inFlight _ := ⟨taken_count discarded taken, unfinished⟩
  broken e member broken := by
    rcases List.mem_append.mp member with early | late
    · simp [taken_sound discarded taken e early] at broken
    · simp [discarded_sound unfinished e late] at broken

theorem Pipelined.lostAfter :
    Pipelined ⟨0, some err, .indeterminate⟩ .lost (waits ++ [last]) more where
  once := (taken_count discarded taken).le
  confirmed same := by cases same
  unsent same := by cases same
  inFlight same := by cases same
  broken _ _ _ := ⟨rfl, rfl⟩

theorem Pipelined.confirmedOf {final : Scan}
    (unfinished : ∀ e ∈ more, e.Discarded) (done : final.Taken) :
    Pipelined ⟨last.result, none, .confirmed⟩ framing (waits ++ [last]) (more ++ [final]) where
  once := (taken_count discarded taken).le
  confirmed _ := ⟨last, by simp, taken.accepted, rfl, rfl⟩
  unsent same := by cases same
  inFlight same := by cases same
  broken e member broken := by
    rcases List.mem_append.mp member with early | late
    · simp [taken_sound discarded taken e early] at broken
    · simp [taken_sound unfinished done e late] at broken

end Taken

/-- The report of a transfer whose poll failed. -/
theorem reportFailure (err : Err) (known : TransferOutcome) (w : World) :
    (getState >>= fun s => pure (⟨0, some err,
      if (s.response == .lost) = true then .indeterminate else known⟩ : TransferResult)) w =
      (⟨0, some err, if w.dp.state.response = .lost then .indeterminate else known⟩, w) := by
  rw [run_bind]
  by_cases lost : w.dp.state.response = .lost <;> simp [lost, run_pure, getState]

/-- The second half of a transfer: RDBUFF is shifted until the result shows. -/
def completeTransfer (ctx : Ctx) : PortM TransferResult := do
  let (value, err) ← poll ctx (dpTransferRequest .rdbuff true) 0
  if let some err := err then
    let lost := (← getState).response == .lost
    return ⟨0, some err, if lost then .indeterminate else .inFlight⟩
  return ⟨value, none, .confirmed⟩

theorem completeTransfer_spec (ctx : Ctx) {w : World} (discarded : ∀ e ∈ waits, e.Discarded)
    (taken : last.Taken) (left : w.chain.target.result = last.result) :
    let outcome := completeTransfer ctx w
    ∃ completion, outcome.2.chain.log = w.chain.log ++ completion ∧
      (∀ e ∈ completion, e.Completes w.nextId) ∧ outcome.2.nextId = w.nextId + 1 ∧
      Pipelined outcome.1 outcome.2.dp.state.response (waits ++ [last]) completion := by
  obtain ⟨completion, log, requests, ids, polled⟩ :=
    poll_spec ctx (dpTransferRequest .rdbuff true) 0 w
  have reads : ∀ e ∈ completion, e.Completes w.nextId := by
    intro e member
    refine ⟨?_, Scan.carries_stamp (requests e member)⟩
    rw [Scan.id, (requests e member).1]
    rfl
  refine ⟨completion, ?_⟩
  unfold completeTransfer
  rw [run_bind]
  generalize poll ctx (dpTransferRequest .rdbuff true) 0 w = read at log ids polled ⊢
  obtain ⟨⟨value, err⟩, w'⟩ := read
  cases polled with
  | stopped unfinished port =>
    simp only
    rw [reportFailure]
    refine ⟨log, reads, ids, .inFlightOf discarded taken unfinished ?_⟩
    split_ifs
    · exact .inr rfl
    · exact .inl rfl
  | lost unfinished broken framing =>
    simp only at framing ⊢
    rw [reportFailure, if_pos framing]
    refine ⟨log, reads, ids, ?_⟩
    rw [framing]
    exact .lostAfter discarded taken
  | taken unfinished done left' port =>
    refine ⟨log, reads, ids, ?_⟩
    rw [left]
    exact .confirmedOf discarded taken unfinished done

/-- One transfer, under the identity it gives its request. -/
theorem jtagTransfer_spec (ctx : Ctx) (req : Request) (data : Word) (w : World) :
    let outcome := jtagTransfer ctx req data w
    ∃ own completion, outcome.2.chain.log = w.chain.log ++ (own ++ completion) ∧
      (∀ e ∈ own, e.req = (stamp req w).1 ∧ e.data = data ∧ w.nextId < outcome.2.nextId) ∧
      (∀ e ∈ completion, e.Completes (w.nextId + 1)) ∧ w.nextId ≤ outcome.2.nextId ∧
      Pipelined outcome.1 outcome.2.dp.state.response own completion := by
  have shape : jtagTransfer ctx req data = (do
      if let some err ← ctxErr ctx then return ⟨0, some err, .unsent⟩
      let (_, err) ← poll ctx req data
      if let some err := err then
        let lost := (← getState).response == .lost
        return ⟨0, some err, if lost then .indeterminate else .unsent⟩
      completeTransfer ctx) := rfl
  rw [shape]
  dsimp only
  rw [run_bind]
  cases (ctxErr ctx w).1 with
  | some err =>
    exact ⟨[], [], (List.append_nil _).symm, by simp, by simp, le_rfl,
      .unsentOf (by simp) (.inl rfl)⟩
  | none =>
    obtain ⟨own, log, requests, ids, polled⟩ := poll_spec ctx req data (ctxErr ctx w).2
    simp only
    rw [run_bind]
    generalize poll ctx req data (ctxErr ctx w).2 = sent at log ids polled ⊢
    obtain ⟨⟨value, err⟩, w₁⟩ := sent
    have logged : w₁.chain.log = w.chain.log ++ own := log
    have next : w₁.nextId = w.nextId + 1 := ids
    have fresh {w₂ : World} (later : w₁.nextId ≤ w₂.nextId) : ∀ e ∈ own,
        e.req = (stamp req w).1 ∧ e.data = data ∧ w.nextId < w₂.nextId :=
      fun e member => ⟨(requests e member).1, (requests e member).2, by omega⟩
    cases polled with
    | stopped discarded port =>
      simp only
      rw [reportFailure]
      refine ⟨own, [], by rw [List.append_nil]; exact logged, fresh le_rfl, by simp,
        next ▸ Nat.le_succ _, .unsentOf discarded ?_⟩
      split_ifs
      · exact .inr rfl
      · exact .inl rfl
    | lost discarded broken framing =>
      simp only at framing ⊢
      rw [reportFailure, if_pos framing]
      refine ⟨_, [], by rw [List.append_nil]; exact logged, fresh le_rfl, by simp,
        next ▸ Nat.le_succ _, ?_⟩
      rw [framing]
      exact .lostOf discarded
    | taken discarded taken left port =>
      obtain ⟨completion, completed, reads, counted, pipelined⟩ :=
        completeTransfer_spec (w := w₁) ctx discarded taken left
      simp only
      refine ⟨_, completion, ?_, fresh (by omega), by rw [← next]; exact reads, by omega, pipelined⟩
      rw [completed, logged, List.append_assoc]

end Transfer

/-! ## Sequences of transfers -/

/-- One call of `jtagExecutor.transfer`. -/
structure JtagCall where
  ctx : Ctx
  req : Request
  data : Word

/-- The calls of a sequence, whatever their outcomes. -/
def transferAll : List JtagCall → PortM (List TransferResult)
  | [] => return []
  | call :: rest => do
    let result ← jtagTransfer call.ctx call.req call.data
    return result :: (← transferAll rest)

theorem stamp_id {req : Request} {w : World} {id : Nat}
    (identity : (stamp req w).1.tag.map (·.id) = some id) : id = w.nextId := by
  cases tag : req.tag with
  | none => simp [stamp, tag] at identity
  | some _ => simpa [stamp, tag, eq_comm] using identity

/-- Whether a scan belongs to one of these calls. -/
def Scan.BelongsTo (calls : List JtagCall) (e : Scan) : Prop :=
  e.carries (dpTransferRequest .rdbuff true) 0 = true ∨
    ∃ call ∈ calls, e.carries call.req call.data = true

/-- Later calls shift their own requests and reads of RDBUFF, under later identities. -/
theorem transferAll_later : ∀ (calls : List JtagCall) (w : World), ∃ scans,
    (transferAll calls w).2.chain.log = w.chain.log ++ scans ∧
      ∀ e ∈ scans, e.BelongsTo calls ∧ ∀ id, e.id = some id → w.nextId ≤ id
  | [], w => ⟨[], (List.append_nil _).symm, by simp⟩
  | call :: rest, w => by
    obtain ⟨own, completion, log, requests, reads, counted, _⟩ :=
      jtagTransfer_spec call.ctx call.req call.data w
    obtain ⟨scans, log', later⟩ :=
      transferAll_later rest (jtagTransfer call.ctx call.req call.data w).2
    refine ⟨own ++ completion ++ scans, ?_, ?_⟩
    · have run : (transferAll (call :: rest) w).2.chain.log =
          (transferAll rest (jtagTransfer call.ctx call.req call.data w).2).2.chain.log := rfl
      rw [run, log', log, List.append_assoc]
    · intro e member
      rcases List.mem_append.mp member with now | afterwards
      · rcases List.mem_append.mp now with isOwn | isRead
        · obtain ⟨request, written, _⟩ := requests e isOwn
          refine ⟨.inr ⟨call, List.mem_cons_self, Scan.carries_stamp ⟨request, written⟩⟩, ?_⟩
          intro id identity
          rw [Scan.id, request] at identity
          exact (stamp_id identity).ge
        · refine ⟨.inl (reads e isRead).reads, fun id identity => ?_⟩
          obtain rfl := Option.some.inj ((reads e isRead).identity.symm.trans identity)
          exact Nat.le_succ _
      · obtain ⟨belongs, fresh⟩ := later e afterwards
        refine ⟨belongs.imp id ?_, fun id identity => counted.trans (fresh id identity)⟩
        rintro ⟨other, isLater, carries⟩
        exact ⟨other, List.mem_cons_of_mem call isLater, carries⟩

/-- The pipeline is sound. Of any transfer in any sequence of them, after any
priming: its scans shift its request, then nothing but the RDBUFF read that
completes it, and every later scan belongs to a later call. What the transfer
reports is what its own scans show. -/
theorem jtagTransfer_pipelined (primer : Ctx) (before after : List JtagCall) (call : JtagCall)
    (tag : Tag) (start : World) :
    let w := (transferAll before (prime primer start).2).2
    let req := { call.req with tag := some tag }
    let outcome := jtagTransfer call.ctx req call.data w
    ∃ own completion later,
      outcome.2.chain.log = w.chain.log ++ (own ++ completion) ∧
      (transferAll after outcome.2).2.chain.log = outcome.2.chain.log ++ later ∧
      (∀ e ∈ own, e.req = (stamp req w).1 ∧ e.data = call.data) ∧
      (∀ e ∈ completion, e.carries (dpTransferRequest .rdbuff true) 0 = true) ∧
      (∀ e ∈ later, e.BelongsTo after) ∧
      (∀ e ∈ own, ∀ other ∈ completion ++ later, other.id ≠ e.id) ∧
      Pipelined outcome.1 outcome.2.dp.state.response own completion := by
  intro w req outcome
  obtain ⟨own, completion, log, requests, reads, _, pipelined⟩ :=
    jtagTransfer_spec call.ctx req call.data w
  obtain ⟨later, logged, fresh⟩ := transferAll_later after outcome.2
  refine ⟨own, completion, later, log, logged,
    fun e member => ⟨(requests e member).1, (requests e member).2.1⟩,
    fun e member => (reads e member).reads, fun e member => (fresh e member).1, ?_, pipelined⟩
  intro e member other others same
  have identity : e.id = some w.nextId := by
    rw [Scan.id, (requests e member).1]
    rfl
  rw [identity] at same
  rcases List.mem_append.mp others with isRead | afterwards
  · have := Option.some.inj ((reads other isRead).identity.symm.trans same)
    omega
  · have counted : w.nextId < outcome.2.nextId := (requests e member).2.2
    exact absurd ((fresh other afterwards).2 _ same) (Nat.not_le.mpr counted)

end Ostiole.Dap
