import Ostiole.Swd.TransferSpec

/-!
# Batches meet their specification

Chunks compose: the next one is sent only after every frame of the last one
succeeded, and then the shadow that validated the queue is right about the
target again. Simple responses send one frame at a time and need no shadow.
-/

namespace Ostiole.Swd

open Ostiole Logic

variable {ops : List BatchOp} {results : List BatchResult} {final : Option Err}

/-! ## One chunk -/

section Chunk

variable {ops : List BatchOp} {l : Link} {shadow : Conn}

/-- Nothing was sent. -/
theorem Batched.idleBatch {err : Option Err} {l' : Link}
    (sends : Sends l [] l') (record : l'.conn.record = l.conn.record)
    (length : results.length = ops.length) (unsent : ∀ result ∈ results, Unsent result)
    (ready : l'.conn.state = .ready → l.conn.state = .ready ∧ Tracked l'.conn l'.target)
    (success : err = none → results = []) (quiet : ∀ cause, err = some cause → cause.quiet = true) :
    Batched ops l results err l' [] [] [] results [] where
  sends := sends
  times := by simp
  record := record
  outcomes := by simp
  length := length
  requests := by simp
  confirmed := by simp
  abandoned := .none
  unknown := by simp
  unknownFirst := by simp
  idle := unsent
  aborts := by simp
  single := by simp
  needed _ := rfl
  framed before := sends.steps.nil_eq ▸ before
  keeps := by simp
  ready isReady := ⟨(ready isReady).1, rfl, (ready isReady).2⟩
  success none := ⟨rfl, rfl, success none, by simp⟩
  stopped _ _ _ := quiet
  swdErr cause failed := Err.ofSwd_of_quiet (quiet cause failed)
  prefixed _ := by simp

private theorem op_of_requests {events : List Event}
    (requests : events.map (fun e => (e.req, e.data)) = ops.map fun op => (op.req, op.data)) :
    events.map Event.op = ops := by
  have mapped := congrArg (List.map fun p : Request × Word => (⟨p.1, p.2⟩ : BatchOp)) requests
  change events.map (fun e => (⟨e.req, e.data⟩ : BatchOp)) = ops
  simpa [Function.comp_def] using mapped

/-- The frames of a chunk on the wire, whatever the host learns about them. -/
private structure OnWire (l : Link) (events : List Event) (l₂ : Link) : Prop where
  sends : Sends l events l₂
  conn : l₂.conn = l.conn
  times : ∃ time, l.clock ≤ time ∧ ∀ e ∈ events, e.time = time
  mode : l.conn.response = .overrun
  framed : Framed .overrun l₂.target
  keeps : ∀ e ∈ events, e.keepsFraming (l.conn.response == .overrun)
  prefixed : (∀ op ∈ events.map Event.op, exemptKind op.req = false) →
    events.Pairwise fun e later => later.accepted = true → e.accepted = true

/-- A failed exchange loses the whole chunk. -/
private theorem OnWire.failed {events : List Event} {l₂ : Link} (onWire : OnWire l events l₂)
    (nonempty : events ≠ []) (fault : WireFault) {start : Nat}
    (completed : Completed (some (chunkErr start fault.err)) final) :
    Batched (events.map Event.op) l
      ((events.map Event.op).map fun _ => ⟨0, some (.join errIndeterminate fault.err)⟩) final
      l₂.repaired.tick [] []
      (events.map fun e => (e, ⟨0, some (.join errIndeterminate fault.err)⟩)) [] [] := by
  have swd := WireFault.err_ofSwd fault
  have lost : ∀ p ∈ events.map (fun e => (e,
      (⟨0, some (.join errIndeterminate fault.err)⟩ : BatchResult))), Lost p.2 := by
    simp only [List.mem_map]
    rintro _ ⟨e, _, rfl⟩
    exact ⟨fault.err, swd, rfl⟩
  obtain ⟨time, later, times⟩ := onWire.times
  refine ⟨?_, ?_, ?_, ?_, ?_, ?_, by simp, .none, lost, by simp, by simp, by simp, by simp,
    fun _ => rfl, ?_, ?_, ?_, ?_, ?_, ?_, ?_⟩
  · simpa [Function.comp_def] using
      onWire.sends.trans_silent ((Sends.idle l₂ _ 0).trans_silent (.tick l₂.repaired))
  · simpa using fun e member => (times e member).symm ▸ later
  · simpa [Link.tick] using congrArg Conn.record onWire.conn
  · simp [Function.comp_def]
  · simp
  · simp [Function.comp_def]
  · intro _
    rw [onWire.mode]
    exact onWire.framed
  · simpa using onWire.keeps
  · exact fun ready => (Link.repaired_ready (l := l₂) ready).elim
  · exact fun none => absurd (completed.clean none) (by simp)
  · intro _ none
    simp [nonempty] at none
  · exact completed.leaves rfl rfl fun cause same => by
      obtain rfl := Option.some.inj same
      exact swd
  · simpa [Function.comp_def] using onWire.prefixed

/-- An answered exchange, decoded and cleaned up after. -/
private theorem OnWire.answered {pairs : List (Event × Decoded)} {l₂ l₃ l₄ : Link}
    (onWire : OnWire l (pairs.map (·.1)) l₂) {err : Option Err}
    {good bad lost : List (Event × BatchResult)} {cleanup : List Event}
    (observed : Observed (pairs.map (·.1)) l₂ l₂.target (pairs.map (·.2)) l₃ pairs)
    (finished : Finished pairs l₃ results err l₄ good bad lost cleanup)
    (completed : Completed err final) :
    Batched (pairs.map (·.1.op)) l results final l₄.tick good bad lost [] cleanup := by
  have silent : Sends l₂ [] l₃ := by
    rw [observed.link]
    exact .idle l₂ _ 0
  have target : l₃.target = l₂.target := by rw [observed.link]
  obtain ⟨time, later, times⟩ := onWire.times
  have members : ∀ {holds : Event → Prop}, (∀ e ∈ pairs.map (·.1), holds e) →
      ∀ p ∈ good ++ bad ++ lost, holds p.1 := by
    intro holds all p member
    refine all p.1 ?_
    rw [← finished.events]
    exact List.mem_map_of_mem member
  refine ⟨?_, members fun e member => (times e member).symm ▸ later, ?_, ?_, ?_, ?_,
    finished.confirmed, finished.abandoned, finished.unknown,
      fun _ => finished.unknownFirst, by simp,
    finished.aborts, finished.single, finished.needed, ?_, members onWire.keeps, ?_, ?_, ?_, ?_, ?_⟩
  · rw [finished.events]
    exact ((onWire.sends.trans_silent silent).trans finished.sends).trans_silent (.tick l₄)
  · exact finished.record.trans (observed.record.trans (congrArg Conn.record onWire.conn))
  · simpa using finished.outcomes
  · rw [finished.outcomes, List.length_map, ← List.length_map (f := (·.1)), finished.events]
    simp
  · have same := congrArg (List.map Event.op) finished.events
    simp only [List.map_map] at same
    exact same ▸ List.prefix_rfl
  · intro _
    rw [onWire.mode]
    exact finished.framed (by rw [target]; exact onWire.framed)
  · intro ready
    obtain ⟨before, none, keeps⟩ := finished.ready ready
    obtain ⟨tracked, first, _⟩ := observed.ready before
    exact ⟨onWire.conn ▸ first, none, keeps (by rw [target]; exact tracked)⟩
  · intro none
    obtain ⟨noBad, noLost, allGood⟩ := finished.clean.mp (completed.clean none)
    exact ⟨noBad, noLost, rfl, allGood⟩
  · intro noBad noLost allGood
    exact completed.quiet (finished.clean.mpr ⟨noBad, noLost, allGood⟩)
  · exact completed.leaves rfl rfl finished.ofSwd
  · intro plain
    rw [finished.events]
    exact onWire.prefixed (by simpa using plain)

theorem commitOverrunChunk_spec (packed : Packed shadow ops)
    (shadowMode : shadow.response = .overrun)
    (mode : l.conn.response = .overrun) (framed : Framed .overrun l.target)
    (shadowTracked : Tracked shadow l.target)
    (tracked : l.conn.state = .ready → Tracked l.conn l.target) (ctx : Ctx) (start : Nat)
    (nonempty : ops ≠ []) :
    ∃ good bad lost rest cleanup, Batched ops l (commitOverrunChunk ctx start ops l).1.1
        (commitOverrunChunk ctx start ops l).1.2 (commitOverrunChunk ctx start ops l).2
        good bad lost rest cleanup ∧
      ((commitOverrunChunk ctx start ops l).1.2 = none →
        Tracked (shadowAfter shadow ops) (commitOverrunChunk ctx start ops l).2.target) := by
  have notSent (err : Err) (quiet : err.quiet = true) :
      Batched ops l (resolveSuffix ops) (some err) l.tick [] [] [] (resolveSuffix ops) [] :=
    .idleBatch (.tick l) rfl (by simp [resolveSuffix])
      (by simp only [resolveSuffix, List.mem_map]; rintro _ ⟨_, _, rfl⟩; exact .inl rfl)
      (fun ready => ⟨ready, tracked ready⟩) (by simp)
      (fun cause same => by obtain rfl := Option.some.inj same; exact quiet)
  unfold commitOverrunChunk
  simp only [run_bind]
  obtain ⟨ticks, quiet⟩ := completionContext_spec ctx l
  generalize completionContext ctx l = entry at ticks quiet ⊢
  obtain ⟨failed, l₁⟩ := entry
  simp only at ticks quiet
  subst ticks
  cases failed with
  | some err => exact ⟨_, _, _, _, _, notSent err (quiet err rfl), by simp [run_pure]⟩
  | none =>
    obtain ⟨events, exchanged⟩ := exchangeFixed_spec (ops.map fun op => (op.req, op.data)) l.tick
    simp only [run_bind]
    generalize exchangeFixed (ops.map fun op => (op.req, op.data)) l.tick = outcome at exchanged ⊢
    obtain ⟨answer, l₂⟩ := outcome
    simp only at exchanged
    obtain rfl := op_of_requests exchanged.requests
    have steps : Steps l.env.world l.target events l₂.target := exchanged.sends.steps
    obtain ⟨framedAfter, keeps⟩ := steps.chunk_framed exchanged.inOrder packed shadowMode framed
      (.inl shadowTracked)
    have overrun : l.target.overrun = true := framed.overrun.mp rfl
    have onWire : OnWire l events l₂ :=
      ⟨(Sends.tick l).silent_trans exchanged.sends, exchanged.conn,
        ⟨l.tick.clock, Nat.le_succ _, exchanged.times⟩, mode, framedAfter,
        by rw [mode]; exact keeps, fun plain => steps.prefixed exchanged.inOrder overrun keeps
          fun e member => plain e.op (List.mem_map_of_mem member)⟩
    cases answer with
    | error err =>
      obtain ⟨⟨fault, rfl⟩, _⟩ := exchanged.replies
      simp only [run_bind]
      obtain ⟨ticks, completed⟩ := completionError_spec ctx (some (chunkErr start fault.err))
        l₂.repaired
      change ∃ good bad lost rest cleanup, Batched _ l _ (completionError ctx _ l₂.repaired).1
        (completionError ctx _ l₂.repaired).2 good bad lost rest cleanup ∧
        ((completionError ctx _ l₂.repaired).1 = none → _)
      rw [ticks]
      refine ⟨_, _, _, _, _, onWire.failed (by simpa using nonempty) fault completed, ?_⟩
      exact fun none => absurd (completed.clean none) (by simp)
    | ok replies =>
      obtain ⟨pairs, observed⟩ := observeOverrunChunk_spec steps exchanged.replies l₂
        (by rw [exchanged.conn]; exact tracked)
      simp only [run_bind]
      generalize observeOverrunChunk (events.map Event.op) replies l₂ = view at observed ⊢
      obtain ⟨⟨waitWithPending, frames⟩, l₃⟩ := view
      simp only at observed
      obtain rfl := observed.events
      obtain rfl := observed.frames
      have allTimes : ∀ p ∈ pairs, p.1.time = l.tick.clock := fun p member =>
        exchanged.times p.1 (List.mem_map_of_mem member)
      obtain ⟨good, bad, lost, cleanup, finished⟩ := finishOverrunChunk_spec (l := l₃)
        observed.decodes allTimes start waitWithPending
      have sameOps : (pairs.map (·.1)).map Event.op = pairs.map (·.1.op) := by simp
      rw [sameOps] at packed ⊢
      generalize finishOverrunChunk start (pairs.map (·.1.op)) (pairs.map (·.2))
        waitWithPending l₃ = ending at finished ⊢
      obtain ⟨⟨results, err⟩, l₄⟩ := ending
      simp only at finished
      obtain ⟨ticks, completed⟩ := completionError_spec ctx err l₄
      simp only [run_pure]
      rw [ticks]
      refine ⟨good, bad, lost, [], cleanup, onWire.answered observed finished completed, ?_⟩
      intro none
      obtain ⟨rfl, rfl, allGood⟩ := finished.clean.mp (completed.clean none)
      obtain rfl := finished.needed rfl
      have accepted : ∀ e ∈ pairs.map (·.1), e.accepted = true := by
        intro e member
        obtain ⟨_, _, step⟩ := steps.step_of_mem member
        rw [← finished.events] at member
        obtain ⟨p, isGood, rfl⟩ := List.mem_map.mp member
        exact step.accepted_of_ok (finished.confirmed p (by simpa using isGood)).1
      have after := steps.shadow_tracked shadowTracked accepted
      rw [sameOps] at after
      have same : l₄.target = l₂.target := by
        rw [finished.sends.steps.nil_eq, observed.link]
      exact same ▸ after

end Chunk

/-! ## Composition -/

section Compose

variable {first second : List BatchOp} {l l₁ l₂ : Link} {results later : List BatchResult}
  {err : Option Err} {before good bad lost : List (Event × BatchResult)} {rest : List BatchResult}
  {cleanup : List Event}

/-- A batch that went through, and whatever follows it. -/
theorem Batched.append (done : Batched first l results none l₁ before [] [] [] [])
    (next : Batched second l₁ later err l₂ good bad lost rest cleanup) :
    Batched (first ++ second) l (results ++ later) err l₂
      (before ++ good) bad lost rest cleanup := by
  have response := response_of_record done.record
  have full : before.map (·.1.op) = first := by
    have length := done.length
    rw [done.outcomes] at length
    exact (by simpa using done.requests : before.map (·.1.op) <+: first).eq_of_length
      (by simpa using length)
  refine ⟨?_, ?_, next.record.trans done.record, ?_, ?_, ?_, ?_, next.abandoned, next.unknown,
    next.unknownFirst, next.idle, next.aborts, next.single, next.needed, ?_, ?_, ?_, ?_, ?_,
    next.swdErr, ?_⟩
  · have sends := done.sends.trans next.sends
    simpa using sends
  · intro p member
    rw [List.append_assoc, List.append_assoc] at member
    rcases List.mem_append.mp member with member | member
    · exact done.times p (by simpa using member)
    · exact done.sends.clock.trans (next.times p (by simpa using member))
  · rw [done.outcomes, next.outcomes]
    simp
  · simp [done.length, next.length]
  · rw [List.append_assoc, List.append_assoc, List.map_append, full]
    exact (List.prefix_append_right_inj first).mpr (by simpa using next.requests)
  · intro p member
    exact (List.mem_append.mp member).elim (done.confirmed p) (next.confirmed p)
  · intro before
    rw [← response] at before ⊢
    exact next.framed (response ▸ done.framed (response ▸ before))
  · intro p member
    rw [List.append_assoc, List.append_assoc] at member
    rcases List.mem_append.mp member with member | member
    · exact done.keeps p (by simpa using member)
    · rw [← response]
      exact next.keeps p (by simpa using member)
  · intro ready
    obtain ⟨middle, none, tracked⟩ := next.ready ready
    exact ⟨(done.ready middle).1, none, tracked⟩
  · intro none
    obtain ⟨noBad, noLost, noRest, allGood⟩ := next.success none
    refine ⟨noBad, noLost, noRest, fun p member => ?_⟩
    exact (List.mem_append.mp member).elim ((done.success rfl).2.2.2 p) (allGood p)
  · intro noBad noLost allGood
    exact next.stopped noBad noLost fun p member => allGood p (by simp [member])
  · intro plain
    rw [List.append_assoc, List.append_assoc, List.map_append]
    refine List.pairwise_append.mpr ⟨?_, ?_, fun e member _ _ _ => ?_⟩
    · simpa using done.prefixed fun op member => plain op (by simp [member])
    · simpa using next.prefixed fun op member => plain op (by simp [member])
    · obtain ⟨p, isDone, rfl⟩ := List.mem_map.mp member
      exact done.accepted p isDone

/-- A batch that stopped, with the operations it did not reach. -/
theorem Batched.stop (ended : Batched first l results err l₁ good bad lost rest cleanup)
    (failed : err ≠ none) (second : List BatchOp) :
    Batched (first ++ second) l (results ++ resolveSuffix second) err l₁ good bad lost
      (rest ++ resolveSuffix second) cleanup := by
  refine ⟨ended.sends, ended.times, ended.record, ?_, ?_, ?_, ended.confirmed, ended.abandoned,
    ended.unknown, ended.unknownFirst, ?_, ended.aborts, ended.single, ended.needed, ended.framed,
    ended.keeps, ended.ready, fun none => absurd none failed, ended.stopped, ended.swdErr, ?_⟩
  · rw [ended.outcomes, List.append_assoc]
  · simp [ended.length, resolveSuffix]
  · exact ended.requests.trans (List.prefix_append first second)
  · intro result member
    rcases List.mem_append.mp member with member | member
    · exact ended.idle result member
    · obtain ⟨_, _, rfl⟩ := List.mem_map.mp member
      exact .inl rfl
  · exact fun plain => ended.prefixed fun op member => plain op (by simp [member])

end Compose

/-! ## Packed batches -/

/-- A queue that passed validation. -/
def Safe (shadow : Conn) : List BatchOp → Prop
  | [] => True
  | op :: rest =>
    shadow.validateTransfer op.req op.data = none ∧
      Safe (shadow.observeTransfer op.req 0 op.data none) rest

theorem safe_of_shadowErrs : ∀ {ops : List BatchOp} {shadow : Conn} (start : Nat),
    (∀ err ∈ shadowErrs shadow start ops, err = none) → Safe shadow ops
  | [], _, _, _ => trivial
  | op :: rest, shadow, start, passed => by
    unfold shadowErrs at passed
    cases checked : shadow.validateTransfer op.req op.data with
    | some err => simp [checked] at passed
    | none =>
      simp only [checked, List.mem_cons, forall_eq_or_imp, true_and] at passed
      exact ⟨checked, safe_of_shadowErrs (start + 1) passed⟩

theorem overrunChunkLength_le : ∀ (c : Conn) (ops : List BatchOp),
    overrunChunkLength c ops ≤ ops.length
  | _, [] => le_rfl
  | c, op :: rest => by
    unfold overrunChunkLength
    split
    · simp
    · have := overrunChunkLength_le (c.observeTransfer op.req 0 op.data none) rest
      simp only [List.length_cons]
      omega

theorem overrunChunkLength_pos (c : Conn) (op : BatchOp) (rest : List BatchOp) :
    0 < overrunChunkLength c (op :: rest) := by
  unfold overrunChunkLength
  split <;> omega

/-- A chunk ends with the first ABORT, whatever the connection believes. -/
theorem Safe.packed : ∀ {ops : List BatchOp} {shadow : Conn} (c : Conn), Safe shadow ops →
    Packed shadow (ops.take (overrunChunkLength c ops))
  | [], _, _, _ => by simp [Packed]
  | op :: rest, shadow, c, ⟨valid, later⟩ => by
    unfold overrunChunkLength
    split
    · exact ⟨valid, fun _ => rfl, trivial⟩
    · next alone =>
        rw [Nat.add_comm, List.take_succ_cons]
        refine ⟨valid, fun abort => ?_, later.packed _⟩
        simp [abort] at alone

theorem Safe.take : ∀ {ops : List BatchOp} {shadow : Conn} (count : Nat), Safe shadow ops →
    Safe shadow (ops.take count)
  | _, _, 0, _ => trivial
  | [], _, _ + 1, _ => trivial
  | _ :: _, _, count + 1, ⟨valid, later⟩ => ⟨valid, later.take count⟩

theorem Safe.drop : ∀ {ops : List BatchOp} {shadow : Conn} (count : Nat), Safe shadow ops →
    Safe (shadowAfter shadow (ops.take count)) (ops.drop count)
  | _, _, 0, safe => safe
  | [], _, _ + 1, _ => trivial
  | _ :: _, _, count + 1, ⟨_, later⟩ => later.drop count

theorem shadowAfter_response (shadow : Conn) (ops : List BatchOp) :
    (shadowAfter shadow ops).response = shadow.response := by
  induction ops generalizing shadow with
  | nil => rfl
  | cons op rest ih =>
    exact (ih _).trans (observeTransfer_response _ _ _ _ _)

/-- Operations left over when a batch stopped before them. -/
theorem resolveSuffix_unsent : ∀ result ∈ resolveSuffix ops, Unsent result := by
  simp only [resolveSuffix, List.mem_map]
  rintro _ ⟨_, _, rfl⟩
  exact .inl rfl

/-- The next operations are not sent: the context ended or a check failed. -/
theorem Batched.refuse {l : Link} {err : Err}
    (quiet : err.quiet = true)
    (tracked : l.conn.state = .ready → Tracked l.conn l.target)
    (length : results.length = ops.length) (unsent : ∀ result ∈ results, Unsent result) :
    Batched ops l results (some err) l.tick [] [] [] results [] :=
  .idleBatch (.tick l) rfl length unsent (fun ready => ⟨ready, tracked ready⟩) (by simp)
    fun cause same => by obtain rfl := Option.some.inj same; exact quiet

section Idle

variable {ops : List BatchOp} {l l₁ l' : Link} {results rest : List BatchResult}
  {err : Option Err} {good bad lost : List (Event × BatchResult)} {cleanup : List Event}

/-- Reading the clock before a batch changes nothing it is about. -/
theorem Batched.afterIdle (batched : Batched ops l₁ results err l' good bad lost rest cleanup)
    (idle : Sends l [] l₁) (conn : l₁.conn = l.conn) :
    Batched ops l results err l' good bad lost rest cleanup :=
  { batched with
    sends := idle.silent_trans batched.sends
    times := fun p member => idle.clock.trans (batched.times p member)
    record := conn ▸ batched.record
    framed := fun before => conn ▸ batched.framed (by rwa [conn, idle.steps.nil_eq])
    keeps := conn ▸ batched.keeps
    ready := conn ▸ batched.ready }

theorem Batched.afterTick (batched : Batched ops l.tick results err l' good bad lost rest cleanup) :
    Batched ops l results err l' good bad lost rest cleanup :=
  batched.afterIdle (.tick l) rfl

end Idle

/-- The next chunk is not empty and may share an exchange. -/
theorem chunk_packed {shadow : Conn} {frames : Nat} (fits : 0 < frames)
    (nonempty : ops ≠ []) (safe : Safe shadow ops) (c : Conn) :
    0 < overrunChunkLength c (ops.take frames) ∧
      Packed shadow (ops.take (overrunChunkLength c (ops.take frames))) := by
  have bound := overrunChunkLength_le c (ops.take frames)
  have packed := (safe.take frames).packed c
  rw [List.take_take, min_eq_left (bound.trans (List.length_take_le _ _))] at packed
  refine ⟨?_, packed⟩
  obtain ⟨frames, rfl⟩ := Nat.exists_eq_succ_of_ne_zero fits.ne'
  cases ops with
  | nil => exact absurd rfl nonempty
  | cons first rest => exact overrunChunkLength_pos c first _

/-- One turn of `commitOverrun`. -/
theorem commitOverrun_turn (ctx : Ctx) (frames turns start : Nat) (first : BatchOp)
    (rest : List BatchOp) (l : Link) :
    commitOverrun ctx frames (turns + 1) start (first :: rest) l =
      match (ctxErr ctx l).1, l.conn.validateTransfer first.req first.data with
      | some err, _ => ((resolveSuffix (first :: rest), some err), l.tick)
      | none, some err =>
        ((⟨0, some (operationErr start err)⟩ :: resolveSuffix rest,
          some (operationErr start err)), l.tick)
      | none, none =>
        let count := overrunChunkLength l.conn ((first :: rest).take frames)
        let chunk := commitOverrunChunk ctx start ((first :: rest).take count) l.tick
        let later := commitOverrun ctx frames turns (start + count) ((first :: rest).drop count)
          chunk.2
        if chunk.1.2.isSome then
          ((chunk.1.1 ++ resolveSuffix ((first :: rest).drop count), chunk.1.2), chunk.2)
        else ((chunk.1.1 ++ later.1.1, later.1.2), later.2) := by
  rw [commitOverrun, run_bind]
  cases (ctxErr ctx l).1 with
  | some err => rfl
  | none =>
    simp only [run_get_bind, ctxErr_link, Link.tick_conn]
    cases l.conn.validateTransfer first.req first.data with
    | some err => rfl
    | none =>
      simp only [run_get_bind]
      simp only [run_bind, Link.tick_conn]
      generalize commitOverrunChunk ctx start _ l.tick = chunk
      obtain ⟨⟨results, err⟩, l₁⟩ := chunk
      cases err <;> rfl

theorem commitOverrun_spec (ctx : Ctx) {frames : Nat} (fits : 0 < frames) :
    ∀ (turns start : Nat) {ops : List BatchOp} {l : Link} {shadow : Conn}, ops.length ≤ turns →
      Safe shadow ops → shadow.response = .overrun → l.conn.response = .overrun →
      Framed .overrun l.target → Tracked shadow l.target →
      (l.conn.state = .ready → Tracked l.conn l.target) →
      ∃ good bad lost rest cleanup, Batched ops l (commitOverrun ctx frames turns start ops l).1.1
        (commitOverrun ctx frames turns start ops l).1.2
        (commitOverrun ctx frames turns start ops l).2 good bad lost rest cleanup := by
  have empty {l : Link} (tracked : l.conn.state = .ready → Tracked l.conn l.target) :
      Batched [] l [] none l [] [] [] [] [] :=
    .idleBatch (.refl l) rfl rfl (by simp)
      (fun ready => ⟨ready, tracked ready⟩) (fun _ => rfl) (by simp)
  intro turns
  induction turns with
  | zero =>
    intro start ops l shadow few safe shadowMode mode framed shadowTracked tracked
    obtain rfl := List.eq_nil_of_length_eq_zero (Nat.le_zero.mp few)
    exact ⟨_, _, _, _, _, empty tracked⟩
  | succ turns ih =>
    intro start ops l shadow few safe shadowMode mode framed shadowTracked tracked
    cases ops with
    | nil => exact ⟨_, _, _, _, _, empty tracked⟩
    | cons first rest =>
      rw [commitOverrun_turn]
      cases ended : (ctxErr ctx l).1 with
      | some err =>
        exact ⟨_, _, _, _, _, .refuse (ctxErr_quiet ended) tracked
          (by simp [resolveSuffix]) resolveSuffix_unsent⟩
      | none =>
        cases checked : l.conn.validateTransfer first.req first.data with
        | some err =>
          obtain ⟨message, rfl⟩ := validateTransfer_text checked
          refine ⟨_, _, _, _, _, .refuse rfl tracked (by simp [resolveSuffix]) ?_⟩
          intro result member
          rcases List.mem_cons.mp member with rfl | member
          · exact .inr ⟨start, message, rfl⟩
          · exact resolveSuffix_unsent result member
        | none =>
          have nonempty : first :: rest ≠ [] := by simp
          generalize first :: rest = ops at *
          obtain ⟨positive, packed⟩ := chunk_packed fits nonempty safe l.conn
          simp only
          generalize overrunChunkLength l.conn (ops.take frames) = count at positive packed ⊢
          obtain ⟨good, bad, lost, left, cleanup, batched, after⟩ :=
            commitOverrunChunk_spec (l := l.tick) packed shadowMode mode framed shadowTracked
              tracked ctx start (by simp [nonempty]; omega)
          generalize commitOverrunChunk ctx start (ops.take count) l.tick = chunk
            at batched after ⊢
          obtain ⟨⟨results, err⟩, l₁⟩ := chunk
          simp only at batched after ⊢
          have cut : ops.take count ++ ops.drop count = ops := List.take_append_drop count ops
          cases err with
          | some err =>
            have stopped := batched.afterTick.stop (by simp) (ops.drop count)
            rw [cut] at stopped
            exact ⟨_, _, _, _, _, stopped⟩
          | none =>
            obtain ⟨rfl, rfl, rfl, _⟩ := batched.success rfl
            obtain rfl := batched.needed rfl
            have mode' : l₁.conn.response = .overrun :=
              (response_of_record batched.record).trans mode
            have shorter : (ops.drop count).length ≤ turns := by
              rw [List.length_drop]
              omega
            obtain ⟨_, _, _, _, _, later⟩ := ih (start + count) shorter
              (safe.drop count) ((shadowAfter_response _ _).trans shadowMode) mode'
              (by simpa [mode] using batched.framed (by simpa [mode] using framed)) (after rfl)
              fun ready => (batched.ready ready).2.2
            have whole := batched.afterTick.append later
            rw [cut] at whole
            exact ⟨_, _, _, _, _, whole⟩

/-! ## Batches of simple responses -/

section Sequential

variable {op : BatchOp} {l l' : Link} {e : Event} {cleanup : List Event} {value : Word}
  {err : Option Err}

/-- One operation of a simple batch, put where its outcome belongs. -/
private theorem Sent.batched (sent : Sent op.req op.data l e cleanup (value, err) l')
    (mode : l.conn.response = .simple) (started : l.conn.state = .ready) {result : BatchResult}
    {good bad lost : List (Event × BatchResult)}
    (only : good ++ bad ++ lost = [(e, result)]) (confirmed : ∀ p ∈ good, Confirmed p.1 p.2)
    (abandoned : Abandoned bad) (unknown : ∀ p ∈ lost, Lost p.2) (alone : bad ≠ [] → lost = [])
    (ready : l'.conn.state = .ready → lost = [])
    (success : final = none → bad = [] ∧ lost = [] ∧ ∀ p ∈ good, p.2.err = none)
    (stopped : bad = [] → lost = [] → (∀ p ∈ good, p.2.err = none) → final = none)
    (swdErr : ∀ cause, final = some cause → cause.ofSwd = true) :
    Batched [op] l [result] final l' good bad lost [] [] := by
  obtain rfl : cleanup = [] := by
    by_contra cleaned
    have := (sent.needed cleaned).2
    simp [mode] at this
  refine ⟨?_, ?_, sent.record, ?_, rfl, ?_, confirmed, abandoned, unknown, ?_, by simp,
    by simp, by simp, fun _ => rfl, fun _ => sent.framed, ?_, ?_, ?_, ?_, swdErr, ?_⟩
  · rw [only]
    simpa using sent.sends
  · rw [only]
    simpa using sent.time
  · rw [only]
    rfl
  · rw [only]
    simp [Event.op, sent.req, sent.data]
  · intro refused
    simp [alone refused]
  · rw [only]
    simpa using sent.keeps
  · exact fun isReady => ⟨started, ready isReady, (sent.ready isReady).2⟩
  · exact fun none => ⟨(success none).1, (success none).2.1, rfl, (success none).2.2⟩
  · intro noBad noLost allGood cause failed
    simp [stopped noBad noLost allGood] at failed
  · intro _
    rw [only]
    simp

/-- An operation of a simple batch that succeeded. -/
private theorem Sent.done (sent : Sent op.req op.data l e cleanup (value, none) l')
    (mode : l.conn.response = .simple) (started : l.conn.state = .ready) :
    Batched [op] l [⟨value, none⟩] none l' [(e, ⟨value, none⟩)] [] [] [] [] := by
  refine sent.batched mode started rfl ?_ .none (by simp) (by simp) (by simp) (by simp) (by simp)
    (by simp)
  cases sent.simple (by simp [mode]) with
  | done seen => simpa using ⟨seen, .inl rfl⟩

/-- The error under which a simple batch reports a failed operation. -/
def markIncomplete (err : Option Err) : Option Err :=
  if completeTransfer err then err else err.map (.join errIndeterminate)

/-- An operation of a simple batch that stopped it. -/
private theorem Sent.failed (sent : Sent op.req op.data l e cleanup (value, err) l')
    (mode : l.conn.response = .simple) (started : l.conn.state = .ready) {cause : Err}
    (failed : markIncomplete err = some cause) {message : String}
    (completed : Completed (some (.wrap message cause)) final) :
    ∃ good bad lost, Batched [op] l [⟨value, some cause⟩] final l' good bad lost [] [] := by
  have reported : final ≠ none := fun none => absurd (completed.clean none) (by simp)
  have swdErr (swd : cause.ofSwd = true) : ∀ cause, final = some cause → cause.ofSwd = true :=
    completed.leaves rfl rfl fun _ same => by
      obtain rfl := Option.some.inj same
      exact swd
  have outcome := sent.simple (by simp [mode])
  cases outcome with
  | done seen => simp [markIncomplete, completeTransfer] at failed
  | parity seen read =>
    obtain rfl : errParity = cause := by
      simpa [markIncomplete, completeTransfer, isExactly, errParity] using failed
    exact ⟨[(e, _)], [], [], sent.batched mode started rfl
      (by simpa using ⟨seen, .inr ⟨rfl, read⟩⟩) .none (by simp) (by simp) (by simp)
      (fun none => absurd none reported) (by simp) (swdErr rfl)⟩
  | wait seen =>
    obtain rfl : errWait = cause := by
      simpa [markIncomplete, completeTransfer, isExactly, errWait] using failed
    exact ⟨[], [(e, _)], [], sent.batched mode started rfl (by simp)
      (.refused (.inl ⟨seen, .inl rfl⟩) (by simp)) (by simp) (by simp) (by simp)
      (fun none => absurd none reported) (by simp) (swdErr rfl)⟩
  | fault seen =>
    obtain rfl : errFault = cause := by
      simpa [markIncomplete, completeTransfer, isExactly, errFault] using failed
    exact ⟨[], [(e, _)], [], sent.batched mode started rfl (by simp)
      (.refused (.inr ⟨seen, rfl⟩) (by simp)) (by simp) (by simp) (by simp)
      (fun none => absurd none reported) (by simp) (swdErr rfl)⟩
  | @lost own lost =>
    obtain rfl : .join errIndeterminate own = cause := by
      simpa [markIncomplete, lost.incomplete] using failed
    have swd : own.ofSwd = true := Err.ofSwd_of_wire ((FrameOutcome.lost (e := e) lost).ofWire rfl)
    refine ⟨[], [], [(e, _)], sent.batched mode started rfl (by simp) .none ?_ (by simp) ?_
      (fun none => absurd none reported) (by simp) (swdErr ?_)⟩
    · simpa using ⟨own, swd, rfl⟩
    · intro ready
      have := (sent.ready ready).1
      simp [lost.incomplete] at this
    · simpa [Err.ofSwd, Err.leaves, errIndeterminate, Sentinel.ofDap] using swd

/-- One turn of `commitSequential`. -/
private theorem commitSequential_turn (ctx : Ctx) (index : Nat) (op : BatchOp) (rest : List BatchOp)
    (l : Link) :
    commitSequential ctx index (op :: rest) l =
      match (ctxErr ctx l).1, l.conn.validateTransfer op.req op.data with
      | some err, _ => ((resolveSuffix (op :: rest), some err), l.tick)
      | none, some err =>
        ((⟨0, some (operationErr index err)⟩ :: resolveSuffix rest,
          some (operationErr index err)), l.tick)
      | none, none =>
        let one := transfer none op.req op.data l.tick
        match markIncomplete one.1.2 with
        | some err =>
          let final := completionError ctx
            (some (.wrap s!"swd: batch stopped at operation {index}" err)) one.2
          ((⟨one.1.1, some err⟩ :: resolveSuffix rest, final.1), final.2)
        | none =>
          match (ctxErr ctx one.2).1 with
          | some err => ((⟨one.1.1, none⟩ :: resolveSuffix rest, some err), one.2.tick)
          | none =>
            let later := commitSequential ctx (index + 1) rest one.2.tick
            ((⟨one.1.1, none⟩ :: later.1.1, later.1.2), later.2) := by
  rw [commitSequential, run_bind]
  cases (ctxErr ctx l).1 with
  | some err => rfl
  | none =>
    simp only [run_get_bind, ctxErr_link, Link.tick_conn]
    cases l.conn.validateTransfer op.req op.data with
    | some err => rfl
    | none =>
      simp only [run_bind, markIncomplete]
      generalize transfer none op.req op.data l.tick = one
      obtain ⟨⟨value, err⟩, l₁⟩ := one
      simp only
      cases (if completeTransfer err then err else err.map (.join errIndeterminate)) with
      | some err => rfl
      | none =>
        simp only [run_bind, ctxErr_link]
        cases (ctxErr ctx l₁).1 <;> rfl

theorem commitSequential_spec (ctx : Ctx) : ∀ (ops : List BatchOp) (index : Nat) {l : Link},
    Coherent l → l.conn.response = .simple → l.conn.state = .ready →
    l.conn.validateCompletion = none →
    ∃ good bad lost rest cleanup, Batched ops l (commitSequential ctx index ops l).1.1
      (commitSequential ctx index ops l).1.2 (commitSequential ctx index ops l).2
      good bad lost rest cleanup := by
  intro ops
  induction ops with
  | nil =>
    intro index l coherent mode started timeout
    exact ⟨_, _, _, _, _, .idleBatch (.refl l) rfl rfl (by simp [commitSequential, run_pure])
      (fun ready => ⟨ready, coherent.tracked ready⟩) (fun _ => rfl)
      (by simp [commitSequential, run_pure])⟩
  | cons op rest ih =>
    intro index l coherent mode started timeout
    rw [commitSequential_turn]
    cases ended : (ctxErr ctx l).1 with
    | some err =>
      exact ⟨_, _, _, _, _, .refuse (ctxErr_quiet ended) coherent.tracked
        (by simp [resolveSuffix]) resolveSuffix_unsent⟩
    | none =>
      cases checked : l.conn.validateTransfer op.req op.data with
      | some err =>
        obtain ⟨message, rfl⟩ := validateTransfer_text checked
        refine ⟨_, _, _, _, _, .refuse rfl coherent.tracked
          (by simp [resolveSuffix]) ?_⟩
        intro result member
        rcases List.mem_cons.mp member with rfl | member
        · exact .inr ⟨index, message, rfl⟩
        · exact resolveSuffix_unsent result member
      | none =>
        obtain ⟨e, cleanup, sent⟩ := transfer_sent coherent.tick started checked timeout
        simp only
        generalize transfer none op.req op.data l.tick = one at sent ⊢
        obtain ⟨⟨value, err⟩, l₁⟩ := one
        simp only at sent ⊢
        cases marked : markIncomplete err with
        | some cause =>
          obtain ⟨ticks, completed⟩ := completionError_spec ctx
            (some (.wrap s!"swd: batch stopped at operation {index}" cause)) l₁
          obtain ⟨good, bad, lost, batched⟩ :=
            sent.beforeTick.failed mode started marked completed
          simp only
          rw [ticks]
          exact ⟨_, _, _, _, _, batched.afterTick.stop
            (fun none => absurd (completed.clean none) (by simp)) rest⟩
        | none =>
          obtain rfl : err = none := by
            unfold markIncomplete at marked
            split_ifs at marked with complete
            · exact marked
            · simpa using marked
          have done := (sent.done mode started).afterTick
          have record := done.record
          have coherentAfter : Coherent l₁ :=
            ⟨by rw [response_of_record record]; exact done.framed coherent.framed,
              fun ready => (done.ready ready).2.2⟩
          simp only
          cases again : (ctxErr ctx l₁).1 with
          | some err =>
            exact ⟨_, _, _, _, _, done.append (.refuse (ctxErr_quiet again)
              coherentAfter.tracked (by simp)
              resolveSuffix_unsent)⟩
          | none =>
            obtain ⟨_, _, _, _, _, later⟩ := ih (index + 1)
              coherentAfter.tick ((response_of_record record).trans mode)
              (sent.stays rfl) (by
                have same : l₁.conn.completionTimeout = l.conn.completionTimeout :=
                  congrArg (·.2.2.2.2.2) record
                simpa [Conn.validateCompletion, same] using timeout)
            exact ⟨_, _, _, _, _, done.append later.afterTick⟩

end Sequential

/-! ## Commit -/

/-- Operations refused before anything was sent, each with a reason of its own. -/
def Checked (ops : List BatchOp) (errs : List (Option Err)) : Prop :=
  errs.length = ops.length ∧
    ∀ err ∈ errs, ∀ cause, err = some cause → ∃ index message,
      cause = operationErr index (.text message)

theorem requestErrs_checked (start : Nat) (ops : List BatchOp) :
    Checked ops (requestErrs start ops) := by
  refine ⟨by simp [requestErrs], ?_⟩
  intro err member cause failed
  obtain ⟨i, bound, rfl⟩ := List.mem_mapIdx.mp member
  obtain ⟨own, reason, rfl⟩ := Option.map_eq_some_iff.mp failed
  unfold newRequestErr at reason
  split_ifs at reason
  exact ⟨_, _, by rw [← Option.some.inj reason]⟩

theorem shadowErrs_checked : ∀ (ops : List BatchOp) (shadow : Conn) (start : Nat),
    Checked ops (shadowErrs shadow start ops)
  | [], _, _ => ⟨rfl, by simp [shadowErrs]⟩
  | op :: rest, shadow, start => by
    unfold shadowErrs
    cases checked : shadow.validateTransfer op.req op.data with
    | some err =>
      obtain ⟨message, rfl⟩ := validateTransfer_text checked
      obtain ⟨length, others⟩ := shadowErrs_checked rest shadow (start + 1)
      refine ⟨by simp [length], ?_⟩
      simpa using ⟨⟨_, _, rfl⟩, by simpa using others⟩
    | none =>
      obtain ⟨length, others⟩ := shadowErrs_checked rest
        (shadow.observeTransfer op.req 0 op.data none) (start + 1)
      refine ⟨by simpa using length, ?_⟩
      simpa using others

theorem Checked.joined_quiet {errs : List (Option Err)}
    (checked : Checked ops errs) {err : Err} (joined : joinErrs (errs.filterMap id) = some err) :
    err.quiet = true := by
  refine joinErrs_leaves (fun cause member => ?_) joined
  obtain ⟨own, isErr, same⟩ := List.mem_filterMap.mp member
  obtain ⟨index, message, rfl⟩ := checked.2 own isErr cause same
  rfl

/-- What `validate` finds out. -/
structure Validated (ops : List BatchOp) (l : Link) (errs : List (Option Err)) (err : Option Err)
    (l' : Link) : Prop where
  checked : Checked ops errs
  quiet : ∀ cause, err = some cause → cause.quiet = true
  idle : l' = l ∨ l' = l.tick
  passed : err = none → l.conn.state = .ready ∧ l.conn.validateCompletion = none ∧ Safe l.conn ops

theorem validate_spec (ctx : Ctx) (ops : List BatchOp) (l : Link) :
    Validated ops l (validate ctx ops l).1.1 (validate ctx ops l).1.2 (validate ctx ops l).2 := by
  have requests := requestErrs_checked 0 ops
  unfold validate
  cases joined : joinErrs ((requestErrs 0 ops).filterMap id) with
  | some err =>
    refine ⟨requests, fun cause same => ?_, .inl rfl, by simp [run_pure]⟩
    obtain rfl := Option.some.inj same
    exact requests.joined_quiet joined
  | none =>
    simp only [run_get_bind, run_ite]
    split_ifs with busy
    · refine ⟨requests, fun cause same => ?_, .inl rfl, by simp [run_pure]⟩
      obtain rfl := Option.some.inj same
      rfl
    · have started : l.conn.state = .ready := by simpa using busy
      simp only [run_bind]
      cases ended : (ctxErr ctx l).1 with
      | some err =>
        refine ⟨requests, fun cause same => ?_, .inr rfl, by simp [run_pure]⟩
        obtain rfl := Option.some.inj same
        exact ctxErr_quiet ended
      | none =>
        simp only [run_get_bind, ctxErr_link, Link.tick_conn]
        cases timeout : l.conn.validateCompletion with
        | some err =>
          refine ⟨requests, fun cause same => ?_, .inr rfl, by simp [run_pure]⟩
          obtain rfl := Option.some.inj same
          exact validateCompletion_quiet timeout
        | none =>
          have shadows := shadowErrs_checked ops l.conn 0
          refine ⟨shadows, fun cause same => shadows.joined_quiet same, .inr rfl, ?_⟩
          intro none
          have empty : (shadowErrs l.conn 0 ops).filterMap id = [] := joinErrs_eq_none.mp none
          refine ⟨started, timeout, safe_of_shadowErrs 0 fun err member => ?_⟩
          cases err with
          | none => rfl
          | some cause =>
            have : cause ∈ (shadowErrs l.conn 0 ops).filterMap id :=
              List.mem_filterMap.mpr ⟨_, member, rfl⟩
            rw [empty] at this
            simp at this

theorem transferLimit_fits {env : Env} {limit : Int} (fits : transferLimit env = .ok limit) :
    0 < (limit / fixedFrameBits).toNat := by
  unfold transferLimit fixedFrameBits at fits
  unfold fixedFrameBits
  split at fits
  · obtain rfl := Except.ok.inj fits
    decide
  · split_ifs at fits
    obtain rfl := Except.ok.inj fits
    omega

/-- Every commit meets the specification, on a link that is coherent while ready. -/
theorem commit_spec {l : Link} (coherent : l.conn.state = .ready → Coherent l) (ctx : Ctx)
    (ops : List BatchOp) :
    ∃ good bad lost rest cleanup, Batched ops l (commit ctx ops l).1.1 (commit ctx ops l).1.2
      (commit ctx ops l).2 good bad lost rest cleanup ∧
      (good ++ bad ++ lost ≠ [] → l.conn.state = .ready) := by
  unfold commit
  simp only [run_ite]
  split_ifs with empty
  · subst empty
    exact ⟨_, _, _, _, _, .idleBatch (.refl l) rfl rfl (by simp [run_pure])
      (fun ready => ⟨ready, (coherent ready).tracked ready⟩) (fun _ => rfl) (by simp [run_pure]),
      fun clocked => absurd rfl clocked⟩
  · have valid := validate_spec ctx ops l
    rw [run_bind]
    generalize validate ctx ops l = outcome at valid ⊢
    obtain ⟨⟨errs, err⟩, l₁⟩ := outcome
    simp only at valid ⊢
    have same : l₁.conn = l.conn := by
      rcases valid.idle with rfl | rfl <;> rfl
    have idle : Sends l [] l₁ := by
      rcases valid.idle with rfl | rfl
      · exact .refl _
      · exact .tick l
    have coherent₁ : l₁.conn.state = .ready → Coherent l₁ := by
      intro ready
      rcases valid.idle with rfl | rfl
      · exact coherent ready
      · exact (coherent ready).tick
    cases err with
    | some err =>
      refine ⟨_, _, _, _, _, .idleBatch idle (congrArg Conn.record same) ?_ ?_
        (fun ready => ⟨same ▸ ready, (coherent₁ ready).tracked ready⟩) (by simp [run_pure])
        valid.quiet, fun clocked => absurd rfl clocked⟩
      · simpa [run_pure, resolveInvalid] using valid.checked.1
      · intro result member
        obtain ⟨err, own, rfl⟩ := List.mem_map.mp member
        cases err with
        | none => exact .inl rfl
        | some cause =>
          obtain ⟨index, message, rfl⟩ := valid.checked.2 _ own cause rfl
          exact .inr ⟨index, message, rfl⟩
    | none =>
      obtain ⟨started, timeout, safe⟩ := valid.passed rfl
      rw [← same] at started timeout safe
      have coherent₁ := coherent₁ started
      simp only [run_get_bind, run_ite]
      rw [if_neg (by simp)]
      split_ifs with mode
      · obtain ⟨_, _, _, _, _, batched⟩ :=
          commitSequential_spec ctx ops 0 coherent₁ mode started timeout
        exact ⟨_, _, _, _, _, batched.afterIdle idle same, fun _ => same ▸ started⟩
      · have mode : l₁.conn.response = .overrun := by
          cases response : l₁.conn.response <;> simp_all
        cases limit : transferLimit l₁.env with
        | error err =>
          have quiet : err.quiet = true := by
            unfold transferLimit at limit
            split at limit
            · simp at limit
            · split_ifs at limit
              obtain rfl := Except.error.inj limit
              rfl
          refine ⟨_, _, _, _, _, .idleBatch idle (congrArg Conn.record same)
            (by simp [run_pure, resolveSuffix]) resolveSuffix_unsent
            (fun ready => ⟨same ▸ ready, coherent₁.tracked ready⟩) (by simp [run_pure]) ?_,
            fun _ => same ▸ started⟩
          intro cause failed
          obtain rfl := Option.some.inj failed
          exact quiet
        | ok bits =>
          obtain ⟨_, _, _, _, _, batched⟩ := commitOverrun_spec ctx (transferLimit_fits limit)
            ops.length 0 le_rfl safe mode mode (mode ▸ coherent₁.framed)
            (coherent₁.tracked started) coherent₁.tracked
          exact ⟨_, _, _, _, _, batched.afterIdle idle same, fun _ => same ▸ started⟩

end Ostiole.Swd
