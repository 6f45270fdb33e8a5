import Ostiole.Swd.Outcome

/-!
# Decoding a chunk

The stages of `finishOverrunChunk` over the frames of one exchange, each as a
cut of the list: where framing was lost, where the first WAIT or FAULT stands,
where the suffix after it was not abandoned.
-/

namespace Ostiole.Swd

open Ostiole Logic

variable {frame : Decoded} {e : Event} {l : Link} {world : PortWorld} {t t' : Target}

/-- A decoded frame beside its log entry. -/
structure Decodes (e : Event) (frame : Decoded) : Prop where
  same : frame.decoded = frame.result.err
  outcome : Confirmed e frame.result ∨ (e.seen = some .wait ∧ frame.result = ⟨0, some errWait⟩) ∨
    Faulted e frame.result ∨ (e.seen = some .undefined ∧ frame.result = ⟨0, some errProtocol⟩)
  exempt : frame.exempt = true → exemptKind e.req = true

theorem decode_kinds (reply : Target.Reply) (e : Event) (seen : e.seen = some reply.ack)
    (value : e.value = reply.data) {result : BatchResult}
    (decoded : decodeFixedFrame reply e.req = (result.value, result.err)) :
    Confirmed e result ∨ (e.seen = some .wait ∧ result = ⟨0, some errWait⟩) ∨
      Faulted e result ∨ (e.seen = some .undefined ∧ result = ⟨0, some errProtocol⟩) := by
  obtain ⟨data, err⟩ := result
  unfold decodeFixedFrame at decoded
  cases ack : reply.ack with
  | ok =>
    left
    rw [ack] at seen
    refine ⟨seen, ?_⟩
    cases read : e.req.read with
    | false => simp_all [ackError]
    | true => cases parity : reply.parityOk <;> simp_all [ackError]
  | wait => simp_all [ackError]
  | fault => simp_all [ackError, Faulted]
  | undefined => simp_all [ackError]

theorem stickyExempt_kind {c : Conn} {req : Request} (exempt : c.stickyExempt req = true) :
    exemptKind req = true := by
  simp only [Conn.stickyExempt, Bool.or_eq_true, Bool.and_eq_true] at exempt
  obtain (dpidr | abort) | ⟨read, _⟩ := exempt
  · simp [exemptKind, dpidr]
  · simp [exemptKind, abort]
  · simp [exemptKind, read]

/-! ## Observation -/

/-- WAIT and FAULT leave the tracked bank as it was. -/
theorem observeTransfer_fault (c : Conn) (req : Request) (data : Word) :
    c.observeTransfer req 0 data (some errFault) = c := by
  unfold Conn.observeTransfer Conn.observePendingSelection Conn.resolveBankZeroCTRLSTAT
  simp [completeTransfer, isExactly, errFault]

theorem observeTransfer_wait (c : Conn) (req : Request) (data : Word) :
    c.observeTransfer req 0 data (some errWait) = c := by
  unfold Conn.observeTransfer Conn.observePendingSelection Conn.resolveBankZeroCTRLSTAT
  simp [completeTransfer, isExactly, errWait]

/-- The connection after observing one decoded frame. -/
def observeFrame (c : Conn) (e : Event) (result : BatchResult) : Conn :=
  if isExactly result.err .swdWait && c.selectPending then c
  else c.observeTransfer e.req result.value e.data result.err

section Observe

variable {world : PortWorld} {t t' : Target} {e : Event} {c : Conn} {frame : Decoded}

/-- One decoded frame keeps the tracking of a connection that stays ready. -/
theorem observeFrame_tracked (transition : Step world t e t') (decodes : Decodes e frame)
    (tracked : c.state = .ready → Tracked c t)
    (ready : (observeFrame c e frame.result).state = .ready) :
    Tracked (observeFrame c e frame.result) t' ∧ c.state = .ready ∧
      frame.decoded ≠ some errProtocol := by
  rw [decodes.same]
  obtain ⟨seen, result⟩ | ⟨seen, result⟩ | ⟨seen, result⟩ | ⟨seen, result⟩ := decodes.outcome
  · have kind : AcceptedErr e.req frame.result.err := by
      obtain result | ⟨result, read⟩ := result
      · exact .inl (by simp [result])
      · exact .inr ⟨by simp [result], read⟩
    have waits : isExactly frame.result.err .swdWait = false := by
      obtain none | ⟨parity, _⟩ := kind
      · simp [none, isExactly]
      · simp [parity, isExactly, errParity]
    have observed : observeFrame c e frame.result =
        c.observeTransfer e.req frame.result.value e.data frame.result.err := by
      simp [observeFrame, waits]
    rw [observed] at ready ⊢
    have before := (observeTransfer_ready _ _ _ _ _ ready).1
    refine ⟨(tracked before).accepted transition (transition.accepted_of_ok seen) _ kind,
      before, ?_⟩
    obtain none | ⟨parity, _⟩ := kind
    · simp [none]
    · simp [parity, errParity, errProtocol]
  · have same : observeFrame c e frame.result = c := by
      cases pending : c.selectPending with
      | true => simp [observeFrame, result, isExactly, errWait, pending]
      | false =>
        simp only [observeFrame, result, pending, Bool.and_false]
        exact observeTransfer_wait _ _ _
    rw [same] at ready ⊢
    exact ⟨(tracked ready).refused transition (transition.refused_of_seen (.inl seen)), ready,
      by simp [result, errWait, errProtocol]⟩
  · have same : observeFrame c e frame.result = c := by
      simp only [observeFrame, result]
      exact observeTransfer_fault _ _ _
    rw [same] at ready ⊢
    exact ⟨(tracked ready).refused transition (transition.refused_of_seen (.inr seen)), ready,
      by simp [result, errFault, errProtocol]⟩
  · have observed : observeFrame c e frame.result =
        c.observeTransfer e.req 0 e.data (some errProtocol) := by
      simp [observeFrame, result, isExactly, errProtocol]
    rw [observed] at ready
    have complete := (observeTransfer_ready _ _ _ _ _ ready).2
    simp [completeTransfer, isExactly, errProtocol] at complete

@[simp] theorem observeFrame_record (c : Conn) (e : Event) (result : BatchResult) :
    (observeFrame c e result).record = c.record := by
  unfold observeFrame
  split_ifs
  · rfl
  · exact observeTransfer_record _ _ _ _ _

end Observe

/-- What observation leaves: log entries paired with decoded frames. -/
structure Observed (events : List Event) (l : Link) (t' : Target) (frames : List Decoded)
    (l' : Link) (pairs : List (Event × Decoded)) : Prop where
  link : l' = { l with conn := l'.conn }
  record : l'.conn.record = l.conn.record
  events : pairs.map (·.1) = events
  frames : pairs.map (·.2) = frames
  decodes : ∀ p ∈ pairs, Decodes p.1 p.2
  ready : l'.conn.state = .ready → Tracked l'.conn t' ∧ l.conn.state = .ready ∧
    ∀ p ∈ pairs, p.2.decoded ≠ some errProtocol

theorem observeOverrunChunk_spec {events : List Event}
    (steps : Steps world t events t') :
    ∀ {replies : List Target.Reply},
      List.Forall₂ (fun e reply => e.seen = some reply.ack ∧ e.value = reply.data) events replies →
      ∀ l : Link, (l.conn.state = .ready → Tracked l.conn t) →
        ∃ pairs, Observed events l t' (observeOverrunChunk (events.map Event.op) replies l).1.2
          (observeOverrunChunk (events.map Event.op) replies l).2 pairs := by
  induction steps with
  | nil t =>
    intro replies answers l tracked
    obtain rfl := List.forall₂_nil_left_iff.mp answers
    exact ⟨[], rfl, rfl, rfl, rfl, by simp, fun ready => ⟨tracked ready, ready, by simp⟩⟩
  | @cons t t' t'' e events transition later ih =>
    intro replies answers l tracked
    obtain ⟨reply, others, ⟨seen, value⟩, answersLater, rfl⟩ :=
      List.forall₂_cons_left_iff.mp answers
    let decoded := decodeFixedFrame reply e.req
    let result : BatchResult := ⟨decoded.1, decoded.2⟩
    let frame : Decoded := ⟨result, decoded.2, l.conn.stickyExempt e.req⟩
    have decodes : Decodes e frame :=
      ⟨rfl, decode_kinds reply e seen value rfl, stickyExempt_kind⟩
    let next : Link := { l with conn := observeFrame l.conn e result }
    have unfolded : observeOverrunChunk ((e :: events).map Event.op) (reply :: others) l =
        (((isExactly decoded.2 .swdWait && l.conn.selectPending) ||
            (observeOverrunChunk (events.map Event.op) others next).1.1,
          frame :: (observeOverrunChunk (events.map Event.op) others next).1.2),
          (observeOverrunChunk (events.map Event.op) others next).2) := by
      simp only [List.map_cons, observeOverrunChunk, Event.op, next, observeFrame, frame, result]
      rw [run_get_bind]
      cases isExactly (decodeFixedFrame reply e.req).2 .swdWait && l.conn.selectPending <;>
        simp only [decoded] <;> rfl
    obtain ⟨pairs, link, record, sameEvents, sameFrames, all, ready⟩ :=
      ih answersLater next fun isReady =>
        (observeFrame_tracked transition decodes tracked isReady).1
    rw [unfolded]
    refine ⟨(e, frame) :: pairs, ?_, ?_, ?_, ?_, ?_, ?_⟩
    · exact link
    · exact record.trans (observeFrame_record _ _ _)
    · simp [sameEvents]
    · simp [sameFrames]
    · simpa using ⟨decodes, fun a b member => all (a, b) member⟩
    · intro isReady
      obtain ⟨ending, middle, noneLost⟩ := ready isReady
      obtain ⟨_, before, kept⟩ := observeFrame_tracked transition decodes tracked middle
      exact ⟨ending, before, by simpa using ⟨kept, fun a b member => noneLost (a, b) member⟩⟩

/-! ## The cuts -/

/-- The connection asks for repair. -/
def Link.repaired (l : Link) : Link := { l with conn := l.conn.requireRepair }

private theorem findIdx?_cut {α : Type} {holds : α → Bool} : ∀ {list : List α} {index : Nat},
    list.findIdx? holds = some index →
      ∃ before found after, list = before ++ found :: after ∧ before.length = index ∧
        holds found = true ∧ ∀ other ∈ before, holds other = false
  | [], _, found => by simp at found
  | first :: rest, index, found => by
    rw [List.findIdx?_cons] at found
    split at found
    · next here =>
        obtain rfl := Option.some.inj found
        exact ⟨[], first, rest, rfl, rfl, here, by simp⟩
    · next other =>
        obtain ⟨index, later, rfl⟩ := Option.map_eq_some_iff.mp found
        obtain ⟨before, hit, after, rfl, rfl, hits, none⟩ := findIdx?_cut later
        exact ⟨first :: before, hit, after, rfl, by simp, hits,
          by simpa using ⟨by simpa using other, none⟩⟩

private theorem markIndeterminate_middle (cause : Err) (first middle last : List Decoded)
    (start stop : Nat) (begins : start = first.length)
    (ends : stop = first.length + middle.length) :
    markIndeterminate start stop cause (first ++ (middle ++ last)) =
      first ++ (middle.map (·.lose cause) ++ last) := by
  subst begins ends
  unfold markIndeterminate
  rw [List.take_left, ← List.append_assoc first middle last, ← List.length_append, List.take_left,
    List.drop_left, List.drop_left, List.append_assoc]

/-- Everything from an undefined acknowledgement on is lost. -/
private theorem loseProtocol_spec (pairs : List (Event × Decoded)) (l : Link) :
    ∃ front back, pairs = front ++ back ∧ (∀ p ∈ front, p.2.decoded ≠ some errProtocol) ∧
      (∀ p ∈ back.head?, p.2.decoded = some errProtocol) ∧
      loseProtocol (pairs.map (·.2)) l =
        ((front.map (·.2) ++ back.map (·.2.lose errProtocol), front.length),
          if back = [] then l else l.repaired) := by
  unfold loseProtocol
  cases lost : firstFrameError (pairs.map (·.2)) [.swdProtocol] with
  | none =>
    refine ⟨pairs, [], by simp, ?_, by simp, by simp; rfl⟩
    simpa [firstFrameError, isExactly, errProtocol] using lost
  | some index =>
    rw [firstFrameError, List.findIdx?_map] at lost
    obtain ⟨front, first, rest, rfl, rfl, found, others⟩ := findIdx?_cut lost
    refine ⟨front, first :: rest, rfl, ?_, ?_, ?_⟩
    · simpa [isExactly, errProtocol] using others
    · simpa [isExactly, errProtocol] using found
    · have marked := markIndeterminate_middle errProtocol (front.map (·.2))
        ((first :: rest).map (·.2)) [] front.length
        ((front ++ first :: rest).map (·.2)).length (by simp) (by simp)
      rw [List.append_nil, List.append_nil, ← List.map_append] at marked
      simp only [run_bind, marked, List.map_map, if_neg (List.cons_ne_nil first rest)]
      rfl

/-- A WAIT or FAULT and the abandoned frames after it. -/
private inductive Refused : List (Event × Decoded) → Prop
  | none : Refused []
  | first {first : Event × Decoded} {others : List (Event × Decoded)}
      (answer : first.1.seen = some .wait ∧ first.2.result = ⟨0, some errWait⟩ ∨
        Faulted first.1 first.2.result)
      (suffix : ∀ p ∈ others, Faulted p.1 p.2.result ∨
        (Confirmed p.1 p.2.result ∧ exemptKind p.1.req = true)) :
      Refused (first :: others)

private theorem confirmed_of_other (decodes : Decodes e frame)
    (protocol : frame.decoded ≠ some errProtocol)
    (answered : [Sentinel.swdWait, .swdFault].any (isExactly frame.decoded) = false) :
    Confirmed e frame.result := by
  rw [decodes.same] at protocol answered
  obtain confirmed | ⟨_, result⟩ | ⟨_, result⟩ | ⟨_, result⟩ := decodes.outcome
  · exact confirmed
  · simp [result, isExactly, errWait] at answered
  · simp [result, isExactly, errFault] at answered
  · simp [result] at protocol

private theorem abandoned_kinds (decodes : Decodes e frame)
    (abandoned : frame.abandoned = true) :
    Faulted e frame.result ∨ (Confirmed e frame.result ∧ exemptKind e.req = true) := by
  simp only [Decoded.abandoned, Bool.or_eq_true, Bool.and_eq_true] at abandoned
  obtain confirmed | ⟨_, result⟩ | faulted | ⟨_, result⟩ := decodes.outcome
  · obtain fault | ⟨exempt, _⟩ := abandoned
    · obtain ⟨_, done | ⟨parity, _⟩⟩ := confirmed
      · simp [done, isExactly] at fault
      · simp [parity, isExactly, errParity] at fault
    · exact .inr ⟨confirmed, decodes.exempt exempt⟩
  · simp [result, isExactly, errWait] at abandoned
  · exact .inl faulted
  · simp [result, isExactly, errProtocol] at abandoned

/-- The suffix of the first WAIT or FAULT, up to a frame that was not abandoned. -/
private theorem checkAbandonedSuffix_spec (start : Nat) (front : List (Event × Decoded))
    (decodes : ∀ p ∈ front, Decodes p.1 p.2)
    (protocol : ∀ p ∈ front, p.2.decoded ≠ some errProtocol) (tail : List Decoded) (l : Link) :
    ∃ good bad more suffixErr, front = good ++ bad ++ more ∧
      (∀ p ∈ good, Confirmed p.1 p.2.result) ∧ Refused bad ∧
      (∀ p ∈ more.head?, p.2.abandoned = false) ∧
      (more = [] → suffixErr = none) ∧ (∀ err, suffixErr = some err → err.ofSwd = true) ∧
      checkAbandonedSuffix start front.length (front.map (·.2) ++ tail) l =
        ((good.map (·.2) ++ bad.map (·.2) ++ more.map (·.2.lose notAbandonedErr) ++ tail,
          suffixErr), if more = [] then l else l.repaired) := by
  unfold checkAbandonedSuffix
  have whole : firstFrameError (front.map (·.2) ++ tail) [.swdWait, .swdFault] =
      (firstFrameError (front.map (·.2)) [.swdWait, .swdFault]).or
        ((firstFrameError tail [.swdWait, .swdFault]).map (· + front.length)) := by
    simp [firstFrameError, List.findIdx?_append]
  rw [whole]
  cases failed : firstFrameError (front.map (·.2)) [.swdWait, .swdFault] with
  | none =>
    have confirmed : ∀ p ∈ front, Confirmed p.1 p.2.result := by
      intro p member
      refine confirmed_of_other (decodes p member) (protocol p member) ?_
      exact List.findIdx?_eq_none_iff.mp failed p.2 (List.mem_map_of_mem member)
    refine ⟨front, [], [], none, by simp, confirmed, .none, by simp, by simp, by simp, ?_⟩
    -- Whatever failed stands behind the frames in question.
    cases firstFrameError tail [.swdWait, .swdFault] with
    | none => simp; rfl
    | some index =>
      have empty : unexpectedFrame (index + front.length) front.length
          (front.map (·.2) ++ tail) = none := by
        have beyond : ((front.map (·.2) ++ tail).take front.length).drop
            (index + front.length + 1) = [] := by
          apply List.drop_eq_nil_of_le
          simp
          omega
        rw [unexpectedFrame, beyond]
        rfl
      simp only [Option.map_some, Option.none_or, validateAbandonedSuffix, empty]
      simp
      rfl
  | some index =>
    rw [firstFrameError, List.findIdx?_map] at failed
    obtain ⟨good, first, others, rfl, rfl, found, clean⟩ := findIdx?_cut failed
    have confirmed : ∀ p ∈ good, Confirmed p.1 p.2.result := fun p member =>
      confirmed_of_other (decodes p (by simp [member])) (protocol p (by simp [member]))
        (clean p member)
    have answer : first.1.seen = some .wait ∧ first.2.result = ⟨0, some errWait⟩ ∨
        Faulted first.1 first.2.result := by
      have decoded := decodes first (by simp)
      simp only [Function.comp_apply, decoded.same] at found
      obtain ⟨_, done | ⟨parity, _⟩⟩ | waited | faulted | ⟨_, lost⟩ := decoded.outcome
      · simp [done, isExactly] at found
      · simp [parity, isExactly, errParity] at found
      · exact .inl waited
      · exact .inr faulted
      · simp [lost, isExactly, errProtocol] at found
    have window : (((good ++ first :: others).map (·.2) ++ tail).take
        (good ++ first :: others).length).drop (good.length + 1) = others.map (·.2) := by
      have length : (good ++ first :: others).length =
          ((good ++ first :: others).map (·.2)).length := by simp
      rw [length, List.take_left, List.map_append, List.map_cons, List.append_cons]
      exact List.drop_left' (by simp)
    simp only [Option.some_or, validateAbandonedSuffix, unexpectedFrame, window,
      List.findIdx?_map]
    cases unexpected : others.findIdx? ((fun frame => !frame.abandoned) ∘ (·.2)) with
    | none =>
      refine ⟨good, first :: others, [], none, by simp, confirmed, .first answer ?_, by simp,
        by simp, by simp, ?_⟩
      · intro p member
        refine abandoned_kinds (decodes p (by simp [member])) ?_
        simpa using List.findIdx?_eq_none_iff.mp unexpected p member
      · simp
        rfl
    | some index =>
      obtain ⟨kept, hit, more, rfl, rfl, notAbandoned, abandoned⟩ := findIdx?_cut unexpected
      refine ⟨good, first :: kept, hit :: more,
        some (.text
          (s!"swd: operation {start + (good.length + 1 + kept.length)} completed unexpectedly " ++
            s!"after operation {start + good.length} failed")),
        by simp, confirmed, .first answer ?_, ?_, by simp, ?_, ?_⟩
      · intro p member
        exact abandoned_kinds (decodes p (by simp [member])) (by simpa using abandoned p member)
      · simpa using notAbandoned
      · intro err same
        obtain rfl := Option.some.inj same
        rfl
      · have marked := markIndeterminate_middle notAbandonedErr
          ((good ++ first :: kept).map (·.2)) ((hit :: more).map (·.2)) tail
          (good.length + 1 + kept.length) (good ++ first :: (kept ++ hit :: more)).length
          (by simp; omega) (by simp; omega)
        have same : (good ++ first :: (kept ++ hit :: more)).map (·.2) ++ tail =
            (good ++ first :: kept).map (·.2) ++ ((hit :: more).map (·.2) ++ tail) := by simp
        simp only [Option.map_some, run_bind, same, marked, if_neg (List.cons_ne_nil hit more)]
        simp [run_pure, modifyConn, Link.repaired, Function.comp_def]

/-! ## The cleanup after a WAIT -/

/-- The connection's ABORT keeps a recorded WDATAERR. -/
theorem Tracked.cleanedUp {c : Conn}
    (tracked : Tracked c t) (transition : Step world t e t')
    (request : e.req = rawRequest false 0x00) (data : e.data = clearStickyOverrun) :
    Tracked c t' := by
  refine tracked.kept (transition.select_kept fun _ => by rw [request]; decide)
    (transition.effect.writeDataError_mono fun _ _ => by rw [data]; decide)

theorem Framed.cleanedUp {mode : ResponseMode}
    (framed : Framed mode t) (transition : Step world t e t')
    (request : e.req = rawRequest false 0x00) : Framed mode t' :=
  framed.step transition (Event.keepsFraming_of_other (by rw [request]; decide))

@[simp] theorem repaired_record (l : Link) : l.repaired.conn.record = l.conn.record :=
  requireRepair_record l.conn

theorem Link.repaired_ready (ready : l.repaired.conn.state = .ready) : False := by
  have state : l.conn.requireRepair.state = .ready := ready
  unfold Conn.requireRepair at state
  split_ifs at state with idle
  · simp [idle] at state
  · simp [Conn.invalidateBank, Conn.confirmBank] at state

/-- Errors of the frame level come from the wire or this package. -/
theorem FrameOutcome.ofWire {result : Result} (outcome : FrameOutcome e result) {err : Err}
    (failed : result.2 = some err) : err.ofWire = true := by
  have wire (fault : WireFault) : fault.err.ofWire = true := by cases fault <;> rfl
  cases outcome with
  | done => simp at failed
  | parity | wait | fault =>
    obtain rfl := Option.some.inj failed
    rfl
  | lost kind =>
    obtain rfl := Option.some.inj failed
    cases kind with
    | wire fault => exact wire fault
    | protocol => rfl
    | cleanup ack ackErr fault refused =>
      have ackSwd : ackErr.ofWire = true := by
        cases ack <;> simp [ackError] at refused <;> subst refused <;> rfl
      simp [Err.ofWire, Err.leaves] at ackSwd wire ⊢
      exact ⟨ackSwd, wire fault⟩

/-- What the cleanup after a WAIT leaves. -/
structure Cleaned (l : Link) (err : Option Err) (l' : Link) (cleanup : List Event) : Prop where
  sends : Sends l cleanup l'
  conn : l'.conn = l.conn ∨ l'.conn = l.conn.requireRepair
  aborts : ∀ e ∈ cleanup, e.req = rawRequest false 0x00 ∧ e.data = clearStickyOverrun
  single : cleanup.length ≤ 1
  framed : ∀ {mode : ResponseMode}, Framed mode l.target → Framed mode l'.target
  ready : l'.conn.state = .ready → l.conn.state = .ready ∧ err = none ∧
    (Tracked l.conn l.target → Tracked l'.conn l'.target)
  ofWire : ∀ cause, err = some cause → cause.ofWire = true

theorem Cleaned.record {l' : Link} {err : Option Err} {cleanup : List Event}
    (cleaned : Cleaned l err l' cleanup) : l'.conn.record = l.conn.record := by
  rcases cleaned.conn with same | repaired
  · rw [same]
  · rw [repaired, requireRepair_record]

theorem requireRepair_requireRepair (c : Conn) :
    c.requireRepair.requireRepair = c.requireRepair := by
  unfold Conn.requireRepair
  split_ifs <;> simp_all [Conn.invalidateBank, Conn.confirmBank]

theorem Cleaned.repair {l' : Link} {err : Option Err} {cleanup : List Event}
    (cleaned : Cleaned l err l' cleanup) : Cleaned l err l'.repaired cleanup where
  sends := cleaned.sends.trans_silent (.idle l' _ 0)
  conn := by
    right
    rcases cleaned.conn with same | repaired
    · exact congrArg Conn.requireRepair same
    · exact (congrArg Conn.requireRepair repaired).trans (requireRepair_requireRepair _)
  aborts := cleaned.aborts
  single := cleaned.single
  framed := cleaned.framed
  ready ready := (Link.repaired_ready ready).elim
  ofWire := cleaned.ofWire

theorem clearOverrunAfterWAIT_spec (l : Link) :
    Ends clearOverrunAfterWAIT l fun err l' => ∃ cleanup, Cleaned l err l' cleanup := by
  refine .bind _ (transferFrame_spec (rawRequest false 0x00) (1#32 <<< 4) l) ?_
  rintro ⟨value, err⟩ l' ⟨e, clocked, outcome⟩
  have step : Step l.env.world l.target e l'.target := by
    cases clocked.sends.steps with
    | cons transition later => cases later; exact transition
  have base (err : Option Err) (ready : l'.conn.state = .ready → err = none)
      (ofWire : ∀ cause, err = some cause → cause.ofWire = true) : Cleaned l err l' [e] := by
    refine ⟨clocked.sends, .inl clocked.conn, by simpa using ⟨clocked.req, clocked.data⟩,
      le_rfl, fun framed => framed.cleanedUp step clocked.req, fun isReady => ?_, ofWire⟩
    refine ⟨by rwa [clocked.conn] at isReady, ready isReady, fun tracked => ?_⟩
    rw [clocked.conn]
    exact tracked.cleanedUp step clocked.req clocked.data
  cases err with
  | none => exact .pure ⟨[e], base none (fun _ => rfl) (by simp)⟩
  | some err =>
    have wire : err.ofWire = true := outcome.ofWire rfl
    have silent := (base none (fun _ => rfl) (by simp)).repair
    refine ⟨[e], silent.sends, silent.conn, silent.aborts, silent.single, silent.framed,
      fun ready => (Link.repaired_ready ready).elim, fun cause same => ?_⟩
    obtain rfl := Option.some.inj same
    exact wire

theorem cleanupPackedWAIT_spec (req : Request) (waitWithPending : Bool) (l : Link) :
    Ends (cleanupPackedWAIT req waitWithPending) l fun err l' => ∃ cleanup,
      Cleaned l err l' cleanup := by
  have stalled : Cleaned l (some abortWAITErr) l.repaired [] := by
    refine ⟨.idle l _ 0, .inr rfl, by simp, by simp, fun framed => framed, ?_, ?_⟩
    · exact fun ready => (Link.repaired_ready ready).elim
    · intro cause same
      obtain rfl := Option.some.inj same
      rfl
  obtain ⟨cleanup, cleaned⟩ := clearOverrunAfterWAIT_spec l
  unfold cleanupPackedWAIT
  cases req.isABORTWrite <;> cases waitWithPending
  · exact ⟨cleanup, cleaned⟩
  · exact ⟨cleanup, cleaned.repair⟩
  · exact ⟨[], stalled⟩
  · exact ⟨[], stalled.repair⟩

/-! ## All stages -/

/-- What the stages make of the frames of one exchange. -/
structure Finished (pairs : List (Event × Decoded)) (l : Link) (results : List BatchResult)
    (err : Option Err) (l' : Link) (good bad lost : List (Event × BatchResult))
    (cleanup : List Event) : Prop where
  sends : Sends l cleanup l'
  record : l'.conn.record = l.conn.record
  events : (good ++ bad ++ lost).map (·.1) = pairs.map (·.1)
  outcomes : results = (good ++ bad ++ lost).map (·.2)
  confirmed : ∀ p ∈ good, Confirmed p.1 p.2
  abandoned : Abandoned bad
  unknown : ∀ p ∈ lost, Lost p.2
  unknownFirst : ∀ p ∈ lost.head?, isErr p.2.err .swdFault = false
  aborts : ∀ e ∈ cleanup, e.req = rawRequest false 0x00 ∧ e.data = clearStickyOverrun
  single : cleanup.length ≤ 1
  needed : bad = [] → cleanup = []
  framed : ∀ {mode : ResponseMode}, Framed mode l.target → Framed mode l'.target
  ready : l'.conn.state = .ready → l.conn.state = .ready ∧ lost = [] ∧
    (Tracked l.conn l.target → Tracked l'.conn l'.target)
  clean : err = none ↔ bad = [] ∧ lost = [] ∧ ∀ p ∈ good, p.2.err = none
  ofSwd : ∀ cause, err = some cause → cause.ofSwd = true

/-- The result a pair stands for. -/
private def resultOf (p : Event × Decoded) : Event × BatchResult := (p.1, p.2.result)

/-- The result of a pair marked as lost. -/
private def lostOf (cause : Err) (p : Event × Decoded) : Event × BatchResult :=
  (p.1, (p.2.lose cause).result)

private theorem lostOf_lost (decodes : Decodes e frame) {cause : Err}
    (swd : cause.ofSwd = true) : Lost (lostOf cause (e, frame)).2 := by
  unfold lostOf Decoded.lose
  cases failed : frame.result.err with
  | none => exact ⟨cause, swd, by simp⟩
  | some err =>
    refine ⟨.join err cause, ?_, by simp⟩
    have own : err.ofSwd = true := by
      obtain confirmed | ⟨_, result⟩ | faulted | ⟨_, result⟩ := decodes.outcome
      · exact confirmed.ofSwd failed
      · rw [result] at failed
        obtain rfl := Option.some.inj failed
        rfl
      · exact faulted.ofSwd failed
      · rw [result] at failed
        obtain rfl := Option.some.inj failed
        rfl
    simpa [Err.ofSwd, Err.leaves] using And.intro own swd

private theorem lostOf_not_fault (decodes : Decodes e frame)
    {cause : Err} (other : cause.is .swdFault = false)
    (notFault : frame.result.err ≠ some errFault) :
    isErr (lostOf cause (e, frame)).2.err .swdFault = false := by
  unfold lostOf Decoded.lose
  obtain ⟨_, done | ⟨parity, _⟩⟩ | ⟨_, result⟩ | ⟨_, result⟩ | ⟨_, result⟩ := decodes.outcome
  · simp [done, isErr, Err.is, errIndeterminate, other]
  · simp [parity, isErr, Err.is, errIndeterminate, errParity, other]
  · simp [result, isErr, Err.is, errIndeterminate, errWait, other]
  · simp [result] at notFault
  · simp [result, isErr, Err.is, errIndeterminate, errProtocol, other]

private theorem chunkErrs_eq_nil {start : Nat} {frames : List Decoded} :
    chunkErrs start frames = [] ↔ ∀ frame ∈ frames, frame.result.err = none := by
  simp only [chunkErrs, List.filterMap_eq_nil_iff, List.mem_mapIdx]
  constructor
  · intro none frame member
    obtain ⟨index, bound, rfl⟩ := List.getElem_of_mem member
    simpa using none _ ⟨index, bound, rfl⟩
  · rintro none _ ⟨index, bound, rfl⟩
    simp [none _ (List.getElem_mem bound)]

private theorem chunkErrs_ofSwd {start : Nat} {frames : List Decoded}
    (all : ∀ frame ∈ frames, ∀ err, frame.result.err = some err → err.ofSwd = true) :
    ∀ err ∈ chunkErrs start frames, err.ofSwd = true := by
  intro err member
  simp only [chunkErrs, List.mem_filterMap, List.mem_mapIdx, id_eq] at member
  obtain ⟨_, ⟨index, bound, rfl⟩, found⟩ := member
  obtain ⟨cause, failed, rfl⟩ := Option.map_eq_some_iff.mp found
  exact all _ (List.getElem_mem bound) cause failed

private theorem modify_middle {α : Type} (change : α → α) (found : α) (after : List α) :
    ∀ before : List α, (before ++ found :: after).modify before.length change =
      before ++ change found :: after
  | [] => rfl
  | first :: rest => congrArg (first :: ·) (modify_middle change found after rest)

private theorem clearPackedWAIT_busy (busy : l.conn.state ≠ .ready) (ops : List BatchOp)
    (waitWithPending : Bool) (frames : List Decoded) :
    clearPackedWAIT ops waitWithPending frames l = (frames, l) := by
  unfold clearPackedWAIT
  rw [run_get_bind]
  cases firstFrameError frames [.swdWait] with
  | none => rfl
  | some index =>
    cases state : l.conn.state with
    | ready => exact absurd state busy
    | idle | repair => rfl

/-- The only WAIT of a chunk whose suffix was abandoned is the first failure. -/
private theorem firstWAIT {good bad : List (Event × Decoded)}
    (confirmed : ∀ p ∈ good, Confirmed p.1 p.2.result) (refused : Refused bad)
    (decodes : ∀ p ∈ good ++ bad, Decodes p.1 p.2) {index : Nat}
    (waited : firstFrameError ((good ++ bad).map (·.2)) [.swdWait] = some index) :
    ∃ first others, bad = first :: others ∧ index = good.length ∧ first.1.seen = some .wait ∧
      first.2.result = ⟨0, some errWait⟩ ∧
      ∀ p ∈ others, Faulted p.1 p.2.result ∨
        (Confirmed p.1 p.2.result ∧ exemptKind p.1.req = true) := by
  have quiet (p : Event × Decoded) (decodes : Decodes p.1 p.2)
      (kind : Faulted p.1 p.2.result ∨ Confirmed p.1 p.2.result) :
      [Sentinel.swdWait].any (isExactly p.2.decoded) = false := by
    rw [decodes.same]
    obtain ⟨_, fault⟩ | ⟨_, done | ⟨parity, _⟩⟩ := kind
    · simp [fault, isExactly, errFault]
    · simp [done, isExactly]
    · simp [parity, isExactly, errParity]
  rw [firstFrameError, List.findIdx?_map, List.findIdx?_append] at waited
  have noneGood : good.findIdx? ((fun frame : Decoded => [Sentinel.swdWait].any
      (isExactly frame.decoded)) ∘ (·.2)) = none :=
    List.findIdx?_eq_none_iff.mpr fun p member =>
      quiet p (decodes p (by simp [member])) (.inr (confirmed p member))
  rw [noneGood, Option.none_or] at waited
  obtain ⟨offset, found, rfl⟩ := Option.map_eq_some_iff.mp waited
  cases refused with
  | none => simp at found
  | @first first others answer suffix =>
    have noneLater : others.findIdx? ((fun frame : Decoded => [Sentinel.swdWait].any
        (isExactly frame.decoded)) ∘ (·.2)) = none :=
      List.findIdx?_eq_none_iff.mpr fun p member =>
        quiet p (decodes p (by simp [member])) ((suffix p member).imp_right And.left)
    rw [List.findIdx?_cons, noneLater] at found
    obtain ⟨seen, waits⟩ | faulted := answer
    · split at found
      · obtain rfl := Option.some.inj found
        exact ⟨first, others, rfl, by simp, seen, waits, suffix⟩
      · simp at found
    · have other := quiet first (decodes first (by simp)) (.inl faulted)
      simp only [Function.comp_apply, other] at found
      simp at found

/-- The cleanup stage on a chunk without lost frames. -/
private theorem clearPackedWAIT_ready (ready : l.conn.state = .ready)
    {good bad : List (Event × Decoded)} (confirmed : ∀ p ∈ good, Confirmed p.1 p.2.result)
    (refused : Refused bad) (decodes : ∀ p ∈ good ++ bad, Decodes p.1 p.2) (time : Nat)
    (times : ∀ p ∈ bad, p.1.time = time) (waitWithPending : Bool) :
    ∃ results cleanup err, Abandoned results ∧ results.map (·.1) = bad.map (·.1) ∧
      (results = [] → cleanup = []) ∧
        (clearPackedWAIT ((good ++ bad).map (·.1.op)) waitWithPending
        ((good ++ bad).map (·.2)) l).1.map
        (·.result) = (good.map resultOf ++ results).map (·.2) ∧
      Cleaned l err
        (clearPackedWAIT ((good ++ bad).map (·.1.op)) waitWithPending ((good ++ bad).map (·.2)) l).2
        cleanup := by
  have unchanged (answers : Refused bad) : Abandoned (bad.map resultOf) := by
    cases answers with
    | none => exact .none
    | @first first others answer suffix =>
      refine .refused (answer.imp_left fun ⟨seen, result⟩ => ⟨seen, .inl result⟩) ?_
      simp only [List.mem_map, forall_exists_index, and_imp, forall_apply_eq_imp_iff₂]
      exact fun p member => ⟨suffix p member,
        (times p (by simp [member])).trans (times first (by simp)).symm⟩
  have idle : Cleaned l none l [] :=
    ⟨.refl l, .inl rfl, by simp, by simp, fun framed => framed,
      fun isReady => ⟨isReady, rfl, fun tracked => tracked⟩, by simp⟩
  unfold clearPackedWAIT
  rw [run_get_bind]
  cases waited : firstFrameError ((good ++ bad).map (·.2)) [.swdWait] with
  | none =>
    refine ⟨bad.map resultOf, [], none, unchanged refused, by simp [resultOf, Function.comp_def],
      fun _ => rfl, ?_, idle⟩
    simp [run_pure, resultOf, Function.comp_def]
  | some index =>
    obtain ⟨first, others, rfl, rfl, seen, waits, suffix⟩ :=
      firstWAIT confirmed refused decodes waited
    have op : ((good ++ first :: others).map (·.1.op))[good.length]? = some first.1.op := by
      simp
    obtain ⟨cleanup, cleaned⟩ := cleanupPackedWAIT_spec first.1.op.req waitWithPending l
    simp only [ready, op, run_bind]
    generalize cleanupPackedWAIT first.1.op.req waitWithPending l = outcome at cleaned ⊢
    obtain ⟨err, l'⟩ := outcome
    simp only at cleaned
    cases err with
    | none =>
      refine ⟨(first :: others).map resultOf, cleanup, none, unchanged refused,
        by simp [resultOf, Function.comp_def], by simp, ?_, cleaned⟩
      simp [addResultErr, run_pure, resultOf, Function.comp_def]
    | some cause =>
      let stuck : Event × BatchResult := (first.1, ⟨0, some (.join errWait cause)⟩)
      refine ⟨stuck :: others.map resultOf, cleanup, some cause, .refused (.inl ⟨seen, .inr
        ⟨cause, cleaned.ofWire cause rfl, rfl⟩⟩) ?_, by simp [stuck, resultOf, Function.comp_def],
        by simp, ?_, cleaned⟩
      · simp only [List.mem_map, forall_exists_index, and_imp, forall_apply_eq_imp_iff₂]
        exact fun p member => ⟨suffix p member,
          (times p (by simp [member])).trans (times first (by simp)).symm⟩
      · simp only [addResultErr, run_pure, List.map_append, List.map_cons]
        rw [show good.length = (good.map (·.2)).length by simp, modify_middle]
        simp [stuck, resultOf, Function.comp_def, waits, Err.joined]

/-- The joined error of a chunk is nil exactly when every frame succeeded. -/
private theorem chunkErr_spec (start : Nat) (frames : List Decoded)
    {good bad lost : List (Event × BatchResult)} (suffixErr : Option Err)
    (same : frames.map (·.result) = (good ++ bad ++ lost).map (·.2))
    (confirmed : ∀ p ∈ good, Confirmed p.1 p.2) (abandoned : Abandoned bad)
    (unknown : ∀ p ∈ lost, Lost p.2) (noSuffix : lost = [] → suffixErr = none)
    (suffixSwd : ∀ err, suffixErr = some err → err.ofSwd = true) :
    ((joinErrs (chunkErrs start frames ++ suffixErr.toList)).map (chunkErr start) = none ↔
      bad = [] ∧ lost = [] ∧ ∀ p ∈ good, p.2.err = none) ∧
    ∀ cause, (joinErrs (chunkErrs start frames ++ suffixErr.toList)).map (chunkErr start) =
      some cause → cause.ofSwd = true := by
  have results (holds : BatchResult → Prop) : (∀ frame ∈ frames, holds frame.result) ↔
      ∀ p ∈ good ++ bad ++ lost, holds p.2 := by
    rw [← List.forall_mem_map (f := fun frame : Decoded => frame.result) (P := holds), same,
      List.forall_mem_map]
  constructor
  · rw [Option.map_eq_none_iff, joinErrs_eq_none, List.append_eq_nil_iff, chunkErrs_eq_nil,
      results fun result => result.err = none]
    constructor
    · rintro ⟨none, _⟩
      refine ⟨?_, ?_, fun p member => none p (by simp [member])⟩
      · cases abandoned with
        | none => rfl
        | @refused first others answer suffix =>
          have failed := none first (by simp)
          obtain ⟨_, result | ⟨_, _, result⟩⟩ | ⟨_, result⟩ := answer <;> simp [result] at failed
      · refine List.eq_nil_iff_forall_not_mem.mpr fun p member => ?_
        obtain ⟨_, _, failed⟩ := unknown p member
        simp [none p (by simp [member])] at failed
    · rintro ⟨rfl, rfl, none⟩
      exact ⟨by simpa using none, by simp [noSuffix rfl]⟩
  · intro cause failed
    obtain ⟨joined, joins, rfl⟩ := Option.map_eq_some_iff.mp failed
    change joined.ofSwd = true
    refine joinErrs_leaves (fun err member => ?_) joins
    rcases List.mem_append.mp member with own | suffix
    · refine chunkErrs_ofSwd ?_ err own
      rw [results fun result => ∀ err, result.err = some err → err.ofSwd = true]
      intro p member err failed
      rcases List.mem_append.mp member with member | member
      · rcases List.mem_append.mp member with member | member
        · exact (confirmed p member).ofSwd failed
        · exact abandoned.ofSwd p member err failed
      · exact (unknown p member).ofSwd failed
    · exact suffixSwd err (by simpa using suffix)

theorem finishOverrunChunk_spec {pairs : List (Event × Decoded)} {time : Nat}
    (decodes : ∀ p ∈ pairs, Decodes p.1 p.2) (times : ∀ p ∈ pairs, p.1.time = time)
    (start : Nat) (waitWithPending : Bool) :
    ∃ good bad lost cleanup, Finished pairs l
      (finishOverrunChunk start (pairs.map (·.1.op)) (pairs.map (·.2)) waitWithPending l).1.1
      (finishOverrunChunk start (pairs.map (·.1.op)) (pairs.map (·.2)) waitWithPending l).1.2
      (finishOverrunChunk start (pairs.map (·.1.op)) (pairs.map (·.2)) waitWithPending l).2
      good bad lost cleanup := by
  obtain ⟨front, back, rfl, clear, protocol, loses⟩ := loseProtocol_spec pairs l
  have decodesFront : ∀ p ∈ front, Decodes p.1 p.2 := fun p member => decodes p (by simp [member])
  obtain ⟨good, bad, more, suffixErr, rfl, confirmed, refused, unexpected, noSuffix, suffixSwd,
    checks⟩ := checkAbandonedSuffix_spec start front decodesFront clear
      (back.map (·.2.lose errProtocol)) (if back = [] then l else l.repaired)
  unfold finishOverrunChunk
  simp only [run_bind, loses, checks]
  have abandons : Abandoned (bad.map resultOf) := by
    cases refused with
    | none => exact .none
    | @first first others answer suffix =>
      refine .refused (answer.imp_left fun ⟨seen, result⟩ => ⟨seen, .inl result⟩) ?_
      simp only [List.mem_map, forall_exists_index, and_imp, forall_apply_eq_imp_iff₂]
      exact fun p member => ⟨suffix p member,
        (times p (by simp [member])).trans (times first (by simp)).symm⟩
  have confirms : ∀ p ∈ good.map resultOf, Confirmed p.1 p.2 := by
    simp only [List.mem_map, forall_exists_index, and_imp, forall_apply_eq_imp_iff₂]
    exact confirmed
  by_cases settled : (more = [] ∧ back = []) ∧ l.conn.state = .ready
  · obtain ⟨⟨rfl, rfl⟩, ready⟩ := settled
    obtain ⟨results, cleanup, err, abandoned, sameEvents, needed, sameResults, cleaned⟩ :=
      clearPackedWAIT_ready ready confirmed refused
        (fun p member => decodes p (by simpa using member)) time
        (fun p member => times p (by simp [member])) waitWithPending
    have simplified : good.map (·.2) ++ bad.map (·.2) ++
        ([] : List (Event × Decoded)).map (·.2.lose notAbandonedErr) ++
        ([] : List (Event × Decoded)).map (·.2.lose errProtocol) = (good ++ bad).map (·.2) := by
      simp
    simp only [simplified, List.append_nil, if_true, run_pure]
    generalize clearPackedWAIT ((good ++ bad).map (·.1.op)) waitWithPending
      ((good ++ bad).map (·.2))
      l = outcome at sameResults cleaned ⊢
    obtain ⟨frames, l'⟩ := outcome
    simp only at sameResults cleaned
    have whole : frames.map (·.result) =
        (good.map resultOf ++ results ++ []).map (fun p : Event × BatchResult => p.2) := by
      simpa using sameResults
    have errs := chunkErr_spec start frames suffixErr whole confirms abandoned (by simp)
      (fun _ => noSuffix rfl) suffixSwd
    exact ⟨good.map resultOf, results, [], cleanup, cleaned.sends, cleaned.record,
      by simp [sameEvents, resultOf, Function.comp_def], by simpa using sameResults, confirms,
      abandoned, by simp, by simp, cleaned.aborts, cleaned.single, needed, cleaned.framed,
      fun isReady => ⟨ready, rfl, (cleaned.ready isReady).2.2⟩, errs.1, errs.2⟩
  · let lost := more.map (lostOf notAbandonedErr) ++ back.map (lostOf errProtocol)
    obtain ⟨l', ends⟩ : ∃ l' : Link, (if more = [] then (if back = [] then l else l.repaired)
      else (if back = [] then l else l.repaired).repaired) = l' := ⟨_, rfl⟩
    have moved : l' = l ∧ more = [] ∧ back = [] ∨ l' = l.repaired ∨ l' = l.repaired.repaired := by
      rw [← ends]
      split_ifs <;> simp_all
    rw [ends]
    have busy : l'.conn.state ≠ .ready := by
      intro ready
      obtain ⟨same, noMore, noBack⟩ | same | same := moved
      · exact settled ⟨⟨noMore, noBack⟩, same ▸ ready⟩
      · exact Link.repaired_ready (same ▸ ready)
      · exact Link.repaired_ready (same ▸ ready)
    simp only [clearPackedWAIT_busy busy, run_pure]
    have unknown : ∀ p ∈ lost, Lost p.2 := by
      intro p member
      simp only [lost, List.mem_append, List.mem_map] at member
      obtain ⟨q, member, rfl⟩ | ⟨q, member, rfl⟩ := member
      · exact lostOf_lost (decodes q (by simp [member])) rfl
      · exact lostOf_lost (decodes q (by simp [member])) rfl
    have first : ∀ p ∈ lost.head?, isErr p.2.err .swdFault = false := by
      intro p member
      cases more with
      | cons hit others =>
        obtain rfl : lostOf notAbandonedErr hit = p := by simpa [lost] using member
        refine lostOf_not_fault (decodes hit (by simp)) rfl fun fault => ?_
        have kept := unexpected hit (by simp)
        simp [Decoded.abandoned, fault, isExactly, errFault] at kept
      | nil =>
        cases back with
        | nil => simp [lost] at member
        | cons hit others =>
          obtain rfl : lostOf errProtocol hit = p := by simpa [lost] using member
          refine lostOf_not_fault (decodes hit (by simp)) rfl fun fault => ?_
          have isProtocol := protocol hit (by simp)
          rw [(decodes hit (by simp)).same, fault] at isProtocol
          simp [errFault, errProtocol] at isProtocol
    have sameResults : (good.map (·.2) ++ bad.map (·.2) ++ more.map (·.2.lose notAbandonedErr) ++
        back.map (·.2.lose errProtocol)).map (·.result) =
          (good.map resultOf ++ bad.map resultOf ++ lost).map (·.2) := by
      simp [lost, resultOf, lostOf, Function.comp_def]
    have errs := chunkErr_spec start _ suffixErr sameResults confirms
      abandons unknown (fun none => noSuffix (by
        simpa [lost] using (List.append_eq_nil_iff.mp none).1)) suffixSwd
    refine ⟨good.map resultOf, bad.map resultOf, lost, [], ?_, ?_, ?_, sameResults, confirms,
      abandons, unknown, first, by simp, by simp, fun _ => rfl, ?_, fun ready => absurd ready busy,
        errs.1, errs.2⟩
    · obtain ⟨rfl, _⟩ | rfl | rfl := moved
      · exact .refl _
      · exact .idle l _ 0
      · exact .idle l _ 0
    · obtain ⟨rfl, _⟩ | rfl | rfl := moved <;> simp
    · simp [lost, resultOf, lostOf, Function.comp_def]
    · obtain ⟨rfl, _⟩ | rfl | rfl := moved <;> exact fun framed => framed

end Ostiole.Swd
