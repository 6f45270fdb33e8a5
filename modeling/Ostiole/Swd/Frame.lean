import Ostiole.Logic.Program
import Ostiole.Swd.Trace
import Ostiole.Swd.Transfer

/-!
# What one frame can do

`Sends` says how the link grows: the log gains the given frames and the
target moves along them. `FrameOutcome` lists every outcome of one frame with
what the host then knows. It is the only statement about the wire that the
routines above it rely on.
-/

namespace Ostiole.Swd

open Ostiole Logic

/-- The link after some frames: schedule kept, time not turned back, log and
target extended together. -/
structure Sends (l : Link) (events : List Event) (l' : Link) : Prop where
  env : l'.env = l.env
  clock : l.clock ≤ l'.clock
  log : l'.log = l.log ++ events
  steps : Steps l.env.world l.target events l'.target

namespace Sends

variable {l l' l'' : Link} {first second events : List Event}

theorem refl (l : Link) : Sends l [] l :=
  ⟨rfl, le_rfl, by simp, .nil _⟩

theorem trans (before : Sends l first l') (after : Sends l' second l'') :
    Sends l (first ++ second) l'' where
  env := after.env.trans before.env
  clock := before.clock.trans after.clock
  log := by rw [after.log, before.log, List.append_assoc]
  steps := before.steps.trans (by simpa [before.env] using after.steps)

theorem trans_silent (before : Sends l events l') (after : Sends l' [] l'') :
    Sends l events l'' := by
  simpa using before.trans after

theorem silent_trans (before : Sends l [] l') (after : Sends l' events l'') :
    Sends l events l'' := by
  simpa using before.trans after

/-- Time alone, or a change of the connection record. -/
theorem idle (l : Link) (conn : Conn) (ticks : Nat) :
    Sends l [] { l with clock := l.clock + ticks, conn := conn } :=
  ⟨rfl, Nat.le_add_right _ _, by simp, .nil _⟩

end Sends

/-! ## Frames of the target are steps -/

section Frames

variable (t : Target) (world : PortWorld) (c : FrameChoice) (req : Request) (data : Word)

/-- The acknowledgement of a refused request. -/
private theorem acknowledge_wait {t : Target} {c : FrameChoice} {req : Request}
    (wait : (t.raised c).acknowledge c req = .wait) (set : t.sticky = true) :
    t.exempt req = true := by
  by_contra exempt
  have sticky : (t.raised c).sticky = true := t.setSticky_sticky_mono _ set
  have notExempt : (t.raised c).exempt req = false := by simpa [Target.raised] using exempt
  simp only [Target.acknowledge, sticky, notExempt] at wait
  split at wait <;> simp at wait

private theorem observeResponse_refused (t : Target) (ack : Ack) :
    t.observeResponse ack false =
      locked (decide (ack = .undefined)) (noted (decide (ack ≠ .ok ∧ t.overrun = true)) t) := by
  cases ack <;> cases overrun : t.overrun <;>
    simp [Target.observeResponse, noted, overrun, locked_false] <;> simp [locked]

private theorem observeResponse_accepted (t : Target) (ack : Ack) :
    t.observeResponse ack true = noted (decide (ack ≠ .ok ∧ t.overrun = true)) t := by
  cases ack <;> cases overrun : t.overrun <;> simp [Target.observeResponse, noted, overrun]

/-- A request that was not accepted, whether or not the host saw its response. -/
private theorem refused_step {t : Target} {c : FrameChoice} {req : Request} (data : Word)
    (refused : (t.raised c).acknowledge c req ≠ .ok) (time : Nat) (seen : Option Ack)
    (delivered : Bool) (received : seen.isSome = true → delivered = true)
    (host : seen = none ∨ seen = some ((t.raised c).acknowledge c req)) :
    Step world t ⟨req, data, time, t.select, seen, delivered, 0, false, false⟩
      ((t.raised c).observeResponse ((t.raised c).acknowledge c req) false) := by
  rw [observeResponse_refused]
  refine .refused c _ _ rfl rfl rfl ?_ ?_ received ?_
  · rcases host with rfl | rfl <;> simp [refused]
  · rcases host with rfl | rfl
    · simp
    · intro wait set
      exact acknowledge_wait (by simpa using wait) set
  · intro _ overrun
    simp [refused, overrun]

/-- A request whose effect the target carried out. -/
private theorem accepted_step {t : Target} {c : FrameChoice} {e : Event}
    (accepts : (t.raised c).accepts c e.req = true)
    (select : e.select = t.select) (accepted : e.accepted = true)
    (delivered : e.delivered = true) (reads : e.req.read = true → e.effective = true)
    (value : e.req.read = true → e.value = ((t.raised c).read world c e.req).1)
    (host : e.seen = none ∨ e.seen = some ((t.raised c).acknowledge c e.req)) :
    Step world t e ((carriedOut world c e (t.raised c)).observeResponse
      ((t.raised c).acknowledge c e.req) true) := by
  have unlocked : t.lockout = false := by
    cases lockout : t.lockout with
    | false => rfl
    | true => simp [Target.accepts, Target.acknowledge, lockout] at accepts
  have kinds : (t.raised c).acknowledge c e.req = .ok ∨
      (t.raised c).acknowledge c e.req = .undefined := by
    unfold Target.accepts at accepts
    split at accepts <;> simp_all
  rw [observeResponse_accepted]
  refine .accepted c _ select accepted delivered reads unlocked ?_ value ?_ ?_
  · intro sticky
    by_contra exempt
    have notExempt : (t.raised c).exempt e.req = false := by simpa [Target.raised] using exempt
    have fault : (t.raised c).acknowledge c e.req = .fault := by
      simp [Target.acknowledge, unlocked, sticky, notExempt]
    rw [fault] at kinds
    simp at kinds
  · intro seen
    rcases host with none | same
    · simp [none] at seen
    · rw [same] at seen
      simp [Option.some.inj seen]
  · rcases host with none | same
    · exact .inl none
    · rw [same]
      rcases kinds with ok | undefined
      · simp [ok]
      · simp [undefined]

/-- A complete frame is a step. -/
theorem frame_step (time : Nat) (seen : Option Ack) {delivered : Bool} (whole : delivered = true)
    (host : seen = none ∨ seen = some (t.frame world c req data).1.reply.ack) :
    Step world t (eventOf time req data (t.frame world c req data).1 seen delivered)
      (t.frame world c req data).2 := by
  subst whole
  by_cases accepts : (t.raised c).accepts c req = true
  · have step := accepted_step world (t := t) (c := c)
      (e := eventOf time req data (t.frame world c req data).1 seen true)
      accepts rfl accepts rfl
      (fun read => by simp_all [eventOf, Target.frame])
      (fun read => by simp_all [eventOf, Target.frame])
      host
    have same : (t.frame world c req data).2 =
        (carriedOut world c (eventOf time req data (t.frame world c req data).1 seen true)
          (t.raised c)).observeResponse ((t.raised c).acknowledge c req) true := by
      simp only [Target.frame, accepts, carriedOut, eventOf]
      cases read : req.read <;> cases drop : c.drop <;> simp [Target.writePhase, drop]
    rw [same]
    exact step
  · have refused : (t.raised c).acknowledge c req ≠ .ok := by
      intro ok
      simp [Target.accepts, ok] at accepts
    have step := refused_step world data refused time seen true (fun _ => rfl) host
    simpa [Target.frame, eventOf, accepts] using step

/-- A header answered without OK is a step the host may have seen. -/
theorem header_step_seen (time : Nat) {delivered : Bool} (whole : delivered = true)
    (refused : (t.header c req).1.reply.ack ≠ .ok) :
    Step world t
      (eventOf time req data (t.header c req).1 (some (t.header c req).1.reply.ack) delivered)
      (t.header c req).2 :=
  refused_step world data refused time _ delivered (fun _ => whole) (.inr rfl)

/-- A header answered with OK and followed by its data is a step. -/
theorem header_write_step (time : Nat) (seen : Option Ack) (later : FrameChoice)
    (read : req.read = false) (ok : (t.header c req).1.reply.ack = .ok)
    (host : seen = none ∨ seen = some .ok) :
    Step world t
      (eventOf time req data
        { (t.header c req).1 with accepted := true, effective := !later.drop } seen true)
      ((t.header c req).2.writePhase later req data) := by
  have ok : (t.raised c).acknowledge c req = .ok := ok
  have step := accepted_step world (t := t) (c := c)
    (e := eventOf time req data
      { (t.header c req).1 with accepted := true, effective := !later.drop } seen true)
    (by simp [eventOf, Target.accepts, ok]) rfl rfl rfl (by simp [eventOf, read])
    (by simp [eventOf, read]) (by simpa [eventOf, ok] using host)
  have same : (t.header c req).2.writePhase later req data =
      (carriedOut world c (eventOf time req data
        { (t.header c req).1 with accepted := true, effective := !later.drop } seen true)
          (t.raised c)).observeResponse ((t.raised c).acknowledge c req) true := by
    rw [ok, observeResponse_accepted]
    cases drop : later.drop <;>
      simp [Target.header, Target.writePhase, carriedOut, eventOf, read, drop, noted, ok,
        Target.observeResponse]
  rw [same]
  exact step

/-- A header whose data phase never followed is a step. -/
theorem header_step (time : Nat) {delivered : Bool} (cut : delivered = false) :
    Step world t (eventOf time req data (t.header c req).1 none delivered) (t.header c req).2 := by
  subst cut
  by_cases refused : (t.raised c).acknowledge c req = .ok
  · simp only [Target.header, eventOf, refused]
    have same : (t.raised c).observeResponse .ok false =
        locked false (noted false (t.raised c)) := by
      simp [Target.observeResponse, noted]
    rw [same]
    exact .refused c false false rfl rfl rfl (by simp) (by simp) (by simp) (by simp)
  · exact refused_step world data refused time none false (by simp) (.inl rfl)

end Frames

/-! ## Outcomes of a frame -/

/-- Errors after which the host does not know whether the target acted. -/
inductive LostErr : Err → Prop
  | wire (fault : WireFault) : LostErr fault.err
  | protocol : LostErr errProtocol
  | cleanup (ack : Ack) (ackErr : Err) (fault : WireFault) (refused : ackError ack = some ackErr) :
      LostErr (.join ackErr fault.err)

/-- What the host knows after one frame. -/
inductive FrameOutcome (e : Event) : Result → Prop
  | done (seen : e.seen = some .ok) : FrameOutcome e (if e.req.read then e.value else 0, none)
  | parity (seen : e.seen = some .ok) (read : e.req.read = true) :
      FrameOutcome e (0, some errParity)
  | wait (seen : e.seen = some .wait) : FrameOutcome e (0, some errWait)
  | fault (seen : e.seen = some .fault) : FrameOutcome e (0, some errFault)
  | lost {err : Err} (lost : LostErr err) : FrameOutcome e (0, some err)

theorem decode_outcome (reply : Target.Reply) (e : Event) (seen : e.seen = some reply.ack)
    (value : e.value = reply.data) : FrameOutcome e (decodeFixedFrame reply e.req) := by
  unfold decodeFixedFrame
  cases ack : reply.ack with
  | ok =>
    rw [ack] at seen
    cases read : e.req.read with
    | false => simpa [read, ackError] using FrameOutcome.done (e := e) seen
    | true =>
      cases parity : reply.parityOk with
      | false => simpa [ackError] using FrameOutcome.parity seen read
      | true => simpa [read, ackError, value] using FrameOutcome.done (e := e) seen
  | wait => exact .wait (by rw [seen, ack])
  | fault => exact .fault (by rw [seen, ack])
  | undefined => exact .lost .protocol

/-- One clocked frame of a request. -/
structure Clocked (req : Request) (data : Word) (l : Link) (e : Event) (l' : Link) : Prop where
  sends : Sends l [e] l'
  conn : l'.conn = l.conn
  req : e.req = req
  data : e.data = data
  time : l.clock ≤ e.time ∧ e.time < l'.clock

section Exchange

variable {world : PortWorld}

/-- Consecutive frames are steps. -/
theorem frames_steps (choice : Nat → FrameChoice) (time : Nat) (host : Ack → Option Ack)
    (sees : ∀ ack, host ack = none ∨ host ack = some ack) (frames : List (Request × Word)) :
    ∀ (index : Nat) (t : Target),
      Steps world t
        (frames.zipWith (fun frame s => eventOf time frame.1 frame.2 s (host s.reply.ack) true)
          (Target.frames world choice index frames t).1)
        (Target.frames world choice index frames t).2 := by
  induction frames with
  | nil => exact fun index t => .nil t
  | cons frame rest ih =>
    intro index t
    exact .cons (frame_step t world (choice index) frame.1 frame.2 time _ rfl (sees _))
      (ih (index + 1) _)

theorem frames_length (world : PortWorld) (choice : Nat → FrameChoice)
    (frames : List (Request × Word)) :
    ∀ (index : Nat) (t : Target),
      (Target.frames world choice index frames t).1.length = frames.length := by
  induction frames with
  | nil => exact fun index t => rfl
  | cons frame rest ih =>
    intro index t
    simp [Target.frames, ih]

/-- A frame that never reached the target changes nothing. -/
theorem lost_step (t : Target) (time : Nat) (frame : Request × Word) :
    Step world t (lostEvent time t frame) t := by
  have same : locked false (noted false (t.raised .quiet)) = t := by
    simp [noted, Target.raised, FrameChoice.quiet, Target.setSticky]
  have step : Step world t (lostEvent time t frame)
      (locked false (noted false (t.raised .quiet))) :=
    .refused .quiet false false rfl rfl rfl (by simp [lostEvent]) (by simp [lostEvent])
      (by simp [lostEvent]) (by simp [lostEvent])
  rwa [same] at step

theorem lost_steps (t : Target) (time : Nat) (frames : List (Request × Word)) :
    Steps world t (frames.map (lostEvent time t)) t := by
  induction frames with
  | nil => exact .nil t
  | cons frame rest ih =>
    exact .cons (lost_step t time frame) ih

/-- The log entries of served frames repeat the requests and show the replies. -/
theorem served_events (time : Nat) (host : Ack → Option Ack) (frames : List (Request × Word)) :
    ∀ served : List Target.Served, served.length = frames.length →
      let events := frames.zipWith
        (fun frame s => eventOf time frame.1 frame.2 s (host s.reply.ack) true) served
      events.map (fun e => (e.req, e.data)) = frames ∧
        (∀ e ∈ events, e.time = time ∧ e.delivered = true ∧ ∃ ack, e.seen = host ack) ∧
        List.Forall₂ (fun e reply => e.seen = host reply.ack ∧ e.value = reply.data)
          events (served.map (·.reply)) := by
  induction frames with
  | nil =>
    intro served sameLength
    obtain rfl := List.eq_nil_of_length_eq_zero sameLength
    simp
  | cons frame rest ih =>
    intro served sameLength
    cases served with
    | nil => simp at sameLength
    | cons first others =>
      obtain ⟨requests, times, replies⟩ := ih others (by simpa using sameLength)
      refine ⟨?_, ?_, ?_⟩
      · simpa [eventOf] using requests
      · simpa [eventOf] using times
      · exact .cons ⟨rfl, rfl⟩ replies

end Exchange

/-- What an exchange of fixed frames shows the host. -/
def Replies (events : List Event) : Except Err (List Target.Reply) → Prop
  | .ok replies => List.Forall₂ (fun e reply => e.seen = some reply.ack ∧ e.value = reply.data)
      events replies
  | .error err => (∃ fault : WireFault, err = fault.err) ∧ ∀ e ∈ events, e.seen = none

/-- A frame is delivered only after every frame before it. -/
def InOrder (events : List Event) : Prop :=
  events.Pairwise fun e later => later.delivered = true → e.delivered = true

/-- An exchange of fixed frames. -/
structure Exchanged (frames : List (Request × Word)) (l : Link) (events : List Event)
    (replies : Except Err (List Target.Reply)) (l' : Link) : Prop where
  sends : Sends l events l'
  conn : l'.conn = l.conn
  clock : l'.clock = l.clock + 1
  requests : events.map (fun e => (e.req, e.data)) = frames
  times : ∀ e ∈ events, e.time = l.clock
  inOrder : InOrder events
  replies : Replies events replies

theorem exchangeFixed_spec (frames : List (Request × Word)) (l : Link) :
    Ends (exchangeFixed frames) l fun answer l' => ∃ events,
      Exchanged frames l events answer l' := by
  unfold exchangeFixed Ends
  cases failure : (l.env.exchange l.clock).failure with
  | none =>
    obtain ⟨requests, times, replies⟩ := served_events l.clock some frames _
      (frames_length l.env.world (l.env.exchange l.clock).frames frames 0 l.target)
    simp only [failure]
    exact ⟨_, ⟨rfl, Nat.le_succ _, rfl, frames_steps _ l.clock some (fun _ => .inr rfl) _ _ _⟩,
      rfl, rfl, requests, fun e member => (times e member).1,
      List.pairwise_of_forall_mem_list fun e member _ _ _ => (times e member).2.1, replies⟩
  | some fault =>
    let reached := frames.take (l.env.exchange l.clock).delivered
    obtain ⟨requests, times, replies⟩ := served_events l.clock (fun _ => none) reached _
      (frames_length l.env.world (l.env.exchange l.clock).frames reached 0 l.target)
    simp only [failure]
    refine ⟨_, ⟨rfl, Nat.le_succ _, rfl, (frames_steps _ l.clock (fun _ => none)
      (fun _ => .inl rfl) reached 0 _).trans (lost_steps _ l.clock _)⟩, rfl, rfl, ?_, ?_, ?_,
      ⟨fault, rfl⟩, ?_⟩
    · rw [List.map_append, requests, List.map_map]
      simp [reached, Function.comp_def, lostEvent]
    · intro e member
      rcases List.mem_append.mp member with member | member
      · exact (times e member).1
      · obtain ⟨frame, _, rfl⟩ := List.mem_map.mp member
        rfl
    · refine List.pairwise_append.mpr ⟨?_, ?_, ?_⟩
      · exact List.pairwise_of_forall_mem_list fun e member _ _ _ => (times e member).2.1
      · exact List.pairwise_map.mpr (List.pairwise_of_forall fun _ _ lost => by
          simp [lostEvent] at lost)
      · exact fun e member _ _ _ => (times e member).2.1
    · intro e member
      rcases List.mem_append.mp member with member | member
      · exact (times e member).2.2.elim fun _ seen => seen
      · obtain ⟨frame, _, rfl⟩ := List.mem_map.mp member
        rfl

section Transfer

variable (req : Request) (value : Word) (l : Link)

private theorem transferOverrun_spec :
    Ends (transferOverrun req value) l fun result l' =>
      ∃ e, Clocked req value l e l' ∧ FrameOutcome e result := by
  refine .bind _ (exchangeFixed_spec [(req, value)] l) ?_
  rintro answer l' ⟨events, sends, conn, clock, requests, times, -, replies⟩
  obtain ⟨e, rfl⟩ : ∃ e, events = [e] := by
    have sameLength := congrArg List.length requests
    simpa [List.length_eq_one_iff] using sameLength
  obtain ⟨rfl, rfl⟩ : e.req = req ∧ e.data = value := by simpa using requests
  have time : e.time = l.clock := times e (by simp)
  have clocked : Clocked e.req e.data l e l' := ⟨sends, conn, rfl, rfl, by omega, by omega⟩
  cases answer with
  | error err =>
    obtain ⟨⟨fault, rfl⟩, _⟩ := replies
    exact .pure ⟨e, clocked, .lost (.wire fault)⟩
  | ok answers =>
    simp only [Replies, List.forall₂_cons_left_iff, List.forall₂_nil_left_iff] at replies
    obtain ⟨reply, rest, ⟨seen, data⟩, rfl, rfl⟩ := replies
    exact .pure ⟨e, clocked, decode_outcome reply e seen data⟩

/-- A simple response after its first exchange: nothing is logged yet, and every
continuation of the frame is a step from where the request began. -/
private structure Halfway (req : Request) (value : Word) (l : Link) (served : Target.Served)
    (l₁ : Link) : Prop where
  env : l₁.env = l.env
  log : l₁.log = l.log
  conn : l₁.conn = l.conn
  clock : l₁.clock = l.clock + 1
  /-- Without write data the frame ends as the header left it. -/
  ends : ∀ seen, (seen = none ∨ (seen = some served.reply.ack ∧
      (req.read = true ∨ served.reply.ack ≠ .ok))) →
    Step l.env.world l.target
      (eventOf l₁.clock req value served seen (req.read || seen.isSome)) l₁.target
  /-- With write data it ends in the data phase. -/
  writes : req.read = false → served.reply.ack = .ok → ∀ (c : FrameChoice) (seen : Option Ack),
    (seen = none ∨ seen = some .ok) →
    Step l.env.world l.target
      (eventOf l₁.clock req value { served with accepted := true, effective := !c.drop } seen true)
      (l₁.target.writePhase c req value)

private theorem exchangeHeader_spec :
    (∃ e fault, Clocked req value l e (exchangeHeader req value l).2 ∧
      (exchangeHeader req value l).1 = .error (WireFault.err fault)) ∨
    (∃ served, (exchangeHeader req value l).1 = .ok served ∧
      Halfway req value l served (exchangeHeader req value l).2) := by
  unfold exchangeHeader
  cases failure : (l.env.exchange l.clock).failure with
  | some fault =>
    left
    simp only [failure]
    split_ifs with lost read
    · exact ⟨_, fault, ⟨⟨rfl, Nat.le_succ _, rfl, .single (lost_step _ _ _)⟩, rfl, rfl, rfl,
        le_rfl, Nat.lt_succ_self _⟩, rfl⟩
    · exact ⟨_, fault, ⟨⟨rfl, Nat.le_succ _, rfl,
        .single (frame_step _ _ _ _ _ _ none read (.inl rfl))⟩, rfl, rfl, rfl,
        le_rfl, Nat.lt_succ_self _⟩, rfl⟩
    · exact ⟨_, fault, ⟨⟨rfl, Nat.le_succ _, rfl,
        .single (header_step _ _ _ _ _ _ (by simpa using read))⟩, rfl, rfl,
        rfl, le_rfl, Nat.lt_succ_self _⟩, rfl⟩
  | none =>
    right
    simp only [failure]
    cases read : req.read with
    | true =>
      refine ⟨_, rfl, rfl, rfl, rfl, rfl, ?_, by simp [read]⟩
      intro seen host
      exact frame_step _ _ _ _ _ _ _ (by simp [read]) (host.imp id And.left)
    | false =>
      refine ⟨_, rfl, rfl, rfl, rfl, rfl, ?_, ?_⟩
      · rintro seen (rfl | ⟨rfl, read' | refused⟩)
        · exact header_step _ _ _ _ _ _ (by simp [read])
        · simp [read] at read'
        · exact header_step_seen _ _ _ _ _ _ (by simp) refused
      · intro _ ok later seen host
        exact header_write_step _ _ _ _ _ _ _ later read ok host

/-- The data phase of a simple response. -/
private theorem exchangeData_spec {req : Request} {value : Word} {l l₁ : Link}
    {served : Target.Served} (halfway : Halfway req value l served l₁) :
    ∃ e, Clocked req value l e (exchangeData req value served l₁).2 ∧
      e.value = served.reply.data ∧
      (((exchangeData req value served l₁).1 = none ∧ e.seen = some served.reply.ack) ∨
        ∃ fault : WireFault, (exchangeData req value served l₁).1 = some fault.err) := by
  unfold exchangeData
  have extend {e : Event} {t : Target} (step : Step l.env.world l.target e t) :
      Sends l [e] { l₁.tick with target := t, log := l₁.log ++ [e] } :=
    ⟨halfway.env, by simp [Link.tick, halfway.clock]; omega, by simp [halfway.log], .single step⟩
  have time : l.clock ≤ l₁.clock ∧ l₁.clock < l₁.clock + 1 := by
    rw [halfway.clock]; omega
  by_cases writes : (!req.read && served.reply.ack == .ok &&
      ((l₁.env.exchange l₁.clock).failure.isNone ||
        (l₁.env.exchange l₁.clock).delivered != 0)) = true
  · simp only [writes, if_true, Bool.or_true]
    obtain ⟨⟨write, ok⟩, _⟩ : (req.read = false ∧ served.reply.ack = .ok) ∧ _ := by
      simpa using writes
    refine ⟨_, ⟨extend (halfway.writes write ok _ _ ?_), halfway.conn, rfl, rfl, time⟩, rfl, ?_⟩
    · cases (l₁.env.exchange l₁.clock).failure <;> simp [ok]
    · cases (l₁.env.exchange l₁.clock).failure with
      | none => exact .inl ⟨rfl, rfl⟩
      | some fault => exact .inr ⟨fault, rfl⟩
  · simp only [writes, Bool.false_eq_true, if_false, Bool.or_false]
    refine ⟨_, ⟨extend (halfway.ends _ ?_), halfway.conn, rfl, rfl, time⟩, rfl, ?_⟩
    · cases failure : (l₁.env.exchange l₁.clock).failure with
      | none =>
        refine .inr ⟨rfl, ?_⟩
        by_cases ok : served.reply.ack = .ok <;> simp_all
      | some fault => exact .inl rfl
    · cases (l₁.env.exchange l₁.clock).failure with
      | none => exact .inl ⟨rfl, rfl⟩
      | some fault => exact .inr ⟨fault, rfl⟩

/-- The result of each ending of a simple response. -/
private theorem simple_outcome {served : Target.Served} {l₁ : Link} {e : Event}
    (requested : e.req = req) (data : e.value = served.reply.data)
    (outcome : ((exchangeData req value served l₁).1 = none ∧ e.seen = some served.reply.ack) ∨
      ∃ fault : WireFault, (exchangeData req value served l₁).1 = some fault.err) :
    let ending : LinkM Result := match ackError served.reply.ack with
      | some ackErr => finishFailed req value served ackErr
      | none => if req.read then readData req value served else writeData req value served
    (ending l₁).2 = (exchangeData req value served l₁).2 ∧ FrameOutcome e (ending l₁).1 := by
  subst requested
  intro ending
  have refused (ack : Ack) (ackErr : Err) (isAck : served.reply.ack = ack)
      (isErr : ackError ack = some ackErr)
      (exact : e.seen = some ack → FrameOutcome e (0, some ackErr)) :
      (finishFailed e.req value served ackErr l₁).2 = (exchangeData e.req value served l₁).2 ∧
        FrameOutcome e (finishFailed e.req value served ackErr l₁).1 := by
    unfold finishFailed
    simp only [run_bind]
    obtain ⟨passed, seen⟩ | ⟨fault, failed⟩ := outcome
    · rw [passed]
      exact ⟨rfl, exact (by rw [seen, isAck])⟩
    · rw [failed]
      exact ⟨rfl, .lost (.cleanup ack ackErr fault isErr)⟩
  cases ack : served.reply.ack with
  | ok =>
    simp only [ending, ack, ackError]
    cases read : e.req.read with
    | true =>
      unfold readData
      simp only [run_bind, if_true]
      obtain ⟨passed, seen⟩ | ⟨fault, failed⟩ := outcome
      · rw [passed]
        rw [ack] at seen
        cases parity : served.reply.parityOk with
        | false => exact ⟨rfl, .parity seen read⟩
        | true =>
          have done := FrameOutcome.done (e := e) seen
          rw [read, data] at done
          exact ⟨rfl, done⟩
      · rw [failed]
        exact ⟨rfl, .lost (.wire fault)⟩
    | false =>
      unfold writeData
      simp only [run_bind, Bool.false_eq_true, if_false]
      obtain ⟨passed, seen⟩ | ⟨fault, failed⟩ := outcome
      · rw [passed]
        rw [ack] at seen
        have done := FrameOutcome.done (e := e) seen
        rw [read] at done
        exact ⟨rfl, done⟩
      · rw [failed]
        exact ⟨rfl, .lost (.wire fault)⟩
  | wait =>
    simp only [ending, ack, ackError]
    exact refused .wait errWait ack rfl .wait
  | fault =>
    simp only [ending, ack, ackError]
    exact refused .fault errFault ack rfl .fault
  | undefined =>
    simp only [ending, ack, ackError]
    exact refused .undefined errProtocol ack rfl fun _ => .lost .protocol

private theorem transferSimple_spec :
    Ends (transferSimple req value) l fun result l' =>
      ∃ e, Clocked req value l e l' ∧ FrameOutcome e result := by
  unfold transferSimple Ends
  simp only [run_bind]
  obtain ⟨e, fault, clocked, failed⟩ | ⟨served, passed, halfway⟩ := exchangeHeader_spec req value l
  · rw [failed]
    exact ⟨e, clocked, .lost (.wire fault)⟩
  · rw [passed]
    obtain ⟨e, clocked, data, outcome⟩ := exchangeData_spec halfway
    obtain ⟨same, result⟩ := simple_outcome req value clocked.req data outcome
    rw [← same] at clocked
    exact ⟨e, clocked, result⟩

/-- One frame in either response mode. -/
theorem transferFrame_spec :
    Ends (transferFrame req value) l fun result l' =>
      ∃ e, Clocked req value l e l' ∧ FrameOutcome e result :=
  .get_bind (.ite (fun _ => transferOverrun_spec req value l)
    fun _ => transferSimple_spec req value l)

end Transfer

end Ostiole.Swd
