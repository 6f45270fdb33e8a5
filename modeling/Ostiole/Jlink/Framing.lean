import Ostiole.Jlink.Transport

/-!
# Framing of J-Link responses

However transfers split, fail or are cancelled, a command that fails after a part of it
may have been accepted poisons the session for good. If the probe emits the documented
number of bytes for every command it has received, no response byte outlives its
command: a command that succeeds returns what the probe emitted for it.
-/

namespace Ostiole.Jlink

open Ostiole Logic

/-! ## Commands -/

/-- A command begins. -/
def Entry.Begins (entry : Entry) : Prop := ∃ request, entry.event = .begins request

/-- A part of a command. -/
def Entry.within (entry : Entry) : Bool :=
  match entry.event with
  | .begins _ => false
  | _ => true

/-- Nothing is buffered, half received or outgoing. -/
def Idle (session : Session) (probe : Probe) : Prop := session.input = [] ∧ probe = ⟨[], []⟩

/-- How a command ends: with nothing buffered, with the session poisoned, or with no part
of it accepted. The bytes of a command that succeeds are those a conforming probe
emitted for it. -/
def Outcome (conforms : Prop) (request : Bytes) (body : List Entry) (last : Entry)
    (result : Except Err Bytes) : Prop :=
  match result with
  | .ok bytes => last.session.poisoned = false ∧ last.session.input = [] ∧
      (conforms → answers body = [(request, bytes)])
  | .error _ => last.session.poisoned = true ∨ Unsent body

/-- What a command does. One to a conforming probe starts where nothing is owed. -/
structure Settles (conforms : Prop) (marker : Entry) (block : List Entry) : Prop where
  idle : conforms → marker.session.poisoned = false → Idle marker.session marker.probe
  ends : ∃ request body last result, marker.event = .begins request ∧ block = body ++ [last] ∧
    last.event = .returned result ∧ Outcome conforms request body last result

/-- What is kept between commands, to a probe that may conform. -/
structure Framed (conforms : Prop) (w : World) : Prop where
  probe : conforms → w.Conforms
  guarded : Guarded w
  buffered : w.session.poisoned = false → w.session.input = []
  idle : conforms → w.session.poisoned = false → Idle w.session w.probe
  settled : Followed Entry.Begins Entry.within (Settles conforms) w.log
  limit : w.session.transferBits ≤ defaultTransferBits

/-- What the body of a command does that succeeds: it leaves nothing buffered, and has
taken from a conforming probe all of its response. -/
structure Succeeds (request : Bytes) (w : World) (bytes : Bytes) (w' : World)
    (block : List Entry) : Prop where
  began : w.session.poisoned = false
  ran : Ran w w' block
  sound : w'.session.poisoned = false
  input : w'.session.input = []
  owed : w.Conforms → w.probe = ⟨[], []⟩ →
    w'.probe = ⟨[], []⟩ ∧ answers block = [(request, bytes)]

/-- The body of a command succeeds with its response, or fails for good. -/
def Carries (request : Bytes) (body : JlinkM Bytes) : Prop :=
  ∀ w : World, (w.session.poisoned = false → w.session.input = []) →
    Yields body w (fun bytes w' => ∃ block, Succeeds request w bytes w' block)
      (fun _ w' => ∃ block, Failed w w' block)

/-- A program keeps what is kept between commands. -/
def Keeps {α : Type} (program : JlinkM α) : Prop :=
  ∀ (conforms : Prop) (w : World), Framed conforms w →
    Yields program w (fun _ w' => Framed conforms w') fun _ w' => Framed conforms w'

section Command

variable {conforms : Prop} {w w' : World} {request : Bytes} {body : JlinkM Bytes}

/-- Marks submit nothing. -/
theorem Guarded.mark {event : Event} (guarded : Guarded w)
    (silent : ∀ output err, event ≠ .submitted output err) :
    Guarded { w with log := w.log ++ [⟨w.session, w.probe, event⟩] } :=
  guarded.snoc fun ⟨output, err, same⟩ => absurd same (silent output err)

/-- The entries of a command lie inside it. -/
theorem Entry.Inner.inside {entry : Entry} (inner : entry.Inner) :
    entry.within = true ∧ ¬entry.Begins := by
  rcases inner with ⟨output, err, event⟩ | ⟨request, response, event⟩ <;>
    exact ⟨by simp [Entry.within, event], fun ⟨_, begins⟩ => nomatch event.symm.trans begins⟩

/-- A command whose body is as it should be keeps what is kept. -/
theorem command_framed (carries : Carries request body) (framed : Framed conforms w) :
    Framed conforms ((command request body).run w).2 := by
  let w₀ : World := { w with log := w.log ++ [⟨w.session, w.probe, .begins request⟩] }
  have guarded₀ : Guarded w₀ := framed.guarded.mark (by simp)
  have outcome := carries w₀ framed.buffered
  have result : ((command request body).run w).2 = { (body.run w₀).2 with
      log := (body.run w₀).2.log ++
        [⟨(body.run w₀).2.session, (body.run w₀).2.probe, .returned (body.run w₀).1⟩] } := rfl
  rw [result]
  rw [Yields] at outcome
  generalize body.run w₀ = ended at outcome ⊢
  obtain ⟨answer, w₁⟩ := ended
  simp only at outcome ⊢
  obtain ⟨block, ran, buffered, idle, settles⟩ : ∃ block, Ran w₀ w₁ block ∧
      (w₁.session.poisoned = false → w₁.session.input = []) ∧
      (conforms → w₁.session.poisoned = false → Idle w₁.session w₁.probe) ∧
      Outcome conforms request block ⟨w₁.session, w₁.probe, .returned answer⟩ answer := by
    cases answer with
    | ok bytes =>
      obtain ⟨block, done⟩ := outcome
      have owed (holds : conforms) :=
        done.owed (framed.probe holds) (framed.idle holds done.began).2
      exact ⟨block, done.ran, fun _ => done.input, fun holds _ => ⟨done.input, (owed holds).1⟩,
        done.sound, done.input, fun holds => (owed holds).2⟩
    | error err =>
      obtain ⟨block, failed⟩ := outcome
      have kept (sound : w₁.session.poisoned = false) :
          w.session.poisoned = false ∧ Untouched w₀ w₁ block := by
        rcases failed.settled with poisoned | ⟨same, untouched⟩
        · exact absurd (sound.symm.trans poisoned) Bool.false_ne_true
        · exact ⟨same.symm.trans sound, untouched⟩
      refine ⟨block, failed.ran, fun sound => ?_, fun holds sound => ?_,
        failed.settled.imp id fun facts => facts.2.unsent⟩
      · exact (kept sound).2.input.trans (framed.buffered (kept sound).1)
      · obtain ⟨input, probe⟩ := framed.idle holds (kept sound).1
        exact ⟨(kept sound).2.input.trans input, (kept sound).2.probe.trans probe⟩
  refine ⟨fun holds => ?_, (ran.guarded guarded₀).mark (by simp), buffered, idle, ?_, ?_⟩
  · show ∀ now request, Documented request (w₁.env.respond now request)
    rw [ran.env]
    exact framed.probe holds
  · show Followed _ _ _ (w₁.log ++ _)
    rw [ran.log, List.append_assoc, List.append_assoc, List.singleton_append]
    refine framed.settled.append rfl ?_ fun _ =>
      ⟨framed.idle, request, block, _, answer, rfl, rfl, rfl, settles⟩
    refine List.forall_mem_append.2 ⟨fun e member => (ran.inner e member).inside, ?_⟩
    intro e member
    rw [List.mem_singleton.1 member]
    refine ⟨rfl, ?_⟩
    rintro ⟨_, begins⟩
    cases begins
  · obtain ⟨_, _, _, session⟩ := ran.session
    show w₁.session.transferBits ≤ _
    rw [session]
    exact framed.limit

/-- A command that carries its request keeps the session framed. -/
theorem command_keeps (carries : Carries request body) : Keeps (command request body) := by
  intro conforms w framed
  have kept := command_framed carries framed
  rw [Yields]
  split <;> exact kept

end Command

/-! ## Requests -/

/-- What has arrived of a command shows its size or nothing. -/
theorem requestSize_prefix {head : Bytes} (rest : Bytes) :
    requestSize head = none ∨ requestSize head = requestSize (head ++ rest) := by
  cases head with
  | nil => exact .inl rfl
  | cons command tail =>
    unfold requestSize
    simp only [List.cons_append]
    split
    · exact .inr rfl
    split
    · exact .inr rfl
    split
    · match tail with
      | [] | [_] | [_, _] => exact .inl rfl
      | _ :: _ :: _ :: _ => exact .inr rfl
    · exact .inr rfl

/-- A request of its own size has no valid prefix. -/
theorem whole_of_size {request : Bytes} (complete : requestSize request = some request.length) :
    Whole request := by
  refine ⟨complete, ?_⟩
  rintro head rest rfl - nonempty early
  rcases requestSize_prefix rest with none | same
  · exact nomatch none.symm.trans early
  · have lengths := Option.some.inj (early.symm.trans (same.trans complete))
    rw [List.length_append] at lengths
    exact nonempty (List.length_eq_zero_iff.1 (by omega))

/-! ## Bodies -/

section Bodies

variable {w w₁ w' : World} {request : Bytes} {ctx : Ctx}

/-- Errors are described, not hidden. -/
theorem describing_yields {α : Type} {message : String} {program : JlinkM α}
    {post : α → World → Prop}
    {fail : World → Prop} (holds : Yields program w post fun _ w' => fail w') :
    Yields (describing message program) w post fun _ w' => fail w' := by
  have unfolded : (describing message program).run w =
      (Except.mapError (Err.wrap message) (program.run w).1, (program.run w).2) := rfl
  rw [Yields] at holds ⊢
  rw [unfolded]
  generalize program.run w = outcome at holds ⊢
  obtain ⟨_ | _, _⟩ := outcome <;> exact holds

/-- A command has been sent, and its response is about to be read. -/
structure Sent (request : Bytes) (w w' : World) (block : List Entry) : Prop where
  began : w.session.poisoned = false
  ran : Ran w w' block
  sound : w'.session.poisoned = false
  input : w'.session.input = []
  answered : w.Conforms → w.probe = ⟨[], []⟩ → w'.probe.received = [] ∧
    answers block = [(request, w'.stream)] ∧ Documented request w'.stream

/-- `writeExact` sends all of a command, or fails. -/
theorem writeExact_sent (buffered : w.session.poisoned = false → w.session.input = [])
    (complete : requestSize request = some request.length) :
    Yields (writeExact ctx request) w (fun _ w' => ∃ block, Sent request w w' block)
      (fun _ w' => ∃ block, Failed w w' block) := by
  refine writeExact_yields.mono ?_ fun _ _ failed => failed
  rintro _ w' ⟨block, wrote⟩
  have input : w'.session.input = [] := wrote.input.trans (buffered wrote.began)
  refine ⟨block, wrote.began, wrote.ran, wrote.sound, input, fun conforms idle => ?_⟩
  have stream : w'.stream = w'.probe.outgoing := by rw [World.stream, input, List.nil_append]
  have some : request ≠ [] := by
    rintro rfl
    simp [requestSize] at complete
  have reached : Reached request request w.probe [] :=
    ⟨fun _ => ⟨by rw [idle]; rfl, by rw [idle], rfl⟩, fun empty => absurd empty some⟩
  rw [stream]
  exact (wrote.advances conforms (whole_of_size complete) reached).wholly rfl

/-- Reading that fails leaves the session poisoned. -/
theorem Sent.failed {block later : List Entry} (sent : Sent request w w₁ block)
    (ran : Ran w₁ w' later)
    (poisoned : w'.session.poisoned = true) : ∃ block, Failed w w' block :=
  ⟨_, sent.ran.trans ran, .inl poisoned⟩

/-- Once the response has been read the command is over. -/
theorem Sent.read {bytes : Bytes} {block later : List Entry} (sent : Sent request w w₁ block)
    (took : Took w₁ bytes w' later) (input : w'.session.input = [])
    (length : Documented request w₁.stream → bytes.length = w₁.stream.length) :
    ∃ block, Succeeds request w bytes w' block := by
  refine ⟨_, sent.began, sent.ran.trans took.ran, took.sound, input, fun conforms idle => ?_⟩
  obtain ⟨received, answered, sized⟩ := sent.answered conforms idle
  have rest : w'.stream = [] := by
    have lengths := congrArg List.length took.stream
    rw [List.length_append, length sized] at lengths
    exact List.length_eq_zero_iff.1 (by omega)
  have all : w₁.stream = bytes := by rw [took.stream, rest, List.append_nil]
  have outgoing : w'.probe.outgoing = [] := by
    rw [World.stream, input] at rest
    exact rest
  refine ⟨congrArg₂ Probe.mk (took.received.trans received) outgoing, ?_⟩
  rw [answers_append, answered, took.answers, all]
  rfl

/-- A scan is answered with its samples and one status byte. -/
theorem scan_carries {control drive : Bytes} {bits : Nat} {name : String} (small : bits < 65536)
    (wide : control.length = streamBytes bits) (wide' : drive.length = streamBytes bits) :
    Carries (scanRequest control drive bits) (do
      describing ("jlink: write " ++ name ++ " scan command")
        (writeExact ctx (scanRequest control drive bits))
      let samples ← describing ("jlink: read " ++ name ++ " scan samples")
        (readResponsePart ctx control.length)
      let status ← describing ("jlink: read " ++ name ++ " scan status") (readResponse ctx 1)
      return samples ++ status) := by
  have count : littleEndian [BitVec.ofNat 8 bits, BitVec.ofNat 8 (bits / 256)] = bits := by
    simp only [littleEndian, BitVec.toNat_ofNat]
    omega
  have complete : requestSize (scanRequest control drive bits) =
      some (scanRequest control drive bits).length := by
    show some (4 + 2 * streamBytes (littleEndian _)) = _
    rw [count]
    simp [scanRequest, wide, wide']
    omega
  intro w buffered
  refine .bind _ (describing_yields (writeExact_sent buffered complete)) ?_
  rintro - w₁ ⟨block, sent⟩
  refine .bind _ (describing_yields ((readResponsePart_yields control.length).mono
    (fun _ _ facts => facts)
    fun _ w' ⟨later, ran, poisoned⟩ => sent.failed ran poisoned)) ?_
  rintro samples w₂ ⟨length, middle, took⟩
  refine .bind _ (describing_yields ((readResponse_yields 1).mono (fun _ _ facts => facts)
    fun _ w' ⟨later, ran, poisoned⟩ => sent.failed (took.ran.trans ran) poisoned)) ?_
  rintro status w₃ ⟨length', input, later, took'⟩
  refine .pure (sent.read (took.trans took') input fun documented => ?_)
  have sized : w₁.stream.length = streamBytes
      (littleEndian [BitVec.ofNat 8 bits, BitVec.ofNat 8 (bits / 256)]) + 1 := documented
  rw [sized, count, List.length_append, length, length', wide]

end Bodies

/-! ## Calls -/

section Calls

variable {α β : Type} {conforms : Prop} {w : World} {ctx : Ctx}

namespace Keeps

theorem pure (value : α) : Keeps (Pure.pure value : JlinkM α) := fun _ _ framed => .pure framed

theorem throw (err : Err) : Keeps (MonadExcept.throw err : JlinkM α) :=
  fun _ _ framed => .throw framed

/-- Commands one after the other. -/
theorem bind {program : JlinkM α} {next : α → JlinkM β} (first : Keeps program)
    (second : ∀ value, Keeps (next value)) : Keeps (program >>= next) :=
  fun _ w framed => .bind _ (first _ w framed) fun value w' framed' => second value _ w' framed'

theorem ite {condition : Prop} [Decidable condition] {first second : JlinkM α}
    (onTrue : Keeps first) (onFalse : Keeps second) : Keeps (if condition then first else second) :=
  fun _ w framed => .ite (fun _ => onTrue _ w framed) fun _ => onFalse _ w framed

/-- A program that starts by reading the state. -/
theorem get_bind {next : World → JlinkM β} (rest : ∀ w, Keeps (next w)) :
    Keeps ((get : JlinkM World) >>= next) :=
  fun _ w framed => .lift_bind (rest w _ w framed)

theorem describing {message : String} {program : JlinkM α} (kept : Keeps program) :
    Keeps (Jlink.describing message program) :=
  fun _ w framed => describing_yields (kept _ w framed)

/-- A change of the session that leaves the framing alone. -/
theorem modifySession {change : Session → Session}
    (same : ∀ s, (change s).poisoned = s.poisoned ∧ (change s).input = s.input)
    (limit : ∀ s, s.transferBits ≤ defaultTransferBits →
      (change s).transferBits ≤ defaultTransferBits) :
    Keeps (liftM (Jlink.modifySession change) : JlinkM Unit) := by
  intro conforms w framed
  obtain ⟨poisoned, input⟩ := same w.session
  have sound {changed} (holds : (change w.session).poisoned = changed) : w.session.poisoned =
      changed :=
    poisoned.symm.trans holds
  refine .lift ⟨framed.probe, ⟨fun fine => framed.guarded.sound (sound fine), framed.guarded.quiet⟩,
    fun fine => ?_, fun holds fine => ?_, framed.settled, limit _ framed.limit⟩
  · exact input.trans (framed.buffered (sound fine))
  · have idle := framed.idle holds (sound fine)
    exact ⟨input.trans idle.1, idle.2⟩

/-- What does not change but the clock. -/
theorem tick (framed : Framed conforms w) (now : Nat) : Framed conforms { w with clock := now } :=
  ⟨framed.probe, ⟨framed.guarded.sound, framed.guarded.quiet⟩, framed.buffered, framed.idle,
    framed.settled, framed.limit⟩

theorem transportReady : Keeps (transportReady ctx) := by
  refine bind (get_bind fun w =>
    ite (throw _) (ite (throw _) (ite (throw _) (ite (throw _) (pure _))))) ?_
  intro _ conforms w framed
  refine .lift_bind ?_
  cases (ctxErr ctx w).1 with
  | some err => exact .throw (tick framed _)
  | none => exact .pure (tick framed _)

/-- An error that is kept for later. -/
theorem attempt {program : JlinkM α} (kept : Keeps program) : Keeps (Jlink.attempt program) := by
  intro conforms w framed
  have outcome := kept _ w framed
  refine .lift ?_
  rw [Yields] at outcome
  split at outcome <;> exact outcome

end Keeps

/-- A scan whose streams are as long as it needs. -/
theorem scan_keeps {control drive : Bytes} {bits : Nat} {name : String}
    (small : bits ≤ defaultTransferBits)
    (wide : control.length = streamBytes bits) (wide' : drive.length = streamBytes bits) :
    Keeps (scan ctx control drive bits name) := by
  have fits : bits < 65536 := Nat.lt_of_le_of_lt small (by decide)
  refine .bind (command_keeps (scan_carries fits wide wide')) fun response => .ite ?_ (.pure _)
  exact .bind (.modifySession (fun _ => ⟨rfl, rfl⟩) fun _ => id) fun _ => .throw _

theorem length_setStreamBit (stream : Bytes) (bit : Nat) (value : Bool) :
    (setStreamBit stream bit value).length = stream.length := by
  rw [setStreamBit]
  split <;> simp

theorem length_maskUnusedBits (stream : Bytes) (bits : Nat) :
    (maskUnusedBits stream bits).length = stream.length := by
  rw [maskUnusedBits]
  split <;> simp

/-- Both streams are as long as the clocks need. -/
theorem length_scanStreams {direction : Bytes} (output : Bytes) {bits : Nat}
    (wide : streamBytes bits ≤ direction.length) :
    (scanStreams direction output bits).1.length = streamBytes bits ∧
      (scanStreams direction output bits).2.length = streamBytes bits := by
  refine ⟨?_, ?_⟩
  · simp only [scanStreams, length_maskUnusedBits, List.length_take]
    omega
  · have kept : ∀ (positions : List Nat) (drive : Bytes), (positions.foldl (fun drive bit =>
        if streamBit direction bit && streamBit output bit then setStreamBit drive bit true
          else drive)
        drive).length = drive.length := by
      intro positions
      induction positions with
      | nil => exact fun _ => rfl
      | cons bit positions ih =>
        intro drive
        rw [List.foldl_cons, ih]
        split
        · exact length_setStreamBit ..
        · rfl
    rw [scanStreams, kept, List.length_replicate]

/-- Whatever a routine returns, the session is framed. -/
theorem Keeps.framed {program : JlinkM α} (kept : Keeps program) (framed : Framed conforms w) :
    Framed conforms (program.run w).2 := by
  have outcome := kept _ w framed
  rw [Yields] at outcome
  split at outcome <;> exact outcome

/-- Closing touches nothing that is kept. -/
theorem Framed.session (framed : Framed conforms w) {s : Session} (now : Nat)
    (poisoned : s.poisoned = w.session.poisoned) (input : s.input = w.session.input)
    (limit : s.transferBits = w.session.transferBits) :
    Framed conforms { w with session := s, clock := now } := by
  refine ⟨framed.probe,
    ⟨fun sound => framed.guarded.sound (poisoned.symm.trans sound), framed.guarded.quiet⟩,
    fun sound => ?_, fun holds sound => ?_, framed.settled,
    Nat.le_trans (Nat.le_of_eq limit) framed.limit⟩
  · exact input.trans (framed.buffered (poisoned.symm.trans sound))
  · have idle := framed.idle holds (poisoned.symm.trans sound)
    exact ⟨input.trans idle.1, idle.2⟩

end Calls

/-- A probe that answers with zeros, some of them surplus, over transfers of such sizes. -/
def zeroWorld (surplus : Nat) (size : Nat → Int) : World where
  env :=
    { submit := fun _ => none
      foreign := nofun
      wait := fun now => (size now, none)
      abort := fun _ => none
      completion := fun _ => none
      moved := fun _ => 0
      respond := fun _ request => List.replicate (responseSize request [] + surplus) 0
      closeClaim := fun _ => none
      claimPending := fun _ => false
      closeDevice := fun _ => none
      devicePending := fun _ => false }
  clock := 0
  session := ⟨false, false, 64, [], ⟨[], 0, false, [], 0, false, 0, 0, false⟩, false, false, 0, 0,
    false, false, false, false, false, false⟩
  probe := ⟨[], []⟩
  log := []

end Ostiole.Jlink
