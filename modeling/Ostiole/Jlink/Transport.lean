import Ostiole.Jlink.Session
import Ostiole.Logic.Fallible
import Ostiole.Logic.Trace

/-!
# What a command moves

Writes and reads of a session that is not poisoned, byte by byte: the probe has
received the part of the command that was written, and what has been read followed by
what is buffered and what is still outgoing is the response. Whatever goes wrong after
a submission was accepted leaves the session poisoned.
-/

namespace Ostiole.Jlink

open Ostiole Logic

variable {data rest bytes : Bytes} {count : Int}

/-! ## What the log shows -/

namespace Entry

/-- A submission is attempted. -/
def Submits (entry : Entry) : Prop := ∃ output err, entry.event = .submitted output err

/-- A part of a command is accepted. -/
def Sends (entry : Entry) : Prop := entry.event = .submitted true none

/-- What happens inside a command. -/
def Inner (entry : Entry) : Prop :=
  entry.Submits ∨ ∃ request response, entry.event = .answered request response

end Entry

/-- The commands the probe has received, and its responses. -/
def answers (log : List Entry) : List (Bytes × Bytes) := log.filterMap fun entry =>
  match entry.event with
  | .answered request response => some (request, response)
  | _ => none

/-- No part of a command has been accepted. -/
def Unsent (log : List Entry) : Prop := ∀ entry ∈ log, ¬entry.Sends

/-- Nothing is submitted once the session is poisoned. -/
structure Guarded (w : World) : Prop where
  sound : w.session.poisoned = false → ∀ entry ∈ w.log, entry.session.poisoned = false
  quiet : Until (fun entry => entry.session.poisoned = true) Entry.Submits (fun _ => False) w.log

/-- A part of a command leads from one world to another and logs `block`. -/
structure Ran (w w' : World) (block : List Entry) : Prop where
  env : w'.env = w.env
  log : w'.log = w.log ++ block
  inner : ∀ entry ∈ block, entry.Inner
  session : ∃ poisoned gone input,
    w'.session = { w.session with poisoned := poisoned, gone := gone, input := input }
  guarded : Guarded w → Guarded w'

section Steps

variable {w w' w'' : World} {block later : List Entry}

theorem answers_append (first second : List Entry) :
    answers (first ++ second) = answers first ++ answers second := List.filterMap_append

theorem Unsent.nil : Unsent [] := fun _ member => absurd member List.not_mem_nil

theorem Ran.trans (first : Ran w w' block) (second : Ran w' w'' later) :
    Ran w w'' (block ++ later) := by
  refine ⟨second.env.trans first.env, ?_, List.forall_mem_append.2 ⟨first.inner, second.inner⟩, ?_,
    fun guarded => second.guarded (first.guarded guarded)⟩
  · rw [second.log, first.log, List.append_assoc]
  · obtain ⟨_, _, _, here⟩ := first.session
    obtain ⟨poisoned, gone, input, there⟩ := second.session
    exact ⟨poisoned, gone, input, by rw [there, here]⟩

/-- A step that logs nothing. -/
theorem Ran.silent (env : w'.env = w.env) (log : w'.log = w.log)
    (session : ∃ poisoned gone input,
      w'.session = { w.session with poisoned := poisoned, gone := gone, input := input })
    (keeps : w'.session.poisoned = false → w.session.poisoned = false) : Ran w w' [] := by
  refine ⟨env, by rw [log, List.append_nil], fun _ member => absurd member List.not_mem_nil,
    session, fun guarded => ⟨fun sound => ?_, ?_⟩⟩
  · rw [log]
    exact guarded.sound (keeps sound)
  · rw [log]
    exact guarded.quiet

theorem Ran.refl (w : World) : Ran w w [] := .silent rfl rfl ⟨_, _, _, rfl⟩ id

theorem Guarded.snoc {w : World} {event : Event} (guarded : Guarded w)
    (permitted : (∃ output err, event = .submitted output err) → w.session.poisoned = false) :
    Guarded { w with log := w.log ++ [⟨w.session, w.probe, event⟩] } := by
  refine ⟨fun sound => List.forall_mem_append.2 ⟨guarded.sound sound, ?_⟩, guarded.quiet.snoc ?_⟩
  · exact fun entry member => List.mem_singleton.1 member ▸ sound
  · rintro submits before entry after split poisoned
    have clear := guarded.sound (permitted submits) entry (by simp [split])
    exact absurd (clear.symm.trans poisoned) nofun

/-- A step that logs an event inside a command. -/
theorem Ran.logged {event : Event} (permitted : (∃ output err, event = .submitted output err) →
      w.session.poisoned = false)
    (inner : (⟨w.session, w.probe, event⟩ : Entry).Inner) :
    Ran w { w with log := w.log ++ [⟨w.session, w.probe, event⟩] } [⟨w.session, w.probe, event⟩] :=
  ⟨rfl, rfl, List.forall_mem_singleton.2 inner, ⟨_, _, _, rfl⟩, fun guarded =>
    guarded.snoc permitted⟩

end Steps

/-! ## The probe -/

/-- A command the probe recognises when its last byte has arrived, and not sooner. -/
structure Whole (request : Bytes) : Prop where
  complete : requestSize request = some request.length
  early : ∀ head rest, request = head ++ rest → head ≠ [] → rest ≠ [] →
    requestSize head ≠ some head.length

/-- All of a command but `rest` has been received, and a complete one answered. -/
structure Reached (request rest : Bytes) (probe : Probe) (block : List Entry) : Prop where
  partly : rest ≠ [] → request = probe.received ++ rest ∧ probe.outgoing = [] ∧ answers block = []
  wholly : rest = [] → probe.received = [] ∧ answers block = [(request, probe.outgoing)] ∧
    Documented request probe.outgoing

/-- From one world to another a probe that conforms gets on with whatever command it is
at, from what was left of it to what is left now. -/
def Advances (w w' : World) (data rest : Bytes) (block : List Entry) : Prop :=
  w.Conforms → ∀ {request : Bytes} {earlier : List Entry}, Whole request →
    Reached request data w.probe earlier → Reached request rest w'.probe (earlier ++ block)

section Receiving

variable {w w₁ w' : World} {block later : List Entry}

/-- A probe to which nothing has happened. -/
theorem Advances.quiet (probe : w'.probe = w.probe) (quiet : answers block = []) :
    Advances w w' data data block := by
  intro _ request earlier _ reached
  have same : answers (earlier ++ block) = answers earlier := by
    rw [answers_append, quiet, List.append_nil]
  rw [probe]
  exact ⟨fun left => same ▸ reached.partly left, fun done => same ▸ reached.wholly done⟩

theorem Advances.trans {middle : Bytes} (first : Advances w w₁ data middle block)
    (env : w₁.env = w.env) (second : Advances w₁ w' middle rest later) :
    Advances w w' data rest (block ++ later) := by
  intro conforms request earlier whole reached
  rw [← List.append_assoc]
  refine second ?_ whole (first conforms whole reached)
  rw [World.Conforms, env]
  exact conforms

/-- A byte completes a command, which is answered, or is kept. -/
theorem receiveByte_ran (byte : Byte) (w : World) :
    ∃ block, Ran w (receiveByte byte w).2 block ∧ (receiveByte byte w).2.session = w.session ∧
      ∀ rest, Advances w (receiveByte byte w).2 (byte :: rest) rest block := by
  rw [receiveByte, run_get_bind, run_ite]
  split
  · next last =>
      refine ⟨[⟨w.session, w.probe, .answered _ _⟩],
        (Ran.logged (fun ⟨_, _, event⟩ => nomatch event)
        (.inr ⟨_, _, rfl⟩)).trans (.silent rfl rfl ⟨_, _, _, rfl⟩ id), rfl, ?_⟩
      intro rest conforms request earlier whole reached
      obtain ⟨split, idle, none⟩ := reached.partly (List.cons_ne_nil _ _)
      have through : request = w.probe.received ++ [byte] ++ rest := by simpa using split
      obtain rfl : rest = [] := by
        by_contra more
        exact whole.early _ rest through (by simp) more last
      rw [List.append_nil] at through
      subst through
      refine ⟨fun left => (left rfl).elim, fun _ => ⟨rfl, ?_, ?_⟩⟩
      · rw [answers_append, none]
        show [_] = [(_, w.probe.outgoing ++ _)]
        rw [idle]
        rfl
      · show Documented _ (w.probe.outgoing ++ _)
        rw [idle]
        exact conforms _ _
  · next more =>
      refine ⟨[], .silent rfl rfl ⟨_, _, _, rfl⟩ id, rfl, ?_⟩
      intro rest _ request earlier whole reached
      obtain ⟨split, idle, none⟩ := reached.partly (List.cons_ne_nil _ _)
      have through : request = w.probe.received ++ [byte] ++ rest := by simpa using split
      refine ⟨fun _ => ⟨through, idle, ?_⟩, fun done => ?_⟩
      · rw [List.append_nil]
        exact none
      · rw [done, List.append_nil] at through
        exact absurd (through ▸ whole.complete) more

theorem receive_ran (data : Bytes) (w : World) :
    ∃ block, Ran w (receive data w).2 block ∧ (receive data w).2.session = w.session ∧
      ∀ rest, Advances w (receive data w).2 (data ++ rest) rest block := by
  induction data generalizing w with
  | nil => exact ⟨[], .refl w, rfl, fun _ => .quiet rfl rfl⟩
  | cons byte data ih =>
    obtain ⟨first, ran, same, advances⟩ := receiveByte_ran byte w
    obtain ⟨later, ran', same', advances'⟩ := ih (receiveByte byte w).2
    exact ⟨first ++ later, ran.trans ran', same'.trans same,
      fun rest => (advances (data ++ rest)).trans ran.env (advances' rest)⟩

end Receiving

/-! ## Bulk transfers -/

/-- Nothing was sent, and the response is where it was. -/
structure Untouched (w w' : World) (block : List Entry) : Prop where
  unsent : Unsent block
  answers : answers block = []
  probe : w'.probe = w.probe
  input : w'.session.input = w.session.input

section Transfers

variable {w : World} {ctx : Ctx}

theorem poison_ran (err : Err) (w : World) :
    Ran w (poison err w).2 [] ∧ (poison err w).2.session.poisoned = true :=
  ⟨.silent rfl rfl ⟨true, w.session.gone, w.session.input, rfl⟩ nofun, rfl⟩

theorem recordLoss_ran (err : Option Err) (w : World) : Ran w (recordLoss err w).2 [] :=
  .silent rfl rfl ⟨w.session.poisoned, _, w.session.input, rfl⟩ id

theorem tick_ran (w : World) : Ran w { w with clock := w.clock + 1 } [] :=
  .silent rfl rfl ⟨_, _, _, rfl⟩ id

theorem abandonTransfer_ran (err : Err) (w : World) :
    Ran w (abandonTransfer err w).2 [] ∧ (abandonTransfer err w).2.session.poisoned = true := by
  rw [abandonTransfer, run_bind, run_bind]
  simp only [ask]
  generalize w.env.abort w.clock = abortErr
  have ran := (tick_ran w).trans (recordLoss_ran abortErr _)
  cases abortErr with
  | some abortErr => exact ⟨ran.trans (poison_ran _ _).1, rfl⟩
  | none => exact ⟨(ran.trans (tick_ran _)).trans (poison_ran _ _).1, rfl⟩

/-- How a transfer ends: refused, failed, or with what `Wait` says. -/
inductive Transferred (transfer : Transfer) (w : World) :
    Bytes × Int × Option Err → World → List Entry → Prop where
  | refused {err : Err} {w' : World} {block : List Entry} (ran : Ran w w' block)
      (untouched : Untouched w w' block) (sound : w'.session.poisoned = false)
      (foreign : err.is .jlinkPoisoned = false) :
      Transferred transfer w ([], 0, some err) w' block
  | failed {count : Int} {err : Err} {w' : World} {block : List Entry} (ran : Ran w w' block)
      (poisoned : w'.session.poisoned = true) : Transferred transfer w ([], count,
        some err) w' block
  | ended {bytes : Bytes} {count : Int} {w₁ w' : World} {first : List Entry}
      (submitted : Ran w w₁ first) (quiet : answers first = [])
      (unsent : transfer.isOutput = false → Unsent first)
      (same : w₁.session.input = w.session.input ∧ w₁.session.poisoned = false ∧ w₁.probe = w.probe)
      (waited : (wait transfer w₁).1 = (bytes, count, none))
      (rest : Ran (wait transfer w₁).2 w' [])
      (kept : w'.session.input = w.session.input ∧ w'.session.poisoned = false ∧
        w'.probe = (wait transfer w₁).2.probe) :
      Transferred transfer w (bytes, count, none) w' first

/-- Waiting runs the probe and leaves the session alone. -/
theorem wait_ran (transfer : Transfer) (w : World) :
    ∃ block, Ran w (wait transfer w).2 block ∧ (wait transfer w).2.session = w.session := by
  rw [wait, run_bind, run_bind]
  have asked := (tick_ran w).trans (tick_ran _)
  cases transfer with
  | output data =>
    obtain ⟨block, ran, same, -⟩ := receive_ran _ _
    exact ⟨_, asked.trans ran, same⟩
  | input size => exact ⟨_, asked.trans (.silent rfl rfl ⟨_, _, _, rfl⟩ id), rfl⟩

/-- A submission, accepted or not. -/
structure Submitted (transfer : Transfer) (w : World) (err : Option Err) (w' : World)
    (block : List Entry) : Prop where
  ran : Ran w w' block
  answers : answers block = []
  unsent : transfer.isOutput = false ∨ err.isSome = true → Unsent block
  foreign : ∀ cause, err = some cause → cause.is .jlinkPoisoned = false
  session : w'.session = w.session
  probe : w'.probe = w.probe

theorem submitBulk_submitted (transfer : Transfer) (sound : w.session.poisoned = false) :
    ∃ block, Submitted transfer w (submitBulk transfer w).1 (submitBulk transfer w).2 block := by
  refine ⟨[⟨w.session, w.probe, .submitted transfer.isOutput (w.env.submit w.clock)⟩],
    ⟨rfl, rfl, ?_, ⟨_, _, _, rfl⟩, fun guarded => ?_⟩, rfl, ?_, w.env.foreign _, rfl, rfl⟩
  · exact List.forall_mem_singleton.2 (.inl ⟨_, _, rfl⟩)
  · exact ((tick_ran w).guarded guarded).snoc fun _ => sound
  · intro refused entry member sends
    rw [List.mem_singleton.1 member] at sends
    obtain ⟨output, accepted⟩ := Event.submitted.inj sends
    rcases refused with input | failed
    · exact absurd (input.symm.trans output) nofun
    · have failed : (w.env.submit w.clock).isSome = true := failed
      exact absurd (accepted ▸ failed) nofun

theorem bulkTransfer_transferred (ctx : Ctx) (transfer : Transfer)
    (sound : w.session.poisoned = false) :
    ∃ block, Transferred transfer w (bulkTransfer ctx transfer w).1 (bulkTransfer ctx transfer w).2
      block := by
  obtain ⟨first, submitted⟩ := submitBulk_submitted transfer sound
  rw [bulkTransfer, run_bind, run_bind]
  generalize submitBulk transfer w = outcome at submitted ⊢
  obtain ⟨err, w₁⟩ := outcome
  have lost := submitted.ran.trans (recordLoss_ran err w₁)
  rw [List.append_nil] at lost
  have sound₁ : w₁.session.poisoned = false := submitted.session ▸ sound
  simp only at submitted lost ⊢
  rw [run_ite]
  cases err with
  | some err =>
    rw [if_pos Option.isSome_some]
    exact ⟨first, .refused lost ⟨submitted.unsent (.inr rfl), submitted.answers, submitted.probe,
      congrArg (·.input) submitted.session⟩ sound₁ (submitted.foreign err rfl)⟩
  | none =>
    rw [if_neg (by simp), run_bind]
    obtain ⟨second, waited, kept⟩ := wait_ran transfer (recordLoss none w₁).2
    have sound₂ : (wait transfer (recordLoss none w₁).2).2.session.poisoned = false :=
      (congrArg (·.poisoned) kept).trans sound₁
    have same : (wait transfer (recordLoss none w₁).2).2.session.input = w.session.input :=
      (congrArg (·.input) kept).trans (congrArg (·.input) submitted.session)
    generalize outcome : wait transfer (recordLoss none w₁).2 = result at waited sound₂ same ⊢
    obtain ⟨⟨bytes, count, err⟩, w₂⟩ := result
    simp only at waited sound₂ same ⊢
    rw [run_bind]
    have ran := (lost.trans waited).trans (recordLoss_ran err w₂)
    cases err with
    | none =>
      refine ⟨first, .ended lost submitted.answers (fun input => submitted.unsent (.inl input))
        ⟨congrArg (·.input) submitted.session, sound₁, submitted.probe⟩
        (congrArg Prod.fst outcome) ?_ ⟨same, sound₂, ?_⟩⟩
      · rw [outcome]
        exact recordLoss_ran none w₂
      · rw [outcome]
        rfl
    | some err =>
      simp only
      rw [run_bind]
      simp only [ctxErr]
      have ran := ran.trans (tick_ran _)
      cases ctx.err (recordLoss (some err) w₂).2.clock with
      | none => exact ⟨_, .failed (ran.trans (poison_ran err _).1) rfl⟩
      | some cause =>
        obtain ⟨abandoned, poisoned⟩ := abandonTransfer_ran (transferError err cause) _
        exact ⟨_, .failed (ran.trans abandoned) poisoned⟩

theorem transferred_valid (transfer : Transfer) {moved : Nat} (low : 0 ≤ count)
    (high : count ≤ transfer.size) : transferred transfer count none moved = count.toNat :=
  if_pos ⟨rfl, low, high⟩

/-- A write moves what it reports. -/
theorem wait_output
    (waited : (wait (.output data) w).1 = (bytes, count, none)) (low : 0 ≤ count)
    (high : count ≤ data.length) : (wait (.output data) w).2 =
      (receive (data.take count.toNat) { w with clock := w.clock + 1 + 1 }).2 := by
  have unfolded : wait (.output data) w = (([], w.env.wait (w.clock + 1)),
      (receive (data.take (transferred (.output data) (w.env.wait (w.clock + 1)).1
        (w.env.wait (w.clock + 1)).2 (w.env.moved w.clock)))
          { w with clock := w.clock + 1 + 1 }).2) := rfl
  rw [unfolded] at waited ⊢
  have answer : w.env.wait (w.clock + 1) = (count, none) := (Prod.mk.inj waited).2
  rw [answer]
  simp only [transferred_valid (.output data) low high]

theorem reported_valid {size : Nat} {packet : Bytes} {count' : Int} {err : Option Err}
    (reports : reported size packet count err = (bytes, count', none)) (low : 0 ≤ count')
    (high : count' ≤ size) : bytes = packet := by
  rw [reported] at reports
  split at reports <;> rename_i valid
  · exact (Prod.mk.inj reports).1.symm
  · obtain ⟨-, rest⟩ := Prod.mk.inj reports
    obtain ⟨rfl, rfl⟩ := Prod.mk.inj rest
    exact absurd ⟨rfl, low, high⟩ valid

/-- A read takes its packet off what the probe has to send. -/
theorem wait_input {size : Nat}
    (waited : (wait (.input size) w).1 = (bytes, count, none)) (low : 0 ≤ count)
    (high : count ≤ size) : (wait (.input size) w).2.probe.received = w.probe.received ∧
      w.probe.outgoing = bytes ++ (wait (.input size) w).2.probe.outgoing := by
  refine ⟨rfl, ?_⟩
  rw [reported_valid (show reported size (w.probe.outgoing.take (transferred (.input size)
    (w.env.wait (w.clock + 1)).1 (w.env.wait (w.clock + 1)).2 (w.env.moved w.clock))) _ _ = _
      from waited)
    low high]
  exact (List.take_append_drop _ _).symm

/-- A write of the rest of a command. -/
theorem bulkTransfer_output (ctx : Ctx) (data : Bytes) (sound : w.session.poisoned = false) :
    Ends (bulkTransfer ctx (.output data)) w fun result w' => ∃ block, Ran w w' block ∧
      match result with
      | (_, _, some _) => w'.session.poisoned = true ∨
          w'.session.poisoned = false ∧ Untouched w w' block
      | (_, count, none) => 0 ≤ count → count ≤ data.length → w'.session.poisoned = false ∧
          w'.session.input = w.session.input ∧
          Advances w w' data (data.drop count.toNat) block := by
  unfold Ends
  obtain ⟨first, transferred⟩ := bulkTransfer_transferred ctx (.output data) sound
  generalize bulkTransfer ctx (.output data) w = outcome at transferred ⊢
  obtain ⟨result, w'⟩ := outcome
  cases transferred with
  | refused ran untouched sound foreign => exact ⟨first, ran, .inr ⟨sound, untouched⟩⟩
  | failed ran poisoned => exact ⟨first, ran, .inl poisoned⟩
  | @ended bytes count w₁ w' first submitted quiet unsent same waited rest kept =>
    by_cases valid : 0 ≤ count ∧ count ≤ data.length
    · obtain ⟨low, high⟩ := valid
      rw [wait_output waited low high] at rest kept
      obtain ⟨second, received, -, advances⟩ :=
        receive_ran (data.take count.toNat) { w₁ with clock := w₁.clock + 1 + 1 }
      have moved := advances (data.drop count.toNat)
      rw [List.take_append_drop] at moved
      have ran := ((submitted.trans ((tick_ran _).trans (tick_ran _))).trans received).trans rest
      refine ⟨_, ran, fun _ _ => ⟨kept.2.1, kept.1, ?_⟩⟩
      have begun : Advances w { w₁ with clock := w₁.clock + 1 + 1 } data data
          (first ++ ([] ++ [])) := .quiet same.2.2 (by simpa using quiet)
      exact (begun.trans submitted.env moved).trans
        (received.env.trans submitted.env) (.quiet kept.2.2 rfl)
    · obtain ⟨second, received, -⟩ := wait_ran (.output data) w₁
      exact ⟨_, (submitted.trans received).trans rest, fun low high => absurd ⟨low, high⟩ valid⟩

/-- An error that says the session is poisoned is right. -/
def Owned (err : Err) (w : World) : Prop :=
  err.is .jlinkPoisoned = true → w.session.poisoned = true

/-- A read of a packet. -/
theorem bulkTransfer_input (ctx : Ctx) (size : Nat) (sound : w.session.poisoned = false) :
    Ends (bulkTransfer ctx (.input size)) w fun result w' => ∃ block, Ran w w' block ∧
      match result with
      | (_, _, some err) => Owned err w'
      | (bytes, count, none) => 0 ≤ count → count ≤ size → w'.session.poisoned = false ∧
          w'.session.input = w.session.input ∧ w'.probe.received = w.probe.received ∧
          w.probe.outgoing = bytes ++ w'.probe.outgoing ∧ answers block = [] := by
  unfold Ends
  obtain ⟨first, transferred⟩ := bulkTransfer_transferred ctx (.input size) sound
  generalize bulkTransfer ctx (.input size) w = outcome at transferred ⊢
  obtain ⟨result, w'⟩ := outcome
  cases transferred with
  | refused ran untouched sound foreign =>
    exact ⟨first, ran, fun matched => nomatch foreign.symm.trans matched⟩
  | failed ran poisoned => exact ⟨first, ran, fun _ => poisoned⟩
  | @ended bytes count w₁ w' first submitted quiet unsent same waited rest kept =>
    have received : Ran w₁ (wait (.input size) w₁).2 [] :=
      .silent rfl rfl ⟨_, _, _, rfl⟩ id
    refine ⟨_, (submitted.trans received).trans rest, fun low high => ?_⟩
    obtain ⟨idle, taken⟩ := wait_input waited low high
    refine ⟨kept.2.1, kept.1, ?_, ?_, by simpa using quiet⟩
    · show w'.probe.received = _
      rw [kept.2.2, idle, same.2.2]
    · show _ = _ ++ w'.probe.outgoing
      rw [kept.2.2, ← taken, same.2.2]

end Transfers

/-! ## Exact writes -/

/-- All of the data has been written. -/
structure Wrote (data : Bytes) (w w' : World) (block : List Entry) : Prop where
  began : w.session.poisoned = false
  ran : Ran w w' block
  sound : w'.session.poisoned = false
  input : w'.session.input = w.session.input
  advances : Advances w w' data [] block

/-- A part of a command failed: the session is poisoned, or nothing has been sent. -/
structure Failed (w w' : World) (block : List Entry) : Prop where
  ran : Ran w w' block
  settled : w'.session.poisoned = true ∨
    w'.session.poisoned = w.session.poisoned ∧ Untouched w w' block

section Writing

variable {w : World} {ctx : Ctx}

theorem fatal_yields {α : Type} {post : α → World → Prop} {fail : Err → World → Prop} (err : Err)
    (fails : ∀ err w', Ran w w' [] → w'.session.poisoned = true → fail err w') :
    Yields (fatal err : JlinkM α) w post fail :=
  .lift_bind (.throw (fails _ _ (poison_ran err w).1 rfl))

theorem writeFrom_yields (turns : Nat) (first : Bool) (enough : data.length ≤ turns)
    (sound : w.session.poisoned = false) :
    Yields (writeFrom ctx turns first data) w (fun _ w' => ∃ block, Wrote data w w' block)
      (fun _ w' => ∃ block, Ran w w' block ∧ (w'.session.poisoned = true ∨
        first = true ∧ w'.session.poisoned = false ∧ Untouched w w' block)) := by
  have nothing {data : Bytes} {w : World} (empty : data = [])
      (sound : w.session.poisoned = false) : Wrote data w w [] :=
    ⟨sound, .refl w, sound, rfl, empty ▸ .quiet rfl rfl⟩
  induction turns generalizing w first data with
  | zero => exact .pure ⟨[], nothing (List.length_eq_zero_iff.1 (Nat.le_zero.1 enough)) sound⟩
  | succ turns ih =>
    rw [writeFrom]
    refine .ite (fun empty => .pure ⟨[], nothing (List.isEmpty_iff.1 empty) sound⟩) fun nonempty =>
      .lift_bind ?_
    obtain ⟨moved, ran, outcome⟩ := bulkTransfer_output ctx data sound
    generalize bulkTransfer ctx (.output data) w = result at ran outcome ⊢
    obtain ⟨⟨bytes, count, err⟩, w₁⟩ := result
    simp only at ran outcome ⊢
    have refused : ∀ err : Err, ∀ w', Ran w₁ w' [] → w'.session.poisoned = true →
        ∃ later, Ran w w' later ∧ (w'.session.poisoned = true ∨
          first = true ∧ w'.session.poisoned = false ∧ Untouched w w' later) :=
      fun _ w' rest poisoned => ⟨_, ran.trans rest, .inl poisoned⟩
    refine .bind (fun _ w₂ => w₂ = w₁ ∧ err = none ∧ 0 < count ∧ count ≤ data.length) ?_ ?_
    · unfold checkWrite
      refine .ite (fun _ => fatal_yields _ refused) fun valid => ?_
      cases err with
      | none =>
        refine .ite (fun _ => fatal_yields _ refused) fun some => .pure ⟨rfl, rfl, ?_⟩
        omega
      | some err =>
        refine .ite (fun atFirst => .throw ⟨moved, ran, ?_⟩) fun _ => fatal_yields _ refused
        exact outcome.imp id fun ⟨sound, untouched⟩ => ⟨atFirst, sound, untouched⟩
    · rintro - w₂ ⟨rfl, rfl, positive, fits⟩
      obtain ⟨sound₂, input, advances⟩ := outcome (Int.le_of_lt positive) fits
      refine (ih false ?_ sound₂).mono ?_ ?_
      · rw [List.length_drop]
        omega
      · rintro _ w' ⟨later, wrote⟩
        exact ⟨moved ++ later, sound, ran.trans wrote.ran, wrote.sound, wrote.input.trans input,
          advances.trans ran.env wrote.advances⟩
      · rintro _ w' ⟨later, ran', poisoned | ⟨never, -⟩⟩
        · exact ⟨moved ++ later, ran.trans ran', .inl poisoned⟩
        · exact nomatch never

theorem ctx_err_foreign {now : Nat} {err : Err} (ended : ctx.err now = some err) :
    err.is .jlinkPoisoned = false := by
  rw [Ctx.err] at ended
  split at ended
  · rw [← Option.some.inj ended]
    cases ctx.cause <;> rfl
  · exact nomatch ended

/-- Readiness is found without a trace. -/
theorem transportReady_yields :
    Yields (transportReady ctx) w
      (fun _ w' => Ran w w' [] ∧ w'.session = w.session ∧ w'.probe = w.probe ∧
        w.session.poisoned = false)
      (fun err w' => Ran w w' [] ∧ w'.session = w.session ∧ w'.probe = w.probe ∧ Owned err w') := by
  have here : Ran w w [] ∧ w.session = w.session ∧ w.probe = w.probe := ⟨.refl w, rfl, rfl⟩
  refine .bind (fun _ w' => w' = w ∧ w.session.poisoned = false) ?_ ?_
  · refine .lift_bind (.ite (fun _ => .throw ⟨here.1, rfl, rfl, nofun⟩) fun _ =>
      .ite (fun _ => .throw ⟨here.1, rfl, rfl, nofun⟩) fun _ =>
      .ite (fun _ => .throw ⟨here.1, rfl, rfl, nofun⟩) fun _ =>
      .ite (fun poisoned => .throw ⟨here.1, rfl, rfl, fun _ => poisoned⟩) fun sound =>
        .pure ⟨rfl, ?_⟩)
    exact Bool.eq_false_of_not_eq_true sound
  · rintro - w' ⟨rfl, sound⟩
    refine .lift_bind ?_
    have answer : (ctxErr ctx w').1 = ctx.err w'.clock := rfl
    rw [answer]
    cases ended : ctx.err w'.clock with
    | some err =>
      exact .throw ⟨tick_ran w', rfl, rfl, fun matched =>
        nomatch (ctx_err_foreign ended).symm.trans matched⟩
    | none => exact .pure ⟨tick_ran w', rfl, rfl, sound⟩

theorem writeExact_yields :
    Yields (writeExact ctx data) w (fun _ w' => ∃ block, Wrote data w w' block)
      (fun _ w' => ∃ block, Failed w w' block) := by
  refine .bind _ (transportReady_yields.mono (fun _ _ ready => ready) ?_) ?_
  · rintro _ w' ⟨ran, session, probe, -⟩
    exact ⟨[], ran, .inr ⟨congrArg (·.poisoned) session, .nil, rfl, probe,
      congrArg (·.input) session⟩⟩
  · rintro - w₁ ⟨ran, session, probe, sound⟩
    have sound₁ : w₁.session.poisoned = false := session ▸ sound
    have input₁ : w₁.session.input = w.session.input := congrArg (·.input) session
    have ready : Advances w w₁ data data [] := .quiet probe rfl
    refine (writeFrom_yields data.length true (Nat.le_refl _) sound₁).mono ?_ ?_
    · rintro _ w' ⟨later, wrote⟩
      exact ⟨later, sound, ran.trans wrote.ran, wrote.sound, wrote.input.trans input₁,
        ready.trans ran.env wrote.advances⟩
    · rintro _ w' ⟨later, ran', outcome⟩
      refine ⟨later, ran.trans ran', outcome.imp id fun ⟨_, fine, untouched⟩ =>
        ⟨?_, untouched.unsent,
        untouched.answers, untouched.probe.trans probe, untouched.input.trans input₁⟩⟩
      exact fine.trans sound.symm

end Writing

/-! ## Exact reads -/

/-- What is buffered, followed by what the probe has still to send. -/
def World.stream (w : World) : Bytes := w.session.input ++ w.probe.outgoing

/-- Bytes have been taken off the response. -/
structure Took (w : World) (bytes : Bytes) (w' : World) (block : List Entry) : Prop where
  ran : Ran w w' block
  sound : w'.session.poisoned = false
  answers : answers block = []
  received : w'.probe.received = w.probe.received
  stream : w.stream = bytes ++ w'.stream

section Reading

variable {w : World} {ctx : Ctx}

theorem Took.refl (sound : w.session.poisoned = false) : Took w [] w [] :=
  ⟨.refl w, sound, rfl, rfl, rfl⟩

theorem Took.trans {first second : Bytes} {w₁ w₂ : World} {block later : List Entry}
    (one : Took w first w₁ block) (two : Took w₁ second w₂ later) :
    Took w (first ++ second) w₂ (block ++ later) := by
  refine ⟨one.ran.trans two.ran, two.sound, ?_, two.received.trans one.received, ?_⟩
  · rw [answers_append, one.answers, two.answers]
    rfl
  · rw [one.stream, two.stream, List.append_assoc]

/-- A packet leaves what is buffered alone. -/
theorem readBulk_yields (sound : w.session.poisoned = false) :
    Yields (readBulk ctx) w
      (fun packet w' => ∃ block, Ran w w' block ∧ w'.session.poisoned = false ∧ answers block = [] ∧
        w'.session.input = w.session.input ∧ w'.probe.received = w.probe.received ∧
        w.probe.outgoing = packet ++ w'.probe.outgoing)
      (fun err w' => Owned err w' ∧ ∃ block, Ran w w' block) := by
  refine .lift_bind (.lift_bind ?_)
  obtain ⟨block, ran, outcome⟩ := bulkTransfer_input ctx w.session.maxPacketSize sound
  show Yields (checkRead w.session.maxPacketSize (bulkTransfer ctx (.input w.session.maxPacketSize)
    w).1.1
    (bulkTransfer ctx (.input w.session.maxPacketSize) w).1.2.1
    (bulkTransfer ctx (.input w.session.maxPacketSize) w).1.2.2)
    (bulkTransfer ctx (.input w.session.maxPacketSize) w).2 _ _
  generalize bulkTransfer ctx (.input w.session.maxPacketSize) w = result at ran outcome ⊢
  obtain ⟨⟨bytes, count, err⟩, w₁⟩ := result
  simp only at ran outcome ⊢
  unfold checkRead
  cases err with
  | some err => exact .throw ⟨outcome, block, ran⟩
  | none =>
    refine .ite (fun _ => .throw ⟨nofun, block, ran⟩) fun valid => .pure ?_
    obtain ⟨fine, input, received, outgoing, quiet⟩ := outcome (by omega) (by omega)
    exact ⟨block, ran, fine, quiet, input, received, outgoing⟩

theorem refill_yields (sound : w.session.poisoned = false) (empty : w.session.input = []) :
    Yields (refill ctx) w
      (fun _ w' => ∃ block, Took w [] w' block ∧ w'.session.input ≠ [])
      (fun err w' => Owned err w' ∧ ∃ block, Ran w w' block) := by
  refine .bind _ (readBulk_yields sound) ?_
  rintro packet w₁ ⟨block, ran, sound₁, quiet, input, received, outgoing⟩
  have stored : ∀ (w₁ : World) (packet : Bytes) (block : List Entry), Ran w w₁ block →
      w₁.session.poisoned = false → answers block = [] → w₁.probe.received = w.probe.received →
      w.probe.outgoing = packet ++ w₁.probe.outgoing → packet.isEmpty ≠ true →
      ∃ block, Took w [] { w₁ with session := { w₁.session with input := packet } } block ∧
        packet ≠ [] := by
    intro w₁ packet block ran sound quiet received outgoing nonempty
    refine ⟨_, ⟨ran.trans (.silent rfl rfl ⟨w₁.session.poisoned, w₁.session.gone, packet, rfl⟩ id),
      sound, by rw [List.append_nil, quiet], received, ?_⟩, fun none =>
        nonempty (by rw [none]; rfl)⟩
    rw [World.stream, empty, outgoing]
    rfl
  refine .ite (fun none => ?_) fun nonempty =>
    .lift (stored w₁ packet block ran sound₁ quiet received
    outgoing nonempty)
  refine .bind _ ((readBulk_yields sound₁).mono (fun _ _ facts => facts)
    fun _ w' ⟨owned, later, ran'⟩ => ⟨owned, _, ran.trans ran'⟩) ?_
  rintro packet' w₂ ⟨later, ran', sound₂, quiet', input', received', outgoing'⟩
  have both := ran.trans ran'
  refine .ite (fun _ => .throw ⟨nofun, _, both⟩) fun nonempty =>
    .lift (stored w₂ packet' _ both sound₂ ?_
    (received'.trans received) ?_ nonempty)
  · rw [answers_append, quiet, quiet']
    rfl
  · rw [outgoing, List.isEmpty_iff.1 none, outgoing']
    rfl

theorem readByte_yields (sound : w.session.poisoned = false) :
    Yields (readByte ctx) w (fun byte w' => ∃ block, Took w [byte] w' block)
      (fun err w' => Owned err w' ∧ ∃ block, Ran w w' block) := by
  refine .bind (fun _ w' => ∃ block, Took w [] w' block ∧ w'.session.input ≠ []) ?_ ?_
  · refine .lift_bind (.ite (fun empty => ?_) fun nonempty => .pure ⟨[], .refl sound, ?_⟩)
    · exact refill_yields sound (List.isEmpty_iff.1 empty)
    · exact fun empty => nonempty (List.isEmpty_iff.2 empty)
  · rintro - w₁ ⟨block, took, nonempty⟩
    refine .lift_bind (.lift_bind (.pure ⟨block ++ [], took.trans ?_⟩))
    obtain ⟨byte, rest, input⟩ := List.exists_cons_of_ne_nil nonempty
    refine ⟨.silent rfl rfl ⟨w₁.session.poisoned, w₁.session.gone, _, rfl⟩ id, took.sound, rfl,
      rfl, ?_⟩
    show w₁.session.input ++ _ = [w₁.session.input.headD 0] ++ (w₁.session.input.tail ++ _)
    rw [input]
    rfl

theorem readBytes_yields (size : Nat) (sound : w.session.poisoned = false) :
    Yields (readBytes ctx size) w
      (fun bytes w' => bytes.length = size ∧ ∃ block, Took w bytes w' block)
      (fun err w' => Owned err w' ∧ ∃ block, Ran w w' block) := by
  induction size generalizing w with
  | zero => exact .pure ⟨rfl, [], .refl sound⟩
  | succ size ih =>
    refine .bind _ (readByte_yields sound) ?_
    rintro byte w₁ ⟨block, took⟩
    refine .bind _ ((ih took.sound).mono (fun _ _ facts => facts)
      fun _ w' ⟨owned, later, ran⟩ => ⟨owned, _, took.ran.trans ran⟩) ?_
    rintro rest w₂ ⟨length, later, took'⟩
    exact .pure ⟨congrArg (· + 1) length, _, took.trans took'⟩

/-- A part of a response is read, or the session is poisoned. -/
theorem readResponsePart_yields (size : Nat) :
    Yields (readResponsePart ctx size) w
      (fun bytes w' => bytes.length = size ∧ ∃ block, Took w bytes w' block)
      (fun _ w' => ∃ block, Ran w w' block ∧ w'.session.poisoned = true) := by
  have exact_ : Yields (readExact ctx size) w
      (fun bytes w' => bytes.length = size ∧ ∃ block, Took w bytes w' block)
      (fun err w' => Owned err w' ∧ ∃ block, Ran w w' block) := by
    refine .bind _ (transportReady_yields.mono (fun _ _ ready => ready)
      fun _ w' ⟨ran, _, _, owned⟩ => ⟨owned, _, ran⟩) ?_
    rintro - w₁ ⟨ran, session, probe, sound⟩
    have here : Took w [] w₁ [] := ⟨ran, session ▸ sound, rfl, congrArg (·.received) probe,
      by rw [World.stream, World.stream, session, probe, List.nil_append]⟩
    refine (readBytes_yields size here.sound).mono ?_ ?_
    · rintro bytes w' ⟨length, block, took⟩
      exact ⟨length, _, here.trans took⟩
    · rintro err w' ⟨owned, block, ran'⟩
      exact ⟨owned, _, ran.trans ran'⟩
  refine .attempt_bind exact_ (fun bytes w' facts => .pure facts) ?_
  rintro err w₁ ⟨owned, block, ran⟩
  refine .ite (fun matched => .throw ⟨block, ran, owned matched⟩) fun _ => ?_
  exact fatal_yields _ fun _ w' ran' poisoned => ⟨_, ran.trans ran', poisoned⟩

/-- The last part of a response is read, or the session is poisoned. -/
theorem readResponse_yields (size : Nat) :
    Yields (readResponse ctx size) w
      (fun bytes w' => bytes.length = size ∧ w'.session.input = [] ∧ ∃ block, Took w bytes w' block)
      (fun _ w' => ∃ block, Ran w w' block ∧ w'.session.poisoned = true) := by
  refine .bind _ (readResponsePart_yields size) ?_
  rintro bytes w₁ ⟨length, block, took⟩
  refine .lift_bind (.ite (fun _ => ?_) fun none => .pure ⟨length, ?_, block, took⟩)
  · exact fatal_yields _ fun _ w' ran poisoned => ⟨_, took.ran.trans ran, poisoned⟩
  · exact List.length_eq_zero_iff.1 (not_not.1 none)

end Reading

end Ostiole.Jlink
