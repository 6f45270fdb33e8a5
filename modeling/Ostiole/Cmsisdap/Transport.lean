import Ostiole.Go.Error
import Ostiole.Jtag.Buffer
import Ostiole.Logic.Fallible

/-!
# Command exchanges

`cmsisdap.Session` pairs a command over bulk OUT with one packet from bulk IN. A schedule
moves the transfers before every step, and decides what fails and when contexts end. The
probe answers each command that it receives in full.
-/

namespace Ostiole.Cmsisdap

open Jtag (Buffer)
open Logic

/-- `Session`, as far as `exchange` reads it. -/
structure Session where
  device : Bool
  claim : Bool
  packetSize : Nat
  poisoned : Bool
  gone : Bool

/-- The command outstanding and the count of the last one, whether a read is outstanding and
the count and the packet of the last one, and what the probe has still to deliver and has
received. -/
structure Usb where
  output : Option Buffer
  count : Option Int
  input : Bool
  packet : Option (Int × Buffer)
  pending : List Buffer
  received : List Buffer

/-- Nothing is outstanding or undelivered, and these are the commands received. -/
def Usb.Quiet (u : Usb) (commands : List Buffer) : Prop :=
  u.output = none ∧ u.input = false ∧ u.pending = [] ∧ u.received = commands

/-- A command ends with a count, or a packet arrives with one. -/
inductive Move where
  | deliver (count : Int) (reached : Bool)
  | arrive (count : Int)

structure Env where
  moves : Nat → List Move
  fails : Nat → Option Err
  answer : List Buffer → Buffer → Buffer

/-- A transfer that reports all bytes of a command has moved them. One of a packet reports
its length, or a negative count. -/
def Usb.move (env : Env) (u : Usb) : Move → Usb
  | .deliver count reached =>
    match u.output with
    | none => u
    | some command =>
      let u := { u with output := none, count := some count }
      if reached || count == command.length then
        { u with
          pending := u.pending ++ [env.answer u.received command]
          received := u.received ++ [command] }
      else u
  | .arrive count =>
    match u.input, u.pending with
    | true, packet :: pending =>
      { u with
        input := false
        packet := some (if count < 0 then count else packet.length, packet)
        pending }
    | _, _ => u

structure World where
  clock : Nat
  session : Session
  usb : Usb

abbrev SessionM := ExceptT Err (StateM World)

variable (env : Env)

/-- The transfers move, and the schedule says whether the step fails. -/
def ask : SessionM Unit := .mk fun w =>
  ((env.fails w.clock).elim (.ok ()) .error,
    { w with clock := w.clock + 1, usb := (env.moves w.clock).foldl (Usb.move env) w.usb })

/-- Fail with `poison` of an error. -/
def poison {α : Type} (err : Err) : SessionM α := do
  modify fun w => { w with session.poisoned := true }
  throw (.join err (.sentinel .cmsisdapPoisoned))

/-- `transportReady`. -/
def transportReady : SessionM Unit := do
  let s := (← get).session
  if !s.device then throw (.text "cmsisdap: session is closed")
  else if !s.claim then throw (.text "cmsisdap: command interface is closed")
  else if s.poisoned then throw (.sentinel .cmsisdapPoisoned)
  else if s.gone then throw (.sentinel .deviceGone)
  else ask env

/-- A request that has an effect if it succeeds. -/
def bulk (effect : Usb → Usb) : SessionM Unit := do
  ask env
  modify fun w => { w with usb := effect w.usb }

/-- `SubmitBulk` of the response IN and of the command OUT. -/
def submitInput : SessionM Unit := bulk env fun u => { u with input := true, packet := none }

def submitOutput (command : Buffer) : SessionM Unit :=
  bulk env fun u => { u with output := some command, count := none }

/-- `AbortBulk`: if it succeeds, no transfer is outstanding. -/
def abortInput : SessionM Unit := bulk env fun u => { u with input := false }

def abortOutput : SessionM Unit := bulk env fun u => { u with output := none }

/-- `Wait`, for what the transfer ended with. -/
def wait {α : Type} (ended : Usb → Option α) : SessionM α := do
  ask env
  match ended (← get).usb with
  | none => throw (.sentinel .deadlineExceeded)
  | some result => return result

/-- `submissionError`. -/
def submissionError (err : Err) : SessionM Err := do
  modify fun w => { w with session.gone := w.session.gone || err.is .deviceGone }
  return err

/-- The error of a cleanup, if any. -/
def errorOf (cleanup : SessionM Unit) : StateM World (Option Err) :=
  (·.casesOn some fun _ => none) <$> cleanup.run

/-- Fail with `poison` of an error and of a cleanup. -/
def abandon {α : Type} (err : Err) (cleanup : StateM World (Option Err)) : SessionM α := do
  poison ((Err.joined (some err) (← cleanup)).getD err)

/-- `completeCommand`. -/
def completeCommand (size : Nat) : SessionM Unit := do
  let count ← tryCatch (wait env Usb.count) fun err =>
    abandon (.wrap "cmsisdap: complete command OUT" err) do
      return Err.joined (← errorOf (abortOutput env)) (← errorOf (abortInput env))
  if count = size then return ()
  else abandon (.text ("cmsisdap: command OUT completed " ++ toString count ++ " of " ++
    toString size ++
    " bytes")) (errorOf (abortInput env))

/-- `completeResponse`, into a buffer of some size. -/
def completeResponse (size : Nat) : SessionM Buffer := do
  let (count, packet) ← tryCatch (wait env Usb.packet) fun err =>
    abandon (.wrap "cmsisdap: complete response IN" err) (errorOf (abortInput env))
  if count < 0 ∨ count > size then
    poison (.text ("cmsisdap: response IN completed with invalid count " ++ toString count ++
      " for " ++
      toString size ++ "-byte buffer"))
  else if count = 0 then
    poison (.wrap "cmsisdap: response IN made no progress" (.sentinel .noProgress))
  else return packet.take count.toNat

/-- `exchange`. -/
def exchange (request : Buffer) : SessionM Buffer := do
  transportReady env
  let packetSize := (← get).session.packetSize
  if request.length = 0 then throw (.text "cmsisdap: empty command")
  else if request.length > packetSize then
    throw (.text ("cmsisdap: command is " ++ toString request.length ++ " bytes, packet size is " ++
      toString packetSize))
  else
    tryCatch (submitInput env)
      fun err => do throw (← submissionError (.wrap "cmsisdap: submit response IN" err))
    tryCatch (submitOutput env request) fun err => do
      let err ← submissionError (.wrap "cmsisdap: submit command OUT" err)
      tryCatch (abortInput env) fun cleanup => poison (.join err cleanup)
      throw err
    completeCommand env request.length
    completeResponse env packetSize

/-- The world after commands, one after the other. -/
def serve (requests : List Buffer) (w : World) : World :=
  requests.foldl (fun w request => ((exchange env request).run w).2) w

/-- A session whose input is quiet. -/
def World.opened (session : Session) : World := ⟨0, session, ⟨none, none, false, none, [], []⟩⟩

/-- A command, with the schedule and the commands received before. -/
structure Asked where
  env : Env
  history : List Buffer
  request : Buffer

namespace Asked

def answer (a : Asked) : Buffer := a.env.answer a.history a.request

inductive Stage where
  | idle | submitted (command : Bool)

/-- Where the transfers can stand while a command is exchanged. -/
inductive At (a : Asked) : Stage → Usb → Prop where
  | idle {u} (quiet : u.Quiet a.history) : At a .idle u
  | listening {command count} : At a (.submitted command) ⟨none, count, true, none, [], a.history⟩
  | outstanding : At a (.submitted true) ⟨some a.request, none, true, none, [], a.history⟩
  | answered {count} : At a (.submitted true) ⟨none, count, true, none, [a.answer],
      a.history ++ [a.request]⟩
  | arrived {count} {reported : Int} (whole : 0 ≤ reported → reported = a.answer.length) :
      At a (.submitted true) ⟨none, count, false, some (reported, a.answer), [],
        a.history ++ [a.request]⟩

/-- A request leads from `stage` to `next`. -/
def Moves (a : Asked) (request : SessionM Unit) (stage next : Stage) : Prop :=
  ∀ w, a.At stage w.usb → Yields request w (fun _ w' => a.At next w'.usb) fun _ w' =>
    a.At stage w'.usb

/-- An exchange succeeds with the answer to the command. -/
def Succeeds (a : Asked) (response : Buffer) (w : World) : Prop :=
  response = a.answer ∧ w.usb.Quiet (a.history ++ [a.request])

/-- It fails with the session poisoned, or with nothing sent. -/
def Fails (a : Asked) (_ : Err) (w : World) : Prop :=
  w.session.poisoned = true ∨ w.usb.Quiet a.history

variable {a : Asked} {stage next : Stage} {w : World}

theorem At.quiet {u : Usb} : a.At .idle u → u.Quiet a.history
  | .idle quiet => quiet

theorem At.move {u : Usb} (stands : a.At stage u) (move : Move) :
    a.At stage (u.move a.env move) := by
  cases stands with
  | idle quiet => cases move <;> simp only [Usb.move, quiet.1, quiet.2.1] <;> exact .idle quiet
  | outstanding =>
    rcases move with ⟨count, reached⟩ | _
    · dsimp only [Usb.move]
      split <;> constructor
    · constructor
  | answered =>
    cases move with
    | deliver => constructor
    | arrive count =>
      refine .arrived fun low => ?_
      split at low
      · omega
      · next proper => exact if_neg proper
  | arrived whole => cases move <;> exact .arrived whole
  | listening => cases move <;> constructor

theorem ask_moves : a.Moves (ask a.env) stage stage := by
  intro w stands
  have moved := List.foldlRecOn (a.env.moves w.clock) _ stands fun _ stands move _ =>
    stands.move move
  rw [Yields]
  split <;> exact moved

theorem bulk_moves {effect : Usb → Usb} (moves : ∀ u, a.At stage u → a.At next (effect u)) :
    a.Moves (bulk a.env effect) stage next :=
  fun w stands => .bind _ (ask_moves w stands) fun _ w' => moves w'.usb

theorem submitInput_moves : a.Moves (submitInput a.env) .idle (.submitted false) :=
  bulk_moves fun _ idle => by
    obtain ⟨output, -, pending, received⟩ := idle.quiet
    rw [output, pending, received]
    constructor

theorem submitOutput_moves :
    a.Moves (submitOutput a.env a.request) (.submitted false) (.submitted true) :=
  bulk_moves fun _ listening => by cases listening; constructor

theorem abortInput_moves : a.Moves (abortInput a.env) (.submitted false) .idle :=
  bulk_moves fun _ listening => by cases listening; exact .idle ⟨rfl, rfl, rfl, rfl⟩

theorem wait_spec {α : Type} (ended : Usb → Option α) (stands : a.At stage w.usb) :
    Yields (wait a.env ended) w (fun result w' => a.At stage w'.usb ∧ ended w'.usb = some result)
      fun _ w' => a.At stage w'.usb := by
  refine .bind _ (ask_moves w stands) fun _ w₁ stands => .lift_bind ?_
  split
  · exact .throw stands
  · next result found => exact .pure ⟨stands, found⟩

theorem completeCommand_spec (size : Nat) (stands : a.At (.submitted true) w.usb) :
    Yields (completeCommand a.env size) w (fun _ w' => a.At (.submitted true) w'.usb) a.Fails := by
  refine .bind _ (.tryCatch (wait_spec Usb.count stands) fun _ _ _ => .lift_bind (.inl rfl)) ?_
  rintro count w₁ ⟨stands, -⟩
  exact .ite (fun _ => .pure stands) fun _ => .lift_bind (.inl rfl)

/-- A packet with a count that it can have is the whole answer. -/
theorem completeResponse_spec (size : Nat) (stands : a.At (.submitted true) w.usb) :
    Yields (completeResponse a.env size) w a.Succeeds a.Fails := by
  have waited := (wait_spec Usb.packet stands).tryCatch fun err w₁ _ =>
    show Yields (abandon (.wrap "cmsisdap: complete response IN" err) (errorOf (abortInput a.env)))
      w₁ _
      a.Fails from .lift_bind (.inl rfl)
  refine .bind _ waited ?_
  rintro ⟨count, packet⟩ ⟨clock, session, u⟩ ⟨stands, found⟩
  refine .ite (fun invalid => .inl rfl) fun valid => .ite (fun empty => .inl rfl) fun _ => .pure ?_
  cases stands with
  | arrived whole =>
    obtain ⟨rfl, rfl⟩ := Prod.mk.inj (Option.some.inj found)
    have counted := whole (by omega)
    refine ⟨?_, rfl, rfl, rfl, rfl⟩
    rw [counted]
    exact List.take_length
  | _ => cases found

/-- Readiness is found without a trace, or the session is ready. -/
theorem transportReady_spec (quiet : w.session.poisoned = false → w.usb.Quiet a.history) :
    Yields (transportReady a.env) w (fun _ w' => w.session.poisoned = false ∧ a.At .idle w'.usb)
      fun err w' => w' = w ∨ w.session.poisoned = false ∧ a.Fails err w' := by
  refine .lift_bind (.ite (fun closed => .inl rfl) fun _ => .ite (fun unclaimed => .inl rfl)
    fun _ => ?_)
  refine .ite (fun poisoned => .inl rfl) fun sound => .ite (fun gone => .inl rfl) fun _ => ?_
  have usable : w.session.poisoned = false := Bool.eq_false_of_not_eq_true sound
  refine (ask_moves w (.idle (quiet usable))).mono (fun _ w' idle => ⟨usable, idle⟩)
    fun err w' idle => ?_
  exact .inr ⟨usable, .inr idle.quiet⟩

/-- An exchange of a session that is not poisoned pairs the command with its answer, or
fails with the session poisoned or nothing sent. -/
theorem exchange_spec (quiet : w.session.poisoned = false → w.usb.Quiet a.history) :
    Yields (exchange a.env a.request) w
      (fun response w' => w.session.poisoned = false ∧ a.Succeeds response w')
      fun err w' => w' = w ∨ w.session.poisoned = false ∧ a.Fails err w' := by
  refine .bind _ (transportReady_spec quiet) ?_
  rintro - w₁ ⟨usable, idle⟩
  suffices paired : Yields _ w₁ a.Succeeds a.Fails from
    paired.mono (fun _ _ succeeds => ⟨usable, succeeds⟩) fun _ _ fails => .inr ⟨usable, fails⟩
  refine .lift_bind (.ite (fun empty => .inr idle.quiet) fun _ => .ite (fun long => .inr idle.quiet)
    fun _ => ?_)
  refine .bind _ ((submitInput_moves w₁ idle).tryCatch fun err w₂ idle => ?_)
    fun _ w₂ listening => ?_
  · exact .inr idle.quiet
  refine .bind _ ((submitOutput_moves w₂ listening).tryCatch fun err w₃ listening => ?_)
    fun _ w₃ sent => ?_
  · -- the command was not sent, and the read is aborted
    refine .bind (fun _ (w' : World) => a.At (.submitted false) w'.usb) listening
      fun _ w₄ listening => ?_
    refine .bind _ ((abortInput_moves w₄ listening).tryCatch fun _ _ _ => .inl rfl)
      fun _ w₅ idle => ?_
    exact .inr idle.quiet
  · refine .bind _ (completeCommand_spec _ sent) fun _ w₄ stands => ?_
    exact completeResponse_spec _ stands

end Asked

/-- Nothing is left outstanding or undelivered, unless the session is poisoned. -/
def World.Settled (w : World) : Prop := w.session.poisoned = false → w.usb.Quiet w.usb.received

theorem exchange_settled {w : World} (settled : w.Settled) (request : Buffer) :
    ((exchange env request).run w).2.Settled := by
  have spec := Asked.exchange_spec (a := ⟨env, _, request⟩) settled
  rw [Yields] at spec
  split at spec
  · obtain ⟨-, -, quiet⟩ := spec
    exact fun _ => quiet.2.2.2 ▸ quiet
  · obtain same | ⟨-, poisoned | quiet⟩ := spec
    · exact (congrArg World.Settled same).mpr settled
    · exact fun usable => absurd poisoned (by simp [usable])
    · exact fun _ => quiet.2.2.2 ▸ quiet

/-- After any commands, the session is settled. A command that succeeds returns what the probe
answers to it. One that fails changes nothing if the session was poisoned; else it poisons
the session, unless the command was not received and never will be. On a poisoned session
every command fails. -/
theorem exchange_paired (env : Env) (session : Session) (requests : List Buffer)
    (request : Buffer) :
    let w := serve env requests (.opened session)
    let a : Asked := ⟨env, w.usb.received, request⟩
    w.Settled ∧
      (Yields (exchange env request) w a.Succeeds
        fun err w' => w' = w ∨ w.session.poisoned = false ∧ a.Fails err w') ∧
      (w.session.poisoned = true → ∃ err, (exchange env request).run w = (.error err, w)) := by
  intro w a
  have settled : w.Settled := List.foldlRecOn (motive := World.Settled) requests _
    (fun _ => ⟨rfl, rfl, rfl, rfl⟩)
    fun _ settled request _ => exchange_settled env settled request
  have spec := a.exchange_spec settled
  refine ⟨settled, spec.mono (fun _ _ succeeds => succeeds.2) fun _ _ fails => fails,
    fun poisoned => ?_⟩
  have unusable : w.session.poisoned ≠ false := by simp [poisoned]
  rw [Yields] at spec
  rcases ran : (exchange env request).run w with ⟨err | response, w'⟩
  · rw [ran] at spec
    obtain rfl | ⟨usable, -⟩ := spec
    · exact ⟨err, rfl⟩
    · exact absurd usable unusable
  · rw [ran] at spec
    exact absurd spec.1 unusable

end Ostiole.Cmsisdap
