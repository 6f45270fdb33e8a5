import Ostiole.Swd.Grammar

/-!
# Whole sessions of one connection

Any sequence of calls on a fresh `swd.Conn`: `Connect`, `Release` and the
register interface, in any order and with any outcome. A connection that is
ready always agrees with its target, which is what a batch needs to classify
its results.
-/

namespace Ostiole.Swd

open Ostiole Logic

/-- A method call on `swd.Conn`. -/
inductive LinkCall where
  | connect (ctx : Ctx) (cleanupTimeout : Int)
  | release (ctx : Ctx)
  | register (call : ConnCall)
deriving Repr

/-- The link after a call. -/
def LinkCall.perform (l : Link) : LinkCall → Link
  | .connect ctx cleanupTimeout => (Swd.connect ctx cleanupTimeout l).2
  | .release ctx => (Swd.release ctx l).2
  | .register call => call.perform l

/-- The link after a list of calls. -/
def session (l : Link) (calls : List LinkCall) : Link := calls.foldl LinkCall.perform l

/-- `swd.New` on a wire with any schedule, target and past. -/
def Link.fresh (env : Env) (clock : Nat) (target : Target) (log : List Event)
    (completionTimeout : Int) : Link :=
  ⟨env, clock, target, log, .new completionTimeout⟩

/-- What holds before and after every call of a session holds at its end. -/
theorem session_invariant (invariant : Link → Prop)
    (kept : ∀ l call, invariant l → invariant (LinkCall.perform l call)) {l : Link}
    (start : invariant l) (calls : List LinkCall) : invariant (session l calls) := by
  induction calls generalizing l with
  | nil => exact start
  | cons call rest ih => exact ih (kept l call start)

/-! ## A ready connection agrees with its target -/

/-- The connection expects what the target sends whenever it is ready. -/
def Sane (l : Link) : Prop := l.conn.state = .ready → Coherent l

theorem Cycled.sane {l l' : Link} (cycled : Cycled l l') (sane : Sane l) : Sane l' := by
  intro ready
  rcases cycled.ready ready with connected | ⟨idle, conn⟩
  · exact connected.coherent
  · have before := sane (conn ▸ ready)
    refine ⟨?_, fun ready => ?_⟩
    · rw [conn, idle.steps.nil_eq]
      exact before.framed
    · rw [conn, idle.steps.nil_eq]
      exact before.tracked (conn ▸ ready)

/-- The register interface does nothing on a connection that is not ready. -/
theorem perform_notReady {l : Link} (busy : l.conn.state ≠ .ready) (call : ConnCall) :
    call.perform l = l := by
  have refused (ctx : Ctx) (req : Request) (value : Word) : (access ctx req value l).2 = l := by
    unfold access
    cases newRequestErr req.addr with
    | some err => rfl
    | none =>
      simp only [transfer, run_get_bind, run_ite]
      rw [if_pos busy]
      rfl
  cases call with
  | readDP ctx addr => exact refused ctx _ _
  | writeDP ctx addr value => exact refused ctx _ _
  | readAP ctx addr => exact refused ctx _ _
  | writeAP ctx addr value => exact refused ctx _ _
  | commit ctx ops =>
    simp only [ConnCall.perform, commit, run_ite]
    split_ifs
    · rfl
    · have stopped : (validate ctx ops l).1.2.isSome = true ∧ (validate ctx ops l).2 = l := by
        simp only [validate]
        cases joinErrs ((requestErrs 0 ops).filterMap id) with
        | some err => exact ⟨rfl, rfl⟩
        | none =>
          simp only [run_get_bind, run_ite]
          rw [if_pos busy]
          exact ⟨rfl, rfl⟩
      rw [run_bind]
      generalize validate ctx ops l = outcome at stopped ⊢
      obtain ⟨⟨errs, err⟩, l₁⟩ := outcome
      obtain ⟨failed, rfl⟩ := stopped
      simp only [run_ite]
      rw [if_pos failed]
      rfl

theorem LinkCall.sane {l : Link} (sane : Sane l) (call : LinkCall) : Sane (call.perform l) := by
  cases call with
  | connect ctx cleanupTimeout => exact (connect_spec ctx cleanupTimeout l).1.sane sane
  | release ctx => exact (release_spec ctx fun ready => (sane ready).tracked ready).1.sane sane
  | register call =>
    by_cases ready : l.conn.state = .ready
    · exact fun _ => (perform_kept (sane ready) call).coherent
    · rw [LinkCall.perform, perform_notReady ready]
      exact sane

theorem session_sane (env : Env) (clock : Nat) (target : Target) (log : List Event)
    (completionTimeout : Int) (calls : List LinkCall) :
    Sane (session (.fresh env clock target log completionTimeout) calls) :=
  session_invariant Sane (fun _ call sane => LinkCall.sane sane call)
    (fun ready => by simp [Link.fresh, Conn.new] at ready) calls

/-! ## The classification of a batch -/

/-- A queue whose requests are labelled with their positions. The wire does not
carry the label: it tells the frames of one operation in the log. -/
def labelled (ops : List BatchOp) : List BatchOp :=
  ops.mapIdx fun i op => { op with req := { op.req with tag := some ⟨i, .unbanked, none⟩ } }

/-- A frame of the operation at a position. -/
def Event.isOf (i : Nat) (e : Event) : Bool := e.req.tag.any (·.id == i)

/-- An error of the checks made before an operation is sent. -/
def IsValidation (err : Option Err) : Prop :=
  ∃ index message, err = some (operationErr index (.text message))

/-- What a result says about the frames of its operation and about the connection. -/
structure Classified (result : BatchResult) (frames : List Event) (c : Conn) : Prop where
  carriedOut : result.err = none ∨ result.err = some errParity →
    ∃ e, frames = [e] ∧ e.accepted = true
  refused : isErr result.err .swdWait = true ∨ isErr result.err .swdFault = true →
    isErr result.err .swdIndeterminate = false → ∀ e ∈ frames, e.accepted = false
  unclocked : (isErr result.err .swdNotExecuted = true ∧
    isErr result.err .swdIndeterminate = false) ∨ IsValidation result.err → frames = []
  unknown : result.err ≠ none → result.err ≠ some errParity →
    isErr result.err .swdWait = false → isErr result.err .swdFault = false →
    isErr result.err .swdNotExecuted = false → ¬ IsValidation result.err →
    isErr result.err .swdIndeterminate = true
  repair : isErr result.err .swdIndeterminate = true → c.state ≠ .ready

/-- The elements that stand at one position, when a predicate tells it. -/
theorem filter_position {α : Type} {holds : α → Bool} :
    ∀ {xs : List α} {i : Nat}, (∀ j x, xs[j]? = some x → (holds x = true ↔ j = i)) →
      xs.filter holds = xs[i]?.toList
  | [], _, _ => by simp
  | x :: xs, 0, at_ => by
    have first : holds x = true := (at_ 0 x rfl).mpr rfl
    have none : xs.filter holds = [] := by
      refine List.filter_eq_nil_iff.mpr fun y member => ?_
      obtain ⟨j, there⟩ := List.mem_iff_getElem?.mp member
      intro own
      have := (at_ (j + 1) y (by simpa using there)).mp own
      omega
    simp [first, none]
  | x :: xs, i + 1, at_ => by
    have first : ¬ holds x = true := fun own => by
      have := (at_ 0 x rfl).mp own
      omega
    have later : ∀ j y, xs[j]? = some y → (holds y = true ↔ j = i) := fun j y there => by
      simpa using at_ (j + 1) y (by simpa using there)
    simp [first, filter_position later]

/-- The frames of an operation are the one at its position. -/
theorem filter_isOf {ops : List BatchOp} {events : List Event}
    (requests : events.map Event.op <+: labelled ops) (i : Nat) :
    events.filter (Event.isOf i) = events[i]?.toList := by
  refine filter_position fun j e there => ?_
  obtain ⟨later, queue⟩ := requests
  have own : (labelled ops)[j]? = some e.op := by
    rw [← queue, List.getElem?_append_left (by simpa using (List.getElem?_eq_some_iff.mp there).1)]
    simp [there]
  obtain ⟨op, _, same⟩ : ∃ op, ops[j]? = some op ∧
      { op with req := { op.req with tag := some ⟨j, .unbanked, none⟩ } } = e.op := by
    simpa [labelled] using own
  have tag : e.req.tag = some ⟨j, .unbanked, none⟩ := (congrArg (·.req.tag) same).symm
  simp [Event.isOf, tag]

section Kinds

variable {e : Event} {result : BatchResult} {c : Conn} {world : PortWorld} {t t' : Target}

theorem Confirmed.classified (confirmed : Confirmed e result) (transition : Step world t e t') :
    Classified result [e] c := by
  have accepted := transition.accepted_of_ok confirmed.1
  obtain ⟨_, rfl | ⟨rfl, _⟩⟩ := confirmed
  · exact ⟨fun _ => ⟨e, rfl, accepted⟩, by simp [isErr], by simp [isErr, IsValidation],
      by simp, by simp [isErr]⟩
  · exact ⟨fun _ => ⟨e, rfl, accepted⟩, by simp [isErr, errParity, Err.is],
      by simp [isErr, errParity, Err.is, IsValidation, operationErr], by simp,
      by simp [isErr, errParity, Err.is]⟩

/-- A refused request whose error says so and nothing else. -/
private theorem classified_of_refused {err : Err} (refused : e.accepted = false)
    (failed : result.err = some err) (answer : err.is .swdWait = true ∨ err.is .swdFault = true)
    (certain : err.is .swdIndeterminate = false) (sent : err.is .swdNotExecuted = false)
    (shape : ∀ message cause, err ≠ .wrap message cause) : Classified result [e] c where
  carriedOut := by
    rw [failed]
    rintro (absent | parity)
    · simp at absent
    · obtain rfl := Option.some.inj parity
      simp [errParity, Err.is] at answer
  refused _ _ := by simp [refused]
  unclocked := by
    rintro (⟨unsent, _⟩ | ⟨index, message, validation⟩)
    · simp [failed, isErr, sent] at unsent
    · exact absurd (Option.some.inj (failed.symm.trans validation)) (shape _ _)
  unknown _ _ wait fault := by
    simp only [failed, isErr] at wait fault
    rcases answer with found | found <;> simp_all
  repair lost := by simp [failed, isErr, certain] at lost

theorem Waited.classified (waited : Waited e result) (transition : Step world t e t') :
    Classified result [e] c := by
  have refused := transition.refused_of_seen (.inl waited.1)
  obtain ⟨_, rfl | ⟨err, wire, rfl⟩⟩ := waited
  · exact classified_of_refused refused rfl (.inl rfl) rfl rfl (by simp [errWait])
  · have absent (name : Sentinel) (never : (!name.ofDap && name != .swdNotExecuted &&
        name != .swdIndeterminate) = false) : err.is name = false :=
      Bool.not_eq_true _ ▸ fun found => by
        simpa [never] using Err.is_of_leaves err wire found
    refine classified_of_refused refused rfl (.inl ?_) ?_ ?_ (by simp)
    · rfl
    · simpa [Err.is, errWait] using absent .swdIndeterminate rfl
    · simpa [Err.is, errWait] using absent .swdNotExecuted rfl

theorem Faulted.classified (faulted : Faulted e result) (transition : Step world t e t') :
    Classified result [e] c := by
  have refused := transition.refused_of_seen (.inr faulted.1)
  obtain ⟨_, rfl⟩ := faulted
  exact classified_of_refused refused rfl (.inr rfl) rfl rfl (by simp [errFault])

theorem Lost.classified {frames : List Event} (lost : Lost result) (busy : c.state ≠ .ready) :
    Classified result frames c := by
  obtain ⟨err, _, failed⟩ := lost
  have found : isErr result.err .swdIndeterminate = true := by
    simp [failed, isErr, Err.is, errIndeterminate]
  refine ⟨?_, ?_, ?_, fun _ _ _ _ _ _ => found, fun _ => busy⟩
  · simp [failed, errParity]
  · simp [found]
  · rintro (⟨_, certain⟩ | ⟨index, message, validation⟩)
    · simp [found] at certain
    · simp [failed, operationErr] at validation

theorem Unsent.classified (unsent : Unsent result) : Classified result [] c := by
  obtain rfl | ⟨index, message, rfl⟩ := unsent
  · refine ⟨?_, ?_, fun _ => rfl, ?_, ?_⟩ <;>
      simp [Swd.unsent, errNotExecuted, errParity, isErr, Err.is]
  · refine ⟨?_, ?_, fun _ => rfl, ?_, ?_⟩ <;>
      simp [operationErr, errParity, isErr, Err.is, IsValidation]

end Kinds

/-- Every result of a batch that meets its specification is classified. -/
theorem Batched.classified {ops : List BatchOp} {l l' : Link} {results rest : List BatchResult}
    {err : Option Err} {good bad lost : List (Event × BatchResult)} {cleanup : List Event}
    (batched : Batched (labelled ops) l results err l' good bad lost rest cleanup) {i : Nat}
    {result : BatchResult} (here : results[i]? = some result) :
    Classified result
      (((good ++ bad ++ lost).map (·.1) ++ cleanup).filter (Event.isOf i)) l'.conn := by
  have own : ((good ++ bad ++ lost).map (·.1)).filter (Event.isOf i) =
      ((good ++ bad ++ lost)[i]?.map (·.1)).toList := by
    have requests : ((good ++ bad ++ lost).map (·.1)).map Event.op <+: labelled ops := by
      rw [List.map_map]
      exact batched.requests
    rw [filter_isOf requests, List.getElem?_map]
  have none : cleanup.filter (Event.isOf i) = [] := by
    refine List.filter_eq_nil_iff.mpr fun e member => ?_
    simp [Event.isOf, (batched.aborts e member).1, rawRequest]
  rw [List.filter_append, own, none, List.append_nil]
  have step : ∀ p ∈ good ++ bad ++ lost, ∃ t t', Step l.env.world t p.1 t' := fun p member =>
    batched.sends.steps.step_of_mem (List.mem_append_left _ (List.mem_map_of_mem member))
  rw [batched.outcomes] at here
  by_cases clocked : i < (good ++ bad ++ lost).length
  · rw [List.getElem?_append_left (by simpa using clocked), List.getElem?_map,
      List.getElem?_eq_getElem clocked] at here
    rw [List.getElem?_eq_getElem clocked]
    obtain rfl := Option.some.inj here
    have member := List.getElem_mem clocked
    generalize (good ++ bad ++ lost)[i] = p at member ⊢
    obtain ⟨t, t', transition⟩ := step p member
    simp only [Option.map_some, Option.toList_some]
    rcases List.mem_append.mp member with member | isLost
    · rcases List.mem_append.mp member with isGood | isBad
      · exact (batched.confirmed p isGood).classified transition
      · cases batched.abandoned with
        | none => simp at isBad
        | refused answer suffix =>
          rcases List.mem_cons.mp isBad with rfl | later
          · exact answer.elim (·.classified transition) (·.classified transition)
          · exact (suffix p later).1.elim (·.classified transition) (·.1.classified transition)
    · refine (batched.unknown p isLost).classified fun ready => ?_
      simp [(batched.ready ready).2.1] at isLost
  · rw [List.getElem?_append_right (by simpa using clocked)] at here
    rw [List.getElem?_eq_none (by simpa using clocked)]
    exact (batched.idle result (List.mem_of_getElem? here)).classified

/-- At any point of any session, every result of a batch tells the truth about
the frames of its operation and about the connection. -/
theorem commit_classified (env : Env) (clock : Nat) (target : Target) (log : List Event)
    (completionTimeout : Int) (calls : List LinkCall) (ctx : Ctx) (ops : List BatchOp) :
    let l := session (.fresh env clock target log completionTimeout) calls
    let outcome := commit ctx (labelled ops) l
    ∃ events, outcome.2.log = l.log ++ events ∧ outcome.1.1.length = ops.length ∧
      ∀ i result, outcome.1.1[i]? = some result →
        Classified result (events.filter (Event.isOf i)) outcome.2.conn := by
  intro l outcome
  have sane : Sane l := session_sane env clock target log completionTimeout calls
  obtain ⟨good, bad, lost, rest, cleanup, batched, _⟩ := commit_spec sane ctx (labelled ops)
  refine ⟨_, batched.sends.log, ?_, fun i result here => batched.classified here⟩
  exact batched.length.trans (by simp [labelled])

end Ostiole.Swd
