import Ostiole.Swd.Chunk

/-!
# What a batch can come to

`Batched` is the specification of `Batch.Commit`: the clocked operations are a
prefix of the queue, first those the target carried out, then at most one WAIT
or FAULT with the suffix it made the target abandon, then operations whose
outcome is unknown. Everything after them was not sent. At most one further
frame follows, the connection's own ABORT after a WAIT.
-/

namespace Ostiole

/-- Sentinels of the `dap` package. -/
def Sentinel.ofDap : Sentinel → Bool
  | .dapWait | .dapFault | .dapProtocol | .dapTxnCommitted | .dapNotExecuted
  | .dapIndeterminate | .framingUnknown | .addressIncrementUnsupported => true
  | _ => false

/-- Error trees whose leaves all satisfy a predicate and that hold no error type
of the `dap` package. -/
def Err.leaves (holds : Sentinel → Bool) : Err → Bool
  | .sentinel name => holds name
  | .text _ => true
  | .wrap _ cause | .joinOne cause => cause.leaves holds
  | .join first second => first.leaves holds && second.leaves holds
  | _ => false

/-- An error of the wire or of the `swd` package about something that was sent. -/
def Err.ofSwd (err : Err) : Bool := err.leaves fun name => !name.ofDap && name != .swdNotExecuted

/-- An error of one frame. -/
def Err.ofWire (err : Err) : Bool :=
  err.leaves fun name => !name.ofDap && name != .swdNotExecuted && name != .swdIndeterminate

/-- An error that says nothing about a request: a context that ended, a failed check. -/
def Err.quiet (err : Err) : Bool :=
  err.leaves fun name => name == .canceled || name == .deadlineExceeded

theorem Err.leaves_mono {first second : Sentinel → Bool}
    (imp : ∀ name, first name = true → second name = true) :
    ∀ err : Err, err.leaves first = true → err.leaves second = true
  | .sentinel name, holds => imp name holds
  | .text _, _ => rfl
  | .wrap _ cause, holds | .joinOne cause, holds => leaves_mono imp cause holds
  | .join a b, holds => by
    simp only [Err.leaves, Bool.and_eq_true] at holds ⊢
    exact ⟨leaves_mono imp a holds.1, leaves_mono imp b holds.2⟩

theorem Err.ofSwd_of_quiet {err : Err} (quiet : err.quiet = true) : err.ofSwd = true :=
  leaves_mono (fun name holds => by cases name <;> simp_all [Sentinel.ofDap]) err quiet

theorem Err.ofSwd_of_wire {err : Err} (wire : err.ofWire = true) : err.ofSwd = true :=
  leaves_mono (fun name holds => by simp_all) err wire

/-- Only leaves are found by `errors.Is`. -/
theorem Err.is_of_leaves {holds : Sentinel → Bool} {name : Sentinel} :
    ∀ err : Err, err.leaves holds = true → err.is name = true → holds name = true
  | .sentinel _, leaf, found => by
    simp only [Err.is, beq_iff_eq] at found
    exact found ▸ leaf
  | .text _, _, found => by simp [Err.is] at found
  | .wrap _ cause, leaf, found | .joinOne cause, leaf, found =>
    is_of_leaves cause leaf found
  | .join a b, leaf, found => by
    simp only [Err.leaves, Bool.and_eq_true] at leaf
    simp only [Err.is, Bool.or_eq_true] at found
    exact found.elim (is_of_leaves a leaf.1) (is_of_leaves b leaf.2)

theorem joinErrs_eq_none {errs : List Err} : joinErrs errs = none ↔ errs = [] := by
  match errs with
  | [] => simp [joinErrs]
  | [_] => simp [joinErrs]
  | _ :: _ :: _ => simp [joinErrs]

/-- Joining adds no leaf. -/
theorem joinErrs_leaves {holds : Sentinel → Bool} {errs : List Err} {err : Err}
    (all : ∀ cause ∈ errs, cause.leaves holds = true) (joined : joinErrs errs = some err) :
    err.leaves holds = true := by
  have fold : ∀ (rest : List Err) (first : Err), first.leaves holds = true →
      (∀ cause ∈ rest, cause.leaves holds = true) →
      (rest.foldl Err.join first).leaves holds = true := by
    intro rest
    induction rest with
    | nil => exact fun first leaf _ => leaf
    | cons next rest ih =>
      intro first leaf others
      refine ih (.join first next) ?_ fun cause member => others cause (by simp [member])
      simp [Err.leaves, leaf, others next (by simp)]
  match errs with
  | [] => simp [joinErrs] at joined
  | [only] =>
    obtain rfl := Option.some.inj joined
    exact all only (by simp)
  | first :: second :: rest =>
    obtain rfl := Option.some.inj joined
    exact fold _ first (all first (by simp)) fun cause member => all cause (by simp [member])

namespace Swd

/-! ## Outcomes of one operation -/

/-- Carried out by the target, with or without readable data. -/
def Confirmed (e : Event) (result : BatchResult) : Prop :=
  e.seen = some .ok ∧ (result = ⟨if e.req.read then e.value else 0, none⟩ ∨
    (result = ⟨0, some errParity⟩ ∧ e.req.read = true))

/-- Answered with WAIT; the cleanup that followed may have failed. -/
def Waited (e : Event) (result : BatchResult) : Prop :=
  e.seen = some .wait ∧ (result = ⟨0, some errWait⟩ ∨
    ∃ err : Err, err.ofWire = true ∧ result = ⟨0, some (.join errWait err)⟩)

/-- Answered with FAULT. -/
def Faulted (e : Event) (result : BatchResult) : Prop :=
  e.seen = some .fault ∧ result = ⟨0, some errFault⟩

/-- Clocked without a known outcome. -/
def Lost (result : BatchResult) : Prop :=
  ∃ err : Err, err.ofSwd = true ∧ result.err = some (.join errIndeterminate err)

/-- Not clocked: an earlier operation stopped the batch, or a check failed. -/
def Unsent (result : BatchResult) : Prop :=
  result = unsent ∨ ∃ index message, result = ⟨0, some (operationErr index (.text message))⟩

section Kinds

variable {e : Event} {result : BatchResult} {err : Err}

theorem Confirmed.ofSwd (confirmed : Confirmed e result) (failed : result.err = some err) :
    err.ofSwd = true := by
  obtain ⟨_, rfl | ⟨rfl, _⟩⟩ := confirmed
  · simp at failed
  · obtain rfl := Option.some.inj failed
    rfl

theorem Waited.ofSwd (waited : Waited e result) (failed : result.err = some err) :
    err.ofSwd = true := by
  obtain ⟨_, rfl | ⟨cause, swd, rfl⟩⟩ := waited
  · obtain rfl := Option.some.inj failed
    rfl
  · obtain rfl := Option.some.inj failed
    simpa [Err.ofSwd, Err.leaves, errWait, Sentinel.ofDap] using Err.ofSwd_of_wire swd

theorem Faulted.ofSwd (faulted : Faulted e result) (failed : result.err = some err) :
    err.ofSwd = true := by
  obtain ⟨_, rfl⟩ := faulted
  obtain rfl := Option.some.inj failed
  rfl

theorem Lost.ofSwd (lost : Lost result) (failed : result.err = some err) : err.ofSwd = true := by
  obtain ⟨cause, swd, isLost⟩ := lost
  obtain rfl := Option.some.inj (failed.symm.trans isLost)
  simpa [Err.ofSwd, Err.leaves, errIndeterminate, Sentinel.ofDap] using swd

end Kinds

/-- A WAIT or FAULT and the frames of the same exchange after it. -/
inductive Abandoned : List (Event × BatchResult) → Prop
  | none : Abandoned []
  | refused {first : Event × BatchResult} {others : List (Event × BatchResult)}
      (answer : Waited first.1 first.2 ∨ Faulted first.1 first.2)
      (suffix : ∀ p ∈ others, (Faulted p.1 p.2 ∨ (Confirmed p.1 p.2 ∧ exemptKind p.1.req = true)) ∧
        p.1.time = first.1.time) :
      Abandoned (first :: others)

theorem Abandoned.ofSwd {bad : List (Event × BatchResult)} (abandoned : Abandoned bad) :
    ∀ p ∈ bad, ∀ err, p.2.err = some err → err.ofSwd = true := by
  cases abandoned with
  | none => simp
  | refused answer suffix =>
    intro p member err failed
    rcases List.mem_cons.mp member with rfl | later
    · exact answer.elim (·.ofSwd failed) (·.ofSwd failed)
    · exact (suffix p later).1.elim (·.ofSwd failed) (·.1.ofSwd failed)

/-- The fields of a connection that only `Connect` and `Release` change. -/
def Conn.record (c : Conn) : ResponseMode × Word × Bool × Bool × Bool × Int :=
  (c.response, c.identity, c.identityKnown, c.originalOverrun, c.originalKnown,
    c.completionTimeout)

@[simp] theorem requireRepair_record (c : Conn) : c.requireRepair.record = c.record := by
  unfold Conn.requireRepair
  split_ifs <;> rfl

@[simp] theorem observeTransfer_record (c : Conn) (req : Request) (result data : Word)
    (err : Option Err) : (c.observeTransfer req result data err).record = c.record := by
  unfold Conn.observeTransfer Conn.observePendingSelection Conn.resolveBankZeroCTRLSTAT
  split_ifs <;> first | rfl | exact requireRepair_record c

theorem response_of_record {c d : Conn} (same : d.record = c.record) : d.response = c.response :=
  congrArg Prod.fst same

/-- The specification of a batch. -/
structure Batched (ops : List BatchOp) (l : Link) (results : List BatchResult) (err : Option Err)
    (l' : Link) (good bad lost : List (Event × BatchResult)) (rest : List BatchResult)
    (cleanup : List Event) : Prop where
  sends : Sends l ((good ++ bad ++ lost).map (·.1) ++ cleanup) l'
  times : ∀ p ∈ good ++ bad ++ lost, l.clock ≤ p.1.time
  record : l'.conn.record = l.conn.record
  outcomes : results = (good ++ bad ++ lost).map (·.2) ++ rest
  length : results.length = ops.length
  requests : (good ++ bad ++ lost).map (·.1.op) <+: ops
  confirmed : ∀ p ∈ good, Confirmed p.1 p.2
  abandoned : Abandoned bad
  unknown : ∀ p ∈ lost, Lost p.2
  unknownFirst : bad ≠ [] → ∀ p ∈ lost.head?, isErr p.2.err .swdFault = false
  idle : ∀ result ∈ rest, Unsent result
  aborts : ∀ e ∈ cleanup, e.req = rawRequest false 0x00 ∧ e.data = clearStickyOverrun
  single : cleanup.length ≤ 1
  needed : bad = [] → cleanup = []
  framed : Framed l.conn.response l.target → Framed l.conn.response l'.target
  keeps : ∀ p ∈ good ++ bad ++ lost, p.1.keepsFraming (l.conn.response == .overrun)
  ready : l'.conn.state = .ready → l.conn.state = .ready ∧ lost = [] ∧ Tracked l'.conn l'.target
  success : err = none → bad = [] ∧ lost = [] ∧ rest = [] ∧ ∀ p ∈ good, p.2.err = none
  stopped : bad = [] → lost = [] → (∀ p ∈ good, p.2.err = none) → ∀ cause, err = some cause →
    cause.quiet = true
  swdErr : ∀ cause, err = some cause → cause.ofSwd = true
  prefixed : (∀ op ∈ ops, exemptKind op.req = false) →
    ((good ++ bad ++ lost).map (·.1)).Pairwise fun e later =>
      later.accepted = true → e.accepted = true

/-- What was confirmed was accepted. -/
theorem Batched.accepted {ops : List BatchOp} {l l' : Link} {results rest : List BatchResult}
    {err : Option Err} {good bad lost : List (Event × BatchResult)} {cleanup : List Event}
    (batched : Batched ops l results err l' good bad lost rest cleanup) :
    ∀ p ∈ good, p.1.accepted = true := by
  intro p member
  obtain ⟨_, _, step⟩ := batched.sends.steps.step_of_mem (e := p.1)
    (List.mem_append_left _ (List.mem_map_of_mem (by simp [member])))
  exact step.accepted_of_ok (batched.confirmed p member).1

end Swd

end Ostiole
