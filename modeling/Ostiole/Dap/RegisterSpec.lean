import Ostiole.Dap.Recovery

/-!
# The register transport

`transferRegister` over a transport that may answer anything. The calls of one
request come first, and every one of them but the last was refused with WAIT
alone. The verdict on the last one decides the outcome and what is sent besides
(`Recovered`).
-/

namespace Ostiole

variable {ctx : Ctx} {err : Err} {w : World}

/-- The causes at the leaves of an error. A canceled WAIT shows none. -/
def Err.causes : Err → List (Option Sentinel)
  | .sentinel name => [some name]
  | .text _ | .canceledWAIT _ => [none]
  | .fault _ _ cause _ => [cause]
  | .join first second => first.causes ++ second.causes
  | .wrap _ cause | .joinOne cause | .requestNotSent cause | .rejectedRequest cause
  | .portError cause | .completedRegister cause | .completedRelease cause => cause.causes

namespace Dap

open Logic

/-- Errors that consist of WAIT and nothing else. -/
def OnlyWAIT (err : Err) : Prop :=
  ∀ cause ∈ err.causes, cause = some .dapWait ∨ cause = some .swdWait

/-- A call the target refused for WAIT alone. -/
def RegisterEvent.Refused (e : RegisterEvent) : Prop :=
  e.status = .rejected ∧ ∃ err, e.err = some err ∧ OnlyWAIT err

/-- Whether a status is one of the declared constants. -/
def RegisterStatus.declared : RegisterStatus → Bool
  | .invalid .. => false
  | _ => true

/-- A status outside the declared ones, or one its error contradicts. -/
def RegisterEvent.contradictory (e : RegisterEvent) : Bool :=
  !e.status.declared || !registerStatusConsistent e.status (classifyPortError e.err)

/-- Whether the target may have accepted the request. -/
def RegisterEvent.mayBeAccepted (e : RegisterEvent) : Bool :=
  e.status != .rejected && e.status != .unsent

/-- Whether a call asks for this operation. A read carries no data. -/
def RegisterEvent.carries (e : RegisterEvent) (req : Request) (data : Word) : Bool :=
  e.req.ap == req.ap && e.req.read == req.read && e.req.addr == req.addr &&
    (req.read || e.data == data)

/-- Whether the error of a call matches ErrFault. -/
def RegisterEvent.faulted (e : RegisterEvent) : Bool := isErr (classifyPortError e.err) .dapFault

/-- Every operation but Release is refused. -/
structure CleanupOnly (dp : DebugPort) : Prop where
  response : dp.state.response = .lost
  operations : dp.requireOperational = some dp.repairPendingError
  accesses : dp.requireConnected = some dp.repairPendingError

section Verdict

variable (value : Word) {e : RegisterEvent}

end Verdict

/-! ## The end of a request -/

section Finish

variable {req : Request} {result : TransferResult} {cause : Err} {preserveAP : Bool} {w : World}

end Finish

/-! ## WAIT -/

/-- What may follow the calls of a request. -/
inductive Recovered (own : List RegisterEvent) : List RegisterEvent → Prop
  | nothing : Recovered own []
  /-- The last call reported a FAULT, which is handled. -/
  | fault {early rest : List RegisterEvent} {last : RegisterEvent} (split : own = early ++ [last])
      (faulted : last.faulted = true) (handled : ∀ e ∈ rest, handlesFault e.req = true) :
      Recovered own rest
  /-- Every call was refused, and the WAIT is recovered from. -/
  | wait {rest : List RegisterEvent} (called : own ≠ []) (refused : ∀ e ∈ own, e.status = .rejected)
      (sent : ∀ e ∈ rest, recoversWAIT e.req e.data = true) : Recovered own rest

/-- Whether recovery sends a request depends on what it asks for alone. -/
theorem recoversWAIT_carries {e : RegisterEvent} {req : Request} {data : Word}
    (carries : e.carries req data = true) : recoversWAIT e.req e.data = recoversWAIT req data := by
  simp only [RegisterEvent.carries, Bool.and_eq_true, beq_iff_eq] at carries
  obtain ⟨⟨⟨ap, read⟩, addr⟩, written⟩ := carries
  cases isRead : req.read <;>
    simp_all [recoversWAIT, handlesFault, Request.isCTRLSTATRead, Request.isABORTWrite,
      Request.isSELECTWrite]

/-- Recovery repeats no request but those it sends of its own. -/
theorem Recovered.other {own rest : List RegisterEvent} (recovered : Recovered own rest)
    {req : Request} {data : Word} (distinct : recoversWAIT req data = false) :
    ∀ e ∈ rest, e.carries req data = false := by
  have sent : ∀ e ∈ rest, recoversWAIT e.req e.data = true := by
    cases recovered with
    | nothing => simp
    | fault _ _ handled => exact fun e member => recovers_fault _ _ (handled e member)
    | wait _ _ sent => exact sent
  intro e member
  by_contra carries
  have same := recoversWAIT_carries (Bool.not_eq_false _ ▸ carries)
  rw [sent e member, distinct] at same
  cases same

/-- The calls of one request, `own`, made after the log was `base`, and what the
caller is told. -/
structure Tried (req : Request) (data : Word) (base own : List RegisterEvent) (err : Option Err)
    (w' : World) : Prop where
  requests : ∀ e ∈ own, e.req = req ∧ e.data = data
  refused : ∀ e ∈ own.dropLast, e.Refused
  contradictory : ∀ e ∈ own, e.contradictory = true → CleanupOnly w'.dp ∧
    ∃ cause, err = some cause ∧ cause.is .dapIndeterminate = true ∧ cause.is .dapProtocol = true
  indeterminate : ∀ e ∈ own, e.status = .indeterminate →
    ∃ cause, err = some cause ∧ cause.is .dapIndeterminate = true
  recovery : ∃ rest, w'.register.log = base ++ own ++ rest ∧ Recovered own rest

/-- Calls after which the request is sent again. -/
structure Earlier (req : Request) (data : Word) (early : List RegisterEvent) : Prop where
  requests : ∀ e ∈ early, e.req = req ∧ e.data = data
  refused : ∀ e ∈ early, e.Refused
  consistent : ∀ e ∈ early, e.contradictory = false

section Loop

variable {req : Request} {data : Word} {base early : List RegisterEvent} {e : RegisterEvent}
  {w w' : World} {err : Option Err}

theorem Earlier.snoc (earlier : Earlier req data early) (request : e.req = req ∧ e.data = data)
    (refused : e.Refused) (good : e.contradictory = false) : Earlier req data (early ++ [e]) := by
  constructor
  · simpa [or_imp, forall_and, request] using earlier.requests
  · simpa [or_imp, forall_and, refused] using earlier.refused
  · simpa [or_imp, forall_and, good] using earlier.consistent

theorem Earlier.rejected (earlier : Earlier req data early) : ∀ e ∈ early, e.status = .rejected :=
  fun e member => (earlier.refused e member).1

/-- The request is not sent again. -/
theorem Earlier.stopped (earlier : Earlier req data early)
    (recovery : ∃ rest, w'.register.log = base ++ early ++ rest ∧ Recovered early rest) :
    Tried req data base early err w' where
  requests := earlier.requests
  refused e member := earlier.refused e (List.mem_of_mem_dropLast member)
  contradictory e member bad := by simp [earlier.consistent e member] at bad
  indeterminate e member unknown := by simp [earlier.rejected e member] at unknown
  recovery := recovery

/-- The last call, and what it leads to. -/
theorem Earlier.final (earlier : Earlier req data early) (request : e.req = req ∧ e.data = data)
    (contradictory : e.contradictory = true → CleanupOnly w'.dp ∧
      ∃ cause, err = some cause ∧ cause.is .dapIndeterminate = true ∧ cause.is .dapProtocol = true)
    (indeterminate : e.status = .indeterminate →
      ∃ cause, err = some cause ∧ cause.is .dapIndeterminate = true)
    (recovery : ∃ rest, w'.register.log = base ++ (early ++ [e]) ++ rest ∧
      Recovered (early ++ [e]) rest) : Tried req data base (early ++ [e]) err w' where
  requests := by simpa [or_imp, forall_and, request] using earlier.requests
  refused := by simpa using earlier.refused
  contradictory e' member bad := by
    rcases List.mem_append.mp member with before | last
    · simp [earlier.consistent e' before] at bad
    · obtain rfl := List.mem_singleton.mp last
      exact contradictory bad
  indeterminate e' member unknown := by
    rcases List.mem_append.mp member with before | last
    · simp [earlier.rejected e' before] at unknown
    · obtain rfl := List.mem_singleton.mp last
      exact indeterminate unknown
  recovery := recovery

end Loop

/-! ## No replay -/

section Replay

variable {req : Request} {data : Word} {base own : List RegisterEvent} {err : Option Err}
  {w w' : World}

/-- Only the last call of one request may have been accepted. -/
theorem Tried.accepted (tried : Tried req data base own err w') :
    own.countP (·.mayBeAccepted) ≤ 1 := by
  have refused := tried.refused
  rcases List.eq_nil_or_concat own with rfl | ⟨early, last, rfl⟩
  · simp
  · rw [List.concat_eq_append, List.dropLast_concat] at refused
    have none : early.countP (·.mayBeAccepted) = 0 := List.countP_eq_zero.mpr fun e member => by
      simp [RegisterEvent.mayBeAccepted, (refused e member).1]
    rw [List.concat_eq_append, List.countP_append, none, Nat.zero_add]
    exact List.countP_le_length

end Replay

end Dap

end Ostiole
