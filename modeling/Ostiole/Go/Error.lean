import Mathlib.Data.BitVec

/-!
# Error values

Both packages classify failures with `errors.Is`, `errors.As`, `errors.Unwrap`
and identity comparison against sentinel values. `Err` keeps the tree those
functions walk, with one constructor for each error type the drivers declare,
so a classification here reads the same tree as the classification there.
-/

namespace Ostiole

/-- A 32-bit register value. -/
abbrev Word := BitVec 32

/-- The sentinel errors of the packages of this module, of `usb`, `io` and `context`. -/
inductive Sentinel where
  | swdWait | swdFault | swdParity | swdProtocol
  | swdBatchCommitted | swdNotExecuted | swdIndeterminate
  | dapWait | dapFault | dapProtocol | dapTxnCommitted | dapNotExecuted | dapIndeterminate
  | framingUnknown | addressIncrementUnsupported | restorationAbandoned
  | duplicateProvider | noProviders
  | jlinkPoisoned | cmsisdapPoisoned | deviceGone | noProgress
  | notROMTable | walkLimit | repeatedTable | powerDomain
  | canceled | deadlineExceeded
deriving DecidableEq, Repr

/-- An error value. `join` stands for both `errors.Join` and a format with two
`%w` verbs: neither has a single-error `Unwrap`. `joinOne` is `errors.Join` with
one non-nil argument, which is a new value and not that argument. -/
inductive Err where
  | sentinel (name : Sentinel)
  | text (message : String)
  | wrap (message : String) (cause : Err)
  | join (first second : Err)
  | joinOne (only : Err)
  | requestNotSent (cause : Err)
  | rejectedRequest (cause : Err)
  | portError (cause : Err)
  | fault (ctrlStat : Word) (stateValid : Bool) (cause : Option Sentinel) (cleared : Bool)
  | canceledWAIT (cause : Err)
  | completedRegister (cause : Err)
  | completedRelease (cause : Err)
deriving DecidableEq, Repr

/-- The exported fields and cleanup mark of one `FaultError`. -/
structure FaultInfo where
  ctrlStat : Word
  stateValid : Bool
  cleared : Bool
deriving DecidableEq, Repr

namespace Err

/-- `errors.Is`, including the `Is` methods of `portError`, `FaultError` and
`canceledWAITError`. -/
def is : Err → Sentinel → Bool
  | .sentinel name, target => name == target
  | .text _, _ => false
  | .wrap _ cause, target => cause.is target
  | .join first second, target => first.is target || second.is target
  | .joinOne only, target => only.is target
  | .requestNotSent cause, target => cause.is target
  | .rejectedRequest cause, target => cause.is target
  | .portError cause, target =>
    (match target with
      | .dapWait => cause.is .swdWait
      | .dapFault => cause.is .swdFault
      | .dapProtocol => cause.is .swdProtocol
      | _ => false) || cause.is target
  | .fault _ _ cause _, target => target == .dapFault || cause == some target
  -- The canceled form answers through its own `Is` and hides the chain from `Unwrap`.
  | .canceledWAIT cause, target => target != .dapWait && target != .swdWait && cause.is target
  | .completedRegister cause, target => cause.is target
  | .completedRelease cause, target => cause.is target

/-- `errors.As` for `*requestNotSentError`. -/
def asRequestNotSent : Err → Bool
  | .sentinel _ | .text _ | .fault .. => false
  | .requestNotSent _ => true
  | .join first second => first.asRequestNotSent || second.asRequestNotSent
  | .wrap _ cause | .joinOne cause | .rejectedRequest cause | .portError cause
  | .canceledWAIT cause | .completedRegister cause | .completedRelease cause =>
    cause.asRequestNotSent

/-- `errors.As` for `rejectedRequestError`. -/
def asRejectedRequest : Err → Bool
  | .sentinel _ | .text _ | .fault .. => false
  | .rejectedRequest _ => true
  | .join first second => first.asRejectedRequest || second.asRejectedRequest
  | .wrap _ cause | .joinOne cause | .requestNotSent cause | .portError cause
  | .canceledWAIT cause | .completedRegister cause | .completedRelease cause =>
    cause.asRejectedRequest

/-- `errors.As` for `completedRegisterError`. -/
def asCompletedRegister : Err → Bool
  | .sentinel _ | .text _ | .fault .. => false
  | .completedRegister _ => true
  | .join first second => first.asCompletedRegister || second.asCompletedRegister
  | .wrap _ cause | .joinOne cause | .requestNotSent cause | .rejectedRequest cause
  | .portError cause | .canceledWAIT cause | .completedRelease cause => cause.asCompletedRegister

/-- `errors.As` for `*FaultError`: the first fault of a depth-first walk. -/
def asFault : Err → Option FaultInfo
  | .sentinel _ | .text _ => none
  | .fault ctrlStat stateValid _ cleared => some ⟨ctrlStat, stateValid, cleared⟩
  | .join first second => first.asFault <|> second.asFault
  | .wrap _ cause | .joinOne cause | .requestNotSent cause | .rejectedRequest cause
  | .portError cause | .canceledWAIT cause | .completedRegister cause
  | .completedRelease cause => cause.asFault

/-- `errors.Join` of two possibly nil errors. -/
def joined : Option Err → Option Err → Option Err
  | none, none => none
  | none, some second => some (.joinOne second)
  | some first, none => some (.joinOne first)
  | some first, some second => some (.join first second)

end Err

/-- `errors.Join` of the non-nil errors of a list. -/
def joinErrs : List Err → Option Err
  | [] => none
  | [only] => some (.joinOne only)
  | first :: second :: rest => some ((second :: rest).foldl .join first)

/-- `errors.Is` on a possibly nil error. -/
def isErr (err : Option Err) (target : Sentinel) : Bool :=
  match err with
  | none => false
  | some cause => cause.is target

/-- Identity comparison of a possibly nil error with a sentinel. -/
def isExactly (err : Option Err) (target : Sentinel) : Bool :=
  err == some (.sentinel target)

/-- The `%#0nx` verb: at least `width` digits behind the `0x`. -/
def hex (width value : Nat) : String :=
  let digits := Nat.toDigits 16 value
  "0x" ++ String.ofList (List.replicate (width - digits.length) '0' ++ digits)

end Ostiole
