import Ostiole.Dap.World

/-!
# Classification of errors

`errors.go`, `completion.go` and the predicates on errors which `wait.go`,
`txn.go`, `swd_ap.go` and `register_executor.go` keep beside their users.
-/

namespace Ostiole.Dap

open Ostiole

def errWait : Err := .sentinel .dapWait
def errProtocol : Err := .sentinel .dapProtocol
def errNotExecuted : Err := .sentinel .dapNotExecuted
def errIndeterminate : Err := .sentinel .dapIndeterminate
def errFramingUnknown : Err := .sentinel .framingUnknown

/-- `classifyPortError` of a non-nil error. -/
def classifyErr (err : Err) : Err :=
  if err.is .swdWait || err.is .swdFault || err.is .swdProtocol then .portError err else err

def classifyPortError (err : Option Err) : Option Err := err.map classifyErr

/-- `callerError`. -/
def callerError (ctx : Ctx) (err : Option Err) : PortM (Option Err) := do
  match ← ctxErr ctx with
  | none => return err
  | some cause =>
    let known := match ctx.cause with
      | .canceled => isErr err .canceled
      | .deadlineExceeded => isErr err .deadlineExceeded
    return if known then err else Err.joined err (some cause)

/-- `omitWAIT`. -/
def omitWAIT (err : Err) : Err :=
  if err.is .dapWait || err.is .swdWait then .canceledWAIT err else err

/-- `canceledWAITCause`. -/
def canceledWAITCause (ctx : Ctx) (err : Err) : PortM Err := do
  if err = .sentinel .swdWait then return err
  let err := (← callerError ctx (some err)).getD err
  if !err.is .canceled && !err.is .deadlineExceeded then return err
  return omitWAIT err

/-- `requestWasNotSent`. -/
def requestWasNotSent (err : Option Err) : Bool := (err.map Err.asRequestNotSent).getD false

/-- `requestWasRejected`. -/
def requestWasRejected (err : Option Err) : Bool := (err.map Err.asRejectedRequest).getD false

/-- `registerCompletionKnown`. -/
def registerCompletionKnown (err : Option Err) : Bool :=
  !requestWasNotSent err && (err.map Err.asCompletedRegister).getD false

/-- `errors.As` for a `FaultError`. -/
def asFault (err : Option Err) : Option FaultInfo := err.bind Err.asFault

/-- `faultHasValidState`. -/
def faultHasValidState (err : Option Err) : Bool :=
  match asFault err with
  | some fault => fault.stateValid
  | none => false

/-- `ordinaryFaultCleared`. -/
def ordinaryFaultCleared (err : Option Err) : Bool :=
  match asFault err with
  | some fault => fault.cleared && fault.ctrlStat.has stickyError &&
      !fault.ctrlStat.has (writeDataError ||| stickyCompare)
  | none => false

/-- `errors.Join(err, ErrIndeterminate)`. -/
def indeterminate (err : Err) : Err := .join err errIndeterminate

/-- `&requestNotSentError{cause: errors.Join(ErrNotExecuted, err)}`. -/
def notSent (err : Err) : Err := .requestNotSent (.join errNotExecuted err)

end Ostiole.Dap
