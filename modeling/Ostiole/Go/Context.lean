import Ostiole.Go.Error

/-!
# Contexts

A context is read only through `Err`, at instants the driver chooses. Time is a
counter that advances at every such reading and at every wire exchange; a
context ends at a deadline of that counter. A run in which a context never ends
is one whose deadline lies beyond the run.
-/

namespace Ostiole

/-- Why a context ended. -/
inductive CtxCause where
  | canceled
  | deadlineExceeded
deriving DecidableEq, Repr

/-- The error reported by an ended context. -/
def CtxCause.err : CtxCause → Err
  | .canceled => .sentinel .canceled
  | .deadlineExceeded => .sentinel .deadlineExceeded

/-- A context that ends when the clock reaches `deadline`. -/
structure Ctx where
  deadline : Nat
  cause : CtxCause
deriving DecidableEq, Repr

/-- `ctx.Err()` at one instant. -/
def Ctx.err (ctx : Ctx) (now : Nat) : Option Err :=
  if ctx.deadline ≤ now then some ctx.cause.err else none

/-- Turns a loop that reads the context each time round can still take. -/
def Ctx.turns (ctx : Ctx) (now : Nat) : Nat :=
  ctx.deadline - now

/-- An ended context stays ended. -/
theorem Ctx.err_mono {ctx : Ctx} {now later : Nat} {cause : Err}
    (ended : ctx.err now = some cause) (after : now ≤ later) :
    ctx.err later = some cause := by
  unfold Ctx.err at ended ⊢
  split at ended
  · next reached => rw [if_pos (Nat.le_trans reached after)]; exact ended
  · cases ended

end Ostiole
