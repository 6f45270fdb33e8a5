import Mathlib.Data.BitVec

/-!
# TAP states

`state.go`: the states the connection tracks, the table of transitions and the
search for a shortest path.
-/

namespace Ostiole.Jtag

/-- `State`. `unknown` is not a destination. -/
inductive State where
  | unknown | reset | idle
  | selectDR | captureDR | shiftDR | exit1DR | pauseDR | exit2DR | updateDR
  | selectIR | captureIR | shiftIR | exit1IR | pauseIR | exit2IR | updateIR
deriving DecidableEq, Repr

/-- `transitions`, by TMS low and TMS high. The row of `unknown` is left zero. -/
def transitions : State → State × State
  | .unknown => (.unknown, .unknown)
  | .reset => (.idle, .reset)
  | .idle => (.idle, .selectDR)
  | .selectDR => (.captureDR, .selectIR)
  | .captureDR => (.shiftDR, .exit1DR)
  | .shiftDR => (.shiftDR, .exit1DR)
  | .exit1DR => (.pauseDR, .updateDR)
  | .pauseDR => (.pauseDR, .exit2DR)
  | .exit2DR => (.shiftDR, .updateDR)
  | .updateDR => (.idle, .selectDR)
  | .selectIR => (.captureIR, .reset)
  | .captureIR => (.shiftIR, .exit1IR)
  | .shiftIR => (.shiftIR, .exit1IR)
  | .exit1IR => (.pauseIR, .updateIR)
  | .pauseIR => (.pauseIR, .exit2IR)
  | .exit2IR => (.shiftIR, .updateIR)
  | .updateIR => (.idle, .selectDR)

/-- One entry of the table. -/
def State.next (state : State) (tms : Bool) : State :=
  if tms then (transitions state).2 else (transitions state).1

/-- `route`: a state reached and the TMS bits that reach it. -/
structure Route where
  state : State
  bits : List Bool
deriving DecidableEq, Repr

/-- The inner loop of `path`: enqueue one successor unless it was seen. -/
def Route.extend (target : State) (r : Route) (search : List Route × List State) (bit : Bool) :
    List Route × List State :=
  let next := r.state.next bit
  if next = .reset ∧ target ≠ .reset then search
  else if next ∈ search.2 then search
  else (search.1 ++ [⟨next, r.bits ++ [bit]⟩], next :: search.2)

/-- The loop of `path`. Every turn takes a route off the queue, and a state is
enqueued once, so there are at most seventeen turns. -/
def pathLoop (target : State) : Nat → List Route × List State → List Bool
  | 0, _ => []
  | _ + 1, ([], _) => []
  | turns + 1, (r :: queue, seen) =>
    if r.state = target then r.bits
    else pathLoop target turns ([false, true].foldl (r.extend target) (queue, seen))

/-- `path`: a shortest route that does not enter Reset unless requested. -/
def path (start target : State) : List Bool :=
  pathLoop target 17 ([⟨start, []⟩], [start])

/-- The state after a list of TMS bits. -/
def State.run (state : State) (bits : List Bool) : State := bits.foldl State.next state

/-- Every known state has a path to Idle, and it leads there. -/
theorem path_idle_arrives {start : State} (known : start ≠ .unknown) :
    start.run (path start .idle) = .idle := by
  cases start <;> first | exact absurd rfl known | decide +kernel

end Ostiole.Jtag
