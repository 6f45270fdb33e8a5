import Ostiole.Swd.BatchSpec
import Ostiole.Swd.LifecycleSpec

/-!
# The response grammar of a connection

A connected `swd.Conn` frames every exchange by the response mode `Connect`
found or set. The target frames it by ORUNDETECT and TURNROUND. No call changes
either, so the two never part: single requests are validated against the bank
the connection tracks, packed ones against a shadow that is right for as long
as anything that depends on it is carried out.
-/

namespace Ostiole.Swd

open Ostiole Logic

/-- Consecutive frames between targets that all satisfy a predicate. -/
inductive Visits (world : PortWorld) (holds : Target → Prop) : Target → List Event → Target → Prop
  | nil {t : Target} (here : holds t) : Visits world holds t [] t
  | cons {t t' t'' : Target} {e : Event} {events : List Event} (here : holds t) :
      Step world t e t' → Visits world holds t' events t'' → Visits world holds t (e :: events) t''

theorem Visits.mono {world : PortWorld} {holds weaker : Target → Prop} {t t' : Target}
    {events : List Event} (visits : Visits world holds t events t')
    (imp : ∀ t, holds t → weaker t) : Visits world weaker t events t' := by
  induction visits with
  | nil here => exact .nil (imp _ here)
  | cons here transition _ ih => exact .cons (imp _ here) transition ih

/-- Frames that keep the framing pass only targets with the same framing. -/
theorem Steps.visits {world : PortWorld} {mode : ResponseMode} {t t' : Target} {events : List Event}
    (steps : Steps world t events t') (framed : Framed mode t)
    (keeps : ∀ e ∈ events, e.keepsFraming (mode == .overrun)) :
    Visits world (Framed mode) t events t' := by
  induction steps with
  | nil t => exact .nil framed
  | @cons t t' t'' e events transition _ ih =>
    have kept := framed.step transition (by rw [← framed.mode_eq]; exact keeps e (by simp))
    exact .cons framed transition (ih kept fun e member => keeps e (by simp [member]))

/-- A call of the register interface. -/
inductive ConnCall where
  | readDP (ctx : Ctx) (addr : BitVec 8)
  | writeDP (ctx : Ctx) (addr : BitVec 8) (value : Word)
  | readAP (ctx : Ctx) (addr : BitVec 8)
  | writeAP (ctx : Ctx) (addr : BitVec 8) (value : Word)
  | commit (ctx : Ctx) (ops : List BatchOp)
deriving Repr

/-- The link after a call. -/
def ConnCall.perform (l : Link) : ConnCall → Link
  | .readDP ctx addr => (Swd.readDP ctx addr l).2
  | .writeDP ctx addr value => (Swd.writeDP ctx addr value l).2
  | .readAP ctx addr => (Swd.readAP ctx addr l).2
  | .writeAP ctx addr value => (Swd.writeAP ctx addr value l).2
  | .commit ctx ops => (Swd.commit ctx ops l).2

/-- The link after a list of calls. -/
def performAll (l : Link) (calls : List ConnCall) : Link := calls.foldl ConnCall.perform l

/-! ## One call -/

/-- What every call keeps: the link stays coherent in the same mode, and no
frame changes the framing. -/
structure Kept (l l' : Link) : Prop where
  sends : ∃ events, Sends l events l' ∧ ∀ e ∈ events, e.keepsFraming (l.conn.response == .overrun)
  response : l'.conn.response = l.conn.response
  coherent : Coherent l'

theorem Kept.refl {l : Link} (coherent : Coherent l) : Kept l l :=
  ⟨⟨[], .refl l, by simp⟩, rfl, coherent⟩

theorem Kept.trans {l l' l'' : Link} (first : Kept l l') (second : Kept l' l'') : Kept l l'' := by
  obtain ⟨events, sends, keeps⟩ := first.sends
  obtain ⟨later, sendsOn, keepsOn⟩ := second.sends
  refine ⟨⟨events ++ later, sends.trans sendsOn, fun e member => ?_⟩,
    second.response.trans first.response, second.coherent⟩
  rcases List.mem_append.mp member with member | member
  · exact keeps e member
  · exact first.response ▸ keepsOn e member

theorem keepsFraming_of_abort {overrun : Bool} {e : Event} (abort : e.req = rawRequest false 0x00) :
    e.keepsFraming overrun :=
  Event.keepsFraming_of_other (by rw [abort]; rfl)

theorem Transferred.kept {req : Request} {data : Word} {l l' : Link} {result : Result}
    (coherent : Coherent l) (outcome : Transferred req data l result l') : Kept l l' := by
  cases outcome with
  | unsent quiet sends conn =>
    refine ⟨⟨[], sends, by simp⟩, by rw [conn], ⟨?_, fun ready => ?_⟩⟩
    · rw [conn, sends.steps.nil_eq]
      exact coherent.framed
    · rw [conn] at ready ⊢
      rw [sends.steps.nil_eq]
      exact coherent.tracked ready
  | @sent e cleanup _ _ _ _ started sent completed =>
    have response := response_of_record sent.record
    refine ⟨⟨e :: cleanup, sent.sends, fun f member => ?_⟩, response,
      ⟨by rw [response]; exact sent.framed, fun ready => (sent.ready ready).2⟩⟩
    rcases List.mem_cons.mp member with rfl | later
    · exact sent.keeps
    · exact keepsFraming_of_abort (sent.aborts f later).1

theorem Batched.kept {ops : List BatchOp} {l l' : Link} {results rest : List BatchResult}
    {err : Option Err} {good bad lost : List (Event × BatchResult)} {cleanup : List Event}
    (batched : Batched ops l results err l' good bad lost rest cleanup) (coherent : Coherent l) :
    Kept l l' := by
  have response := response_of_record batched.record
  refine ⟨⟨_, batched.sends, fun e member => ?_⟩, response,
    ⟨by rw [response]; exact batched.framed coherent.framed, fun ready =>
      (batched.ready ready).2.2⟩⟩
  rcases List.mem_append.mp member with member | member
  · obtain ⟨p, isOwn, rfl⟩ := List.mem_map.mp member
    exact batched.keeps p isOwn
  · exact keepsFraming_of_abort (batched.aborts e member).1

theorem access_kept {l : Link} (coherent : Coherent l) (ctx : Ctx) (req : Request) (value : Word) :
    Kept l (access ctx req value l).2 := by
  unfold access
  cases newRequestErr req.addr with
  | some err => exact .refl coherent
  | none => exact (transfer_spec coherent (some ctx) req value).kept coherent

theorem perform_kept {l : Link} (coherent : Coherent l) (call : ConnCall) :
    Kept l (call.perform l) := by
  cases call with
  | readDP ctx addr => exact access_kept coherent ctx _ _
  | writeDP ctx addr value => exact access_kept coherent ctx _ _
  | readAP ctx addr => exact access_kept coherent ctx _ _
  | writeAP ctx addr value => exact access_kept coherent ctx _ _
  | commit ctx ops =>
    obtain ⟨_, _, _, _, _, batched, _⟩ := commit_spec (fun _ => coherent) ctx ops
    exact batched.kept coherent

/-! ## Whole sessions -/

theorem performAll_kept {l : Link} (coherent : Coherent l) (calls : List ConnCall) :
    Kept l (performAll l calls) := by
  induction calls generalizing l with
  | nil => exact .refl coherent
  | cons call rest ih =>
    have first := perform_kept coherent call
    exact first.trans (ih first.coherent)

/-- After a successful `Connect` no call changes ORUNDETECT or TURNROUND, at any
point of any run, and a ready connection always expects what the target sends. -/
theorem responseGrammar_kept (ctx : Ctx) (cleanupTimeout : Int) (start : Link)
    (calls : List ConnCall) (success : (connect ctx cleanupTimeout start).1.2 = none) :
    let l := (connect ctx cleanupTimeout start).2
    let l' := performAll l calls
    (∃ events, l'.log = l.log ++ events ∧
      Visits l.env.world (fun t => t.overrun = l.target.overrun ∧
        t.turnaround = l.target.turnaround)
        l.target events l'.target ∧
      ∀ e ∈ events, e.keepsFraming l.target.overrun) ∧
    (l'.conn.state = .ready → (l'.conn.response = .overrun ↔ l'.target.overrun = true)) := by
  have coherent := ((connect_spec ctx cleanupTimeout start).2 success).coherent
  intro l l'
  have kept := performAll_kept coherent calls
  obtain ⟨events, sends, keeps⟩ := kept.sends
  have framed : Framed l.conn.response l.target := coherent.framed
  refine ⟨⟨events, sends.log, (sends.steps.visits framed keeps).mono fun t visited => ⟨?_, ?_⟩, ?_⟩,
    fun _ => kept.coherent.framed.overrun⟩
  · exact visited.mode_eq.symm.trans framed.mode_eq
  · exact visited.turnaround.trans framed.turnaround.symm
  · exact framed.mode_eq ▸ keeps

/-- A wire and a target that never refuse. -/
def Env.quiet : Env where
  exchange _ := ⟨none, 0, fun _ => .quiet⟩
  budget _ := 1000
  world := ⟨fun _ => 0⟩
  maxTransferBits := some 200

/-- A DPv2 just out of reset. -/
def resetTarget : Target where
  dpidr := 0x2ba02477
  select := 0
  selectHigh := 0
  ctrlStat := 0
  dlcr := 0
  dpBanks _ := 0
  dpIDBanks _ := 0
  posted := 0
  apLog := []
  lockout := false
  overrunImplemented := true

/-- `swd.New` on that wire. -/
def freshLink : Link := ⟨Env.quiet, 0, resetTarget, [], Conn.new 1⟩

/-- A queue that selects DLCR, writes it and selects CTRL/STAT again. -/
private def bankTour : List BatchOp :=
  [⟨⟨false, false, 0x08, none⟩, 1⟩, ⟨⟨false, true, 0x0c, none⟩, 0⟩, ⟨⟨false, false, 0x04, none⟩, 0⟩,
    ⟨⟨false, false, 0x08, none⟩, 0⟩]

/-- After a tour of the banks the connection is ready in the mode its target is in. -/
theorem responseGrammar_kept_bankTour :
    let l := (connect ⟨1000, .canceled⟩ 1 freshLink).2
    let l' := performAll l [.commit ⟨1000, .canceled⟩ bankTour]
    (connect ⟨1000, .canceled⟩ 1 freshLink).1.2 = none ∧ l'.conn.state = .ready ∧
      (l'.conn.response = .overrun ↔ l'.target.overrun = true) :=
  ⟨by decide +kernel, by decide +kernel,
    (responseGrammar_kept ⟨1000, .canceled⟩ 1 freshLink [.commit ⟨1000, .canceled⟩ bankTour]
      (by decide +kernel)).2 (by decide +kernel)⟩

end Ostiole.Swd
