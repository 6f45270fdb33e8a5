import Ostiole.Swd.Tracking

/-!
# Frames that share an exchange

Run-time validation happens only at the start of a packed chunk. The frames
after the first are checked beforehand, against a connection that assumes every
earlier one succeeded. That is enough: with ORUNDETECT set, a frame that fails
leaves a sticky flag, and the flag stops every later frame that could depend on
it. Only the last frame of a chunk may clear flags.
-/

namespace Ostiole.Swd

open Ostiole

/-! ## The framing fields -/

/-- An executed write at offset 4 leaves ORUNDETECT and TURNROUND as they are. -/
def Event.keepsFraming (overrun : Bool) (e : Event) : Prop :=
  e.effective = true → e.req.isBankedWrite = true →
    (e.select.setWidth 4 = 0#4 → e.data.has overrunDetect = overrun) ∧
    (e.select.setWidth 4 = 1#4 → e.data.has dlcrTurnaroundMask = false)

section Framing

variable {world : PortWorld} {mode : ResponseMode} {c : Conn} {t t' : Target} {e : Event}

theorem Event.keepsFraming_of_ineffective {overrun : Bool} (ineffective : e.effective = false) :
    e.keepsFraming overrun :=
  fun effective => by simp [ineffective] at effective

theorem Event.keepsFraming_of_other {overrun : Bool} (other : e.req.isBankedWrite = false) :
    e.keepsFraming overrun :=
  fun _ banked => by simp [other] at banked

theorem Step.overrun_kept (transition : Step world t e t') (keeps : e.keepsFraming t.overrun) :
    t'.overrun = t.overrun := by
  rw [transition.effect.overrun_eq]
  split_ifs with reached
  · obtain ⟨effective, banked, bankZero, _⟩ := reached
    exact (keeps effective banked).1 (by rw [transition.select_recorded]; exact bankZero)
  · rfl

theorem Framed.step (framed : Framed mode t) (transition : Step world t e t')
    (keeps : e.keepsFraming t.overrun) : Framed mode t' := by
  refine ⟨by rw [transition.overrun_kept keeps]; exact framed.overrun, ?_⟩
  rw [Target.turnaround, transition.effect.dlcr_eq]
  split_ifs with reached
  · obtain ⟨effective, banked, bankOne⟩ := reached
    have clear := (keeps effective banked).2 (by rw [transition.select_recorded]; exact bankOne)
    simpa [Word.has] using clear
  · exact framed.turnaround

/-- A validated write reaches the bank it was validated for. -/
theorem Tracked.keepsFraming (tracked : Tracked c t) (framed : Framed c.response t)
    (transition : Step world t e t') (valid : c.validateTransfer e.req e.data = none) :
    e.keepsFraming t.overrun := by
  intro _ banked
  obtain ⟨⟨dp, write⟩, addr⟩ : (e.req.ap = false ∧ e.req.read = false) ∧ e.req.addr = 0x04 := by
    simpa [Request.isBankedWrite] using banked
  rw [Conn.validateTransfer, if_neg (by simp [dp, write, addr])] at valid
  split_ifs at valid with unknown owned turnaround
  obtain ⟨settled, known⟩ : c.selectPending = false ∧ c.bank.valid = true := by
    simpa using unknown
  have bank : e.select.setWidth 4 = c.bank.bank := by
    rw [transition.select_recorded]
    exact tracked.settled known settled
  rw [bank]
  refine ⟨fun bankZero => ?_, fun bankOne => ?_⟩
  · have mode : e.data.has 1 = (c.response == .overrun) := by simpa [bankZero] using owned
    rw [show overrunDetect = 1 from rfl, mode]
    cases overrun : t.overrun with
    | true => simpa using framed.overrun.mpr overrun
    | false => simpa [overrun] using framed.overrun
  · simpa [bankOne] using turnaround

end Framing

/-! ## Packing -/

/-- Operations that may share one exchange: each passes validation against a
connection that saw the earlier ones succeed, and only the last may be an ABORT. -/
def Packed (shadow : Conn) : List BatchOp → Prop
  | [] => True
  | op :: rest =>
    shadow.validateTransfer op.req op.data = none ∧
      (op.req.isABORTWrite = true → rest = []) ∧
      Packed (shadow.observeTransfer op.req 0 op.data none) rest

/-- The operation of a log entry. -/
def Event.op (e : Event) : BatchOp := ⟨e.req, e.data⟩

/-- Request kinds that a sticky flag need not stop. -/
def exemptKind (req : Request) : Bool :=
  req.isDPIDRRead || req.isABORTWrite || req.isCTRLSTATRead

theorem exemptKind_of_exempt {t : Target} {req : Request} (exempt : t.exempt req = true) :
    exemptKind req = true := by
  obtain kind | kind | ⟨kind, _⟩ := exempt_kinds exempt <;> simp [exemptKind, kind]

section Packing

variable {world : PortWorld} {shadow : Conn} {t t' : Target} {e : Event} {events : List Event}

/-- Either the shadow is right about the target, or nothing that depends on it
will be carried out. -/
def Reaches (shadow : Conn) (t : Target) (events : List Event) : Prop :=
  Tracked shadow t ∨ t.sticky = true ∨ t.lockout = true ∨ ∀ e ∈ events, e.delivered = false

/-- One frame of a chunk. -/
private theorem Reaches.step (reaches : Reaches shadow t (e :: events))
    (transition : Step world t e t') (framed : Framed .overrun t)
    (mode : shadow.response = .overrun)
    (inOrder : ∀ later ∈ events, later.delivered = true → e.delivered = true)
    (valid : shadow.validateTransfer e.req e.data = none)
    (last : e.req.isABORTWrite = true → events = []) :
    e.keepsFraming true ∧ Reaches (shadow.observeTransfer e.req 0 e.data none) t' events := by
  have overrun : t.overrun = true := framed.overrun.mp rfl
  cases accepted : e.accepted with
  | false =>
    have ineffective : e.effective = false := by
      by_contra effective
      simp [transition.accepted_of_effective (by simpa using effective)] at accepted
    refine ⟨Event.keepsFraming_of_ineffective ineffective, .inr ?_⟩
    cases delivered : e.delivered with
    | true => exact .inl (transition.sticky_of_refused accepted delivered overrun)
    | false =>
      refine .inr (.inr fun later member => ?_)
      by_contra reached
      simp [delivered] at inOrder
      simp [inOrder later member] at reached
  | true =>
    rcases reaches with tracked | sticky | lockout | lost
    · refine ⟨?_, .inl (tracked.accepted transition accepted 0 (.inl rfl))⟩
      rw [← overrun]
      exact tracked.keepsFraming (by rw [mode]; exact framed) transition valid
    · have exempt := transition.exempt_of_accepted accepted sticky
      obtain isRead | isAbort | ⟨isRead, _⟩ := exempt_kinds exempt
      · have write : e.req.read = true := by
          simp only [Request.isDPIDRRead, Bool.and_eq_true] at isRead
          exact isRead.1.2
        refine ⟨Event.keepsFraming_of_other (by simp [Request.isBankedWrite, write]),
          .inr (.inl (transition.effect.sticky_mono (fun _ => ?_) sticky))⟩
        simp [Request.isABORTWrite, write]
      · refine ⟨Event.keepsFraming_of_other ?_, .inr (.inr (.inr ?_))⟩
        · simp only [Request.isABORTWrite, Bool.and_eq_true, beq_iff_eq] at isAbort
          simp [Request.isBankedWrite, isAbort.2]
        · simp [last isAbort]
      · have write : e.req.read = true := by
          simp only [Request.isCTRLSTATRead, Bool.and_eq_true] at isRead
          exact isRead.1.2
        refine ⟨Event.keepsFraming_of_other (by simp [Request.isBankedWrite, write]),
          .inr (.inl (transition.effect.sticky_mono (fun _ => ?_) sticky))⟩
        simp [Request.isABORTWrite, write]
    · simp [transition.unlocked_of_accepted accepted] at lockout
    · have delivered := transition.delivered_of_accepted accepted
      simp [lost e (by simp)] at delivered

/-- No frame of a packed chunk changes the response grammar. -/
theorem Steps.chunk_framed (steps : Steps world t events t') :
    ∀ {shadow : Conn}, InOrder events → Packed shadow (events.map Event.op) →
      shadow.response = .overrun → Framed .overrun t → Reaches shadow t events →
      Framed .overrun t' ∧ ∀ e ∈ events, e.keepsFraming true := by
  induction steps with
  | nil t => exact fun _ _ _ framed _ => ⟨framed, by simp⟩
  | @cons t t' t'' e events transition later ih =>
    intro shadow inOrder packed mode framed reaches
    obtain ⟨first, rest⟩ := List.pairwise_cons.mp inOrder
    obtain ⟨valid, last, packedRest⟩ := packed
    obtain ⟨keeps, continues⟩ := reaches.step transition framed mode first valid
      (fun abort => by simpa using last abort)
    have overrun : t.overrun = true := framed.overrun.mp rfl
    obtain ⟨ending, others⟩ := ih rest packedRest (by simpa using mode)
      (framed.step transition (by rw [overrun]; exact keeps)) continues
    exact ⟨ending, by simpa using ⟨keeps, others⟩⟩

/-- The connection that saw every operation succeed. -/
def shadowAfter (shadow : Conn) (ops : List BatchOp) : Conn :=
  ops.foldl (fun c op => c.observeTransfer op.req 0 op.data none) shadow

/-- After a chunk in which every frame was accepted the shadow is right. -/
theorem Steps.shadow_tracked (steps : Steps world t events t') :
    ∀ {shadow : Conn}, Tracked shadow t → (∀ e ∈ events, e.accepted = true) →
      Tracked (shadowAfter shadow (events.map Event.op)) t' := by
  induction steps with
  | nil t => exact fun tracked _ => tracked
  | @cons t t' t'' e events transition later ih =>
    intro shadow tracked accepted
    exact ih (tracked.accepted transition (accepted e (by simp)) 0 (.inl rfl))
      fun f member => accepted f (by simp [member])

/-- While a sticky flag is set nothing but exempt kinds is accepted. -/
theorem Steps.none_accepted (steps : Steps world t events t') (sticky : t.sticky = true)
    (plain : ∀ e ∈ events, exemptKind e.req = false) : ∀ e ∈ events, e.accepted = false := by
  induction steps with
  | nil t => simp
  | @cons t t' t'' e events transition later ih =>
    have refused : e.accepted = false := by
      by_contra accepted
      have kind := exemptKind_of_exempt
        (transition.exempt_of_accepted (by simpa using accepted) sticky)
      simp [plain e (by simp)] at kind
    have abort : e.req.isABORTWrite = false := by
      have := plain e (by simp)
      simp only [exemptKind, Bool.or_eq_false_iff] at this
      exact this.1.2
    have others := ih
      (transition.effect.sticky_mono (fun _ => abort) sticky)
      fun f member => plain f (by simp [member])
    simpa [refused] using others

/-- Without exempt kinds the accepted frames of a chunk come first. -/
theorem Steps.prefixed (steps : Steps world t events t') (inOrder : InOrder events)
    (overrun : t.overrun = true) (keeps : ∀ e ∈ events, e.keepsFraming true)
    (plain : ∀ e ∈ events, exemptKind e.req = false) :
    events.Pairwise fun e later => later.accepted = true → e.accepted = true := by
  induction steps with
  | nil t => exact .nil
  | @cons t t' t'' e events transition later ih =>
    obtain ⟨first, rest⟩ := List.pairwise_cons.mp inOrder
    have plainRest : ∀ f ∈ events, exemptKind f.req = false :=
      fun f member => plain f (by simp [member])
    refine List.pairwise_cons.mpr ⟨fun f member accepted => ?_, ?_⟩
    · by_contra refused
      have refused : e.accepted = false := by simpa using refused
      cases delivered : e.delivered with
      | true =>
        have none := later.none_accepted
          (transition.sticky_of_refused refused delivered overrun) plainRest
        simp [none f member] at accepted
      | false =>
        obtain ⟨u, v, step⟩ := later.step_of_mem member
        have reached := first f member (step.delivered_of_accepted accepted)
        simp [delivered] at reached
    · have kept := transition.overrun_kept (by rw [overrun]; exact keeps e (by simp))
      exact ih rest (kept.trans overrun)
        (fun f member => keeps f (by simp [member])) plainRest

end Packing

end Ostiole.Swd
