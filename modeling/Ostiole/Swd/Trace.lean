import Ostiole.Target.Registers
import Ostiole.Swd.Link

/-!
# The log as a trace of the target

Every frame of the log is a step of the target. `Step` says what a frame may do
to the target and what its log entry then records; `Runs` closes it over whole
logs, with line resets in between. Facts about the registers follow from the
log alone, whichever driver routine clocked the frames.
-/

namespace Ostiole.Swd

open Ostiole

variable {e : Event} {world : PortWorld} {t t' : Target}

/-- A response other than OK with ORUNDETECT set. -/
def noted (late : Bool) (t : Target) : Target :=
  if late then t.setSticky stickyOverrun else t

/-- A request header the target did not recognise. -/
def locked (lock : Bool) (t : Target) : Target := { t with lockout := t.lockout || lock }

/-- What one accepted request does once sticky flags have been raised. -/
def carriedOut (world : PortWorld) (c : FrameChoice) (e : Event) (t : Target) : Target :=
  if e.req.read then (t.read world c e.req).2
  else if e.effective then t.write e.req e.data
  else t.setSticky writeDataError

/-- One clocked frame, as its log entry describes it. -/
inductive Step (world : PortWorld) (t : Target) (e : Event) : Target → Prop
  | refused (c : FrameChoice) (late lock : Bool)
      (select : e.select = t.select)
      (accepted : e.accepted = false) (effective : e.effective = false)
      (seen : e.seen ≠ some .ok)
      (waited : e.seen = some .wait → t.sticky = true → t.exempt e.req = true)
      (received : e.seen.isSome = true → e.delivered = true)
      (overran : e.delivered = true → t.overrun = true → late = true) :
      Step world t e (locked lock (noted late (t.raised c)))
  | accepted (c : FrameChoice) (late : Bool)
      (select : e.select = t.select)
      (accepted : e.accepted = true) (delivered : e.delivered = true)
      (reads : e.req.read = true → e.effective = true)
      (unlocked : t.lockout = false)
      (clear : (t.raised c).sticky = true → t.exempt e.req = true)
      (value : e.req.read = true → e.value = ((t.raised c).read world c e.req).1)
      (answered : e.seen = some .ok → late = false)
      (seen : e.seen = none ∨ e.seen = some .ok ∨ e.seen = some .undefined) :
      Step world t e (noted late (carriedOut world c e (t.raised c)))

/-- Consecutive frames and the target states before and after them. -/
inductive Steps (world : PortWorld) : Target → List Event → Target → Prop
  | nil (t : Target) : Steps world t [] t
  | cons {t t' t'' : Target} {e : Event} {events : List Event} :
      Step world t e t' → Steps world t' events t'' → Steps world t (e :: events) t''

/-- A log and the target states before and after it. -/
inductive Runs (world : PortWorld) : Target → List Event → Target → Prop
  | nil (t : Target) : Runs world t [] t
  | step {t t' t'' : Target} {e : Event} {events : List Event} :
      Step world t e t' → Runs world t' events t'' → Runs world t (e :: events) t''
  | reset {t t' : Target} {events : List Event} :
      Runs world t.lineReset events t' → Runs world t events t'

theorem Runs.trans {t'' : Target} {first second : List Event}
    (before : Runs world t first t') (after : Runs world t' second t'') :
    Runs world t (first ++ second) t'' := by
  induction before with
  | nil => exact after
  | step transition _ ih => exact .step transition (ih after)
  | reset _ ih => exact .reset (ih after)

theorem Steps.trans {t'' : Target} {first second : List Event}
    (before : Steps world t first t') (after : Steps world t' second t'') :
    Steps world t (first ++ second) t'' := by
  induction before with
  | nil => exact after
  | cons transition _ ih => exact .cons transition (ih after)

theorem Steps.nil_eq (steps : Steps world t [] t') : t' = t := by
  cases steps
  rfl

theorem Steps.single
    (transition : Step world t e t') : Steps world t [e] t' :=
  .cons transition (.nil t')

theorem Steps.single_step
    (steps : Steps world t [e] t') : Step world t e t' := by
  cases steps with
  | cons transition later => exact later.nil_eq ▸ transition

/-- Every frame of a run is a step somewhere in it. -/
theorem Steps.step_of_mem {events : List Event}
    (steps : Steps world t events t') (member : e ∈ events) :
    ∃ before after, Step world before e after := by
  induction steps with
  | nil => simp at member
  | cons transition _ ih =>
    rcases List.mem_cons.mp member with rfl | later
    · exact ⟨_, _, transition⟩
    · exact ih later

theorem Steps.runs {events : List Event}
    (steps : Steps world t events t') : Runs world t events t' := by
  induction steps with
  | nil t => exact .nil t
  | cons transition _ ih => exact .step transition ih

/-! ## What a step keeps -/

section Noted

variable (late : Bool) (t : Target)

theorem noted_has_mono {mask : Word} (set : t.ctrlStat.has mask = true) :
    (noted late t).ctrlStat.has mask = true := by
  cases late
  · exact set
  · exact t.setSticky_has_mono _ set

end Noted

section Locked

variable (lock : Bool) (t : Target)

@[simp] theorem locked_false : locked false t = t := by simp [locked]
@[simp] theorem locked_select : (locked lock t).select = t.select := rfl
@[simp] theorem locked_dlcr : (locked lock t).dlcr = t.dlcr := rfl
@[simp] theorem locked_overrun : (locked lock t).overrun = t.overrun := rfl
@[simp] theorem locked_power : (locked lock t).power = t.power := rfl

end Locked

section Raised

variable (t : Target) (c : FrameChoice)

@[simp] theorem raised_select : (t.raised c).select = t.select := rfl
@[simp] theorem raised_dpBank : (t.raised c).dpBank = t.dpBank := rfl
@[simp] theorem raised_lockout : (t.raised c).lockout = t.lockout := rfl
@[simp] theorem raised_overrun : (t.raised c).overrun = t.overrun := by simp [Target.raised]

end Raised

/-! ## The one register a step reaches -/

/-- The access a request makes when an access port carries it out. -/
def Event.access (e : Event) (t : Target) : APAccess :=
  ⟨t.select, t.selectHigh, e.req.addr, if e.req.read then none else some e.data⟩

/-- One more access, and the value it posted. -/
def carry (access : APAccess) (posted : Word) (t : Target) : Target :=
  { t with apLog := t.apLog ++ [access], posted := posted }

/-- SELECT moved. -/
def choose (value : Word) (t : Target) : Target := { t with select := value }

section Setters

variable (access : APAccess) (value : Word) (t : Target)

@[simp] theorem carry_select : (carry access value t).select = t.select := rfl
@[simp] theorem carry_dlcr : (carry access value t).dlcr = t.dlcr := rfl
@[simp] theorem carry_overrun : (carry access value t).overrun = t.overrun := rfl
@[simp] theorem carry_power : (carry access value t).power = t.power := rfl
@[simp] theorem choose_select : (choose value t).select = value := rfl
@[simp] theorem choose_dlcr : (choose value t).dlcr = t.dlcr := rfl
@[simp] theorem choose_overrun : (choose value t).overrun = t.overrun := rfl
@[simp] theorem choose_power : (choose value t).power = t.power := rfl

end Setters

/-- A step apart from sticky flags: nothing, one AP access, or one DP register. -/
inductive Effect (t : Target) (e : Event) : Target → Prop
  | inert (flags : Word) (lock : Bool)
      (reaches : e.effective = true → e.req.ap = false ∧ e.req.isABORTWrite = false ∧
        e.req.isBankedWrite = false ∧ e.req.isSELECTWrite = false) :
      Effect t e (locked lock (t.setSticky flags))
  | port (flags posted : Word) (effective : e.effective = true) (ap : e.req.ap = true) :
      Effect t e ((carry (e.access t) posted t).setSticky flags)
  | abort (flags late : Word) (effective : e.effective = true) (abort : e.req.isABORTWrite = true) :
      Effect t e (((t.setSticky flags).abort e.data).setSticky late)
  | banked (flags late : Word) (effective : e.effective = true)
      (banked : e.req.isBankedWrite = true) :
      Effect t e (((t.setSticky flags).writeBanked e.data).setSticky late)
  | select (flags : Word) (effective : e.effective = true)
      (select : e.req.isSELECTWrite = true) :
      Effect t e ((choose e.data t).setSticky flags)

private theorem noted_eq_setSticky (late : Bool) :
    ∃ flags, ∀ t : Target, noted late t = t.setSticky flags := by
  cases late with
  | false => exact ⟨0, fun t => by simp [noted, Target.setSticky]⟩
  | true => exact ⟨stickyOverrun, fun t => rfl⟩

/-- What an accepted write reaches, told apart by its request. -/
private theorem effect_of_write (read : e.req.read = false)
    (effective : e.effective = true) (flags late : Word) :
    Effect t e (((t.setSticky flags).write e.req e.data).setSticky late) := by
  obtain ⟨ap, result⟩ | ⟨_, ap, addr, result⟩ | ⟨ap, addr, result⟩ | ⟨ap, addr, result⟩ |
      ⟨ap, zero, four, eight, result⟩ := (t.setSticky flags).write_cases e.req e.data
  · rw [result]
    have same := Effect.port (t := t) (flags ||| late) t.posted effective ap
    rw [← Target.setSticky_setSticky] at same
    simpa [Event.access, read, Target.setSticky, carry] using same
  · rw [result]
    exact .abort flags late effective (by simp [Request.isABORTWrite, ap, read, addr])
  · rw [result]
    exact .banked flags late effective (by simp [Request.isBankedWrite, ap, read, addr])
  · rw [result]
    have same := Effect.select (t := t) (flags ||| late) effective
      (by simp [Request.isSELECTWrite, ap, read, addr])
    rw [← Target.setSticky_setSticky] at same
    exact same
  · rw [result, Target.setSticky_setSticky]
    have same := Effect.inert (t := t) (e := e) (flags ||| late) false fun _ =>
      ⟨ap, by simp [Request.isABORTWrite, zero], by simp [Request.isBankedWrite, four],
        by simp [Request.isSELECTWrite, eight]⟩
    simpa using same

/-- Every step has one of these effects. -/
theorem Step.effect
    (transition : Step world t e t') : Effect t e t' := by
  cases transition with
  | refused c late lock select accepted effective =>
    obtain ⟨flags, same⟩ := noted_eq_setSticky late
    rw [same, Target.raised, Target.setSticky_setSticky]
    exact .inert _ lock fun reached => by simp [effective] at reached
  | accepted c late select accepted delivered reads =>
    obtain ⟨flags, same⟩ := noted_eq_setSticky late
    rw [same]
    unfold carriedOut
    split
    · next read =>
        unfold Target.read
        split
        · next ap =>
            have port := Effect.port (t := t) (c.raise &&& ~~~writeDataError ||| flags)
              (world.apRead (t.apLog ++ [e.access t])) (reads read) ap
            rw [← Target.setSticky_setSticky] at port
            simpa [Event.access, read, Target.raised, Target.setSticky, carry] using port
        · next dp =>
            rw [Target.raised, Target.setSticky_setSticky]
            have inert := Effect.inert (t := t) (e := e)
              (c.raise &&& ~~~writeDataError ||| flags) false fun _ =>
              ⟨by simpa using dp, by simp [Request.isABORTWrite, read],
                by simp [Request.isBankedWrite, read], by simp [Request.isSELECTWrite, read]⟩
            simpa using inert
    · next write =>
        split
        · next effective => exact effect_of_write (by simpa using write) effective _ _
        · next dropped =>
            rw [Target.raised, Target.setSticky_setSticky, Target.setSticky_setSticky]
            have inert := Effect.inert (t := t) (e := e)
              (c.raise &&& ~~~writeDataError ||| (writeDataError ||| flags)) false fun reached =>
              absurd reached dropped
            simpa using inert

section Fields

variable {t t' : Target} {e : Event}

/-- SELECT moves only with an effective SELECT write. -/
theorem Effect.select_eq (effect : Effect t e t') :
    t'.select = if e.effective = true ∧ e.req.isSELECTWrite = true then e.data else t.select := by
  cases effect with
  | inert flags lock reaches => grind [locked_select, Target.setSticky_select]
  | port flags posted effective ap => simp [Request.isSELECTWrite, ap]
  | abort flags late effective abort => simp_all [Request.isSELECTWrite, Request.isABORTWrite]
  | banked flags late effective banked => simp_all [Request.isSELECTWrite, Request.isBankedWrite]
  | select flags effective select => simp [effective, select]

/-- ORUNDETECT moves only with an effective bank-zero write at offset 4. -/
theorem Effect.overrun_eq (effect : Effect t e t') :
    t'.overrun = if e.effective = true ∧ e.req.isBankedWrite = true ∧ t.dpBank = 0 ∧
      t.overrunImplemented = true then e.data.has overrunDetect else t.overrun := by
  cases effect with
  | inert flags lock reaches => grind [locked_overrun, Target.setSticky_overrun]
  | port flags posted effective ap => simp [Request.isBankedWrite, ap]
  | abort flags late effective abort =>
    simp_all [Request.isBankedWrite, Request.isABORTWrite, Target.abort_overrun]
  | banked flags late effective banked =>
    simp only [effective, banked, Target.setSticky_overrun, Target.writeBanked_overrun,
      Target.setSticky_dpBank, true_and]
    rfl
  | select flags effective select => simp_all [Request.isBankedWrite, Request.isSELECTWrite]

/-- The power requests move only with an effective bank-zero write at offset 4. -/
theorem Effect.power_eq (effect : Effect t e t') :
    t'.power = if e.effective = true ∧ e.req.isBankedWrite = true ∧ t.dpBank = 0 then
      e.data &&& powerRequestFlags else t.power := by
  cases effect with
  | inert flags lock reaches => grind [locked_power, Target.setSticky_power]
  | port flags posted effective ap => simp [Request.isBankedWrite, ap]
  | abort flags late effective abort =>
    simp_all [Request.isBankedWrite, Request.isABORTWrite, Target.abort_power]
  | banked flags late effective banked =>
    simp [effective, banked, Target.writeBanked_power]
  | select flags effective select => simp_all [Request.isBankedWrite, Request.isSELECTWrite]

/-- DLCR moves only with an effective bank-one write at offset 4. -/
theorem Effect.dlcr_eq (effect : Effect t e t') :
    t'.dlcr = if e.effective = true ∧ e.req.isBankedWrite = true ∧ t.dpBank = 1 then
      e.data else t.dlcr := by
  cases effect with
  | inert flags lock reaches => grind [locked_dlcr, Target.setSticky_dlcr]
  | port flags posted effective ap => simp [Request.isBankedWrite, ap]
  | abort flags late effective abort => simp_all [Request.isBankedWrite, Request.isABORTWrite]
  | banked flags late effective banked =>
    rw [Target.setSticky_dlcr, Target.writeBanked_dlcr]
    simp only [Target.setSticky_dlcr, Target.setSticky_dpBank, effective, banked, true_and]
    congr
  | select flags effective select => simp_all [Request.isBankedWrite, Request.isSELECTWrite]

/-- Only an effective ABORT clears a sticky flag. -/
theorem Effect.sticky_mono (effect : Effect t e t')
    (other : e.effective = true → e.req.isABORTWrite = false) (set : t.sticky = true) :
    t'.sticky = true := by
  cases effect with
  | inert flags lock reaches => exact t.setSticky_sticky_mono flags set
  | port flags posted effective ap => exact (carry _ _ t).setSticky_sticky_mono flags set
  | abort flags late effective abort => simp [other effective] at abort
  | banked flags late effective banked =>
    apply Target.setSticky_sticky_mono
    rw [Target.writeBanked_sticky]
    exact t.setSticky_sticky_mono flags set
  | select flags effective select => exact (choose _ t).setSticky_sticky_mono flags set

/-- An abandoned write stays recorded until an ABORT names it. -/
theorem Effect.writeDataError_mono (effect : Effect t e t')
    (other : e.effective = true → e.req.isABORTWrite = true →
      e.data.has clearWriteDataError = false)
    (set : t.ctrlStat.has writeDataError = true) : t'.ctrlStat.has writeDataError = true := by
  cases effect with
  | inert flags lock reaches => exact t.setSticky_has_mono flags set
  | port flags posted effective ap => exact (carry _ _ t).setSticky_has_mono flags set
  | abort flags late effective abort =>
    apply Target.setSticky_has_mono
    rw [Target.abort_writeDataError _ _ (other effective abort)]
    exact t.setSticky_has_mono flags set
  | banked flags late effective banked =>
    apply Target.setSticky_has_mono
    rw [Target.writeBanked_writeDataError]
    exact t.setSticky_has_mono flags set
  | select flags effective select => exact (choose _ t).setSticky_has_mono flags set

end Fields

section Acceptance

variable {world : PortWorld} {t t' : Target} {e : Event}

theorem Step.select_recorded (transition : Step world t e t') : e.select = t.select := by
  cases transition <;> assumption

/-- Only an accepted request takes effect. -/
theorem Step.accepted_of_effective (transition : Step world t e t')
    (effective : e.effective = true) : e.accepted = true := by
  cases transition with
  | refused c late lock select accepted ineffective => simp [ineffective] at effective
  | accepted c late select accepted => exact accepted

/-- While a sticky flag is set only exempt requests are accepted. -/
theorem Step.exempt_of_accepted (transition : Step world t e t') (accepted : e.accepted = true)
    (set : t.sticky = true) : t.exempt e.req = true := by
  cases transition with
  | refused c late lock select refused => simp [refused] at accepted
  | accepted c late select accepted delivered reads unlocked clear =>
    exact clear (t.setSticky_sticky_mono _ set)

theorem Step.unlocked_of_accepted (transition : Step world t e t') (accepted : e.accepted = true) :
    t.lockout = false := by
  cases transition with
  | refused c late lock select refused => simp [refused] at accepted
  | accepted c late select accepted delivered reads unlocked clear => exact unlocked

/-- What was accepted or seen was delivered. -/
theorem Step.delivered_of_accepted (transition : Step world t e t')
    (accepted : e.accepted = true) : e.delivered = true := by
  cases transition with
  | refused c late lock select refused => simp [refused] at accepted
  | accepted c late select accepted delivered => exact delivered

/-- An OK acknowledgement means acceptance, WAIT and FAULT mean refusal. -/
theorem Step.accepted_of_ok (transition : Step world t e t') (seen : e.seen = some .ok) :
    e.accepted = true := by
  cases transition with
  | refused c late lock select refused effective other => exact absurd seen other
  | accepted c late select accepted => exact accepted

theorem Step.refused_of_seen (transition : Step world t e t')
    (seen : e.seen = some .wait ∨ e.seen = some .fault) : e.accepted = false := by
  cases transition with
  | refused c late lock select refused => exact refused
  | accepted c late select accepted delivered reads unlocked clear value answered kinds =>
    rcases seen with seen | seen <;> simp [seen] at kinds

/-- An accepted write without effect is recorded in WDATAERR. -/
theorem Step.dropped (transition : Step world t e t') (accepted : e.accepted = true)
    (ineffective : e.effective = false) :
    e.req.read = false ∧ t'.ctrlStat.has writeDataError = true := by
  cases transition with
  | refused c late lock select refused => simp [refused] at accepted
  | accepted c late select accepted delivered reads =>
    have write : e.req.read = false := by
      by_contra read
      simp [reads (by simpa using read)] at ineffective
    refine ⟨write, noted_has_mono late _ ?_⟩
    simp only [carriedOut, write, ineffective]
    exact Target.setSticky_has_self _ (by decide) (by decide)

/-- The value of a bank-zero CTRL/STAT read is the register as the read left it. -/
theorem Step.state_value (transition : Step world t e t') (seen : e.seen = some .ok)
    (read : e.req.isCTRLSTATRead = true) (bank : t.dpBank = 0) :
    ∃ c, e.value = t'.readCTRLSTAT c := by
  obtain ⟨⟨dp, isRead⟩, addr⟩ : (e.req.ap = false ∧ e.req.read = true) ∧ e.req.addr = 0x04 := by
    simpa [Request.isCTRLSTATRead] using read
  cases transition with
  | refused c late lock select refused effective other => exact absurd seen other
  | accepted c late select accepted delivered reads unlocked clear value answered =>
    refine ⟨c, ?_⟩
    rw [value isRead, answered seen]
    simp [noted, carriedOut, Target.read, Target.readDP, isRead, dp, addr, bank]

/-- With ORUNDETECT set, a delivered request which is refused leaves a sticky flag. -/
theorem Step.sticky_of_refused (transition : Step world t e t') (refused : e.accepted = false)
    (delivered : e.delivered = true) (overrun : t.overrun = true) : t'.sticky = true := by
  cases transition with
  | refused c late lock select refused effective other waited received overran =>
    apply Target.stickyOverrun_sticky
    rw [overran delivered overrun]
    exact Target.setSticky_has_self _ (by decide) (by decide)
  | accepted c late select accepted => simp [refused] at accepted

end Acceptance

end Ostiole.Swd
