import Ostiole.Swd.TransferSpec

/-!
# Connecting and releasing meet their specification

Protocol entry and the ORUNDETECT transition use raw requests: untagged frames
outside the tracked methods. None of them moves a power request or reaches an
access port. A connection that comes out ready agrees with its target.
-/

namespace Ostiole.Swd

open Ostiole Logic

variable {enabled allowFallback : Bool} {c : Conn} {l l' start : Link} {events : List Event}
    {world : PortWorld} {t t' : Target} {state : Word} (ctx : Ctx)

/-! ## Raw requests -/

/-- The link after some frames and line resets. -/
structure Extends (l : Link) (events : List Event) (l' : Link) : Prop where
  env : l'.env = l.env
  clock : l.clock ≤ l'.clock
  log : l'.log = l.log ++ events
  runs : Runs l.env.world l.target events l'.target

theorem Sends.extends (sends : Sends l events l') :
    Extends l events l' :=
  ⟨sends.env, sends.clock, sends.log, sends.steps.runs⟩

theorem Extends.trans {l'' : Link} {first second : List Event} (before : Extends l first l')
    (after : Extends l' second l'') : Extends l (first ++ second) l'' where
  env := after.env.trans before.env
  clock := before.clock.trans after.clock
  log := by rw [after.log, before.log, List.append_assoc]
  runs := before.runs.trans (by simpa [before.env] using after.runs)

/-- A request the connection makes for itself. -/
def Request.raw (req : Request) : Prop := req.ap = false ∧ req.tag = none

/-- Registers of the target which raw requests other than SELECT and offset-4
writes leave alone. -/
structure Same (t t' : Target) : Prop where
  select : t'.select = t.select
  overrun : t'.overrun = t.overrun
  power : t'.power = t.power
  dlcr : t'.dlcr = t.dlcr

theorem Same.refl (t : Target) : Same t t := ⟨rfl, rfl, rfl, rfl⟩

theorem Same.trans {t'' : Target} (first : Same t t') (second : Same t' t'') : Same t t'' :=
  ⟨second.select.trans first.select, second.overrun.trans first.overrun,
    second.power.trans first.power, second.dlcr.trans first.dlcr⟩

theorem Step.same {e : Event} (transition : Step world t e t')
    (select : e.req.isSELECTWrite = false) (banked : e.req.isBankedWrite = false) : Same t t' where
  select := by simp [transition.effect.select_eq, select]
  overrun := by simp [transition.effect.overrun_eq, banked]
  power := by simp [transition.effect.power_eq, banked]
  dlcr := by simp [transition.effect.dlcr_eq, banked]

theorem Steps.same
    (steps : Steps world t events t')
    (other : ∀ e ∈ events, e.req.isSELECTWrite = false ∧ e.req.isBankedWrite = false) :
    Same t t' := by
  induction steps with
  | nil t => exact .refl t
  | cons transition _ ih =>
    obtain ⟨select, banked⟩ := other _ (List.mem_cons_self ..)
    exact (transition.same select banked).trans
      (ih fun e member => other e (by simp [member]))

/-- Without offset-4 writes the framing fields and the power requests stay. -/
theorem Steps.unbanked
    (steps : Steps world t events t') (other : ∀ e ∈ events, e.req.isBankedWrite = false) :
    t'.overrun = t.overrun ∧ t'.power = t.power ∧ t'.dlcr = t.dlcr := by
  induction steps with
  | nil t => exact ⟨rfl, rfl, rfl⟩
  | cons transition _ ih =>
    have banked := other _ (List.mem_cons_self ..)
    obtain ⟨overrun, power, dlcr⟩ := ih fun e member => other e (by simp [member])
    rw [overrun, power, dlcr, transition.effect.overrun_eq, transition.effect.power_eq,
      transition.effect.dlcr_eq]
    simp [banked]

/-- CTRL/STAT writes which repeat the power requests. -/
theorem Steps.rewritten
    (steps : Steps world t events t') (bank : t.dpBank = 0) {power : Word}
    (before : t.power = power)
    (other : ∀ e ∈ events, e.req.isSELECTWrite = false ∧
      (e.req.isBankedWrite = true → e.data &&& powerRequestFlags = power)) :
    t'.select = t.select ∧ t'.power = power ∧ t'.dlcr = t.dlcr := by
  induction steps with
  | nil t => exact ⟨rfl, before, rfl⟩
  | @cons t t' t'' e events transition _ ih =>
    obtain ⟨select, repeats⟩ := other e (List.mem_cons_self ..)
    have selected : t'.select = t.select := transition.select_kept fun _ => select
    have dlcr : t'.dlcr = t.dlcr := by simp [transition.effect.dlcr_eq, bank]
    have kept : t'.power = power := by
      rw [transition.effect.power_eq]
      split_ifs with written
      · exact repeats written.2.1
      · exact before
    obtain ⟨selectLater, powerLater, dlcrLater⟩ := ih
      (by simpa [Target.dpBank, selected] using bank) kept
      fun e member => other e (by simp [member])
    exact ⟨selectLater.trans selected, powerLater, dlcrLater.trans dlcr⟩

/-- What every routine of the lifecycle keeps. -/
structure Maintained (l l' : Link) : Prop where
  grows : ∃ events, Extends l events l' ∧ ∀ e ∈ events, Request.raw e.req
  power : l'.target.power = l.target.power
  dlcr : l.target.dlcr = 0 → l'.target.dlcr = 0
  timeout : l'.conn.completionTimeout = l.conn.completionTimeout

namespace Maintained

variable {l l' l'' : Link}

theorem refl (l : Link) : Maintained l l :=
  ⟨⟨[], (Sends.refl l).extends, by simp⟩, rfl, id, rfl⟩

theorem trans (first : Maintained l l') (second : Maintained l' l'') : Maintained l l'' := by
  obtain ⟨events, grows, raw⟩ := first.grows
  obtain ⟨later, growsOn, rawOn⟩ := second.grows
  refine ⟨⟨events ++ later, grows.trans growsOn, fun e member => ?_⟩,
    second.power.trans first.power, second.dlcr ∘ first.dlcr, second.timeout.trans first.timeout⟩
  exact (List.mem_append.mp member).elim (raw e) (rawOn e)

/-- Changes of the connection record alone. -/
theorem conn (l : Link) (timeout : c.completionTimeout = l.conn.completionTimeout) :
    Maintained l { l with conn := c } :=
  ⟨⟨[], (Sends.idle l _ 0).extends, by simp⟩, rfl, id, timeout⟩

theorem repair (l : Link) : Maintained l l.repaired :=
  conn l (congrArg (·.2.2.2.2.2) (requireRepair_record l.conn))

theorem tick (l : Link) : Maintained l l.tick :=
  ⟨⟨[], (Sends.tick l).extends, by simp⟩, rfl, id, rfl⟩

end Maintained

/-- A routine that first changes the connection record. -/
theorem modifyConn_bind {α : Type} {f : Conn → Conn} {next : PUnit → LinkM α}
    {post : α → Link → Prop}
    (rest : Ends (next ⟨⟩) { l with conn := f l.conn } post) :
    Ends (modifyConn f >>= next) l post :=
  rest

/-- One raw request as the routines below see it. -/
structure RawOutcome (req : Request) (data : Word) (l : Link) (result : Result) (l' : Link) :
    Prop where
  sends : ∃ events, Sends l events l' ∧ ∀ e ∈ events, (e.req = req ∧ e.data = data) ∨
    (e.req = rawRequest false 0x00 ∧ e.data = clearStickyOverrun)
  conn : l'.conn = l.conn ∨ l'.conn = l.conn.requireRepair
  kept : isErr result.2 .swdWait = false → l'.conn = l.conn
  done : result.2 = none ∨ result.2 = some errParity →
    ∃ e, Sends l [e] l' ∧ e.req = req ∧ e.data = data ∧ e.seen = some .ok ∧
      (result.2 = none → req.read = true → result.1 = e.value)

theorem execute_spec (req : Request) (value : Word) (l : Link) :
    Ends (execute ctx req value) l (RawOutcome req value l) := by
  refine .bind _ (completionContext_spec ctx l) ?_
  rintro (_ | err) _ ⟨rfl, _⟩
  · refine .mono (executeFrame_spec req value l.tick) ?_
    rintro ⟨result, err⟩ l₂ ⟨e, cleanup, executed⟩
    refine ⟨⟨e :: cleanup, (Sends.tick l).silent_trans executed.sends, fun f member => ?_⟩,
      executed.conn, executed.kept, fun done => ?_⟩
    · rcases List.mem_cons.mp member with rfl | later
      · exact .inl ⟨executed.req, executed.data⟩
      · exact .inr (executed.aborts f later)
    · have complete : completeTransfer err = true := by
        rcases done with rfl | rfl <;> rfl
      obtain ⟨seen, _, value⟩ | ⟨_, _, refused⟩ := executed.answered.complete complete
      · have none : cleanup = [] := by
          by_contra cleaned
          have := (executed.needed cleaned).1
          simp [seen] at this
        subst none
        refine ⟨e, (Sends.tick l).silent_trans executed.sends, executed.req, executed.data,
          seen, fun clean read => ?_⟩
        rw [value clean, executed.req, read]
        rfl
      · rcases done with rfl | rfl <;> simp [errParity, errWait, errFault] at refused
  · refine .pure ⟨⟨[], .tick l, by simp⟩, .inl rfl, fun _ => rfl, fun done => ?_⟩
    simp [notExecuted, errParity] at done

section Raw

variable {req : Request} {data : Word} {l l' : Link} {result : Result}

/-- Raw requests are maintained, except that a write at offset 4 must keep the power requests. -/
theorem RawOutcome.maintained (outcome : RawOutcome req data l result l') (raw : Request.raw req)
    (power : l'.target.power = l.target.power) (dlcr : l'.target.dlcr = l.target.dlcr) :
    Maintained l l' := by
  obtain ⟨events, sends, kinds⟩ := outcome.sends
  refine ⟨⟨events, sends.extends, fun e member => ?_⟩, power, dlcr.trans, ?_⟩
  · rcases kinds e member with ⟨same, _⟩ | ⟨same, _⟩
    · exact same ▸ raw
    · exact same ▸ ⟨rfl, rfl⟩
  · rcases outcome.conn with same | repaired
    · rw [same]
    · rw [repaired]
      exact congrArg (·.2.2.2.2.2) (requireRepair_record l.conn)

theorem RawOutcome.clean (outcome : RawOutcome req data l result l') (none : result.2 = none) :
    l'.conn = l.conn :=
  outcome.kept (by rw [none]; rfl)

/-- Reads and ABORT writes. -/
theorem RawOutcome.same (outcome : RawOutcome req data l result l')
    (select : req.isSELECTWrite = false) (banked : req.isBankedWrite = false) :
    Same l.target l'.target := by
  obtain ⟨events, sends, kinds⟩ := outcome.sends
  refine sends.steps.same fun e member => ?_
  rcases kinds e member with ⟨same, _⟩ | ⟨same, _⟩
  · exact same ▸ ⟨select, banked⟩
  · exact same ▸ ⟨rfl, rfl⟩

end Raw

/-- A raw read. -/
structure RawRead (addr : BitVec 8) (l : Link) (result : Result) (l' : Link) : Prop where
  maintained : Maintained l l'
  same : Same l.target l'.target
  conn : l'.conn = l.conn ∨ l'.conn = l.conn.requireRepair
  kept : isErr result.2 .swdWait = false → l'.conn = l.conn
  settled : result.2 = none ∨ result.2 = some errParity → addr = 0x0c → l.target.sticky = false
  state : result.2 = none → addr = 0x04 → l.target.dpBank = 0 →
    result.1.has overrunDetect = l.target.overrun ∧
      result.1 &&& powerRequestFlags = l.target.power
  read : result.2 = none → ∃ e, l'.log = l.log ++ [e] ∧ e.req = rawRequest true addr ∧
    e.seen = some .ok ∧ result.1 = e.value

theorem readRaw_spec (addr : BitVec 8) (l : Link) :
    Ends (readRaw ctx addr) l (RawRead addr l) := by
  refine .mono (execute_spec ctx (rawRequest true addr) 0 l) fun result l' outcome => ?_
  have same := outcome.same (by simp [rawRequest, Request.isSELECTWrite])
    (by simp [rawRequest, Request.isBankedWrite])
  refine ⟨outcome.maintained ⟨rfl, rfl⟩ same.power same.dlcr, same, outcome.conn, outcome.kept,
    fun done barrier => ?_, fun clean isState bank => ?_, fun clean => ?_⟩
  · obtain ⟨e, sends, request, _, seen, _⟩ := outcome.done done
    have step := sends.steps.single_step
    by_contra sticky
    have exempt := step.exempt_of_accepted (step.accepted_of_ok seen) (by simpa using sticky)
    simp [Target.exempt, request, rawRequest, barrier, Request.isDPIDRRead, Request.isABORTWrite,
      Request.isCTRLSTATRead] at exempt
  · obtain ⟨e, sends, request, _, seen, value⟩ := outcome.done (.inl clean)
    obtain ⟨c, shown⟩ := sends.steps.single_step.state_value seen
      (by simp [request, rawRequest, isState, Request.isCTRLSTATRead]) bank
    rw [value clean rfl, shown, Target.readCTRLSTAT_overrun, Target.readCTRLSTAT_power]
    exact ⟨same.overrun, same.power⟩
  · obtain ⟨e, sends, request, _, seen, value⟩ := outcome.done (.inl clean)
    exact ⟨e, sends.log, request, seen, value clean rfl⟩

/-- A raw write. -/
structure RawWrite (l : Link) (err : Option Err) (l' : Link) : Prop where
  maintained : Maintained l l'
  conn : l'.conn = l.conn ∨ l'.conn = l.conn.requireRepair
  done : err = none → l'.conn = l.conn

theorem writeABORT_spec (value : Word) (l : Link) :
    Ends (writeRaw ctx 0x00 value) l fun err l' => RawWrite l err l' ∧ Same l.target l'.target := by
  refine .bind _ (execute_spec ctx (rawRequest false 0x00) value l) fun result l' outcome => ?_
  have same := outcome.same rfl rfl
  exact .pure ⟨⟨outcome.maintained ⟨rfl, rfl⟩ same.power same.dlcr, outcome.conn, outcome.clean⟩,
    same⟩

/-- A SELECT write, in effect or abandoned. -/
theorem writeSELECT_spec (value : Word) (l : Link) :
    Ends (writeRaw ctx 0x08 value) l fun err l' => RawWrite l err l' ∧
      l'.target.overrun = l.target.overrun ∧
      (err = none → l'.target.select = value ∨ l'.target.sticky = true) := by
  refine .bind _ (execute_spec ctx (rawRequest false 0x08) value l) fun result l' outcome => ?_
  obtain ⟨events, sends, kinds⟩ := outcome.sends
  obtain ⟨overrun, power, dlcr⟩ := sends.steps.unbanked fun e member => by
    rcases kinds e member with ⟨same, _⟩ | ⟨same, _⟩ <;> rw [same] <;> rfl
  refine .pure ⟨⟨outcome.maintained ⟨rfl, rfl⟩ power dlcr, outcome.conn,
    outcome.clean⟩, overrun, fun none => ?_⟩
  obtain ⟨e, sent, request, data, seen, _⟩ := outcome.done (.inl none)
  have step := sent.steps.single_step
  cases effective : e.effective with
  | true =>
    left
    rw [step.effect.select_eq, if_pos ⟨effective, by rw [request]; rfl⟩, data]
  | false =>
    right
    exact Target.writeDataError_sticky (step.dropped (step.accepted_of_ok seen) effective).2

/-- A CTRL/STAT write which repeats the power requests. -/
theorem writeState_spec {value : Word} (bank : l.target.dpBank = 0)
    (power : value &&& powerRequestFlags = l.target.power) :
    Ends (writeRaw ctx 0x04 value) l fun err l' => RawWrite l err l' ∧
      l'.target.select = l.target.select := by
  refine .bind _ (execute_spec ctx (rawRequest false 0x04) value l) fun result l' outcome => ?_
  obtain ⟨events, sends, kinds⟩ := outcome.sends
  obtain ⟨select, kept, dlcr⟩ := sends.steps.rewritten bank rfl fun e member => by
    rcases kinds e member with ⟨same, data⟩ | ⟨same, _⟩
    · rw [same, data]
      exact ⟨rfl, fun _ => power⟩
    · rw [same]
      exact ⟨rfl, fun banked => by simp [rawRequest, Request.isBankedWrite] at banked⟩
  exact .pure ⟨⟨outcome.maintained ⟨rfl, rfl⟩ kept dlcr, outcome.conn, outcome.clean⟩, select⟩

/-! ## Protocol entry -/

/-- Protocol entry sequences move nothing but what a line reset does. -/
theorem exchangeEntry_spec (resets : Bool) (l : Link) :
    Ends (exchangeEntry resets) l fun err l' => l'.conn = l.conn ∧ Maintained l l' ∧
      (err = none → resets = true → l'.target.dlcr = 0) := by
  have idle := (Sends.tick l).extends
  unfold exchangeEntry Ends
  simp only
  split_ifs with reset
  · refine ⟨rfl, ⟨⟨[], ⟨rfl, idle.clock, idle.log, .reset (.nil _)⟩, by simp⟩, ?_, fun _ => rfl,
      rfl⟩, fun _ _ => rfl⟩
    simp
  · refine ⟨rfl, .tick l, fun none resets => ?_⟩
    have delivered : (l.env.exchange l.clock).failure = Option.none :=
      Option.map_eq_none_iff.mp none
    simp [resets, delivered] at reset

theorem enterSWD_spec (l : Link) :
    Ends enterSWD l fun err l' => l'.conn = l.conn ∧ Maintained l l' ∧
      (err = none → l'.target.dlcr = 0) :=
  .mono (exchangeEntry_spec true l) fun _ _ ⟨conn, entered, reset⟩ =>
    ⟨conn, entered, fun none => reset none rfl⟩

theorem enterThroughDormant_spec (l : Link) :
    Ends enterThroughDormant l fun _ l' => l'.conn = l.conn ∧ Maintained l l' := by
  refine .bind _ (exchangeEntry_spec false l) ?_
  rintro (_ | err) l₁ ⟨conn, first, _⟩
  · refine .bind _ (exchangeEntry_spec false l₁) ?_
    rintro (_ | err) l₂ ⟨conn₂, second, _⟩
    · refine .mono (exchangeEntry_spec true l₂) ?_
      rintro err l₃ ⟨conn₃, third, _⟩
      exact ⟨conn₃.trans (conn₂.trans conn), (first.trans second).trans third⟩
    · exact .pure ⟨conn₂.trans conn, first.trans second⟩
  · exact .pure ⟨conn, first⟩

/-- What `readEntryIdentity` leaves. -/
theorem readEntryIdentity_spec (l : Link) :
    Ends (readEntryIdentity ctx) l fun result l' =>
      Maintained l l' ∧ (result.2 = none → l'.conn = l.conn) := by
  refine .bind _ (readRaw_spec ctx 0x00 l) ?_
  rintro ⟨dpidr, err⟩ l₁ first
  refine .ite (fun _ => .pure ⟨first.maintained, fun none => first.kept (by rw [none]; rfl)⟩)
    fun other => ?_
  have protocol : err = some errProtocol := by simpa [isExactly, errProtocol] using other
  have conn₁ : l₁.conn = l.conn := first.kept (by rw [protocol]; rfl)
  have ticked := first.maintained.trans (.tick l₁)
  refine .bind (fun _ l₂ => l₂ = l₁.tick) rfl ?_
  rintro (_ | err) _ rfl
  · refine .bind _ (enterThroughDormant_spec l₁.tick) ?_
    rintro (_ | err) l₂ ⟨conn₂, entered⟩
    · refine .mono (readRaw_spec ctx 0x00 l₂) fun result l₃ second => ?_
      refine ⟨(ticked.trans entered).trans second.maintained, fun none => ?_⟩
      exact (second.kept (by rw [none]; rfl)).trans (conn₂.trans conn₁)
    · exact .pure ⟨ticked.trans entered, by simp⟩
  · exact .pure ⟨ticked, by simp⟩

/-- A bootstrap, started with simple responses and no selection pending. -/
structure Booted (l : Link) (err : Option Err) (l' : Link) : Prop where
  maintained : Maintained l l'
  failed : err ≠ none → l'.conn.state ≠ .ready
  simple : err = none → l'.conn.response = .simple
  settled : err = none → l'.conn.selectPending = false
  bank : err = none → l'.conn.bank = ⟨0, true⟩ ∧ l'.target.select = 0
  identified : err = none → l'.conn.identityKnown = true

theorem not_ready_of_repaired (l : Link) : l.repaired.conn.state ≠ .ready :=
  fun ready => Link.repaired_ready ready

/-- A failed step of a bootstrap. -/
theorem Booted.busy {err : Err} (maintained : Maintained l l')
    (busy : l'.conn.state ≠ .ready) : Booted l (some err) l' :=
  ⟨maintained, fun _ => busy, by simp, by simp, by simp, by simp⟩

theorem Booted.fail {err : Err} (maintained : Maintained l l') :
    Booted l (some err) l'.repaired :=
  .busy (maintained.trans (.repair l')) (not_ready_of_repaired l')

theorem bootstrapSelect_spec (dpidr : Word) (abort : Bool)
    (simple : l.conn.response = .simple) (settled : l.conn.selectPending = false)
    (known : l.conn.identityKnown = true) :
    Ends (bootstrapSelect ctx dpidr abort) l fun result l' => Booted l result.2 l' := by
  refine .bind _ (writeABORT_spec ctx (bootstrapClear dpidr abort) l) ?_
  rintro (_ | err) l₁ ⟨cleared, _⟩
  · refine .bind _ (writeSELECT_spec ctx 0 l₁) ?_
    rintro (_ | err) l₂ ⟨written, _, selected⟩
    · refine .bind _ (readRaw_spec ctx 0x0c l₂) ?_
      rintro ⟨value, _ | err⟩ l₃ read
      · have maintained := (cleared.maintained.trans written.maintained).trans read.maintained
        have conn : l₃.conn = l.conn :=
          (read.kept rfl).trans ((written.done rfl).trans (cleared.done rfl))
        have select : l₃.target.select = 0 := by
          rw [read.same.select]
          exact (selected rfl).resolve_right (by simp [read.settled (.inl rfl) rfl])
        have booted : Booted l none { l₃ with conn := { l₃.conn with bank := ⟨0, true⟩ } } :=
          ⟨maintained.trans (.conn l₃ rfl),
            by simp, fun _ => by rw [← simple, ← conn], fun _ => by rw [← settled, ← conn],
            fun _ => ⟨rfl, select⟩, fun _ => by rw [← known, ← conn]⟩
        exact booted
      · exact Booted.fail ((cleared.maintained.trans written.maintained).trans read.maintained)
    · exact Booted.fail (cleared.maintained.trans written.maintained)
  · exact Booted.fail cleared.maintained

/-- What a bootstrap that starts later leaves. -/
theorem Booted.after {err : Option Err} {l'' : Link} (maintained : Maintained l l')
    (booted : Booted l' err l'') : Booted l err l'' :=
  { booted with maintained := maintained.trans booted.maintained }

theorem bootstrapAttempt_spec (abort : Bool)
    (simple : l.conn.response = .simple) (settled : l.conn.selectPending = false) :
    Ends (bootstrapAttempt ctx abort) l fun result l' => Booted l result.2 l' := by
  refine .bind _ (readEntryIdentity_spec ctx l) ?_
  rintro ⟨dpidr, _ | err⟩ l₁ ⟨maintained, kept⟩
  · have conn := kept rfl
    refine .get_bind (.ite (fun _ => ?_) fun _ => .ite (fun _ => Booted.fail maintained) fun _ =>
      ?_)
    · cases known : l₁.conn.identityKnown with
      | true => exact Booted.fail maintained
      | false =>
        have stopped {err : Err} : Booted l (some err) { l₁ with conn :=
            { l₁.conn with state := .idle, response := .simple }.invalidateBank } :=
          .busy (maintained.trans (.conn l₁ rfl)) (by simp [Conn.invalidateBank, Conn.confirmBank])
        exact stopped
    · refine modifyConn_bind (.mono (bootstrapSelect_spec ctx dpidr abort ?_ ?_ rfl)
        fun result l₂ booted => booted.after (maintained.trans (.conn l₁ (by rfl))))
      · rw [← simple, ← conn]
      · rw [← settled, ← conn]
  · exact Booted.fail maintained

/-- The link once its responses are taken to be simple and its bank forgotten. -/
def Link.simplified (l : Link) : Link :=
  { l with conn := { l.conn with response := .simple }.invalidateBank }

theorem Maintained.simplified (l : Link) : Maintained l l.simplified := .conn l rfl

theorem bootstrap_spec (simple : l.conn.response = .simple)
    (settled : l.conn.selectPending = false) :
    Ends (bootstrap ctx) l fun result l' => Booted l result.2 l' := by
  refine .bind _ (bootstrapAttempt_spec ctx false simple settled) ?_
  rintro ⟨dpidr, _ | err⟩ l₁ first
  · exact .pure first
  refine .ite (fun _ => .pure first) fun _ => .bind (fun _ l₂ => l₂ = l₁.simplified) rfl ?_
  rintro _ _ rfl
  have busy : l₁.simplified.conn.state ≠ .ready := first.failed (by simp)
  refine .bind _ (enterSWD_spec l₁.simplified) ?_
  rintro (_ | cause) l₃ ⟨conn, entered, _⟩
  · have soFar := (first.maintained.trans (.simplified l₁)).trans entered
    refine .bind _ (bootstrapAttempt_spec ctx true (conn ▸ rfl) (conn ▸ rfl)) ?_
    rintro ⟨dpidr, _ | cause⟩ l₄ second
    · exact .pure (second.after soFar)
    · exact .pure (.busy (soFar.trans second.maintained) (second.failed (by simp)))
  · exact .pure (.busy ((first.maintained.trans (.simplified l₁)).trans entered) (conn ▸ busy))

/-! ## The ORUNDETECT transition -/

/-- The power requests in a CTRL/STAT value. -/
theorem and_power {mask : Word} (outside : ~~~mask &&& powerRequestFlags = powerRequestFlags) :
    state &&& ~~~mask &&& powerRequestFlags = state &&& powerRequestFlags := by
  rw [BitVec.and_assoc, outside]

theorem overrunValue_power (state : Word) (enabled : Bool) :
    overrunValue state enabled &&& powerRequestFlags = state &&& powerRequestFlags := by
  unfold overrunValue
  split
  · rw [BitVec.and_or_distrib_right, show overrunDetect &&& powerRequestFlags = 0 by decide]
    simp
  · exact and_power (by decide)

/-- No selection pending, and no bank other than zero believed selected. -/
structure Calm (c : Conn) : Prop where
  settled : c.selectPending = false
  bank : c.bank.valid = true → c.bank.bank = 0

theorem Calm.repair (calm : Calm c) : Calm c.requireRepair := by
  unfold Conn.requireRepair
  split_ifs
  · exact calm
  · exact ⟨rfl, by simp [Conn.invalidateBank, Conn.confirmBank, BankSelection.zero]⟩

theorem Calm.repairs {d : Conn} (calm : Calm c) (kept : d = c ∨ d = c.requireRepair) : Calm d := by
  rcases kept with rfl | rfl
  · exact calm
  · exact calm.repair

theorem Calm.tracked (calm : Calm c) (bank : t.dpBank = 0) : Tracked c t :=
  ⟨fun valid _ => bank.trans (calm.bank valid).symm,
    fun pending => by simp [calm.settled] at pending⟩

/-- The link in one response mode. -/
def Link.responding (l : Link) (overrun : Bool) : Link :=
  { l with conn := { l.conn with response := if overrun then .overrun else .simple } }

/-- Routines of the transition, in bank zero throughout. -/
structure Turned (l : Link) (err : Option Err) (l' : Link) : Prop where
  maintained : Maintained l l'
  select : l'.target.select = l.target.select
  failed : err ≠ none → l'.conn.state ≠ .ready
  calm : Calm l.conn → Calm l'.conn

namespace Turned

variable {l l' l'' : Link} {err : Option Err}

theorem fail {cause : Err} (turned : Turned l none l') : Turned l (some cause) l'.repaired :=
  ⟨turned.maintained.trans (.repair l'), turned.select, fun _ => not_ready_of_repaired l',
    fun calm => (turned.calm calm).repair⟩

theorem refl (l : Link) : Turned l none l := ⟨.refl l, rfl, by simp, id⟩

theorem trans (first : Turned l none l') (second : Turned l' err l'') : Turned l err l'' where
  maintained := first.maintained.trans second.maintained
  select := second.select.trans first.select
  failed := second.failed
  calm calm := second.calm (first.calm calm)

/-- Changing the response mode alone. -/
theorem mode (l : Link) (overrun : Bool) : Turned l none (l.responding overrun) :=
  ⟨.conn l rfl, rfl, by simp, fun calm => ⟨calm.settled, calm.bank⟩⟩

theorem bank (turned : Turned l err l') (bank : l.target.dpBank = 0) : l'.target.dpBank = 0 := by
  simpa [Target.dpBank, turned.select] using bank

end Turned

theorem RawRead.turned {addr : BitVec 8} {result : Result}
    (read : RawRead addr l result l') : Turned l none l' :=
  ⟨read.maintained, read.same.select, by simp, fun calm => calm.repairs read.conn⟩

theorem RawWrite.turned {err : Option Err} (write : RawWrite l err l')
    (select : l'.target.select = l.target.select) : Turned l none l' :=
  ⟨write.maintained, select, by simp, fun calm => calm.repairs write.conn⟩

theorem prepareOverrunWrite_spec (state : Word) (l : Link) :
    Ends (prepareOverrunWrite ctx state) l fun result l' =>
      Turned l result.2 l' ∧ l'.target.power = l.target.power ∧
      (result.2 = none → result.1 &&& powerRequestFlags = state &&& powerRequestFlags) := by
  refine .get_bind (.ite (fun _ => .pure ⟨.refl l, rfl, fun _ => rfl⟩) fun _ => ?_)
  refine .bind _ (writeABORT_spec ctx (overrunWriteClear state l.conn.identity) l) ?_
  rintro (_ | err) l₁ ⟨write, same⟩
  · refine .pure ⟨write.turned same.select, same.power, fun _ => ?_⟩
    rw [and_power (by decide)]
    split
    · exact and_power (by decide)
    · rfl
  · exact modifyConn_bind (.pure ⟨.fail (write.turned same.select), same.power, by simp⟩)

/-- The response mode shows ORUNDETECT. -/
def Agrees (l : Link) : Prop := l.conn.response = .overrun ↔ l.target.overrun = true

/-- A completed transition: the mode shows ORUNDETECT, which has the wanted value
unless falling back was allowed. -/
structure Changed (enabled allowFallback : Bool) (l : Link) : Prop where
  agrees : Agrees l
  applied : allowFallback = false → l.target.overrun = enabled

theorem setResponse_bind {α : Type} {overrun : Bool} {next : PUnit → LinkM α}
    {post : α → Link → Prop} (rest : Ends (next ⟨⟩) (l.responding overrun) post) :
    Ends (setResponse overrun >>= next) l post :=
  rest

theorem agrees_iff (overrun : Bool) (mode : l.conn.response = if overrun then .overrun
    else .simple) :
    Agrees l ↔ overrun = l.target.overrun := by
  rw [Agrees, mode]
  cases overrun <;> cases l.target.overrun <;> simp

theorem verifyOverrunChange_spec
    (bank : l.target.dpBank = 0) (falls : allowFallback = true → enabled = true) :
    Ends (verifyOverrunChange ctx enabled allowFallback) l fun result l' =>
      Turned l result.2 l' ∧ (result.2 = none → Changed enabled allowFallback l') := by
  have turned := Turned.mode l enabled
  refine setResponse_bind (.bind _ (readRaw_spec ctx 0x04 _) ?_)
  rintro ⟨state, _ | err⟩ l₂ read
  · obtain ⟨shown, _⟩ := read.state rfl rfl (turned.bank bank)
    rw [← read.same.overrun] at shown
    have after := turned.trans read.turned
    refine .ite (fun same => .pure ⟨after, fun _ => ⟨?_, fun _ => shown.symm.trans same⟩⟩)
      fun differs => setResponse_bind (.ite (fun allowed => ?_) fun strict => ?_)
    · exact (agrees_iff _ (congrArg Conn.response (read.kept rfl))).mpr (same.symm.trans shown)
    · refine .pure ⟨after.trans (.mode l₂ false),
        fun _ => ⟨(agrees_iff false rfl).mpr ?_, by simp [allowed]⟩⟩
      rw [falls allowed, Bool.not_eq_true] at differs
      exact differs.symm.trans shown
    · exact modifyConn_bind (.pure ⟨.fail (after.trans (.mode l₂ false)), by simp⟩)
  · exact modifyConn_bind (.pure ⟨.fail (turned.trans read.turned), by simp⟩)

theorem recoverAbandonedOverrunWrite_spec (bank : l.target.dpBank = 0) :
    Ends (recoverAbandonedOverrunWrite ctx) l fun result l' => Turned l result.2 l' ∧
      (result.2 = none → result.1 &&& powerRequestFlags = l'.target.power) := by
  refine .bind _ (readRaw_spec ctx 0x04 l) ?_
  rintro ⟨state, _ | err⟩ l₁ read
  · obtain ⟨_, power⟩ := read.state rfl rfl bank
    rw [← read.same.power] at power
    refine .ite (fun _ => .pure ⟨read.turned, fun _ => power⟩) fun _ =>
      .bind _ (writeABORT_spec ctx clearWriteDataError l₁) ?_
    rintro (_ | err) l₂ ⟨write, same⟩
    · refine .pure ⟨read.turned.trans (write.turned same.select), fun _ => ?_⟩
      rw [and_power (by decide), power, same.power]
    · exact modifyConn_bind (.pure ⟨.fail (read.turned.trans (write.turned same.select)), by simp⟩)
  · exact modifyConn_bind (.pure ⟨.fail read.turned, by simp⟩)

theorem clearOverrunTransitionFault_spec (state : Word) (l : Link) :
    Ends (clearOverrunTransitionFault ctx state) l fun err l' =>
      Turned l err l' ∧ Same l.target l'.target ∧ (err = none → l'.conn = l.conn) := by
  refine .ite (fun _ => .pure ⟨.refl l, .refl _, fun _ => rfl⟩) fun _ =>
    .bind _ (writeABORT_spec ctx (transitionFaultClear state) l) ?_
  rintro (_ | err) l₁ ⟨write, same⟩
  · exact .pure ⟨write.turned same.select, same, fun _ => write.done rfl⟩
  · exact modifyConn_bind (.pure ⟨.fail (write.turned same.select), same, by simp⟩)

/-- What settling one ORUNDETECT write can come to. -/
structure Settling (enabled allowFallback : Bool) (l : Link) (settled : Settled) (l' : Link) :
    Prop where
  turned : Turned l settled.err l'
  changed : settled.err = none → settled.retry = false → Changed enabled allowFallback l'
  observed : settled.err = none → settled.retry = true →
    settled.observed &&& powerRequestFlags = l'.target.power

theorem Settling.fail {cause : Err} (turned : Turned l none l') :
    Settling enabled allowFallback l ⟨false, false, 0, some cause⟩ l'.repaired :=
  ⟨.fail turned, by simp, by simp⟩

theorem resolveOverrunFault_spec (enabled allowFallback : Bool)
    (bank : l.target.dpBank = 0) :
    Ends (resolveOverrunFault ctx enabled allowFallback) l (Settling enabled allowFallback l) := by
  refine .bind _ (readRaw_spec ctx 0x04 l) ?_
  rintro ⟨state, _ | err⟩ l₁ read
  · obtain ⟨shown, power⟩ := read.state rfl rfl bank
    rw [← read.same.overrun] at shown
    rw [← read.same.power] at power
    refine setResponse_bind (.bind _ (clearOverrunTransitionFault_spec ctx state _) ?_)
    rintro err l₃ ⟨cleared, same, conn⟩
    have after := (read.turned.trans (.mode l₁ _)).trans cleared
    cases err with
    | some err => exact .pure ⟨⟨after.maintained, after.select, fun _ => after.failed (by simp),
        after.calm⟩, by simp, by simp⟩
    | none =>
      refine .ite (fun complete => .pure ⟨after, fun _ _ => ⟨?_, fun strict => ?_⟩, by simp⟩)
        fun _ => .pure ⟨after, by simp, fun _ _ => ?_⟩
      · exact (agrees_iff _ (congrArg Conn.response (conn rfl))).mpr (shown.trans same.overrun.symm)
      · rw [same.overrun]
        exact shown.symm.trans (complete.resolve_right (by simp [strict]))
      · rw [and_power (by decide), same.power]
        exact power
  · exact Settling.fail read.turned

theorem resolveOverrunBarrier_spec (barrierErr : Option Err)
    (bank : l.target.dpBank = 0)
    (falls : allowFallback = true → enabled = true) :
    Ends (resolveOverrunBarrier ctx barrierErr enabled allowFallback) l
      (Settling enabled allowFallback l) := by
  refine .ite (fun _ => ?_) fun failed => .ite (fun _ => ?_) fun _ =>
    .ite (fun _ => resolveOverrunFault_spec ctx enabled allowFallback bank) fun _ => ?_
  · refine .bind _ (verifyOverrunChange_spec ctx bank falls) ?_
    rintro ⟨applied, err⟩ l' ⟨turned, changed⟩
    exact .pure ⟨turned, fun none _ => changed none, by simp⟩
  · refine .bind _ (recoverAbandonedOverrunWrite_spec ctx bank) ?_
    rintro ⟨state, err⟩ l' ⟨turned, power⟩
    exact .pure ⟨turned, by simp, fun none _ => power none⟩
  · cases barrierErr with
    | none => exact (failed (.inl rfl)).elim
    | some cause => exact Settling.fail (.refl l)

theorem settleOverrunWrite_spec
    (falls : allowFallback = true → enabled = true) (attempts : Nat) {l : Link}
    (bank : l.target.dpBank = 0) :
    Ends (settleOverrunWrite ctx enabled allowFallback attempts) l
      (Settling enabled allowFallback l) := by
  induction attempts generalizing l with
  | zero => exact Settling.fail (.refl l)
  | succ attempts ih =>
    refine .bind _ (readRaw_spec ctx 0x0c l) ?_
    rintro ⟨value, err⟩ l₁ read
    have bank₁ := read.turned.bank bank
    have follow (settled : Settled) (l₂ : Link)
        (settling : Settling enabled allowFallback l₁ settled l₂) :
        Settling enabled allowFallback l settled l₂ :=
      ⟨read.turned.trans settling.turned, settling.changed, settling.observed⟩
    exact .get_bind (.ite (fun _ => .mono (ih bank₁) follow) fun _ =>
      .mono (resolveOverrunBarrier_spec ctx err bank₁ falls) follow)

/-- The whole transition. -/
theorem changeOverrun_spec (enabled allowFallback : Bool)
    (falls : allowFallback = true → enabled = true) (attempts : Nat) {state : Word} {l : Link}
    (bank : l.target.dpBank = 0) (power : state &&& powerRequestFlags = l.target.power) :
    Ends (changeOverrun ctx enabled allowFallback attempts state) l fun result l' =>
      Turned l result.2 l' ∧ (result.2 = none → Changed enabled allowFallback l') := by
  induction attempts generalizing state l with
  | zero => exact modifyConn_bind (.pure ⟨.fail (.refl l), by simp⟩)
  | succ attempts ih =>
    refine .bind _ (prepareOverrunWrite_spec ctx state l) ?_
    rintro ⟨state₁, _ | err⟩ l₁ ⟨prepared, kept, masked⟩
    · have power₁ : overrunValue state₁ enabled &&& powerRequestFlags = l₁.target.power := by
        rw [overrunValue_power, masked rfl, power, kept]
      refine .bind _ (writeState_spec ctx (prepared.bank bank) power₁) ?_
      rintro (_ | err) l₂ ⟨write, select⟩
      · have written := prepared.trans (write.turned select)
        refine .bind _ (settleOverrunWrite_spec ctx falls (connectWaitLimit + 1)
          (written.bank bank)) fun settled l₃ settling => ?_
        have after := written.trans settling.turned
        refine .ite (fun stop => .pure ⟨after, fun clean => settling.changed clean ?_⟩) fun go => ?_
        · have clean : settled.err = none := clean
          simpa [clean] using stop
        · have clean : settled.err = none ∧ settled.retry = true := by simpa [not_or] using go
          rw [clean.1] at after
          refine .mono (ih (after.bank bank) (settling.observed clean.1 clean.2)) ?_
          rintro result l₄ ⟨turned, changed⟩
          exact ⟨after.trans turned, changed⟩
      · exact modifyConn_bind (.pure ⟨.fail (prepared.trans (write.turned select)), by simp⟩)
    · exact .pure ⟨prepared, by simp⟩

/-! ## Connect -/

/-- A connection just established. -/
structure Connected (l : Link) : Prop where
  ready : l.conn.state = .ready
  agrees : Agrees l
  dlcr : l.target.dlcr = 0
  select : l.target.select = 0
  calm : Calm l.conn

theorem Connected.coherent (connected : Connected l) : Coherent l :=
  ⟨⟨connected.agrees, by simp [Target.turnaround, connected.dlcr]⟩,
    fun _ => connected.calm.tracked (by simp [Target.dpBank, connected.select])⟩

theorem Connected.congr (connected : Connected l) (target : l'.target = l.target)
    (conn : l'.conn = l.conn) : Connected l' := by
  refine ⟨?_, ?_, ?_, ?_, ?_⟩
  · rw [conn]
    exact connected.ready
  · unfold Agrees
    rw [conn, target]
    exact connected.agrees
  · rw [target]
    exact connected.dlcr
  · rw [target]
    exact connected.select
  · rw [conn]
    exact connected.calm

/-- A connection after its bootstrap, with the CTRL/STAT value it read last. -/
structure Prepared (start : Link) (state : Word) (l : Link) : Prop where
  dlcr : l.target.dlcr = 0
  select : l.target.select = 0
  calm : Calm l.conn
  overrun : state.has overrunDetect = l.target.overrun
  power : state &&& powerRequestFlags = l.target.power
  identified : l.conn.identityKnown = true
  read : ∃ earlier e, l.log = start.log ++ earlier ++ [e] ∧ e.req = rawRequest true 0x04 ∧
    e.seen = some .ok ∧ state = e.value

theorem prepareConnection_spec (l : Link) :
    Ends (prepareConnection ctx) l fun result l' => Maintained l l' ∧
      (result.2.2 ≠ none → l'.conn.state ≠ .ready) ∧
      (result.2.2 = none → Prepared l result.2.1 l') := by
  have start : Maintained l { l with conn :=
      { l.conn with state := .repair, response := .simple }.invalidateBank } := .conn l rfl
  refine modifyConn_bind (.bind _ (enterSWD_spec _) ?_)
  rintro (_ | err) l₁ ⟨conn, entered, reset⟩
  · refine .bind _ (bootstrap_spec ctx (conn ▸ rfl) (conn ▸ rfl)) ?_
    rintro ⟨dpidr, err⟩ l₂ booted
    have soFar := (start.trans entered).trans booted.maintained
    cases err with
    | some err => exact .pure ⟨soFar, fun _ => booted.failed (by simp), by simp⟩
    | none =>
      refine .bind _ (readRaw_spec ctx 0x04 l₂) ?_
      rintro ⟨state, _ | err⟩ l₃ read
      · obtain ⟨bank, select⟩ := booted.bank rfl
        obtain ⟨overrun, power⟩ := read.state rfl rfl (by simp [Target.dpBank, select])
        have calm : Calm l₂.conn := ⟨booted.settled rfl, fun _ => by rw [bank]⟩
        refine .pure ⟨soFar.trans read.maintained, by simp, fun _ =>
          ⟨(read.maintained.dlcr ∘ booted.maintained.dlcr) (reset rfl),
            read.same.select.trans select, calm.repairs read.conn,
            overrun.trans read.same.overrun.symm, power.trans read.same.power.symm,
            read.kept rfl ▸ booted.identified rfl, ?_⟩⟩
        obtain ⟨earlier, grows, _⟩ := soFar.grows
        obtain ⟨e, log, request, seen, value⟩ := read.read rfl
        exact ⟨earlier, e, by rw [← grows.log]; exact log, request, seen, value⟩
      · exact modifyConn_bind (.pure ⟨(soFar.trans read.maintained).trans (.repair l₃),
          fun _ => not_ready_of_repaired l₃, by simp⟩)
  · refine .pure ⟨start.trans entered, fun _ => ?_, by simp⟩
    simp [conn, Conn.invalidateBank, Conn.confirmBank]

theorem chooseResponse_spec (prepared : Prepared start state l) :
    Ends (chooseResponse ctx state) l fun err l' => Turned l err l' ∧ (err = none → Agrees l') := by
  refine .ite (fun inherited => setResponse_bind (.pure ⟨.mode l true, fun _ => ?_⟩)) fun _ => ?_
  · exact (agrees_iff true rfl).mpr (inherited.symm.trans prepared.overrun)
  · refine .bind _ (changeOverrun_spec ctx true true (fun _ => rfl) (connectWaitLimit + 1)
      (by simp [Target.dpBank, prepared.select]) prepared.power) ?_
    rintro ⟨_, err⟩ l' ⟨turned, changed⟩
    exact .pure ⟨⟨turned.maintained, turned.select, fun failed =>
      turned.failed (by simpa using failed),
      turned.calm⟩, fun none => (changed (by simpa using none)).agrees⟩

/-- The link once the inherited bit is on record. -/
def Link.remember (state : Word) (l : Link) : Link :=
  { l with conn := { l.conn with
    originalOverrun := state.has overrunDetect, originalKnown := true } }

theorem Prepared.remember
    (prepared : Prepared start state l) : Prepared start state (l.remember state) :=
  ⟨prepared.dlcr, prepared.select, ⟨prepared.calm.settled, prepared.calm.bank⟩, prepared.overrun,
    prepared.power, prepared.identified, prepared.read⟩

theorem establishResponse_spec (prepared : Prepared start state l) :
    Ends (establishResponse ctx state) l fun err l' => Turned l err l' ∧
      (err = none → Agrees l') := by
  refine .get_bind ?_
  cases l.conn.originalKnown with
  | true => exact chooseResponse_spec ctx prepared
  | false =>
    have remembered : Turned l none (l.remember state) :=
      ⟨.conn l rfl, rfl, by simp, fun calm => ⟨calm.settled, calm.bank⟩⟩
    refine modifyConn_bind (.mono (chooseResponse_spec ctx prepared.remember) ?_)
    rintro err l' ⟨turned, agrees⟩
    exact ⟨remembered.trans turned, agrees⟩

theorem connectBody_spec (l : Link) :
    Ends (connectBody ctx) l fun result l' => Maintained l l' ∧
      (result.2 ≠ none → l'.conn.state ≠ .ready) ∧ (result.2 = none → Connected l') := by
  refine .bind _ (prepareConnection_spec ctx l) ?_
  rintro ⟨dpidr, state, _ | err⟩ l₁ ⟨maintained, failed, prepared⟩
  · have ready := prepared rfl
    refine .bind _ (establishResponse_spec ctx ready) ?_
    rintro (_ | err) l₂ ⟨turned, agrees⟩
    · have calm := turned.calm ready.calm
      exact modifyConn_bind (.pure
        ⟨(maintained.trans turned.maintained).trans (.conn l₂ rfl), by simp,
        fun _ => ⟨rfl, agrees rfl, turned.maintained.dlcr ready.dlcr,
          turned.select.trans ready.select, ⟨calm.settled, calm.bank⟩⟩⟩)
    · exact .pure ⟨maintained.trans turned.maintained, fun _ => turned.failed (by simp), by simp⟩
  · exact .pure ⟨maintained, fun _ => failed (by simp), by simp⟩

/-! ## Release -/

/-- A step of a release: it keeps what is maintained and does not fail ready. -/
structure Releases (l : Link) (err : Option Err) (l' : Link) : Prop where
  maintained : Maintained l l'
  failed : err ≠ none → l'.conn.state ≠ .ready

theorem Releases.fail {cause : Err} (maintained : Maintained l l') :
    Releases l (some cause) l'.repaired :=
  ⟨maintained.trans (.repair l'), fun _ => not_ready_of_repaired l'⟩

theorem reenterForRelease_spec (l : Link) :
    Ends (reenterForRelease ctx) l fun err l' =>
      Releases l err l' ∧ (err = none → l'.target.select = 0) := by
  refine .bind (fun _ l₀ => l₀ = l.simplified) rfl ?_
  rintro _ _ rfl
  refine .bind _ (enterSWD_spec l.simplified) ?_
  rintro (_ | err) l₁ ⟨conn, entered, _⟩
  · have soFar := (Maintained.simplified l).trans entered
    refine .bind _ (bootstrap_spec ctx (conn ▸ rfl) (conn ▸ rfl)) ?_
    rintro ⟨dpidr, _ | err⟩ l₂ booted
    · refine .bind _ (readRaw_spec ctx 0x04 l₂) ?_
      rintro ⟨state, _ | err⟩ l₃ read
      · have whole := (soFar.trans booted.maintained).trans read.maintained
        have select := read.same.select.trans (booted.bank rfl).2
        exact .ite (fun _ => setResponse_bind (.pure ⟨⟨whole.trans (.conn l₃ rfl), by simp⟩,
          fun _ => select⟩))
          fun _ => .pure ⟨⟨whole, by simp⟩, fun _ => select⟩
      · exact modifyConn_bind (.pure
          ⟨.fail ((soFar.trans booted.maintained).trans read.maintained), by simp⟩)
    · exact .pure ⟨⟨soFar.trans booted.maintained, fun _ => booted.failed (by simp)⟩, by simp⟩
  · exact modifyConn_bind (.pure ⟨.fail ((Maintained.simplified l).trans entered), by simp⟩)

theorem selectBankZero_spec
    (tracked : l.conn.bank.bank = 0 → l.target.dpBank = 0) :
    Ends (selectBankZero ctx) l fun err l' =>
      Releases l err l' ∧ (err = none → l'.target.dpBank = 0) := by
  refine .get_bind (.ite (fun zero => .pure ⟨⟨.refl l, by simp⟩, fun _ => tracked zero⟩) fun _ =>
    .bind _ (writeSELECT_spec ctx 0 l) ?_)
  rintro (_ | err) l₁ ⟨written, _, selected⟩
  · refine .bind _ (readRaw_spec ctx 0x0c l₁) ?_
    rintro ⟨value, _ | err⟩ l₂ read
    · have select : l₂.target.select = 0 := by
        rw [read.same.select]
        exact (selected rfl).resolve_right (by simp [read.settled (.inl rfl) rfl])
      exact modifyConn_bind (.pure
        ⟨⟨(written.maintained.trans read.maintained).trans (.conn l₂ rfl),
        by simp⟩, fun _ => by simp [Target.dpBank, select]⟩)
    · exact modifyConn_bind (.pure ⟨.fail (written.maintained.trans read.maintained), by simp⟩)
  · exact modifyConn_bind (.pure ⟨.fail written.maintained, by simp⟩)

theorem prepareRelease_spec
    (tracked : l.conn.state = .ready → Tracked l.conn l.target) :
    Ends (prepareRelease ctx) l fun err l' =>
      Releases l err l' ∧ (err = none → l'.target.dpBank = 0) := by
  refine .get_bind (.ite (fun _ => .bind _ (reenterForRelease_spec ctx l) ?_) fun known => ?_)
  · rintro (_ | err) l₁ ⟨reentered, select⟩
    · refine .mono (selectBankZero_spec ctx fun _ => by simp [Target.dpBank, select rfl]) ?_
      rintro err l₂ ⟨selected, bank⟩
      exact ⟨⟨reentered.maintained.trans selected.maintained, selected.failed⟩, bank⟩
    · exact .pure ⟨reentered, by simp⟩
  · obtain ⟨ready, valid, settled⟩ : l.conn.state = .ready ∧ l.conn.bank.valid = true ∧
        l.conn.selectPending = false := by simpa [not_or] using known
    exact selectBankZero_spec ctx fun zero => ((tracked ready).settled valid settled).trans zero

/-- The ORUNDETECT value that a release owes the target. -/
def Link.owed (l : Link) : Bool :=
  if l.conn.originalKnown then l.conn.originalOverrun else l.target.overrun

theorem restoreOverrun_spec (bank : l.target.dpBank = 0) :
    Ends (restoreOverrun ctx) l fun err l' => Releases l err l' ∧
      (err = none ∨ l.conn.originalKnown = false → l'.target.overrun = l.owed) := by
  refine .bind _ (readRaw_spec ctx 0x04 l) ?_
  rintro ⟨state, _ | err⟩ l₁ read
  · obtain ⟨shown, power⟩ := read.state rfl rfl bank
    rw [← read.same.power] at power
    refine .get_bind ?_
    have owed : (if l₁.conn.originalKnown then l₁.conn.originalOverrun else state.has overrunDetect)
        = l.owed := by
      rw [read.kept rfl, Link.owed, shown]
    dsimp only
    rw [owed]
    refine .ite (fun same => .pure ⟨⟨read.maintained, by simp⟩, fun _ => ?_⟩) fun differs => ?_
    · rw [read.same.overrun, ← same]
      exact shown.symm
    · have known : ¬ l.conn.originalKnown = false := fun unknown => by
        simp [Link.owed, unknown, shown] at differs
      refine .bind _ (changeOverrun_spec ctx l.owed false (by simp)
        (connectWaitLimit + 1) (read.turned.bank bank) power) ?_
      rintro ⟨_, _ | err⟩ l₂ ⟨turned, changed⟩
      · exact .pure ⟨⟨read.maintained.trans turned.maintained, by simp⟩,
          fun _ => (changed rfl).applied rfl⟩
      · exact .pure ⟨⟨read.maintained.trans turned.maintained, fun _ => turned.failed (by simp)⟩,
          by simp [known]⟩
  · refine modifyConn_bind (.pure ⟨.fail read.maintained, fun owes => ?_⟩)
    rw [Link.owed, owes.resolve_left (by simp)]
    exact read.same.overrun

/-- What `Release` and `Connect` leave. A connection is ready afterwards only if
nothing was done or if `Connect` went through. -/
structure Cycled (l l' : Link) : Prop where
  maintained : Maintained l l'
  ready : l'.conn.state = .ready → Connected l' ∨ (Sends l [] l' ∧ l'.conn = l.conn)

/-- Reading the clock at the end of a release that is over. -/
private theorem Releases.complete {err : Option Err} (maintained : Maintained l l')
    (busy : l'.conn.state ≠ .ready) (idle : err = none → l'.conn.state = .idle) (ctx : Ctx) :
    Ends (completionError ctx err) l' fun final l'' =>
      Cycled l l'' ∧ (final = none → l''.conn.state = .idle) := by
  refine .mono (completionError_spec ctx err l') ?_
  rintro final _ ⟨rfl, completed⟩
  exact ⟨⟨maintained.trans (.tick l'), fun ready => absurd ready busy⟩,
    fun none => idle (completed.clean none)⟩

theorem release_spec
    (tracked : l.conn.state = .ready → Tracked l.conn l.target) :
    Ends (release ctx) l fun err l' => Cycled l l' ∧ (err = none → l'.conn.state = .idle) := by
  refine .get_bind (.ite (fun idle => .pure ⟨⟨.refl l, fun _ => .inr ⟨.refl l, rfl⟩⟩,
    fun _ => idle⟩)
    fun _ => .bind (fun _ l₁ => l₁ = l.tick) rfl ?_)
  rintro (_ | err) _ rfl
  · refine .bind _ (prepareRelease_spec ctx tracked) ?_
    rintro (_ | err) l₁ ⟨prepared, bank⟩
    · have soFar := (Maintained.tick l).trans prepared.maintained
      refine .bind _ (restoreOverrun_spec ctx (bank rfl)) ?_
      rintro (_ | err) l₂ ⟨restored, _⟩
      · exact modifyConn_bind (Releases.complete ((soFar.trans restored.maintained).trans
          (.conn l₂ (by rfl))) (by simp [Conn.invalidateBank, Conn.confirmBank]) (fun _ => rfl) ctx)
      · exact Releases.complete (soFar.trans restored.maintained) (restored.failed (by simp))
          (by simp) ctx
    · exact Releases.complete ((Maintained.tick l).trans prepared.maintained)
        (prepared.failed (by simp)) (by simp) ctx
  · exact .pure ⟨⟨.tick l, fun _ => .inr ⟨.tick l, rfl⟩⟩, by simp⟩

theorem cleanupFailedConnect_spec (err : Err)
    (connected : l.conn.state = .ready → Connected l) :
    Ends (cleanupFailedConnect err) l fun _ l' =>
      Maintained l l' ∧ (l'.conn.state = .ready → Connected l') := by
  refine .get_bind (.ite (fun _ => modifyConn_bind (.pure ⟨.conn l rfl, fun ready => ?_⟩)) fun _ =>
    .ite (fun _ => .pure ⟨.refl l, connected⟩) fun _ => .bind (fun _ l₁ => l₁ = l.tick) rfl ?_)
  · simp [Conn.invalidateBank, Conn.confirmBank] at ready
  · rintro ctx _ rfl
    refine .bind _ (release_spec ctx fun ready => (connected ready).coherent.tracked ready) ?_
    rintro failed l₁ ⟨cycled, _⟩
    have maintained := (Maintained.tick l).trans cycled.maintained
    have ready (isReady : l₁.conn.state = .ready) : Connected l₁ := by
      rcases cycled.ready isReady with done | ⟨idle, conn⟩
      · exact done
      · rw [conn] at isReady
        exact (connected isReady).congr idle.steps.nil_eq conn
    cases failed with
    | some _ => exact .pure ⟨maintained, ready⟩
    | none => exact .pure ⟨maintained, ready⟩

theorem connect_spec (cleanupTimeout : Int) (l : Link) :
    Ends (connect ctx cleanupTimeout) l fun result l' =>
      Cycled l l' ∧ (result.2 = none → Connected l') := by
  have refused {value : Word} {err : Err} : Cycled l l.tick ∧
      ((value, some err).2 = none → Connected l.tick) :=
    ⟨⟨.tick l, fun _ => .inr ⟨.tick l, rfl⟩⟩, by simp⟩
  refine .bind (fun _ l₁ => l₁ = l.tick) rfl ?_
  rintro (_ | err) _ rfl
  · refine .ite (fun _ => .pure refused) fun _ => .bind _ (connectBody_spec ctx l.tick) ?_
    rintro ⟨dpidr, err⟩ l₁ ⟨maintained, failed, connected⟩
    have soFar := ((Maintained.tick l).trans maintained).trans (.tick l₁)
    refine .bind _ (completionError_spec ctx err l₁) ?_
    rintro (_ | cause) _ ⟨rfl, completed⟩
    · have done : Connected l₁.tick := (connected (completed.clean rfl)).congr rfl rfl
      exact .pure ⟨⟨soFar, fun _ => .inl done⟩, fun _ => done⟩
    · have ready (isReady : l₁.tick.conn.state = .ready) : Connected l₁.tick := by
        by_contra wrong
        refine failed (fun none => wrong ?_) isReady
        exact (connected none).congr rfl rfl
      refine .bind _ (cleanupFailedConnect_spec cause ready) ?_
      rintro err l₂ ⟨cleaned, stays⟩
      exact .pure ⟨⟨soFar.trans cleaned, fun isReady => .inl (stays isReady)⟩, by simp⟩
  · exact .pure refused

end Ostiole.Swd
