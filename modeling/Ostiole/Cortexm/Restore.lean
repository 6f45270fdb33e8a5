import Ostiole.Cortexm.Claims

/-!
# Release gives back what was inherited

A processor under exclusive debug control: its DHCSR control bits change only by
the driver's writes and by the processor entering Debug state. A write may take
effect or be ignored, whether or not it reports failure. Whatever fails on the way, once
nothing is left to release
debug is enabled or disabled as it was, a halt that was inherited still stands, and
every halt the driver asked for has been seen released or given up.
-/

namespace Ostiole.Cortexm

open Ostiole Logic

/-! ## The processor -/

/-- What DHCSR holds of a processor. -/
structure Core where
  enabled : Bool
  requested : Bool
  stepping : Bool
  masked : Bool
  halted : Bool
deriving DecidableEq, Repr

namespace Core

/-- A value shows the processor as it is. -/
structure Shows (c : Core) (value : Word) : Prop where
  enabled : value &&& cDebugEnable ≠ 0 ↔ c.enabled = true
  requested : value &&& cHalt ≠ 0 ↔ c.requested = true
  stepping : value &&& cStep ≠ 0 ↔ c.stepping = true
  masked : value &&& cMaskInts ≠ 0 ↔ c.masked = true
  halted : value &&& sHalt ≠ 0 ↔ c.halted = true

/-- A control write that takes effect. -/
def written (c : Core) (value : Word) : Core where
  enabled := value &&& cDebugEnable != 0
  requested := value &&& cHalt != 0
  stepping := value &&& cStep != 0
  masked := value &&& cMaskInts != 0
  halted := c.halted

/-- What the processor does on its own: it enters Debug state, which requests the
halt, and it leaves it when nothing holds it there. -/
inductive Own (c : Core) : Core → Prop where
  | enter (enabled : c.enabled = true) : Own c { c with requested := true, halted := true }
  | leave (free : c.enabled = false ∨ c.requested = false) : Own c { c with halted := false }

/-- What an access does. A control write takes effect or is ignored, whether or not
it reports failure. -/
inductive Effect (c : Core) : Event → Core → Prop where
  | call (call : Call) : Effect c (.call call) c
  | read (address : Word) (result : Except Err Word)
      (shows_ : address = dhcsrAddress → ∀ value, result = .ok value → c.Shows value) :
      Effect c (.read address result) c
  | written (value : Word) (err : Option Err) :
      Effect c (.write dhcsrAddress value err) (c.written value)
  | unwritten (value : Word) (err : Option Err) : Effect c (.write dhcsrAddress value err) c
  | other (address value : Word) (err : Option Err) (other : address ≠ dhcsrAddress) :
      Effect c (.write address value err) c

/-- The log is one that the processor, starting from `c₀`, can have given rise to. -/
inductive Explains (c₀ : Core) : List Entry → Core → Prop where
  | start : Explains c₀ [] c₀
  | own {log : List Entry} {c c' : Core} (before : Explains c₀ log c) (own : c.Own c') :
      Explains c₀ log c'
  | entry {log : List Entry} {entry : Entry} {c c' : Core} (before : Explains c₀ log c)
      (effect : c.Effect entry.event c') : Explains c₀ (log ++ [entry]) c'

/-- A property that holds of the log before an entry, that every effect of the
entry establishes and that the processor keeps on its own. -/
theorem Explains.snoc {c₀ c : Core} {log : List Entry} {entry : Entry} {P : Core → Prop}
    (explains : Explains c₀ (log ++ [entry]) c)
    (effect : ∀ c₁ c₂, Explains c₀ log c₁ → c₁.Effect entry.event c₂ → P c₂)
    (own : ∀ c₁ c₂, P c₁ → c₁.Own c₂ → P c₂) : P c := by
  generalize whole : log ++ [entry] = log' at explains
  induction explains with
  | start => simp at whole
  | own _ moved ih => exact own _ _ (ih whole) moved
  | entry before happened =>
    obtain ⟨rfl, last⟩ := List.append_inj' whole rfl
    obtain rfl := List.singleton_inj.1 last
    exact effect _ _ before happened

theorem Own.enabled {c c' : Core} (own : c.Own c') : c'.enabled = c.enabled := by
  cases own <;> rfl

/-- A halt that is held stays. -/
theorem Own.holds {c c' : Core} (own : c.Own c') (enabled : c.enabled = true)
    (requested : c.requested = true) :
    c'.requested = true ∧ (c.halted = true → c'.halted = true) := by
  cases own with
  | enter => exact ⟨rfl, fun _ => rfl⟩
  | leave free => exact absurd free (by simp [enabled, requested])

end Core

/-! ## The processor over a run -/

/-- What is known of the debug enable of a processor that explains the log. -/
structure Tracks (c₀ : Core) (t : Target) (log : List Entry) (enabled : Bool) : Prop where
  origin : t.disabled = !c₀.enabled
  kept : t.disabled = false → enabled = true
  undone : t.disabled = true → t.changed = false → enabled = false
  stopped : t.step = .stopped → enabled = true
  settled : enabled = false → Settled log
  dropped : t.memory = false → enabled = c₀.enabled ∧ Settled log

section Tracking

variable {c₀ c c' : Core} {t t' : Target} {log : List Entry} {event : Event}

/-- The last reading shows whether debug is enabled. -/
theorem Core.Explains.last_read {value : Word} (explains : c₀.Explains log c)
    (last : LastRead value log) : value &&& cDebugEnable ≠ 0 ↔ c.enabled = true := by
  obtain ⟨earlier, seen, rfl⟩ := last
  refine explains.snoc (P := fun c => value &&& cDebugEnable ≠ 0 ↔ c.enabled = true) ?_ ?_
  · intro c₁ c₂ _ effect
    cases effect with
    | read _ _ shows_ => exact (shows_ rfl value rfl).enabled
  · intro c₁ c₂ shown own
    rwa [own.enabled]

/-- A step of the processor leaves the debug enable as it was, or writes it. -/
theorem Core.Effect.enabled (effect : c.Effect event c') :
    c'.enabled = c.enabled ∨ ∃ value err, event = .write dhcsrAddress value err ∧
      (c'.enabled = true ↔ value &&& cDebugEnable ≠ 0) := by
  cases effect with
  | written value err => exact .inr ⟨value, err, rfl, bne_iff_ne⟩
  | call | read | unwritten | other => exact .inl rfl

/-- The control writes of a move leave debug enabled, but for the one that gives the
debug enable back. -/
theorem Move.enables {value : Word} {err : Option Err} (move : Move log t event t')
    (writes : event = .write dhcsrAddress value err) :
    value &&& cDebugEnable ≠ 0 ∨ t.Quiet ∧ t.Free ∧ t.saved = 0 ∧ value = debugKey ||| 0 := by
  cases move with
  | halt | resume | finish =>
    injection writes with _ same
    exact .inl (same ▸ by decide)
  | enable _ quiet free saved =>
    injection writes with _ same
    exact .inr ⟨quiet, free, saved, same.symm⟩
  | select | stage =>
    injection writes with address
    exact absurd address (by decide)
  | control | transfer | poll | confirm | reason | look | first | second | back =>
    exact nomatch writes

/-- A halt is asked for only where debug has been seen enabled. -/
theorem Move.requests (move : Move log t event t') (requests : Entry.Requests ⟨t, event⟩) :
    t.step = .stopped ∨ ∃ value, LastRead value log ∧ value &&& cDebugEnable ≠ 0 := by
  rcases requests with ⟨err, writes, idle⟩ | ⟨_, _, _, stopped⟩
  · refine .inr ?_
    have control : ∀ {address value err'}, event = .write address value err' →
        address = dhcsrAddress ∧ value = debugKey ||| cDebugEnable ||| cHalt := by
      rintro _ _ _ rfl
      injection writes with address value
      exact ⟨address, value⟩
    cases move with
    | halt _ _ enabled _ last => exact ⟨_, ⟨_, _, last⟩, enabled⟩
    | finish _ _ restoring => exact absurd (restoring.symm.trans idle) nofun
    | resume | enable => exact absurd (control rfl).2 (by decide)
    | select | stage => exact absurd (control rfl).1 (by decide)
    | control | transfer | poll | confirm | reason | look | first | second | back =>
      exact nomatch writes
  · exact .inl stopped

namespace Tracks

/-- Where a halt is asked for, debug is enabled. -/
theorem requested (tracks : Tracks c₀ t log c.enabled) (explains : c₀.Explains log c)
    (move : Move log t event t') (requests : Entry.Requests ⟨t, event⟩) : c.enabled = true := by
  rcases move.requests requests with stopped | ⟨value, last, enabled⟩
  · exact tracks.stopped stopped
  · exact (explains.last_read last).1 enabled

theorem move_undone (tracks : Tracks c₀ t log c.enabled) (booked : Booked t)
    (move : Move log t event t') (effect : c.Effect event c') (disabled : t.disabled = true)
    (unchanged : t'.changed = false) : c'.enabled = false := by
  cases move.claim with
  | same same _ _ writes =>
    have before := same.changed.symm.trans unchanged
    rcases effect.enabled with kept | ⟨value, err, written, -⟩
    · exact kept.trans (tracks.undone disabled before)
    · have changed := booked.stepped disabled (by rw [writes value err written]; decide)
      exact absurd (changed.symm.trans before) nofun
  | given given => exact absurd (disabled.symm.trans (given.changed.symm.trans unchanged)) nofun
  | competed _ _ changed => exact absurd (disabled.symm.trans (changed.symm.trans unchanged)) nofun
  | stepped _ stopped _ changed =>
    have before := booked.busy (by rw [stopped]; trivial)
    exact absurd (before.1.symm.trans (changed.symm.trans unchanged)) nofun
  | returned reads shown =>
    subst reads
    cases effect with
    | read _ _ shows_ =>
      by_contra enabled
      exact (shows_ rfl _ rfl).enabled.2 (by simpa using enabled) shown
  | halted _ _ changed => exact absurd (changed.symm.trans unchanged) nofun
  | resumed _ owned _ changed =>
    exact absurd ((booked.owned owned).symm.trans (changed.symm.trans unchanged)) nofun
  | disabled _ _ _ _ _ changed => exact absurd (changed.symm.trans unchanged) nofun

theorem move_stopped (tracks : Tracks c₀ t log c.enabled) (explains : c₀.Explains log c)
    (move : Move log t event t') (effect : c.Effect event c') (stopped : t'.step = .stopped) :
    c'.enabled = true := by
  have phase := move.phase
  rw [stopped] at phase
  cases phase with
  | same same =>
    rcases effect.enabled with kept | ⟨value, err, writes, enabled⟩
    · exact kept.trans (tracks.stopped same.symm)
    · rcases move.enables writes with set | ⟨quiet, -⟩
      · exact enabled.2 set
      · exact absurd (quiet.step.symm.trans same.symm) nofun
  | stopped _ shown =>
    obtain ⟨value, reads, enabled, -⟩ := shown
    have explains' : c₀.Explains (log ++ [⟨t, event⟩]) c' := .entry explains effect
    exact (explains'.last_read ⟨log, t, congrArg (fun e => log ++ [⟨t, e⟩]) reads⟩).1 enabled

theorem move_settled (tracks : Tracks c₀ t log c.enabled) (explains : c₀.Explains log c)
    (owing : Owing t log) (move : Move log t event t') (effect : c.Effect event c')
    (disabled : c'.enabled = false) : Settled (log ++ [⟨t, event⟩]) := by
  rcases effect.enabled with kept | ⟨value, err, writes, enabled⟩
  · have before := kept.symm.trans disabled
    refine (tracks.settled before).snoc fun requests => ?_
    exact absurd (before.symm.trans (tracks.requested explains move requests)) nofun
  · rcases move.enables writes with set | ⟨quiet, free, -, same⟩
    · exact absurd (disabled.symm.trans (enabled.2 set)) nofun
    · refine (owing.free (Target.not_loose quiet free)).snoc ?_
      rintro (⟨_, again, -⟩ | ⟨_, reads, -⟩)
      · injection writes.symm.trans again with _ value
        exact absurd (same.symm.trans value) (by decide)
      · exact nomatch writes.symm.trans reads

theorem move (tracks : Tracks c₀ t log c.enabled) (explains : c₀.Explains log c)
    (booked : Booked t) (owing : Owing t log) (held : t.memory = true)
    (move : Move log t event t') (effect : c.Effect event c') :
    Tracks c₀ t' (log ++ [⟨t, event⟩]) c'.enabled := by
  have disabled : t'.disabled = t.disabled := by
    rw [Target.disabled, move.fixed.saved, Target.disabled]
  refine ⟨disabled.trans tracks.origin, fun enabled => ?_, fun off unchanged => ?_,
    tracks.move_stopped explains move effect, tracks.move_settled explains owing move effect,
    fun dropped => ?_⟩
  · rcases effect.enabled with kept | ⟨value, err, writes, written⟩
    · exact kept.trans (tracks.kept (disabled.symm.trans enabled))
    · rcases move.enables writes with set | ⟨-, -, saved, -⟩
      · exact written.2 set
      · rw [disabled, Target.disabled, saved] at enabled
        exact absurd enabled (by decide)
  · exact tracks.move_undone booked move effect (disabled.symm.trans off) unchanged
  · exact absurd (held.symm.trans (move.fixed.memory.symm.trans dropped)) (by decide)

theorem launch (tracks : Tracks c₀ t log c.enabled) (booked : Booked t)
    (held : t.memory = true) (owned : t.haltOwned = true) {write : Option Err}
    (effect : c.Effect (.write dhcsrAddress launchValue write) c') :
    Tracks c₀ (t.launched write) (log ++ [⟨t, .write dhcsrAddress launchValue write⟩])
      c'.enabled := by
  have unasked : ¬Entry.Requests ⟨t, .write dhcsrAddress launchValue write⟩ := by
    rintro (⟨_, writes, -⟩ | ⟨_, reads, -⟩)
    · injection writes with _ value
      exact absurd value (by decide)
    · exact nomatch reads
  have enabled : c'.enabled = c.enabled ∨ c'.enabled = true := by
    refine effect.enabled.imp id ?_
    rintro ⟨value, err, writes, enabled⟩
    injection writes with _ value
    exact enabled.2 (value ▸ by decide)
  refine ⟨tracks.origin, fun on => ?_, fun _ unchanged => ?_, fun stopped => ?_, fun off => ?_,
    fun dropped => absurd (held.symm.trans dropped) nofun⟩
  · exact enabled.elim (fun kept => kept.trans (tracks.kept on)) id
  · exact absurd ((booked.owned owned).symm.trans unchanged) nofun
  · cases write <;> exact nomatch stopped
  · rcases enabled with kept | set
    · exact (tracks.settled (kept.symm.trans off)).snoc unasked
    · exact absurd (set.symm.trans off) nofun

/-- Dropping the memory is right: the debug enable is as it was. -/
theorem drop (tracks : Tracks c₀ t log c.enabled) (explains : c₀.Explains log c)
    (owing : Owing t log) (quiet : t.Quiet) (restored : Restored t log) :
    Tracks c₀ { t with memory := false } log c.enabled := by
  refine ⟨tracks.origin, tracks.kept, tracks.undone, tracks.stopped, tracks.settled, fun _ => ?_⟩
  rcases restored with unchanged | ⟨saved, value, last, off⟩
  · refine ⟨?_, owing.unchanged unchanged (.inl quiet.step)⟩
    have origin := tracks.origin
    cases disabled : t.disabled with
    | false =>
      rw [tracks.kept disabled]
      simpa [disabled] using origin
    | true =>
      rw [tracks.undone disabled unchanged]
      simpa [disabled] using origin
  · have disabled : c.enabled = false := by
      by_contra enabled
      exact (explains.last_read last).2 (by simpa using enabled) off
    refine ⟨?_, tracks.settled disabled⟩
    have origin := tracks.origin
    rw [Target.disabled, saved] at origin
    rw [disabled]
    simpa using origin

end Tracks

theorem Run.tracks {t₀ : Target} {log₀ : List Entry} (run : Run t₀ log₀ t log) (kept : Kept t₀)
    (booked : Booked t₀) (owing : Owing t₀ log₀)
    (start : ∀ c, c₀.Explains log₀ c → Tracks c₀ t₀ log₀ c.enabled) :
    ∀ c, c₀.Explains log c → Tracks c₀ t log c.enabled := by
  have alone : ∀ {t log} (c₁ c₂ : Core), Tracks c₀ t log c₁.enabled → c₁.Own c₂ →
      Tracks c₀ t log c₂.enabled := fun _ _ tracks own => own.enabled.symm ▸ tracks
  induction run with
  | start => exact start
  | call call _ ih =>
    intro c explains
    refine explains.snoc (P := fun c => Tracks c₀ _ _ c.enabled) ?_ alone
    intro c₁ c₂ before effect
    cases effect with
    | call =>
      have tracks := ih _ before
      exact ⟨tracks.origin, tracks.kept, tracks.undone, tracks.stopped,
        fun off => (tracks.settled off).snoc Entry.calls_not_requests,
        fun dropped => (tracks.dropped dropped).imp id (.snoc · Entry.calls_not_requests)⟩
  | close _ ih =>
    intro c explains
    have tracks := ih c explains
    exact ⟨tracks.origin, tracks.kept, tracks.undone, tracks.stopped, tracks.settled,
      tracks.dropped⟩
  | move before held move ih =>
    intro c explains
    refine explains.snoc (P := fun c => Tracks c₀ _ _ c.enabled) ?_ alone
    intro c₁ c₂ earlier effect
    exact (ih c₁ earlier).move earlier (before.booked kept booked)
      (before.owing kept booked owing) held move effect
  | launch write before held settled owned _ ih =>
    intro c explains
    refine explains.snoc (P := fun c => Tracks c₀ _ _ c.enabled) ?_ alone
    intro c₁ c₂ earlier effect
    exact (ih c₁ earlier).launch (before.booked kept booked) held owned effect
  | drop before quiet restored ih =>
    intro c explains
    exact (ih c explains).drop explains (before.owing kept booked owing) quiet
      restored

end Tracking

/-! ## Inherited halts -/

/-- An access that writes DHCSR. -/
def Entry.WritesControl (entry : Entry) : Prop :=
  ∃ value err, entry.event = .write dhcsrAddress value err

/-- A log without control writes leaves the debug enable as it was and every halt
standing. -/
theorem Core.Explains.unwritten {c₀ c : Core} {log : List Entry} (explains : c₀.Explains log c)
    (unwritten : ∀ entry ∈ log, ¬entry.WritesControl) :
    c.enabled = c₀.enabled ∧ (c₀.enabled = true → c₀.requested = true →
      c.requested = true ∧ (c₀.halted = true → c.halted = true)) := by
  induction explains with
  | start => exact ⟨rfl, fun _ requested => ⟨requested, id⟩⟩
  | own _ own ih =>
    obtain ⟨enabled, held⟩ := ih unwritten
    refine ⟨own.enabled.trans enabled, fun on requested => ?_⟩
    obtain ⟨still, halted⟩ := held on requested
    obtain ⟨after, stays⟩ := own.holds (enabled.trans on) still
    exact ⟨after, stays ∘ halted⟩
  | @entry log entry c c' _ effect ih =>
    have before := ih fun e member => unwritten e (List.mem_append_left _ member)
    have plain := unwritten entry (List.mem_append_right _ (by simp))
    generalize happened : entry.event = event at effect
    cases effect with
    | written value err => exact absurd ⟨value, err, happened⟩ plain
    | unwritten value err => exact absurd ⟨value, err, happened⟩ plain
    | call | read | other => exact before

/-- A target that inherited a halt never takes hold of the processor. -/
structure Inherited (c₀ : Core) (t : Target) (log : List Entry) : Prop where
  saved : t.saved ≠ 0
  owned : t.haltOwned = false
  idle : t.step = .idle
  unwritten : ∀ entry ∈ log, ¬entry.WritesControl
  core : ∀ c, c₀.Explains log c → c.enabled = true ∧ c.requested = true ∧ c.halted = true
  seen : ∀ value, LastRead value log → value &&& sHalt ≠ 0

section Inheriting

variable {c₀ c : Core} {t t' : Target} {log : List Entry} {entry : Entry} {event : Event}

theorem Core.Explains.before (explains : c₀.Explains (log ++ [entry]) c) :
    ∃ c', c₀.Explains log c' :=
  explains.snoc (P := fun _ => ∃ c', c₀.Explains log c') (fun c₁ _ before _ => ⟨c₁, before⟩)
    fun _ _ before _ => before

theorem Inherited.unmoved (inherited : Inherited c₀ t log) (move : Move log t event t') :
    ¬Entry.WritesControl ⟨t, event⟩ := by
  rintro ⟨value, err, writes⟩
  cases move with
  | halt _ _ _ running last => exact inherited.seen _ ⟨_, _, last⟩ running
  | resume _ _ owned => exact absurd (inherited.owned.symm.trans owned) nofun
  | finish _ _ restoring => exact absurd (inherited.idle.symm.trans restoring) nofun
  | enable _ _ _ saved => exact inherited.saved saved
  | select | stage =>
    injection writes with address
    exact absurd address (by decide)
  | control | transfer | poll | confirm | reason | look | first | second | back =>
    exact nomatch writes

/-- Whatever is not a control write leaves an inherited halt alone. -/
theorem Inherited.snoc (inherited : Inherited c₀ t log)
    (explains : c₀.Explains (log ++ [⟨t, event⟩]) c) (plain : ¬Entry.WritesControl ⟨t, event⟩)
    (saved : t'.saved = t.saved) (owned : t'.haltOwned = false) (idle : t'.step = .idle) :
    Inherited c₀ t' (log ++ [⟨t, event⟩]) := by
  refine ⟨saved ▸ inherited.saved, owned, idle, fun e member => ?_, fun c explains => ?_,
    fun value last => ?_⟩
  · rcases List.mem_append.1 member with earlier | last
    · exact inherited.unwritten e earlier
    · exact List.mem_singleton.1 last ▸ plain
  · refine explains.snoc (P := fun c => c.enabled = true ∧ c.requested = true ∧
      c.halted = true) ?_ ?_
    · intro c₁ c₂ before effect
      have held := inherited.core c₁ before
      cases effect with
      | written value err => exact absurd ⟨value, err, rfl⟩ plain
      | unwritten value err => exact absurd ⟨value, err, rfl⟩ plain
      | call | read | other => exact held
    · rintro c₁ c₂ ⟨enabled, requested, halted⟩ own
      obtain ⟨still, stays⟩ := own.holds enabled requested
      exact ⟨own.enabled.trans enabled, still, stays halted⟩
  · obtain ⟨earlier, seen, split⟩ := last
    obtain ⟨rfl, same⟩ := List.append_inj' split rfl
    obtain ⟨rfl, rfl⟩ := Entry.mk.inj (List.singleton_inj.1 same)
    refine explains.snoc (P := fun _ => value &&& sHalt ≠ 0) ?_ fun _ _ shown _ => shown
    intro c₁ c₂ before effect
    cases effect with
    | read _ _ shows_ =>
      exact (shows_ rfl value rfl).halted.2 (inherited.core c₁ before).2.2

theorem Run.inherited {t₀ : Target} {log₀ : List Entry} (run : Run t₀ log₀ t log)
    (start : ∀ c, c₀.Explains log₀ c → Inherited c₀ t₀ log₀) :
    ∀ c, c₀.Explains log c → Inherited c₀ t log := by
  induction run with
  | start => exact start
  | call call _ ih =>
    intro c explains
    obtain ⟨c₁, before⟩ := explains.before
    have inherited := ih c₁ before
    exact inherited.snoc explains (fun ⟨_, _, writes⟩ => nomatch writes) rfl inherited.owned
      inherited.idle
  | close _ ih | drop _ _ _ ih =>
    intro c explains
    have inherited := ih c explains
    exact ⟨inherited.saved, inherited.owned, inherited.idle, inherited.unwritten, inherited.core,
      inherited.seen⟩
  | @move t t' log event _ _ move ih =>
    intro c explains
    obtain ⟨c₁, before⟩ := explains.before
    have inherited := ih c₁ before
    have unowned : t'.haltOwned = false := by
      by_contra owned
      rcases move.created inherited.owned (by simpa using owned) with ⟨writes, -⟩ | ⟨_, _, _,
        stopped⟩
      · exact inherited.unmoved move ⟨_, _, writes⟩
      · exact absurd (inherited.idle.symm.trans stopped) nofun
    exact inherited.snoc explains (inherited.unmoved move) move.fixed.saved unowned
      (move.phase.stays_idle inherited.idle)
  | launch write _ _ _ owned _ ih =>
    intro c explains
    obtain ⟨c₁, before⟩ := explains.before
    exact absurd ((ih c₁ before).owned.symm.trans owned) nofun

end Inheriting

/-! ## The result -/

/-- Everything the driver found has been given back. -/
structure GivenBack (c₀ c : Core) (log : List Entry) : Prop where
  enabled : c.enabled = c₀.enabled
  inherited : c₀.enabled = true → c₀.requested = true →
    c.requested = true ∧ (c₀.halted = true → c.halted = true) ∧
      ∀ entry ∈ log, ¬entry.WritesControl
  settled : Settled log

section Openings

variable {c₀ c : Core} {before t : Target} {identity : Identity} {saved : Word}
  {log log₁ : List Entry}

/-- Only the identity and DHCSR have been read. -/
def ReadOnly (log : List Entry) : Prop :=
  ∀ entry ∈ log, ∃ address result, entry.event = .read address result ∧
    (address = cpuidAddress ∨ address = dhcsrAddress)

theorem ReadOnly.settled (reads : ReadOnly log) : Settled log := by
  intro earlier entry after split requests
  obtain ⟨address, result, happened, either⟩ := reads entry (by simp [split])
  rcases requests with ⟨err, writes, -⟩ | ⟨reason, again, -⟩
  · exact nomatch happened.symm.trans writes
  · injection happened.symm.trans again with same
    subst same
    exact absurd either (by decide)

theorem ReadOnly.givenBack (reads : ReadOnly log) (explains : c₀.Explains log c) :
    GivenBack c₀ c log := by
  have unwritten : ∀ entry ∈ log, ¬entry.WritesControl := by
    rintro entry member ⟨value, err, writes⟩
    obtain ⟨address, result, happened, -⟩ := reads entry member
    exact nomatch happened.symm.trans writes
  obtain ⟨enabled, held⟩ := explains.unwritten unwritten
  refine ⟨enabled, fun on requested => ?_, reads.settled⟩
  obtain ⟨still, halted⟩ := held on requested
  exact ⟨still, halted, unwritten⟩

theorem Probed.readOnly (probed : Probed before identity saved log) : ReadOnly log := by
  obtain ⟨raw, rfl⟩ := probed.reads
  simp [ReadOnly]

/-- The value `Acquire` read shows whether debug was enabled. -/
theorem Probed.enabled (probed : Probed before identity saved log) (explains : c₀.Explains log c) :
    saved &&& cDebugEnable ≠ 0 ↔ c₀.enabled = true := by
  rw [← (probed.readOnly.givenBack explains).enabled]
  obtain ⟨raw, rfl⟩ := probed.reads
  exact explains.last_read ⟨[_], before, rfl⟩

/-- `Acquire` accepts an inherited halt only once the processor is halted. -/
theorem Probed.halted (probed : Probed before identity saved log) (on : c₀.enabled = true)
    (requested : c₀.requested = true) (explains : c₀.Explains log c) :
    (c.enabled = true ∧ c.requested = true ∧ c.halted = true) ∧ saved &&& sHalt ≠ 0 := by
  have valid := probed.valid
  obtain ⟨raw, rfl⟩ := probed.reads
  have whole : c₀.Explains ([⟨before, .read cpuidAddress (.ok raw)⟩] ++
    [⟨before, .read dhcsrAddress (.ok saved)⟩]) c := explains
  refine whole.snoc (P := fun c =>
    (c.enabled = true ∧ c.requested = true ∧ c.halted = true) ∧ saved &&& sHalt ≠ 0) ?_ ?_
  · intro c₁ c₂ earlier effect
    obtain ⟨enabled, held⟩ := earlier.unwritten (by simp [Entry.WritesControl])
    have still := (held on requested).1
    cases effect with
    | read _ _ shows_ =>
      have shown := shows_ rfl saved rfl
      have stopped : saved &&& sHalt ≠ 0 := by
        intro running
        unfold validateControl at valid
        split at valid
        · next off => exact shown.enabled.2 (enabled.trans on) off
        · split at valid
          · exact nomatch valid
          · rw [if_pos ⟨shown.requested.2 still, running⟩] at valid
            exact nomatch valid
      exact ⟨⟨enabled.trans on, still, shown.halted.1 stopped⟩, stopped⟩
  · rintro c₁ c₂ ⟨⟨enabled, requested, halted⟩, stopped⟩ own
    obtain ⟨still, stays⟩ := own.holds enabled requested
    exact ⟨⟨own.enabled.trans enabled, still, stays halted⟩, stopped⟩

theorem Target.acquired_disabled (identity : Identity) (saved : Word) :
    (Target.acquired identity saved).disabled = true ↔ saved &&& cDebugEnable = 0 := by
  unfold Target.disabled Target.acquired
  simp only
  split
  · next enabled =>
      rw [BitVec.and_assoc, show (cDebugEnable ||| cHalt) &&& cDebugEnable = cDebugEnable by decide]
      simp
  · next off => simpa using off

theorem Opening.booked (opening : Opening identity saved log t log₁) : Booked t := by
  cases opening with
  | untouched => exact ⟨nofun, False.elim, fun _ active => absurd rfl active⟩
  | written => exact ⟨nofun, False.elim, fun _ active => absurd rfl active⟩

theorem Opening.settled_log (probed : Probed before identity saved log)
    (opening : Opening identity saved log t log₁) : Settled log₁ := by
  have settled := probed.readOnly.settled
  cases opening with
  | untouched => exact settled
  | written write =>
    refine settled.snoc ?_
    rintro (⟨_, writes, -⟩ | ⟨_, reads, -⟩)
    · injection writes with _ value
      exact absurd value (by decide)
    · exact nomatch reads

/-- A log that is explained was explained when `Acquire` had read. -/
theorem Opening.explained (opening : Opening identity saved log t log₁)
    (explains : c₀.Explains log₁ c) : ∃ c', c₀.Explains log c' := by
  cases opening with
  | untouched => exact ⟨c, explains⟩
  | written => exact explains.before

theorem Opening.tracks (probed : Probed before identity saved log)
    (opening : Opening identity saved log t log₁) (explains : c₀.Explains log₁ c) :
    Tracks c₀ t log₁ c.enabled := by
  obtain ⟨c', earlier⟩ := opening.explained explains
  have settled := opening.settled_log probed
  have enabled := probed.enabled earlier
  have off := Target.acquired_disabled identity saved
  have origin : (Target.acquired identity saved).disabled = !c₀.enabled := by
    rw [Bool.eq_iff_iff, off, Bool.not_eq_true', ← Bool.not_eq_true, ← enabled, not_not]
  cases opening with
  | untouched =>
    have same := (probed.readOnly.givenBack explains).enabled
    refine ⟨origin, fun on => ?_, fun off _ => ?_, nofun, fun _ => settled, nofun⟩
    · rw [same]
      simpa [on] using origin
    · rw [same]
      simpa [off] using origin
  | written write disabled =>
    refine ⟨origin, fun on => ?_, nofun, nofun, fun _ => settled, nofun⟩
    exact absurd ((off.2 disabled).symm.trans on) nofun

theorem Opening.inherited (probed : Probed before identity saved log)
    (opening : Opening identity saved log t log₁) (on : c₀.enabled = true)
    (requested : c₀.requested = true) (explains : c₀.Explains log₁ c) : Inherited c₀ t log₁ := by
  obtain ⟨c', earlier⟩ := opening.explained explains
  have enabled := (probed.enabled earlier).2 on
  cases opening with
  | untouched =>
    refine ⟨fun zero => ?_, rfl, rfl, ?_, fun c explains => (probed.halted on requested explains).1,
      fun value last => ?_⟩
    · refine enabled ((Target.acquired_disabled identity saved).1 ?_)
      rw [Target.disabled, zero]
      decide
    · exact ((probed.readOnly.givenBack explains).inherited on requested).2.2
    · have stopped := (probed.halted on requested explains).2
      obtain ⟨raw, rfl⟩ := probed.reads
      obtain ⟨earlier, seen, split⟩ := last
      obtain ⟨-, same⟩ := List.append_inj' (show [_] ++ [_] = _ from split) rfl
      simp only [List.cons.injEq, Entry.mk.injEq, Event.read.injEq, Except.ok.injEq] at same
      rwa [← same.1.2.2]
  | written write disabled => exact absurd disabled enabled

end Openings

/-- A run from where `Acquire` left off gives everything back once it has dropped the
memory. -/
theorem Run.givenBack {c₀ c : Core} {before t₁ t : Target} {identity : Identity} {saved : Word}
    {log log₁ log₂ : List Entry} (probed : Probed before identity saved log)
    (opening : Opening identity saved log t₁ log₁) (run : Run t₁ log₁ t log₂)
    (dropped : t.memory = false) (explains : c₀.Explains log₂ c) : GivenBack c₀ c log₂ := by
  have settled := opening.settled_log probed
  have tracks := run.tracks opening.kept opening.booked ⟨fun _ => settled, fun _ _ => settled⟩
    (fun c => opening.tracks probed) c explains
  obtain ⟨enabled, settled⟩ := tracks.dropped dropped
  refine ⟨enabled, fun on requested => ?_, settled⟩
  have inherited := run.inherited (fun c => opening.inherited probed on requested) c explains
  obtain ⟨-, still, halted⟩ := inherited.core c explains
  exact ⟨still, fun _ => halted, inherited.unwritten⟩

/-- A `Release` that reports success has dropped the memory. -/
theorem release_dropped {w : World} {ctx : Ctx} (kept : Kept w.target)
    (released : ((Call.release ctx).make w).1 = none) :
    ((Call.release ctx).make w).2.target.memory = false := by
  cases held : w.target.memory with
  | false =>
    rw [Call.make_dropped held]
    exact held
  | true =>
    have outcome := release_held (w := w.marked (.release ctx)) kept held
      (releasing_marked w ctx) ctx
    rw [Call.make_eq, Call.perform] at released ⊢
    obtain ⟨t', -, ⟨-, -, -, target⟩ | ⟨failed, -⟩⟩ := outcome
    · rw [target]
    · rw [released] at failed
      cases failed

/-- Under exclusive debug control, whatever fails on the way: once `Acquire` returns
no target, or `Release` reports success after any calls, debug is enabled or disabled
as it was before `Acquire`; an inherited halt still stands, and nothing was written
that could have resumed it; and every halt the driver asked for has been seen
released, unless its claim was given up. -/
theorem inherited_control_restored (w : World) (ctx : Ctx) (c₀ c : Core) :
    ((acquire ctx w.fresh).1.1 = false → c₀.Explains (acquire ctx w.fresh).2.log c →
        GivenBack c₀ c (acquire ctx w.fresh).2.log) ∧
      ((acquire ctx w.fresh).1.1 = true → ∀ (calls : List Call) (last : Ctx),
        ((Call.release last).make (perform (acquire ctx w.fresh).2 calls)).1 = none →
        c₀.Explains ((Call.release last).make (perform (acquire ctx w.fresh).2 calls)).2.log c →
        GivenBack c₀ c ((Call.release last).make
          (perform (acquire ctx w.fresh).2 calls)).2.log) := by
  have outcome := acquire_triple w.target ctx w.fresh ⟨rfl, rfl⟩
  refine ⟨fun absent explains => ?_, fun returned calls last released explains => ?_⟩
  · rcases outcome with ⟨-, reads⟩ | ⟨probed, opening, handed, -⟩
    · exact ReadOnly.givenBack reads explains
    · obtain ⟨t', reach, ⟨returned, -⟩ | ⟨-, quiet, restored, target⟩⟩ := handed
      · exact absurd (absent.symm.trans returned) nofun
      · have run := Run.drop (Run.start.reach opening.settled.2 reach) quiet restored
        exact run.givenBack probed opening rfl explains
  · rcases outcome with ⟨absent, -⟩ | ⟨probed, opening, handed, between⟩
    · exact absurd (returned.symm.trans absent) nofun
    · obtain ⟨t', reach, ⟨-, same⟩ | ⟨absent, -⟩⟩ := handed
      · have run := Run.start.reach opening.settled.2 (same ▸ reach)
        obtain ⟨run, between⟩ := perform_run opening.kept run between calls
        have dropped := release_dropped (run.kept opening.kept) released
        obtain ⟨run, -⟩ := Call.make_run (.release last) opening.kept (.call _ run) between
        exact run.givenBack probed opening dropped explains
      · exact absurd (returned.symm.trans absent) nofun

/-- The processor passes from one state to another while these events happen. -/
inductive Core.Passes : Core → List Event → Core → Prop where
  | done {c : Core} : Passes c [] c
  | own {c c' c'' : Core} {events : List Event} (own : c.Own c') (rest : Passes c' events c'') :
      Passes c events c''
  | event {c c' c'' : Core} {event : Event} {events : List Event} (effect : c.Effect event c')
      (rest : Passes c' events c'') : Passes c (event :: events) c''

/-- A log with such events is one that the processor can have given rise to. -/
theorem Core.Passes.explains {c c' : Core} {events : List Event} (passes : c.Passes events c') :
    ∀ {c₀ : Core} {earlier log : List Entry}, c₀.Explains earlier c → log.map (·.event) = events →
      c₀.Explains (earlier ++ log) c' := by
  induction passes with
  | done =>
    intro c₀ earlier log before same
    rw [List.map_eq_nil_iff.mp same, List.append_nil]
    exact before
  | own moved _ ih => exact fun before same => ih (.own before moved) same
  | event effect _ ih =>
    intro c₀ earlier log before same
    obtain ⟨entry, rest, rfl, rfl, later⟩ := List.map_eq_cons_iff.mp same
    rw [List.append_cons]
    exact ih (.entry before effect) later

namespace Session

/-- The processor of the running session, before `Acquire` and after `Release`. -/
def idle : Core := ⟨false, false, false, false, false⟩

def calls : List Call := [.halt ctx, .resume ctx]

/-- What the session reads and writes. -/
def events : List Event :=
  [.read cpuidAddress (.ok 0x410cc200), .read dhcsrAddress (.ok 0),
    .write dhcsrAddress (debugKey ||| cDebugEnable) none, .read dhcsrAddress (.ok 1),
    .call (.halt ctx), .read dhcsrAddress (.ok 1),
    .write dhcsrAddress (debugKey ||| cDebugEnable ||| cHalt) none,
      .read dhcsrAddress (.ok 0x30003),
    .call (.resume ctx), .write dhcsrAddress (debugKey ||| cDebugEnable) none,
    .read dhcsrAddress (.ok 1), .call (.release ctx), .read dhcsrAddress (.ok 1),
    .read dhcsrAddress (.ok 1), .write dhcsrAddress debugKey none, .read dhcsrAddress (.ok 0)]

theorem shown {c : Core} {value : Word} (shows_ : c.Shows value) :
    c.Effect (.read dhcsrAddress (.ok value)) c :=
  .read _ _ fun _ _ same => Except.ok.inj same ▸ shows_

/-- The processor enters Debug state behind the write of `Halt`, and leaves it behind
that of `Resume`. -/
theorem passes : idle.Passes events idle := by
  have off : idle.Shows 0 := by constructor <;> decide
  have on : (⟨true, false, false, false, false⟩ : Core).Shows 1 := by constructor <;> decide
  have held : (⟨true, true, false, false, true⟩ : Core).Shows 0x30003 := by constructor <;> decide
  refine .event (.read _ _ fun same => absurd same (by decide)) (.event (shown off) (.event
    (.written _ _) (.event (shown on) (.event (.call _) (.event (shown on) (.event (.written _ _)
    (.own (.enter rfl) (.event (shown held) (.event (.call _) (.event (.written _ _) (.own
    (.leave (.inr rfl)) (.event (shown on) (.event (.call _) (.event (shown on) (.event (shown on)
    (.event (.written _ _) (.event (shown off) .done)))))))))))))))))

theorem logged : ((Call.release ctx).make (perform (acquire ctx running.fresh).2 calls)).2.log.map
    (·.event) = events := by
  rfl

theorem explained : idle.Explains
    ((Call.release ctx).make (perform (acquire ctx running.fresh).2 calls)).2.log idle := by
  rw [← List.nil_append (World.log _)]
  exact passes.explains .start logged

end Session

/-- Debug is enabled for a processor that ran without, which is halted and resumed, and
disabled again. -/
theorem inherited_control_restored_session :
    GivenBack Session.idle Session.idle ((Call.release Session.ctx).make
      (perform (acquire Session.ctx Session.running.fresh).2 Session.calls)).2.log :=
  (inherited_control_restored Session.running Session.ctx Session.idle Session.idle).2
    (by decide +kernel) Session.calls Session.ctx (by decide +kernel)
    Session.explained

end Ostiole.Cortexm
