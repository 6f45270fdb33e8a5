import Ostiole.Cortexm.Closing
import Ostiole.Cortexm.Group
import Ostiole.Logic.Trace

/-!
# Groups release each member once

What holds of a group over any sequence of its calls, the cleanup of a failed
acquisition included: a member whose release succeeded is never reached again, each
release attempts what is pending in reverse order whatever fails, and nothing but a
release reaches a member once one of them is left to cleanup.
-/

namespace Ostiole.Cortexm

open Ostiole Logic

variable {w : GroupWorld} {err : Option Err}

/-! ## What the log shows -/

namespace GroupEntry

/-- The release of a member succeeds. -/
def Releases (core : Nat) (entry : GroupEntry) : Prop :=
  ∃ now, entry.event = .released core now none

/-- A call reaches the target of a member. -/
def Reaches (core : Nat) (entry : GroupEntry) : Prop :=
  (∃ now err, entry.event = .released core now err) ∨ ∃ err, entry.event = .controlled core err

/-- A control operation reaches a member. -/
def Controls (entry : GroupEntry) : Prop := ∃ core err, entry.event = .controlled core err

/-- A release begins. -/
def Begins (entry : GroupEntry) : Prop := ∃ ctx, entry.event = .releasing ctx

/-- A pending member is attempted, or found with the context ended. -/
def attempts (entry : GroupEntry) : Bool :=
  match entry.event with
  | .expired .. | .released .. => true
  | _ => false

/-- The attempt on a member, made unless the context has ended. -/
def Attempted (ctx : Ctx) (core : Nat) (entry : GroupEntry) : Prop :=
  ∃ now, (entry.event = .expired core now ∧ ctx.err now ≠ none) ∨
    ∃ err, entry.event = .released core now err ∧ ctx.err now = none

end GroupEntry

namespace Group

/-- The target of a member. -/
def target (g : Group) (core : Nat) : Option Target :=
  (g.cores[core]?).bind fun c => c.target.map Prod.snd

/-- The pending members, the last one first. -/
def pendingCores (g : Group) : List Nat := g.indices.reverse.filter g.cleanupPending

/-- No member is left to cleanup only. -/
def Open (g : Group) : Prop := ∀ core t, g.target core = some t → t.closing = false

/-- A release that begins attempts each pending member in turn. -/
def AttemptsPending (entry : GroupEntry) (attempts : List GroupEntry) : Prop :=
  ∀ ctx, entry.event = .releasing ctx →
    List.Forall₂ (GroupEntry.Attempted ctx) entry.before.pendingCores attempts

/-! ## What the steps change -/

/-- The group with one member changed. -/
def withCore (g : Group) (core : Nat) (f : GroupCore → GroupCore) : Group :=
  { g with cores := g.cores.modify core f }

/-- Two groups agree on everything but the outcomes they report. -/
structure Alike (g g' : Group) : Prop where
  closing : g'.closing = g.closing
  length : g'.cores.length = g.cores.length
  target : ∀ i, g'.target i = g.target i
  pending : ∀ i, g'.cleanupPending i = g.cleanupPending i

/-- Two groups agree on every member but one, and on whether that one has a target. -/
structure Updated (core : Nat) (g g' : Group) : Prop where
  closing : g'.closing = g.closing
  length : g'.cores.length = g.cores.length
  target : ∀ i, i ≠ core → g'.target i = g.target i
  pending : ∀ i, i ≠ core → g'.cleanupPending i = g.cleanupPending i
  held : (g'.target core).isSome = (g.target core).isSome

section Updates

variable {core : Nat} {g g₁ g₂ : Group} {f : GroupCore → GroupCore} {w : GroupWorld} {α : Type}

theorem Alike.refl (g : Group) : Alike g g := ⟨rfl, rfl, fun _ => rfl, fun _ => rfl⟩

theorem Alike.trans (first : Alike g g₁) (second : Alike g₁ g₂) : Alike g g₂ :=
  ⟨second.closing.trans first.closing, second.length.trans first.length,
    fun i => (second.target i).trans (first.target i),
    fun i => (second.pending i).trans (first.pending i)⟩

theorem Alike.updated (alike : Alike g g₁) : Updated core g g₁ :=
  ⟨alike.closing, alike.length, fun i _ => alike.target i, fun i _ => alike.pending i,
    congrArg Option.isSome (alike.target core)⟩

theorem Updated.trans (first : Updated core g g₁) (second : Updated core g₁ g₂) :
    Updated core g g₂ :=
  ⟨second.closing.trans first.closing, second.length.trans first.length,
    fun i other => (second.target i other).trans (first.target i other),
    fun i other => (second.pending i other).trans (first.pending i other),
    second.held.trans first.held⟩

theorem Alike.open (alike : Alike g g₁) (opened : g.Open) : g₁.Open :=
  fun i t held => opened i t ((alike.target i).symm.trans held)

/-- How a program run on a member ends. -/
structure Ran (core : Nat) (program : TargetM α) (w : GroupWorld) (value : α) (w' : GroupWorld) :
    Prop where
  log : w'.log = w.log
  updated : Updated core w.group w'.group
  pending : w'.group.cleanupPending core = w.group.cleanupPending core
  outcome : ∃ before t, w.group.target core = some t ∧ before.target = t ∧
    value = (program before).1 ∧ w'.group.target core = some (program before).2.target

end Updates

/-! ## Invariants -/

/-- What the log says agrees with what is pending, and nothing is done twice. -/
structure Logged (w : GroupWorld) : Prop where
  exact : ∀ i, w.group.cleanupPending i = true ↔
    (w.group.target i).isSome = true ∧ ∀ e ∈ w.log, ¬e.Releases i
  once : Always (fun before e => ∀ i, e.Reaches i → ∀ p ∈ before, ¬p.Releases i) w.log
  controls : Always (fun before e => e.Controls → e.before.Open ∧
    ∀ p ∈ before, ¬p.Begins ∧ p.before.Open) w.log

/-- A group that may be controlled: no release has begun and no member is left to
cleanup. -/
structure Usable (w : GroupWorld) : Prop where
  opened : w.group.Open
  before : ∀ e ∈ w.log, ¬e.Begins ∧ (∀ i, ¬e.Releases i) ∧ e.before.Open

/-- What holds between calls. -/
structure Sound (w : GroupWorld) : Prop where
  logged : Logged w
  ordered : Followed GroupEntry.Begins GroupEntry.attempts AttemptsPending w.log
  usable : w.group.closing = false → Usable w

section Invariants

variable {core : Nat} {w w' : GroupWorld} {e : GroupEntry} {ctx : Ctx}

theorem Logged.snoc (logged : Logged w) (log : w'.log = w.log ++ [e])
    (once : ∀ i, e.Reaches i → ∀ p ∈ w.log, ¬p.Releases i)
    (controls : e.Controls → e.before.Open ∧ ∀ p ∈ w.log, ¬p.Begins ∧ p.before.Open)
    (exact : ∀ i, w'.group.cleanupPending i = true ↔ (w'.group.target i).isSome = true ∧
      (∀ p ∈ w.log, ¬p.Releases i) ∧ ¬e.Releases i) : Logged w' := by
  refine ⟨fun i => ?_, log ▸ logged.once.snoc once, log ▸ logged.controls.snoc controls⟩
  rw [exact, log]
  simp [or_imp, forall_and]

/-- Reporting an outcome changes nothing. -/
theorem Logged.alike (logged : Logged w) (log : w'.log = w.log) (alike : Alike w.group w'.group) :
    Logged w' := by
  refine ⟨fun i => ?_, log ▸ logged.once, log ▸ logged.controls⟩
  rw [alike.pending, alike.target, log]
  exact logged.exact i

theorem Usable.alike (usable : Usable w) (log : w'.log = w.log) (alike : Alike w.group w'.group) :
    Usable w' :=
  ⟨alike.open usable.opened, log ▸ usable.before⟩

/-- An entry that ends nothing, on a group whose other members stay as they are. -/
theorem Usable.snoc (usable : Usable w) {event : GroupEvent}
    (log : w'.log = w.log ++ [⟨w.group, event⟩])
    (plain : (∀ ctx, event ≠ .releasing ctx) ∧ ∀ i now, event ≠ .released i now none)
    (others : ∀ i, i ≠ core → w'.group.target i = w.group.target i)
    (opened : ∀ t, w'.group.target core = some t → t.closing = false) : Usable w' := by
  refine ⟨fun i t held => ?_, fun e member => ?_⟩
  · by_cases same : i = core
    · exact opened t (same ▸ held)
    · exact usable.opened i t ((others i same).symm.trans held)
  · rw [log] at member
    rcases List.mem_append.1 member with earlier | last
    · exact usable.before e earlier
    · rw [List.mem_singleton.1 last]
      exact ⟨fun ⟨ctx, begins⟩ => plain.1 ctx begins, fun i ⟨now, ends⟩ => plain.2 i now ends,
        usable.opened⟩

theorem Sound.alike (sound : Sound w) (log : w'.log = w.log) (alike : Alike w.group w'.group) :
    Sound w' :=
  ⟨sound.logged.alike log alike, log ▸ sound.ordered,
    fun live => (sound.usable (alike.closing.symm.trans live)).alike log alike⟩

/-! ## Release -/

/-- How the attempt on a pending member ends. -/
structure Attempt (ctx : Ctx) (core : Nat) (w w' : GroupWorld) : Prop where
  logged : Logged w'
  updated : Updated core w.group w'.group
  entry : ∃ e, w'.log = w.log ++ [e] ∧ e.Attempted ctx core

theorem Attempt.expired (logged : Logged w) (ended : ctx.err w.clock ≠ none)
    (log : w'.log = w.log ++ [⟨w.group, .expired core w.clock⟩]) (alike : Alike w.group w'.group) :
    Attempt ctx core w w' := by
  refine ⟨logged.snoc log ?_ ?_ fun i => ?_, alike.updated, _, log, _, .inl ⟨rfl, ended⟩⟩
  · rintro i (⟨_, _, event⟩ | ⟨_, event⟩) <;> exact nomatch event
  · rintro ⟨_, _, event⟩
    exact nomatch event
  · rw [alike.pending, alike.target, logged.exact]
    simp [GroupEntry.Releases]

theorem Attempt.released (logged : Logged w) (live : ctx.err w.clock = none)
    (pending : w.group.cleanupPending core = true) (err : Option Err)
    (log : w'.log = w.log ++ [⟨w.group, .released core w.clock err⟩])
    (updated : Updated core w.group w'.group) (left : w'.group.cleanupPending core = err.isSome) :
    Attempt ctx core w w' := by
  obtain ⟨held, unreleased⟩ := (logged.exact core).1 pending
  refine ⟨logged.snoc log ?_ ?_ fun i => ?_, updated, _, log, _, .inr ⟨err, rfl, live⟩⟩
  · rintro i (⟨_, _, event⟩ | ⟨_, event⟩)
    · cases event
      exact unreleased
    · exact nomatch event
  · rintro ⟨_, _, event⟩
    exact nomatch event
  · by_cases same : i = core
    · subst same
      have released : GroupEntry.Releases i ⟨w.group, .released i w.clock err⟩ ↔ err = none :=
        ⟨fun ⟨_, event⟩ => by cases event; rfl, fun none => ⟨_, by rw [none]⟩⟩
      rw [left, updated.held, held, released]
      cases err with
      | none => simp
      | some err => simpa using unreleased
    · rw [updated.pending i same, updated.target i same, logged.exact]
      have other : ¬GroupEntry.Releases i ⟨w.group, .released core w.clock err⟩ := by
        rintro ⟨_, event⟩
        cases event
        exact same rfl
      simp [other]

end Invariants

/-! ## Control -/

section Control

variable {core : Nat} {w w' : GroupWorld} {ctx : Ctx} {call : TargetM Outcome}

/-- How the operation on one member ends. -/
structure Controlled (core : Nat) (w : GroupWorld) (err : Option Err) (w' : GroupWorld) : Prop where
  log : w'.log = w.log ++ [⟨w.group, .controlled core err⟩]
  updated : Updated core w.group w'.group
  pending : w'.group.cleanupPending core = w.group.cleanupPending core
  opened : err = none → ∀ t, w'.group.target core = some t → t.closing = false

theorem Controlled.logged (controlled : Controlled core w err w') (sound : Sound w)
    (usable : Usable w) : Logged w' := by
  refine sound.logged.snoc controlled.log ?_ ?_ fun i => ?_
  · exact fun i _ p member => (usable.before p member).2.1 i
  · exact fun _ => ⟨usable.opened, fun p member =>
      ⟨(usable.before p member).1, (usable.before p member).2.2⟩⟩
  · have unreleased : ¬GroupEntry.Releases i ⟨w.group, .controlled core err⟩ :=
      fun ⟨_, event⟩ => nomatch event
    have updated := controlled.updated
    by_cases same : i = core
    · subst same
      rw [controlled.pending, updated.held, sound.logged.exact]
      simp [unreleased]
    · rw [updated.pending i same, updated.target i same, sound.logged.exact]
      simp [unreleased]

/-- The group stays usable unless the member is left to cleanup. -/
theorem Controlled.usable (controlled : Controlled core w err w') (usable : Usable w)
    (opened : ∀ t, w'.group.target core = some t → t.closing = false) : Usable w' :=
  usable.snoc controlled.log ⟨nofun, nofun⟩ controlled.updated.target opened

theorem Controlled.ordered (controlled : Controlled core w err w')
    (sound : Sound w) :
    Followed GroupEntry.Begins GroupEntry.attempts AttemptsPending w'.log :=
  controlled.log ▸ sound.ordered.snoc rfl fun ⟨_, event⟩ => nomatch event

/-- The same world a moment later. -/
theorem Sound.tick (sound : Sound w) (now : Nat) : Sound { w with clock := now } :=
  sound.alike rfl (.refl _)

end Control

/-! ## Acquisition -/

section Acquisition

variable {core : Nat} {w : GroupWorld} {ctx : Ctx}

/-- The group once a member has been given the target that came of it. -/
def acquired (g : Group) (core : Nat) (target : Option (Env × Target)) (err : Option Err) : Group :=
  g.withCore core fun c => { c with
    target := target
    result := { c.result with
      identity := match target with
        | some (_, t) => t.identity
        | none => Identity.of 0
      cleanupPending := target.isSome
      err := err } }

/-- How the acquisition of one member ends. -/
structure Acquired (core : Nat) (w : GroupWorld) (err : Option Err) (w' : GroupWorld) : Prop where
  log : w'.log = w.log ++ [⟨w.group, .acquired core err⟩]
  closing : w'.group.closing = w.group.closing
  target : ∀ i, i ≠ core → w'.group.target i = w.group.target i
  pending : ∀ i, i ≠ core → w'.group.cleanupPending i = w.group.cleanupPending i
  exact : w'.group.cleanupPending core = (w'.group.target core).isSome
  opened : err = none → ∀ t, w'.group.target core = some t → t.closing = false

theorem Acquired.logged {w' : GroupWorld} (acquired : Acquired core w err w')
    (sound : Sound w) (usable : Usable w) : Logged w' := by
  refine sound.logged.snoc acquired.log ?_ ?_ fun i => ?_
  · rintro i (⟨_, _, event⟩ | ⟨_, event⟩) <;> exact nomatch event
  · rintro ⟨_, _, event⟩
    exact nomatch event
  · have unreleased : ¬GroupEntry.Releases i ⟨w.group, .acquired core err⟩ :=
      fun ⟨_, event⟩ => nomatch event
    by_cases same : i = core
    · subst same
      rw [acquired.exact]
      have before : ∀ p ∈ w.log, ¬GroupEntry.Releases i p :=
        fun p member => (usable.before p member).2.1 i
      simp only [unreleased, not_false_eq_true, and_true]
      exact ⟨fun held => ⟨held, before⟩, And.left⟩
    · rw [acquired.pending i same, acquired.target i same, sound.logged.exact]
      simp [unreleased]

theorem Acquired.usable {w' : GroupWorld} (acquired : Acquired core w none w') (usable : Usable w) :
    Usable w' :=
  usable.snoc acquired.log ⟨nofun, nofun⟩ acquired.target (acquired.opened rfl)

end Acquisition

end Group

end Ostiole.Cortexm
