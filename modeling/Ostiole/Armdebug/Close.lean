import Ostiole.Armdebug.Conn
import Ostiole.Logic.Program
import Ostiole.Logic.Trace

/-!
# Closing a debug connection

Whatever fails, and however often `Close` is called: MEM-APs are released in the
reverse of the order they were acquired in, then the port, then the probe is closed;
a `Close` that failed is resumed where it stopped. Only a probe that reports
restoration impossible is closed sooner, and that `Close` says so.
-/

namespace Ostiole.Armdebug

open Ostiole Dap Logic

variable {before : Conn} {err : Option Err}

/-! ## What the log shows -/

/-- The MEM-APs acquired, in order. -/
def acquired (log : List Entry) : List Nat := log.filterMap fun entry =>
  match entry.event with
  | .acquired client => some client
  | _ => none

/-- The MEM-APs whose release succeeded, in order. -/
def released (log : List Entry) : List Nat := log.filterMap fun entry =>
  match entry.event with
  | .memoryReleased client none => some client
  | _ => none

/-- The probe has reported restoration impossible. -/
def Impossible (log : List Entry) : Prop := ∃ entry ∈ log, entry.event = .possible false

/-- The port has been released. -/
def PortReleased (log : List Entry) : Prop := ∃ entry ∈ log, entry.event = .portReleased none

/-- Every MEM-AP acquired has been released, the last one first. -/
def MemoriesReleased (log : List Entry) : Prop := released log = (acquired log).reverse

namespace Entry

/-- A `Close` begins. -/
def Begins (entry : Entry) : Prop := entry.event = .closing

/-- A part of a `Close`. -/
def within (entry : Entry) : Bool :=
  match entry.event with
  | .closing | .acquired _ => false
  | _ => true

/-- An attempt to release a MEM-AP. -/
def Releases (client : Nat) (entry : Entry) : Prop :=
  ∃ err, entry.event = .memoryReleased client err

/-- A MEM-AP is released. -/
def Frees (client : Nat) (entry : Entry) : Prop := entry.event = .memoryReleased client none

end Entry

/-- What a `Close` has to do next. -/
inductive Stage where
  | memory (client : Nat)
  | port
  | probe

/-- The first thing a connection has left to do. -/
def Conn.next (c : Conn) : Stage :=
  match c.memories.getLast? with
  | some owned => .memory owned.client
  | none => if c.port then .port else .probe

/-- An attempt at a stage. -/
def Stage.Attempted : Stage → Entry → Prop
  | .memory client, entry => entry.Releases client
  | .port, entry => ∃ err, entry.event = .portReleased err
  | .probe, entry => ∃ err, entry.event = .probeClosed err

/-- The probe is closed while the connection still owes a release. -/
def Abandons (block : List Entry) (entry : Entry) : Prop :=
  (∃ err, entry.event = .probeClosed err) ∧ (entry.before.memories ≠ [] ∨
    entry.before.port = true ∧ ∀ e ∈ block, e.event ≠ .portReleased none ∧
      e.event ≠ .portPending false)

/-- What a `Close` does: it asks the probe, and goes on with what is next; and if it
closes the probe on something still owed it returns an error that says so. -/
structure Closes (marker : Entry) (block : List Entry) : Prop where
  resumes : marker.before.probe = true → ∃ first rest report,
    block = first :: rest ∧ first.event = .possible report ∧
      (report = true → ∃ e rest', rest = e :: rest' ∧ marker.before.next.Attempted e)
  reports : ∀ entry ∈ block, Abandons block entry →
    ∃ e ∈ block, ∃ err, e.event = .closed (some err) ∧ err.is .restorationAbandoned = true

/-! ## The books -/

/-- What is kept through a run: every attempt is at what the log shows to be next. -/
structure Books (port : Bool) (log : List Entry) : Prop where
  distinct : (acquired log).Nodup
  memories : Always (fun before entry => ∀ client, entry.Releases client →
    ∃ rest, acquired before = rest ++ client :: (released before).reverse) log
  ports : Always (fun before entry => ∀ err, entry.event = .portReleased err →
    MemoriesReleased before) log
  probes : Always (fun before entry => ∀ err, entry.event = .probeClosed err →
    Impossible before ∨ MemoriesReleased before ∧ (port = true → PortReleased before)) log

/-- The MEM-APs a connection holds are those acquired and not released, unless they
were given up. -/
def World.Whole (w : World) : Prop :=
  Impossible w.log ∧ w.conn.memories = [] ∧ w.conn.port = false ∨
    acquired w.log = w.conn.memories.map OwnedMemAP.client ++ (released w.log).reverse

/-- What holds at every moment of a run. -/
structure Kept (port : Bool) (w : World) : Prop where
  books : Books port w.log
  fresh : ∀ client ∈ acquired w.log, client < w.client
  whole : w.Whole
  ports : w.conn.port = false → Impossible w.log ∨ port = false ∨ PortReleased w.log
  idle : w.conn.closing = false → released w.log = [] ∧
    acquired w.log = w.conn.memories.map OwnedMemAP.client

section Logs

variable {port : Bool} {log : List Entry} {entry : Entry} {w w' : World}

theorem acquired_snoc (log : List Entry) (entry : Entry) :
    acquired (log ++ [entry]) = acquired log ++ acquired [entry] := List.filterMap_append

theorem released_snoc (log : List Entry) (entry : Entry) :
    released (log ++ [entry]) = released log ++ released [entry] := List.filterMap_append

/-- An entry that acquires nothing. -/
theorem acquired_plain (plain : acquired [entry] = []) :
    acquired (log ++ [entry]) = acquired log := by
  rw [acquired_snoc, plain, List.append_nil]

/-- An entry that releases nothing. -/
theorem released_plain (plain : released [entry] = []) :
    released (log ++ [entry]) = released log := by
  rw [released_snoc, plain, List.append_nil]

theorem Impossible.snoc (impossible : Impossible log) (entry : Entry) :
    Impossible (log ++ [entry]) := by
  obtain ⟨e, member, reported⟩ := impossible
  exact ⟨e, List.mem_append_left _ member, reported⟩

theorem PortReleased.snoc (released : PortReleased log) (entry : Entry) :
    PortReleased (log ++ [entry]) := by
  obtain ⟨e, member, reported⟩ := released
  exact ⟨e, List.mem_append_left _ member, reported⟩

theorem Books.snoc (books : Books port log) (same : acquired [entry] = [])
    (memories : ∀ client, entry.Releases client →
      ∃ rest, acquired log = rest ++ client :: (released log).reverse)
    (ports : ∀ err, entry.event = .portReleased err → MemoriesReleased log)
    (probes : ∀ err, entry.event = .probeClosed err →
      Impossible log ∨ MemoriesReleased log ∧ (port = true → PortReleased log)) :
    Books port (log ++ [entry]) := by
  refine ⟨?_, books.memories.snoc memories, books.ports.snoc ports, books.probes.snoc probes⟩
  rw [acquired_plain same]
  exact books.distinct

/-- The events that are answers or marks, and no attempts. -/
inductive Mark : Event → Prop where
  | closing : Mark .closing
  | possible (report : Bool) : Mark (.possible report)
  | portPending (report : Bool) : Mark (.portPending report)
  | closed (err : Option Err) : Mark (.closed err)

/-- A mark changes nothing. -/
theorem Kept.mark (kept : Kept port w) {event : Event} (mark : Mark event)
    (log : w'.log = w.log ++ [⟨before, event⟩]) (memories : w'.conn.memories = w.conn.memories)
    (ports : w'.conn.port = w.conn.port) (client : w'.client = w.client)
    (closing : w'.conn.closing = false → w.conn.closing = false) : Kept port w' := by
  have fresh : acquired w'.log = acquired w.log := by
    rw [log, acquired_plain]
    cases mark <;> rfl
  have freed : released w'.log = released w.log := by
    rw [log, released_plain]
    cases mark <;> rfl
  refine ⟨?_, fun client' member => ?_, ?_, fun absent => ?_, fun idle => ?_⟩
  · rw [log]
    refine kept.books.snoc ?_ ?_ ?_ ?_
    · cases mark <;> rfl
    · rintro _ ⟨_, event⟩
      cases mark <;> exact nomatch event
    · intro _ event
      cases mark <;> exact nomatch event
    · intro _ event
      cases mark <;> exact nomatch event
  · rw [client]
    exact kept.fresh client' (fresh ▸ member)
  · rcases kept.whole with ⟨impossible, none, absent⟩ | whole
    · exact .inl ⟨log ▸ impossible.snoc _, memories.trans none, ports.trans absent⟩
    · exact .inr (by rw [fresh, freed, memories, whole])
  · rw [log]
    exact (kept.ports (ports.symm.trans absent)).imp (·.snoc _) (.imp id (·.snoc _))
  · rw [fresh, freed, memories]
    exact kept.idle (closing idle)

/-- A mark that leaves the connection alone. -/
theorem Kept.marked (kept : Kept port w) (now : Nat) {event : Event} (mark : Mark event) :
    Kept port { w with clock := now, log := w.log ++ [⟨w.conn, event⟩] } :=
  kept.mark mark rfl rfl rfl rfl id

/-- An attempt on the MEM-AP acquired last of those held. -/
theorem Kept.release (kept : Kept port w) {last : OwnedMemAP}
    {rest : List OwnedMemAP} (closing : w.conn.closing = true)
    (memories : w.conn.memories = rest ++ [last])
    (log : w'.log = w.log ++ [⟨before, .memoryReleased last.client err⟩])
    (conn : w'.conn = { w.conn with memories := if err.isSome then w.conn.memories else rest })
    (client : w'.client = w.client) : Kept port w' := by
  have whole : acquired w.log =
      rest.map OwnedMemAP.client ++ last.client :: (released w.log).reverse := by
    rcases kept.whole with ⟨-, none, -⟩ | whole
    · simp [none] at memories
    · rw [whole, memories]
      simp
  have fresh : acquired w'.log = acquired w.log := by rw [log, acquired_plain rfl]
  refine ⟨?_, fun client' member => ?_, .inr ?_, fun absent => ?_, fun idle => ?_⟩
  · rw [log]
    refine kept.books.snoc rfl ?_ nofun nofun
    rintro _ ⟨_, event⟩
    cases event
    exact ⟨_, whole⟩
  · rw [client]
    exact kept.fresh client' (fresh ▸ member)
  · rw [fresh, whole, conn, log, released_snoc]
    cases err with
    | none => simp [released]
    | some err => simp [released, memories]
  · rw [log]
    rw [conn] at absent
    exact (kept.ports absent).imp (·.snoc _) (.imp id (·.snoc _))
  · rw [conn] at idle
    exact absurd (closing.symm.trans idle) nofun

/-- An attempt on the port, with no MEM-AP left. -/
theorem Kept.releasePort (kept : Kept port w)
    (held : w.conn.port = true) (memories : w.conn.memories = [])
    (log : w'.log = w.log ++ [⟨before, .portReleased err⟩]) (conn : w'.conn = w.conn)
    (client : w'.client = w.client) : Kept port w' := by
  have whole : acquired w.log = (released w.log).reverse := by
    rcases kept.whole with ⟨-, -, absent⟩ | whole
    · exact absurd (held.symm.trans absent) nofun
    · simpa [memories] using whole
  have fresh : acquired w'.log = acquired w.log := by rw [log, acquired_plain rfl]
  have freed : released w'.log = released w.log := by rw [log, released_plain rfl]
  refine ⟨?_, fun client' member => ?_, .inr ?_, fun absent => ?_, fun idle => ?_⟩
  · rw [log]
    refine kept.books.snoc rfl (fun _ ⟨_, event⟩ => nomatch event) (fun _ _ => ?_) nofun
    rw [MemoriesReleased, whole, List.reverse_reverse]
  · rw [client]
    exact kept.fresh client' (fresh ▸ member)
  · rw [fresh, freed, conn, memories, whole]
    rfl
  · rw [conn, held] at absent
    exact nomatch absent
  · rw [conn] at idle
    rw [fresh, freed, conn]
    exact kept.idle idle

/-- The probe is closed, and with it the rest is given up. -/
theorem Kept.closeProbe (kept : Kept port w) (before : Conn) (err : Option Err)
    (may : Impossible w.log ∨ MemoriesReleased w.log ∧ (port = true → PortReleased w.log))
    (log : w'.log = w.log ∨ w'.log = w.log ++ [⟨before, .probeClosed err⟩])
    (conn : ∃ probe, w'.conn = ⟨probe, false, true, []⟩) (client : w'.client = w.client) :
    Kept port w' := by
  obtain ⟨fresh, freed, books, given, paid⟩ :
      acquired w'.log = acquired w.log ∧ released w'.log = released w.log ∧ Books port w'.log ∧
        (Impossible w.log → Impossible w'.log) ∧ (PortReleased w.log → PortReleased w'.log) := by
    rcases log with same | log
    · rw [same]
      exact ⟨rfl, rfl, kept.books, id, id⟩
    · rw [log]
      exact ⟨acquired_plain rfl, released_plain rfl,
        kept.books.snoc rfl (fun _ ⟨_, event⟩ => nomatch event) nofun fun _ _ => may,
        (·.snoc _), (·.snoc _)⟩
  obtain ⟨probe, conn⟩ := conn
  refine ⟨books, fun client' member => ?_, ?_, fun _ => ?_, fun idle => ?_⟩
  · rw [client]
    exact kept.fresh client' (fresh ▸ member)
  · rcases may with impossible | ⟨all, -⟩
    · exact .inl ⟨given impossible, by rw [conn], by rw [conn]⟩
    · refine .inr ?_
      rw [fresh, freed, conn, all, List.reverse_reverse]
      rfl
  · rcases may with impossible | ⟨-, ports⟩
    · exact .inl (given impossible)
    · refine .inr ?_
      cases port with
      | false => exact .inl rfl
      | true => exact .inr (paid (ports rfl))
  · rw [conn] at idle
    exact nomatch idle

end Logs

/-! ## The parts of `Close` -/

section Parts

variable {port : Bool} {w w' : World}

/-- The parts of a connection that only giving up changes. -/
structure SameHolding (w w' : World) : Prop where
  probe : w'.conn.probe = w.conn.probe
  port : w'.conn.port = w.conn.port
  closing : w'.conn.closing = w.conn.closing

/-- How `releaseMemAPs` ends. -/
structure Freed (port : Bool) (w : World) (err : Option Err) (w' : World) : Prop where
  kept : Kept port w'
  same : SameHolding w w'
  done : err = none → w'.conn.memories = []
  block : ∃ block, w'.log = w.log ++ block ∧ (∀ e ∈ block, ∃ client err,
      e.event = .memoryReleased client err) ∧ (w.conn.memories = [] → block = [] ∧ err = none) ∧
    ∀ owned, w.conn.memories.getLast? = some owned →
      ∃ e rest, block = e :: rest ∧ e.Releases owned.client

theorem releaseMemAPsFrom_freed (memories : List OwnedMemAP) (kept : Kept port w)
    (closing : w.conn.closing = true) (held : w.conn.memories = memories.reverse) :
    Freed port w (releaseMemAPsFrom memories w).1 (releaseMemAPsFrom memories w).2 := by
  induction memories generalizing w with
  | nil =>
    refine ⟨kept, ⟨rfl, rfl, rfl⟩, fun _ => held, [], (List.append_nil _).symm, ?_,
      fun _ => ⟨rfl, rfl⟩, ?_⟩
    · exact fun e member => absurd member List.not_mem_nil
    · simp [held]
  | cons last rest ih =>
    rw [List.reverse_cons] at held
    have some_held : w.conn.memories ≠ [] := by simp [held]
    have first : ∀ owned, w.conn.memories.getLast? = some owned → owned = last := by
      intro owned found
      rw [held, List.getLast?_concat] at found
      exact (Option.some.inj found).symm
    rw [releaseMemAPsFrom, run_bind]
    simp only [ask]
    cases outcome : w.env.releaseMemory w.clock with
    | some err =>
      refine ⟨kept.release closing held rfl rfl rfl, ⟨rfl, rfl, rfl⟩, nofun, [_], rfl, ?_,
        fun none => absurd none some_held, ?_⟩
      · simp
      · intro owned found
        exact ⟨_, [], rfl, some err, by rw [first owned found]⟩
    | none =>
      have freed := ih (w := { w with
        clock := w.clock + 1
        conn := { w.conn with memories := rest.reverse }
        log := w.log ++ [⟨w.conn, .memoryReleased last.client none⟩] })
        (kept.release closing held rfl rfl rfl) closing rfl
      obtain ⟨block, log, events, -, -⟩ := freed.block
      refine ⟨freed.kept, ⟨freed.same.probe, freed.same.port, freed.same.closing⟩, freed.done,
        ⟨w.conn, .memoryReleased last.client none⟩ :: block, ?_, ?_,
        fun none => absurd none some_held, ?_⟩
      · exact log.trans (List.append_assoc ..)
      · exact List.forall_mem_cons.2 ⟨⟨_, _, rfl⟩, events⟩
      · intro owned found
        exact ⟨_, block, rfl, none, by rw [first owned found]⟩

/-- With nothing left to release the probe may be closed. -/
theorem Kept.may (kept : Kept port w) (memories : w.conn.memories = [])
    (freed : w.conn.port = true → PortReleased w.log) :
    Impossible w.log ∨ MemoriesReleased w.log ∧ (port = true → PortReleased w.log) := by
  rcases kept.whole with ⟨impossible, -⟩ | whole
  · exact .inl impossible
  · have all : MemoriesReleased w.log := by
      rw [memories] at whole
      rw [MemoriesReleased, whole]
      simp
    cases held : w.conn.port with
    | true => exact .inr ⟨all, fun _ => freed held⟩
    | false =>
      rcases kept.ports held with impossible | without | done
      · exact .inl impossible
      · exact .inr ⟨all, fun present => absurd (without.symm.trans present) nofun⟩
      · exact .inr ⟨all, fun _ => done⟩

/-- Something was done about the port, and it owes nothing. -/
def PortSettled (block : List Entry) : Prop :=
  ∃ e ∈ block, e.event = .portReleased none ∨ e.event = .portPending false

/-- How the restoration of the target ends. -/
structure Tried (port : Bool) (w : World) (err : Option Err) (w' : World) (block : List Entry) :
    Prop where
  kept : Kept port w'
  same : SameHolding w w'
  log : w'.log = w.log ++ block
  inside : ∀ e ∈ block, e.within = true ∧ ∀ err, e.event ≠ .probeClosed err
  may : err = none →
    Impossible w'.log ∨ MemoriesReleased w'.log ∧ (port = true → PortReleased w'.log)
  settled : err = none → w'.conn.memories = [] ∧ (w'.conn.port = true → PortSettled block)

/-- The question comes before what is tried. -/
theorem Tried.cons {report : Bool} {now : Nat} {block : List Entry}
    (tried : Tried port { w with
      clock := now
      log := w.log ++ [⟨w.conn, .possible report⟩] } err w' block) :
    Tried port w err w' (⟨w.conn, .possible report⟩ :: block) := by
  refine ⟨tried.kept, ⟨tried.same.probe, tried.same.port, tried.same.closing⟩,
    tried.log.trans (List.append_assoc ..), List.forall_mem_cons.2 ⟨⟨rfl, nofun⟩, tried.inside⟩,
    tried.may, fun success => ?_⟩
  obtain ⟨memories, settled⟩ := tried.settled success
  refine ⟨memories, fun held => ?_⟩
  obtain ⟨e, member, shown⟩ := settled held
  exact ⟨e, List.mem_cons_of_mem _ member, shown⟩

/-- A block begins with what was next, or nothing was left to restore. -/
def Begun (c : Conn) (err : Option Err) (block : List Entry) : Prop :=
  (c.next = .probe ∧ block = [] ∧ err = none) ∨ ∃ e rest, block = e :: rest ∧ c.next.Attempted e

theorem restore_tried (kept : Kept port w) (closing : w.conn.closing = true) :
    ∃ block, Tried port w (restore w).1 (restore w).2 block ∧
      Begun w.conn (restore w).1 block := by
  have freed := releaseMemAPsFrom_freed w.conn.memories.reverse kept closing
    (List.reverse_reverse _).symm
  rw [restore, run_bind]
  rw [show releaseMemAPs w = releaseMemAPsFrom w.conn.memories.reverse w from rfl]
  generalize releaseMemAPsFrom w.conn.memories.reverse w = outcome at freed ⊢
  obtain ⟨err, w₁⟩ := outcome
  obtain ⟨block, log, events, empty, first⟩ := freed.block
  have inside : ∀ e ∈ block, e.within = true ∧ ∀ err, e.event ≠ .probeClosed err := by
    intro e member
    obtain ⟨client, err, event⟩ := events e member
    exact ⟨by simp [Entry.within, event], fun _ other => nomatch event.symm.trans other⟩
  have begun : w.conn.memories ≠ [] → ∀ later result, Begun w.conn result (block ++ later) := by
    intro held later result
    have found := List.getLast?_eq_some_getLast held
    obtain ⟨e, rest, rfl, releases⟩ := first _ found
    refine .inr ⟨e, rest ++ later, rfl, ?_⟩
    rw [Conn.next, found]
    exact releases
  cases err with
  | some err =>
    refine ⟨block, ⟨freed.kept, freed.same, log, inside, nofun, nofun⟩, ?_⟩
    have held : w.conn.memories ≠ [] := fun none => nomatch (empty none).2
    exact List.append_nil block ▸ begun held [] (some err)
  | none =>
    have memories := freed.done rfl
    simp only
    rw [run_get_bind, run_ite]
    split
    · next without =>
        have absent : w₁.conn.port = false := by simpa using without
        refine ⟨block, ⟨freed.kept, freed.same, log, inside, fun _ => freed.kept.may memories ?_,
          fun _ => ⟨memories, fun held => absurd (absent.symm.trans held) nofun⟩⟩, ?_⟩
        · exact fun held => absurd (absent.symm.trans held) nofun
        · by_cases none : w.conn.memories = []
          · refine .inl ⟨?_, (empty none).1, rfl⟩
            rw [Conn.next, none, ← freed.same.port, absent]
            rfl
          · exact List.append_nil block ▸ begun none [] Option.none
    · next with_ =>
        have held : w₁.conn.port = true := by simpa using with_
        simp only [ask]
        generalize w₁.env.releasePort w₁.clock = err
        have kept : Kept port { w₁ with
            clock := w₁.clock + 1
            log := w₁.log ++ [⟨w₁.conn, .portReleased err⟩] } :=
          freed.kept.releasePort held memories rfl rfl rfl
        refine ⟨block ++ [⟨w₁.conn, .portReleased err⟩], ⟨kept, ⟨freed.same.probe, freed.same.port,
          freed.same.closing⟩, ?_, ?_, ?_, ?_⟩, ?_⟩
        · show w₁.log ++ _ = _
          rw [log, List.append_assoc]
        · intro e member
          rcases List.mem_append.1 member with earlier | last
          · exact inside e earlier
          · rw [List.mem_singleton.1 last]
            exact ⟨rfl, nofun⟩
        · rintro rfl
          exact kept.may memories fun _ =>
            ⟨_, List.mem_append_right _ (List.mem_singleton.2 rfl), rfl⟩
        · rintro rfl
          exact ⟨memories, fun _ =>
            ⟨_, List.mem_append_right _ (List.mem_singleton.2 rfl), .inl rfl⟩⟩
        · by_cases none : w.conn.memories = []
          · refine .inr ⟨_, [], by rw [(empty none).1]; rfl, ?_⟩
            rw [Conn.next, none, ← freed.same.port, held]
            exact ⟨err, rfl⟩
          · exact begun none _ _

/-- A probe that cannot restore leaves what is held to be given up. -/
theorem giveUp_tried (kept : Kept port w) (impossible : Impossible w.log) :
    ∃ block, Tried port w (giveUp w).1 (giveUp w).2 block := by
  rw [giveUp, run_get_bind, run_ite]
  split
  · refine ⟨[], kept, ⟨rfl, rfl, rfl⟩, (List.append_nil _).symm, ?_, nofun, nofun⟩
    exact fun e member => absurd member List.not_mem_nil
  · next empty =>
      have memories : w.conn.memories = [] := by simpa using empty
      rw [run_bind, portPending, run_get_bind, run_ite]
      split
      · next without =>
          have absent : w.conn.port = false := by simpa using without
          refine ⟨[], kept, ⟨rfl, rfl, rfl⟩, (List.append_nil _).symm, ?_, fun _ => .inl impossible,
            fun _ => ⟨memories, fun held => absurd (absent.symm.trans held) nofun⟩⟩
          exact fun e member => absurd member List.not_mem_nil
      · have marked := fun report => kept.marked (w.clock + 1) (.portPending report)
        have inside : ∀ report, ∀ e ∈ [(⟨w.conn, .portPending report⟩ : Entry)],
            e.within = true ∧ ∀ err, e.event ≠ .probeClosed err := by
          intro report e member
          rw [List.mem_singleton.1 member]
          exact ⟨rfl, nofun⟩
        cases report : w.env.portPending w.clock with
        | true =>
          simp only [ask, report]
          exact ⟨_, marked true, ⟨rfl, rfl, rfl⟩, rfl, inside true, nofun, nofun⟩
        | false =>
          simp only [ask, report]
          exact ⟨_, marked false, ⟨rfl, rfl, rfl⟩, rfl, inside false,
            fun _ => .inl (impossible.snoc _),
            fun _ => ⟨memories, fun _ => ⟨_, List.mem_singleton.2 rfl, .inr rfl⟩⟩⟩

/-- The first question of a `Close` and what follows from the answer. -/
def Asked (c : Conn) (err : Option Err) (block : List Entry) : Prop :=
  c.probe = true → ∃ first rest report, block = first :: rest ∧ first.event = .possible report ∧
    (report = true → Begun c err rest)

theorem releaseTarget_tried (kept : Kept port w) (closing : w.conn.closing = true) :
    ∃ block, Tried port w (releaseTarget w).1 (releaseTarget w).2 block ∧
      Asked w.conn (releaseTarget w).1 block := by
  rw [releaseTarget, run_get_bind, run_ite]
  split
  · next gone =>
      obtain ⟨block, tried, -⟩ := restore_tried kept closing
      have absent : w.conn.probe = false := by simpa using gone
      exact ⟨block, tried, fun held => absurd (absent.symm.trans held) nofun⟩
  · have marked := fun report => kept.marked (w.clock + 1) (.possible report)
    rw [run_bind, restorationPossible]
    cases report : w.env.possible w.clock with
    | true =>
      simp only [ask, report]
      obtain ⟨block, tried, begun⟩ := restore_tried (marked true) closing
      exact ⟨_, tried.cons, fun _ => ⟨_, block, true, rfl, rfl, fun _ => begun⟩⟩
    | false =>
      simp only [ask, report]
      obtain ⟨block, tried⟩ := giveUp_tried (marked false) ⟨_, List.mem_append_right _
        (List.mem_singleton.2 rfl), rfl⟩
      exact ⟨_, tried.cons, fun _ => ⟨_, block, false, rfl, rfl, nofun⟩⟩

/-- Whether what is held is retained, and the second question. -/
structure Decided (port : Bool) (w : World) (err : Option Err) (retained : Bool) (w' : World)
    (block : List Entry) : Prop where
  kept : Kept port w'
  conn : w'.conn = w.conn
  log : w'.log = w.log ++ block
  inside : ∀ e ∈ block, e.within = true ∧ ∀ err, e.event ≠ .probeClosed err
  success : err = none → retained = false ∧ block = []
  given : retained = false → err = none ∨ Impossible w'.log

theorem retains_decided (kept : Kept port w) (err : Option Err) :
    ∃ block, Decided port w err (retains err w).1 (retains err w).2 block := by
  have nothing : ∀ e ∈ ([] : List Entry), e.within = true ∧ ∀ err, e.event ≠ .probeClosed err :=
    fun e member => absurd member List.not_mem_nil
  cases err with
  | none =>
    exact ⟨[], kept, rfl, (List.append_nil _).symm, nothing, fun _ => ⟨rfl, rfl⟩, fun _ => .inl rfl⟩
  | some err =>
    rw [retains, if_neg (by simp), run_get_bind, run_ite]
    split
    · exact ⟨[], kept, rfl, (List.append_nil _).symm, nothing, nofun, nofun⟩
    · have marked := fun report => kept.marked (w.clock + 1) (.possible report)
      refine ⟨[⟨w.conn, .possible (w.env.possible w.clock)⟩], marked _, rfl, rfl, ?_, nofun, ?_⟩
      · intro e member
        rw [List.mem_singleton.1 member]
        exact ⟨rfl, nofun⟩
      · intro refused
        have report : w.env.possible w.clock = false := refused
        exact .inr ⟨_, List.mem_append_right _ (List.mem_singleton.2 rfl), by rw [report]⟩

theorem joined_is {first second : Option Err} {cause : Err} {target : Sentinel}
    (found : first = some cause) (matched : cause.is target = true) :
    ∃ err, Err.joined first second = some err ∧ err.is target = true := by
  subst found
  cases second with
  | none => exact ⟨.joinOne cause, rfl, matched⟩
  | some second => exact ⟨.join cause second, rfl, by simp [Err.is, matched]⟩

/-- A failure that is given up says so. -/
theorem abandoned_is (err : Err) :
    ∃ cause, abandoned (some err) = some cause ∧ cause.is .restorationAbandoned = true := by
  cases matched : err.is .restorationAbandoned with
  | true => exact ⟨err, by simp [abandoned, isErr, matched], matched⟩
  | false =>
    refine ⟨.join err (.sentinel .restorationAbandoned), ?_, by simp [Err.is]⟩
    simp [abandoned, isErr, matched, Err.joined]

/-- How `closeHost` ends. -/
structure Hosted (port : Bool) (w : World) (err result : Option Err) (w' : World)
    (block : List Entry) : Prop where
  kept : Kept port w'
  log : w'.log = w.log ++ block
  events : ∀ e ∈ block, e.before = w.conn ∧ ∃ err, e.event = .probeClosed err
  closes : w.conn.probe = true → ∃ e, block = [e]
  reports : err.isSome = true → ∃ cause, result = some cause ∧ cause.is .restorationAbandoned = true

theorem closeHost_hosted (kept : Kept port w) (closing : w.conn.closing = true) (err : Option Err)
    (may : Impossible w.log ∨ MemoriesReleased w.log ∧ (port = true → PortReleased w.log)) :
    ∃ block, Hosted port w err (closeHost err w).1 (closeHost err w).2 block := by
  have reports : ∀ second, err.isSome = true → ∃ cause,
      Err.joined (abandoned err) second = some cause ∧ cause.is .restorationAbandoned = true := by
    intro second failed
    obtain ⟨cause, rfl⟩ := Option.isSome_iff_exists.1 failed
    obtain ⟨given, found, matched⟩ := abandoned_is cause
    exact joined_is found matched
  rw [closeHost, run_get_bind, run_bind, run_bind]
  simp only [closeProbe]
  split
  · next gone =>
      have absent : w.conn.probe = false := (Bool.not_eq_true' _).mp gone
      refine ⟨[], kept.closeProbe w.conn none may (.inl rfl) ⟨false, ?_⟩ rfl,
        (List.append_nil _).symm, ?_, fun held => absurd (absent.symm.trans held) nofun, reports _⟩
      · show (⟨w.conn.probe, false, w.conn.closing, []⟩ : Conn) = _
        rw [absent, closing]
      · exact fun e member => absurd member List.not_mem_nil
  · refine ⟨[⟨w.conn, .probeClosed (w.env.closeProbe w.clock)⟩],
      kept.closeProbe w.conn (w.env.closeProbe w.clock) may (.inr rfl)
        ⟨w.env.probePending w.clock, ?_⟩ rfl, rfl, ?_, fun _ => ⟨_, rfl⟩, reports _⟩
    · show (⟨w.env.probePending w.clock, false, w.conn.closing, []⟩ : Conn) = _
      rw [closing]
    · intro e member
      rw [List.mem_singleton.1 member]
      exact ⟨rfl, _, rfl⟩

/-- The body of a `Close`, which ends with an error `err`. -/
structure Ends (port : Bool) (w : World) (err : Option Err) (w' : World) (block : List Entry) :
    Prop where
  kept : Kept port w'
  log : w'.log = w.log ++ block
  inside : ∀ e ∈ block, e.within = true
  resumes : w.conn.probe = true → ∃ first rest report,
    block = first :: rest ∧ first.event = .possible report ∧
      (report = true → ∃ e rest', rest = e :: rest' ∧ w.conn.next.Attempted e)
  reports : ∀ entry ∈ block, Abandons block entry →
    ∃ cause, err = some cause ∧ cause.is .restorationAbandoned = true

theorem Asked.resumes {c : Conn} {block later : List Entry}
    (asked : Asked c err block) (held : c.probe = true)
    (closes : err = none → ∃ e rest, later = e :: rest ∧ ∃ err, e.event = .probeClosed err) :
    ∃ first rest report, block ++ later = first :: rest ∧ first.event = .possible report ∧
      (report = true → ∃ e rest', rest = e :: rest' ∧ c.next.Attempted e) := by
  obtain ⟨first, rest, report, rfl, event, begun⟩ := asked held
  refine ⟨first, rest ++ later, report, rfl, event, fun able => ?_⟩
  rcases begun able with ⟨next, rfl, success⟩ | ⟨e, rest', rfl, attempted⟩
  · obtain ⟨e, rest', rfl, closed⟩ := closes success
    exact ⟨e, rest', rfl, next ▸ closed⟩
  · exact ⟨e, rest' ++ later, rfl, attempted⟩

theorem closeConn_ends (kept : Kept port w) (closing : w.conn.closing = true) :
    ∃ block, Ends port w (closeConn w).1 (closeConn w).2 block := by
  obtain ⟨tries, tried, asked⟩ := releaseTarget_tried kept closing
  rw [closeConn, run_bind]
  generalize releaseTarget w = outcome at tried asked ⊢
  obtain ⟨err, w₁⟩ := outcome
  obtain ⟨question, decided⟩ := retains_decided tried.kept err
  simp only
  rw [run_bind]
  generalize retains err w₁ = outcome at decided ⊢
  obtain ⟨retained, w₂⟩ := outcome
  simp only at tried asked decided ⊢
  have log : w₂.log = w.log ++ (tries ++ question) := by
    rw [decided.log, tried.log, List.append_assoc]
  have plain : ∀ e ∈ tries ++ question, e.within = true ∧ ∀ err, e.event ≠ .probeClosed err :=
    List.forall_mem_append.2 ⟨tried.inside, decided.inside⟩
  rw [run_ite]
  cases retained with
  | true =>
    refine ⟨tries ++ question, decided.kept, log, fun e member => (plain e member).1,
      fun held => asked.resumes held fun success => ?_, ?_⟩
    · exact nomatch (decided.success success).1
    · rintro entry member ⟨⟨closed, event⟩, -⟩
      exact absurd event ((plain entry member).2 closed)
  | false =>
    have may : Impossible w₂.log ∨ MemoriesReleased w₂.log ∧
        (port = true → PortReleased w₂.log) := by
      rcases decided.given rfl with success | impossible
      · rw [decided.log, (decided.success success).2, List.append_nil]
        exact tried.may success
      · exact .inl impossible
    obtain ⟨last, hosted⟩ := closeHost_hosted decided.kept
      (by rw [decided.conn, tried.same.closing, closing]) err may
    refine ⟨tries ++ question ++ last, hosted.kept, ?_, ?_, ?_, ?_⟩
    · exact hosted.log.trans (by rw [log, List.append_assoc])
    · refine List.forall_mem_append.2 ⟨fun e member => (plain e member).1, fun e member => ?_⟩
      obtain ⟨-, closed, event⟩ := hosted.events e member
      simp [Entry.within, event]
    · intro held
      rw [List.append_assoc]
      refine asked.resumes held fun success => ?_
      obtain ⟨e, rfl⟩ := hosted.closes (by rw [decided.conn, tried.same.probe, held])
      rw [(decided.success success).2]
      exact ⟨e, [], rfl, (hosted.events e (List.mem_singleton.2 rfl)).2⟩
    · rintro entry member ⟨⟨closed, event⟩, owed⟩
      refine hosted.reports ?_
      -- only the last entry closes the probe, and a success left nothing owed there
      cases err with
      | some err => rfl
      | none =>
        exfalso
        rcases List.mem_append.1 member with early | late
        · exact (plain entry early).2 closed event
        · rw [(hosted.events entry late).1, decided.conn] at owed
          obtain ⟨memories, settled⟩ := tried.settled rfl
          rcases owed with held | ⟨held, unsettled⟩
          · exact held memories
          · obtain ⟨e, found, shown⟩ := settled held
            obtain ⟨unreleased, pending⟩ := unsettled e
              (List.mem_append_left _ (List.mem_append_left _ found))
            exact shown.elim unreleased pending

/-! ## Runs -/

/-- What is kept from call to call. -/
structure Sound (port : Bool) (w : World) : Prop where
  kept : Kept port w
  closes : Followed Entry.Begins Entry.within Closes w.log

/-- The world in which the body of a `Close` starts. -/
def World.marked (w : World) : World :=
  { w with conn := { w.conn with closing := true }, log := w.log ++ [⟨w.conn, .closing⟩] }

theorem Sound.close (sound : Sound port w) : Sound port (close w).2 := by
  have marked : Kept port w.marked := sound.kept.mark .closing rfl rfl rfl rfl nofun
  obtain ⟨block, ended⟩ := closeConn_ends marked rfl
  have result : (Armdebug.close w).2 = { (closeConn w.marked).2 with
      log := (closeConn w.marked).2.log ++
        [⟨(closeConn w.marked).2.conn, .closed (closeConn w.marked).1⟩] } := rfl
  rw [result]
  generalize closeConn w.marked = outcome at ended ⊢
  obtain ⟨err, w₁⟩ := outcome
  simp only at ended ⊢
  refine ⟨ended.kept.mark (.closed err) rfl rfl rfl rfl id, ?_⟩
  show Followed _ _ _ (w₁.log ++ [⟨w₁.conn, .closed err⟩])
  rw [ended.log, World.marked, List.append_assoc, List.append_assoc, List.singleton_append]
  refine sound.closes.append rfl ?_ fun _ => ⟨fun held => ?_, fun entry member abandons => ?_⟩
  · refine List.forall_mem_append.2 ⟨fun e member => ⟨ended.inside e member, fun begins => ?_⟩, ?_⟩
    · have within := ended.inside e member
      simp only [Entry.within, show e.event = .closing from begins, Bool.false_eq_true] at within
    · intro e member
      rw [List.mem_singleton.1 member]
      exact ⟨rfl, nofun⟩
  · obtain ⟨first, rest, report, rfl, event, resumes⟩ := ended.resumes held
    refine ⟨first, rest ++ [_], report, rfl, event, fun able => ?_⟩
    obtain ⟨e, rest', rfl, attempted⟩ := resumes able
    exact ⟨e, rest' ++ [_], rfl, attempted⟩
  · obtain ⟨⟨closed, event⟩, owed⟩ := abandons
    have early : entry ∈ block := by
      rcases List.mem_append.1 member with early | late
      · exact early
      · rw [List.mem_singleton.1 late] at event
        exact nomatch event
    obtain ⟨cause, rfl, matched⟩ := ended.reports entry early ⟨⟨closed, event⟩,
      owed.imp id fun ⟨held, unsettled⟩ =>
        ⟨held, fun e found => unsettled e (List.mem_append_left _ found)⟩⟩
    exact ⟨_, List.mem_append_right _ (List.mem_singleton.2 rfl), cause, rfl, matched⟩

/-- A MEM-AP is acquired only before the first `Close`. -/
theorem Sound.acquire (sound : Sound port w) (idle : w.conn.closing = false) (ap : APSel) :
    Sound port (acquire ap w).2 := by
  rw [Armdebug.acquire]
  cases outcome : w.env.openMemory w.clock with
  | some err => exact ⟨⟨sound.kept.books, sound.kept.fresh, sound.kept.whole, sound.kept.ports,
      sound.kept.idle⟩, sound.closes⟩
  | none =>
    obtain ⟨none, all⟩ := sound.kept.idle idle
    have fresh : w.client ∉ acquired w.log := fun member =>
      Nat.lt_irrefl _ (sound.kept.fresh _ member)
    have held : acquired (w.log ++ [⟨w.conn, .acquired w.client⟩]) =
        (w.conn.memories ++ [OwnedMemAP.mk ap w.client]).map OwnedMemAP.client := by
      rw [acquired_snoc, all, List.map_append]
      rfl
    have freed : released (w.log ++ [⟨w.conn, .acquired w.client⟩]) = [] := by
      rw [released_snoc, none]
      rfl
    refine ⟨⟨⟨?_, ?_, ?_, ?_⟩, ?_, .inr ?_, ?_, fun _ => ⟨freed, held⟩⟩, ?_⟩
    · rw [acquired_snoc]
      exact List.nodup_append.2 ⟨sound.kept.books.distinct, List.nodup_singleton _,
        fun a member b last same => fresh (List.mem_singleton.1 last ▸ same ▸ member)⟩
    · exact sound.kept.books.memories.snoc fun _ ⟨_, event⟩ => nomatch event
    · exact sound.kept.books.ports.snoc nofun
    · exact sound.kept.books.probes.snoc nofun
    · intro client member
      rw [acquired_snoc] at member
      rcases List.mem_append.1 member with earlier | last
      · exact Nat.lt_succ_of_lt (sound.kept.fresh client earlier)
      · rw [List.mem_singleton.1 last]
        exact Nat.lt_succ_self _
    · simp only [held, freed, List.reverse_nil, List.append_nil]
    · exact fun absent => (sound.kept.ports absent).imp (·.snoc _) (.imp id (·.snoc _))
    · exact sound.closes.snoc rfl nofun

theorem Sound.perform (sound : Sound port w) (call : Call) : Sound port (call.perform w).2 := by
  cases call with
  | close => exact sound.close
  | openMemAP ctx ap =>
    have ticked : Sound port { w with clock := w.clock + 1 } :=
      ⟨⟨sound.kept.books, sound.kept.fresh, sound.kept.whole, sound.kept.ports,
        sound.kept.idle⟩, sound.closes⟩
    rw [Call.perform, openMemAP, run_get_bind, run_ite]
    split
    · exact sound
    · next available =>
        rw [run_bind]
        simp only [ctxErr]
        cases ctx.err w.clock with
        | some err => exact ticked
        | none =>
          simp only [run_ite]
          split
          · exact ticked
          · refine ticked.acquire ?_ ap
            simpa using (not_or.1 available).1

theorem Sound.runs (sound : Sound port w) (calls : List Call) : Sound port (w.perform calls) := by
  induction calls generalizing w with
  | nil => exact sound
  | cons call calls ih => exact ih (sound.perform call)

/-- A MEM-AP that has been released is not released again: it would have been
acquired twice. -/
theorem Books.once {log : List Entry} (books : Books port log) (client : Nat) :
    Until (Entry.Frees client) (Entry.Releases client) (fun _ => False) log := by
  intro before first middle second after split frees releases
  exfalso
  obtain ⟨rest, order⟩ := books.memories (before ++ first :: middle) second after
    (by simp [split]) client releases
  have freed : client ∈ released (before ++ first :: middle) :=
    List.mem_filterMap.2 ⟨first, by simp, by rw [show first.event = _ from frees]⟩
  have distinct : (acquired (before ++ first :: middle)).Nodup := by
    have whole := books.distinct
    rw [split, show before ++ first :: (middle ++ second :: after) =
      (before ++ first :: middle) ++ second :: after by simp, acquired,
        List.filterMap_append] at whole
    exact (List.nodup_append.1 whole).1
  rw [order] at distinct
  have single := (List.nodup_append.1 distinct).2.1
  exact (List.nodup_cons.1 single).1 (List.mem_reverse.2 freed)

end Parts

end Ostiole.Armdebug
