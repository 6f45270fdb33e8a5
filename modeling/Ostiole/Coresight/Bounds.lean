import Ostiole.Coresight.Steps

/-!
# Bounds of the ROM walk

On a target that answers as it likes a walk stays within its limits. Every visit is reached
from an earlier one, no table is gone through twice, and what lies behind a power domain is
not read.
-/

namespace Ostiole.Coresight

open Ostiole Logic

variable {result : Except Err Unit} {depth : Nat} {visit : Visit} {w : Walker}

/-- Whether an event takes up a table entry. -/
def Event.isEntry : Event → Bool
  | .entry .. => true
  | .word .. => false

/-- The address of a visited component in a walk from some root. -/
def Visit.base (visit : Visit) (root : BitVec 64) : BitVec 64 :=
  if visit.parent = -1 then root else visit.entry.base

/-- The chain of parents from a visit up to the root, by its length. -/
inductive Chain (visits : List Visit) : Nat → Nat → Prop
  | root {i : Nat} {visit : Visit} (here : visits[i]? = some visit) (top : visit.parent = -1) :
      Chain visits i 0
  | child {i parent length : Nat} {visit : Visit} (here : visits[i]? = some visit)
      (up : visit.parent = parent)
      (above : Chain visits parent length) : Chain visits i (length + 1)

/-- What the limits promise about visits and about what was done. -/
structure Bounded (root : BitVec 64) (limits : WalkLimits) (visits : List Visit)
    (log : List Event) : Prop where
  components : (visits.length : Int) ≤ limits.maxComponents
  entries : ((log.filter Event.isEntry).length : Int) ≤ limits.maxEntries
  depth : ∀ i < visits.length, ∃ length : Nat, Chain visits i length ∧
    (length : Int) ≤ limits.maxDepth
  once : (log.filter Event.isEntry).Nodup
  parents : ∀ (i : Nat) (visit : Visit), visits[i]? = some visit →
    (i = 0 ∧ visit.parent = -1) ∨ ∃ parent : Nat, parent < i ∧ visit.parent = (parent : Int)
  reads : ∀ i address, .word i address ∈ log → ∃ visit, visits[i]? = some visit ∧
    visit.entry.powerIDValid = false ∧ InPage (visit.base root) address

/-! ## What is recorded -/

/-- The records of a walker within its limits. -/
structure Walker.Recorded (root : BitVec 64) (w : Walker) :
    Prop extends Bounded root w.limits w.visits w.log where
  counted : (w.log.filter Event.isEntry).length = w.entries
  known : ∀ table index, .entry table index ∈ w.log → table ∈ w.seen

/-- A visit whose component may be read. -/
def Walker.Open (w : Walker) (root : BitVec 64) (i : Nat) (base : BitVec 64) : Prop :=
  ∃ visit, w.visits[i]? = some visit ∧ visit.entry.powerIDValid = false ∧ visit.base root = base

section Recorded

variable {root base : BitVec 64} {w w' : Walker} {i : Nat}

theorem filter_words (i : Nat) (addresses : List (BitVec 64)) :
    (addresses.map (Event.word i)).filter Event.isEntry = [] := by
  simp [Event.isEntry]

/-- Reading for an open visit keeps the records. -/
theorem Walker.Recorded.read (recorded : w.Recorded root) (opened : w.Open root i base)
    (read : w.Read i base w') :
    w'.Recorded root := by
  obtain ⟨addresses, log, inside⟩ := read.log
  have entries : w'.log.filter Event.isEntry = w.log.filter Event.isEntry := by
    rw [log, List.filter_append, filter_words, List.append_nil]
  refine ⟨⟨?_, ?_, ?_, ?_, ?_, ?_⟩, ?_, ?_⟩
  · rw [read.visits, read.limits]
    exact recorded.components
  · rw [entries, read.limits]
    exact recorded.entries
  · rw [read.visits, read.limits]
    exact recorded.depth
  · rw [entries]
    exact recorded.once
  · rw [read.visits]
    exact recorded.parents
  · intro j address member
    rw [log, List.mem_append] at member
    rw [read.visits]
    obtain before | here := member
    · exact recorded.reads j address before
    · obtain ⟨_, among, ⟨⟩⟩ := List.mem_map.mp here
      obtain ⟨visit, found, ungated, rfl⟩ := opened
      exact ⟨visit, found, ungated, inside _ among⟩
  · rw [entries, read.entries]
    exact recorded.counted
  · intro table index member
    rw [log, List.mem_append] at member
    rw [read.seen]
    obtain before | here := member
    · exact recorded.known table index before
    · obtain ⟨_, _, ⟨⟩⟩ := List.mem_map.mp here

theorem Chain.append {visits : List Visit} {length : Nat} (chain : Chain visits i length)
    (v : Visit) :
    Chain (visits ++ [v]) i length := by
  have longer {j : Nat} {visit : Visit} (here : visits[j]? = some visit) : (visits ++ [v])[j]? =
      some visit := by
    rw [List.getElem?_append_left (List.getElem?_eq_some_iff.mp here).1]
    exact here
  induction chain with
  | root here top => exact .root (longer here) top
  | child here up _ ih => exact .child (longer here) up ih

/-- A visit of a component at an address, about to be recorded at some depth. -/
structure Walker.Arrives (w : Walker) (root base : BitVec 64) (visit : Visit) (depth : Nat) :
    Prop where
  parent : (w.visits = [] ∧ visit.parent = -1 ∧ depth = 0) ∨
    ∃ parent length, visit.parent = (parent : Nat) ∧ Chain w.visits parent length ∧
      depth = length + 1
  based : visit.base root = base

theorem Walker.Arrives.congr {v : Visit} (arrives : w.Arrives root base visit depth)
    (same : v.Same visit) : w.Arrives root base v depth := by
  refine ⟨?_, ?_⟩
  · rw [same.parent]
    exact arrives.parent
  · rw [Visit.base, same.parent, same.entry]
    exact arrives.based

theorem Chain.lt {visits : List Visit} {length : Nat} (chain : Chain visits i length) :
    i < visits.length := by
  cases chain with
  | root here _ => exact (List.getElem?_eq_some_iff.mp here).1
  | child here _ _ => exact (List.getElem?_eq_some_iff.mp here).1

theorem Walker.Arrives.chain (arrives : w.Arrives root base visit depth) :
    Chain (w.visits ++ [visit]) w.visits.length depth := by
  have here : (w.visits ++ [visit])[w.visits.length]? = some visit := by simp
  obtain ⟨_, top, rfl⟩ | ⟨parent, length, up, above, rfl⟩ := arrives.parent
  · exact .root here top
  · exact .child here up (above.append visit)

/-- One more visit. -/
theorem Walker.Recorded.visiting (recorded : w.Recorded root) (room : w.Room depth)
    (arrives : w.Arrives root base visit depth) : (w.visiting visit).Recorded root := by
  have small := recorded.components
  have room' := room.components
  refine ⟨⟨?_, recorded.entries, ?_, recorded.once, ?_, ?_⟩, recorded.counted, recorded.known⟩
  · simp only [Walker.visiting, List.length_append, List.length_singleton]
    omega
  · intro i inside
    simp only [Walker.visiting, List.length_append, List.length_singleton] at inside ⊢
    by_cases last : i = w.visits.length
    · subst last
      exact ⟨depth, arrives.chain, room.depth⟩
    · obtain ⟨length, chain, bound⟩ := recorded.depth i (by omega)
      exact ⟨length, chain.append visit, bound⟩
  · intro i v found
    simp only [Walker.visiting] at found
    by_cases last : i = w.visits.length
    · subst last
      obtain rfl : visit = v := by simpa using found
      obtain ⟨none, top, _⟩ | ⟨parent, length, up, above, _⟩ := arrives.parent
      · exact .inl ⟨by rw [none]; rfl, top⟩
      · exact .inr ⟨parent, above.lt, up⟩
    · have inside : i < (w.visits ++ [visit]).length := (List.getElem?_eq_some_iff.mp found).1
      rw [List.length_append, List.length_singleton] at inside
      rw [List.getElem?_append_left (by omega)] at found
      exact recorded.parents i v found
  · intro i address member
    obtain ⟨v, found, ungated, page⟩ := recorded.reads i address member
    refine ⟨v, ?_, ungated, page⟩
    rw [Walker.visiting, List.getElem?_append_left (List.getElem?_eq_some_iff.mp found).1]
    exact found

/-- One more entry, of a table whose entry was not taken up before. -/
theorem Walker.Recorded.taking {frame : WalkFrame} (recorded : w.Recorded root)
    (room : (w.entries : Int) ≠ w.limits.maxEntries) (seen : frame.table.base ∈ w.seen)
    (fresh : .entry frame.table.base frame.next ∉ w.log) : (w.taking frame).Recorded root := by
  have small := recorded.entries
  have counted := recorded.counted
  have entries : (w.taking frame).log.filter Event.isEntry =
      w.log.filter Event.isEntry ++ [.entry frame.table.base frame.next] := by
    rw [Walker.taking, List.filter_append]
    rfl
  refine ⟨⟨recorded.components, ?_, recorded.depth, ?_, recorded.parents, ?_⟩, ?_, ?_⟩
  · rw [entries, List.length_append, List.length_singleton]
    simp only [Walker.taking]
    omega
  · rw [entries]
    refine List.nodup_append.mpr ⟨recorded.once, List.nodup_singleton _, ?_⟩
    rintro event member _ last rfl
    rw [List.mem_singleton] at last
    exact fresh (last ▸ List.mem_of_mem_filter member)
  · intro i address member
    refine recorded.reads i address ?_
    simpa [Walker.taking] using member
  · rw [entries, List.length_append, counted]
    rfl
  · intro table index member
    simp only [Walker.taking, List.mem_append, List.mem_singleton, Event.entry.injEq] at member ⊢
    obtain before | ⟨rfl, _⟩ := member
    · exact recorded.known table index before
    · exact seen

end Recorded

/-! ## What is still to be done -/

/-- A frame of the stack. -/
structure WalkFrame.Valid (frame : WalkFrame) (root : BitVec 64) (w : Walker) : Prop where
  proper : frame.table.Proper
  within : frame.next ≤ frame.table.count
  seen : frame.table.base ∈ w.seen
  chain : Chain w.visits frame.parent frame.depth
  opened : w.Open root frame.parent frame.table.base
  taken : ∀ index, .entry frame.table.base index ∈ w.log → index < frame.next

/-- The stack of a walker. -/
structure Walker.Working (root : BitVec 64) (w : Walker) : Prop where
  frames : ∀ frame ∈ w.stack, frame.Valid root w
  apart : (w.stack.map (·.table.base)).Nodup

section Working

variable {root base : BitVec 64} {w w' : Walker} {i depth : Nat} {memory : Memory}
  {visit v : Visit} {frame : WalkFrame} {below : List WalkFrame}

theorem Walker.Open.visiting (opened : w.Open root i base) (v : Visit) :
    (w.visiting v).Open root i base := by
  obtain ⟨visit, found, rest⟩ := opened
  refine ⟨visit, ?_, rest⟩
  rw [Walker.visiting, List.getElem?_append_left (List.getElem?_eq_some_iff.mp found).1]
  exact found

theorem Walker.Arrives.opened (arrives : w.Arrives root base visit depth)
    (ungated : visit.entry.powerIDValid = false) :
    (w.visiting visit).Open root w.visits.length base :=
  ⟨visit, by simp [Walker.visiting], ungated, arrives.based⟩

/-- A frame of a walker that has gone on elsewhere. -/
theorem WalkFrame.Valid.read (valid : frame.Valid root w) (read : w.Read i base w') :
    frame.Valid root w' := by
  obtain ⟨addresses, log, _⟩ := read.log
  refine ⟨valid.proper, valid.within, ?_, ?_, ?_, fun index member => ?_⟩
  · rw [read.seen]
    exact valid.seen
  · rw [read.visits]
    exact valid.chain
  · rw [Walker.Open, read.visits]
    exact valid.opened
  · rw [log, List.mem_append] at member
    obtain before | here := member
    · exact valid.taken index before
    · obtain ⟨_, _, ⟨⟩⟩ := List.mem_map.mp here

theorem WalkFrame.Valid.visiting (valid : frame.Valid root w) (v : Visit) :
    frame.Valid root (w.visiting v) :=
  { valid with chain := valid.chain.append v, opened := valid.opened.visiting v }

theorem Walker.Working.read (working : w.Working root) (read : w.Read i base w') :
    w'.Working root := by
  refine ⟨?_, ?_⟩
  · rw [read.stack]
    exact fun frame member => (working.frames frame member).read read
  · rw [read.stack]
    exact working.apart

theorem Walker.Working.visiting (working : w.Working root) (v : Visit) :
    (w.visiting v).Working root :=
  ⟨fun frame member => (working.frames frame member).visiting v, working.apart⟩

/-- A table that was not seen before goes on top of the stack. -/
theorem Walker.Working.push {component : Component} {table : ROMTable} (working : w.Working root)
    (recorded : (w.visiting visit).Recorded root) (arrives : w.Arrives root base visit depth)
    (ungated : visit.entry.powerIDValid = false) (new : base ∉ w.seen)
    (layout : component.romTable = .ok table)
    (based : table.base = base) :
    let pushed : Walker := { w.visiting visit with
      seen := base :: w.seen, stack := ⟨table, w.visits.length, 0, depth⟩ :: w.stack }
    pushed.Recorded root ∧ pushed.Working root := by
  intro pushed
  have waiting := working.visiting visit
  refine ⟨{ recorded with known := fun table index member => ?_ }, fun frame member => ?_, ?_⟩
  · exact List.mem_cons_of_mem _ (recorded.known table index member)
  · obtain rfl | older := List.mem_cons.mp member
    · refine ⟨(romTable_proper layout).1, Nat.zero_le _, ?_, arrives.chain, ?_,
        fun index taken => ?_⟩
      · rw [based]
        exact List.mem_cons_self
      · rw [based]
        exact arrives.opened ungated
      · have seen := recorded.known _ index taken
        rw [based] at seen
        exact absurd seen new
    · have valid := waiting.frames frame older
      exact { valid with seen := List.mem_cons_of_mem _ valid.seen }
  · refine List.nodup_cons.mpr ⟨fun again => ?_, waiting.apart⟩
    obtain ⟨frame, member, same⟩ := List.mem_map.mp again
    have same : frame.table.base = base := same.trans based
    rw [← same] at new
    exact new (working.frames frame member).seen

/-- `inspect` keeps the records, and the stack while it succeeds. -/
theorem Inspects.bounded (recorded : w.Recorded root) (working : w.Working root)
    (arrives : w.Arrives root base visit depth)
    (inspects : Inspects memory base visit depth w result w') :
    w'.Recorded root ∧ (result = .ok () → w'.Working root) := by
  cases inspects with
  | limited err => exact ⟨recorded, nofun⟩
  | gated room gated =>
    have same : (visit.skipped base).Same visit := ⟨rfl, rfl, rfl⟩
    have visited := recorded.visiting room (arrives.congr same)
    have waiting := working.visiting (visit.skipped base)
    exact ⟨{ visited with }, fun _ => ⟨fun frame member => { waiting.frames frame member with },
      waiting.apart⟩⟩
  | failed err room ungated same read =>
    have arrives' := arrives.congr same
    exact ⟨(recorded.visiting room arrives').read
      (arrives'.opened (by rw [same.entry]; exact ungated)) read, nofun⟩
  | @leaf component err w' room ungated found leaf notTable read =>
    have same : (visit.found component).Same visit := ⟨rfl, rfl, rfl⟩
    have arrives' := arrives.congr same
    exact ⟨(recorded.visiting room arrives').read (arrives'.opened ungated) read,
      fun _ => (working.visiting _).read read⟩
  | @table component table w' room ungated new found layout based read =>
    have same : (visit.found component).Same visit := ⟨rfl, rfl, rfl⟩
    have arrives' := arrives.congr same
    have pushed := working.push (recorded.visiting room arrives') arrives' ungated new layout based
    exact ⟨pushed.1.read (arrives'.opened ungated) read, fun _ => pushed.2.read read⟩

/-- What may be left to do: entries that can be taken, frames that can be popped and visits
that can push one. -/
def Walker.work (w : Walker) : Nat :=
  (w.limits.maxEntries.toNat - w.entries) + w.stack.length +
    (w.limits.maxComponents.toNat - w.visits.length)

theorem Walker.Read.work (read : w.Read i base w') : w'.work = w.work := by
  rw [Walker.work, read.limits, read.entries, read.stack, read.visits]
  rfl

/-- Neither the limits nor the target change. -/
theorem Inspects.fixed (inspects : Inspects memory base visit depth w result w') :
    w'.limits = w.limits ∧ w'.answer = w.answer := by
  cases inspects with
  | limited err => exact ⟨rfl, rfl⟩
  | gated room gated => exact ⟨rfl, rfl⟩
  | failed err room ungated same read => exact ⟨read.limits, read.answer⟩
  | leaf room ungated found leaf notTable read => exact ⟨read.limits, read.answer⟩
  | table room ungated new found layout based read => exact ⟨read.limits, read.answer⟩

theorem Nexts.fixed (nexts : Nexts memory frame below w result w') :
    w'.limits = w.limits ∧ w'.answer = w.answer := by
  cases nexts with
  | ended err read => exact ⟨read.limits, read.answer⟩
  | complete last read => exact ⟨read.limits, read.answer⟩
  | unread err more room read => exact ⟨read.limits, read.answer⟩
  | terminated more room found last read => exact ⟨read.limits, read.answer⟩
  | absent more room found inner absent read => exact ⟨read.limits, read.answer⟩
  | present more room found inner present read inspected =>
    exact ⟨inspected.fixed.1.trans read.limits, inspected.fixed.2.trans read.answer⟩

/-- `inspect` does not add work: a table on the stack is a visit used up. -/
theorem Inspects.work_le (recorded : w.Recorded root)
    (inspects : Inspects memory base visit depth w (.ok ()) w') :
    w'.work ≤ w.work := by
  have small := recorded.components
  cases inspects with
  | gated room gated =>
    have more := room.components
    simp only [Walker.work, Walker.visiting, List.length_append, List.length_singleton]
    omega
  | leaf room _ _ _ _ read =>
    have more := room.components
    rw [read.work]
    simp only [Walker.work, Walker.visiting, List.length_append, List.length_singleton]
    omega
  | table room _ _ _ _ _ read =>
    have more := room.components
    rw [read.work]
    simp only [Walker.work, Walker.visiting, List.length_append, List.length_cons]
    omega

/-- The stack once the next entry of its top was taken up. -/
theorem Walker.Working.taking (working : w.Working root) (stack : w.stack = frame :: below)
    (more : frame.next ≠ frame.table.count) :
    Walker.Working root { w.taking frame with stack := frame.advanced :: below } := by
  have valid := working.frames frame (by rw [stack]; exact List.mem_cons_self)
  have apart := working.apart
  rw [stack] at apart
  obtain ⟨other, rest⟩ := List.nodup_cons.mp apart
  refine ⟨fun one member => ?_, apart⟩
  obtain rfl | older := List.mem_cons.mp member
  · refine { valid with within := ?_, taken := fun index member => ?_ }
    · have within := valid.within
      simp only [WalkFrame.advanced]
      omega
    · simp only [Walker.taking, List.mem_append, List.mem_singleton, Event.entry.injEq] at member
      obtain before | ⟨_, rfl⟩ := member
      · exact Nat.lt_succ_of_lt (valid.taken index before)
      · exact Nat.lt_succ_self _
  · have lower := working.frames one (by rw [stack]; exact List.mem_cons_of_mem _ older)
    refine { lower with taken := fun index member => ?_ }
    simp only [Walker.taking, List.mem_append, List.mem_singleton, Event.entry.injEq] at member
    obtain before | ⟨same, _⟩ := member
    · exact lower.taken index before
    · exact absurd (List.mem_map.mpr ⟨one, older, same⟩) other

theorem Walker.Working.pop (working : w.Working root) (stack : w.stack = frame :: below) :
    Walker.Working root { w with stack := below } := by
  refine ⟨fun one member => ?_, ?_⟩
  · exact { working.frames one (by rw [stack]; exact List.mem_cons_of_mem _ member) with }
  · have apart := working.apart
    rw [stack] at apart
    exact (List.nodup_cons.mp apart).2

/-- `next` keeps the records; while it succeeds it keeps the stack and there is less to do. -/
theorem Nexts.bounded (recorded : w.Recorded root) (working : w.Working root)
    (stack : w.stack = frame :: below) (nexts : Nexts memory frame below w result w') :
    w'.Recorded root ∧ (result = .ok () → w'.Working root ∧ w'.work < w.work) := by
  have valid := working.frames frame (by rw [stack]; exact List.mem_cons_self)
  have small := recorded.entries
  have counted := recorded.counted
  have taking (room : (w.entries : Int) ≠ w.limits.maxEntries) : (w.taking frame).Recorded root :=
    recorded.taking room valid.seen fun taken => absurd (valid.taken _ taken) (Nat.lt_irrefl _)
  cases nexts with
  | ended err read => exact ⟨recorded.read valid.opened read, nofun⟩
  | complete last read =>
    have popped := working.pop stack
    refine ⟨(show Walker.Recorded root { w with stack := below } from { recorded with }).read
      valid.opened read, fun _ => ⟨popped.read read, ?_⟩⟩
    rw [read.work]
    simp only [Walker.work, stack, List.length_cons]
    omega
  | unread err more room read => exact ⟨(taking room).read valid.opened read, nofun⟩
  | terminated more room found last read =>
    have popped := (working.taking stack more).pop rfl
    refine ⟨(show Walker.Recorded root { w.taking frame with stack := below }
      from { taking room with }).read
      valid.opened read, fun _ => ⟨popped.read read, ?_⟩⟩
    rw [read.work]
    simp only [Walker.work, Walker.taking, stack, List.length_cons]
    omega
  | absent more room found inner absent read =>
    have advanced := working.taking stack more
    refine ⟨(show Walker.Recorded root { w.taking frame with stack := frame.advanced :: below } from
      { taking room with }).read valid.opened read, fun _ => ⟨advanced.read read, ?_⟩⟩
    rw [read.work]
    simp only [Walker.work, Walker.taking, stack, List.length_cons]
    omega
  | @present entry w₁ w' result more room found inner present read inspected =>
    have advanced := (working.taking stack more).read read
    have entered := (show Walker.Recorded root
        { w.taking frame with stack := frame.advanced :: below } from
      { taking room with }).read valid.opened read
    have arrives : w₁.Arrives root entry.base
        ⟨frame.parent, frame.next, entry, none, none⟩ (frame.depth + 1) := by
      refine ⟨.inr ⟨frame.parent, frame.depth, rfl, ?_, rfl⟩, if_neg ?_⟩
      · rw [read.visits]
        exact valid.chain
      · simp only
        omega
    obtain ⟨recorded', working'⟩ := inspected.bounded entered advanced arrives
    refine ⟨recorded', fun success => ⟨working' success, ?_⟩⟩
    subst success
    have less := inspected.work_le entered
    rw [read.work] at less
    simp only [Walker.work, Walker.taking, stack, List.length_cons] at less ⊢
    omega

end Working

/-! ## Whole walks -/

theorem walkLoop_empty (ctx : Ctx) (turns : Nat) (stack : w.stack = []) :
    walkLoop ctx turns w = (some none, w) := by
  cases turns with
  | zero =>
    have ran : walkLoop ctx 0 w = (if w.stack = [] then some none else none, w) := rfl
    rw [ran, if_pos stack]
  | succ turns =>
    rw [walkLoop, run_get_bind, stack]
    rfl

theorem walkLoop_step (ctx : Ctx) (turns : Nat) {w' : Walker} {frame : WalkFrame}
    {below : List WalkFrame} (stack : w.stack = frame :: below)
    (ran : (Walker.next ctx frame below).run w = (result, w')) :
    walkLoop ctx (turns + 1) w =
      match result with
      | .error err => (some (some err), w')
      | .ok () => walkLoop ctx turns w' := by
  rw [walkLoop, run_get_bind, stack]
  simp only [run_bind, ran]
  cases result <;> rfl

/-- What the loop does, one `next` after the other. -/
inductive Loops (memory : Memory) : Walker → Option (Option Err) → Walker → Prop
  | done {w : Walker} (stack : w.stack = []) : Loops memory w (some none) w
  | spent {w : Walker} : Loops memory w none w
  | failed {w w' : Walker} {frame : WalkFrame} {below : List WalkFrame} {err : Err}
      (stack : w.stack = frame :: below) (nexts : Nexts memory frame below w (.error err) w') :
      Loops memory w (some (some err)) w'
  | next {w w₁ w' : Walker} {frame : WalkFrame} {below : List WalkFrame}
      {ended : Option (Option Err)} (stack : w.stack = frame :: below)
      (nexts : Nexts memory frame below w (.ok ()) w₁) (rest : Loops memory w₁ ended w') :
      Loops memory w ended w'

section Loops

variable {root : BitVec 64} {w' : Walker} {ended : Option (Option Err)} {memory : Memory}

/-- The loop goes by steps of `next`, and it ends within as many turns as there is work. -/
theorem walkLoop_loops (memory : Memory) (ctx : Ctx) (turns : Nat) (recorded : w.Recorded root)
    (working : w.Working root) :
    Loops memory w (walkLoop ctx turns w).1 (walkLoop ctx turns w).2 ∧
      (w.work ≤ turns → (walkLoop ctx turns w).1 ≠ none) := by
  induction turns generalizing w with
  | zero =>
    by_cases stack : w.stack = []
    · rw [walkLoop_empty ctx 0 stack]
      exact ⟨.done stack, fun _ => Option.some_ne_none _⟩
    · have ran : walkLoop ctx 0 w = (if w.stack = [] then some none else none, w) := rfl
      rw [ran, if_neg stack]
      refine ⟨.spent, fun done => absurd (List.length_eq_zero_iff.mp ?_) stack⟩
      rw [Walker.work] at done
      omega
  | succ turns ih =>
    rcases stack : w.stack with _ | ⟨frame, below⟩
    · rw [walkLoop_empty ctx _ stack]
      exact ⟨.done stack, fun _ => Option.some_ne_none _⟩
    · have valid := working.frames frame (by rw [stack]; exact List.mem_cons_self)
      have spec := next_spec memory ctx frame below w valid.proper valid.within
      rw [Yields] at spec
      rcases ran : (Walker.next ctx frame below).run w with ⟨err | _, w₁⟩
      · rw [ran] at spec
        rw [walkLoop_step ctx turns stack ran]
        exact ⟨.failed stack spec, fun _ => Option.some_ne_none _⟩
      · rw [ran] at spec
        obtain ⟨recorded₁, later⟩ := spec.bounded recorded working stack
        obtain ⟨working₁, less⟩ := later rfl
        obtain ⟨rest, ends⟩ := ih recorded₁ working₁
        rw [walkLoop_step ctx turns stack ran]
        exact ⟨.next stack spec rest, fun enough => ends (by omega)⟩

/-- The loop keeps the records. -/
theorem Loops.bounded (loops : Loops memory w ended w') (recorded : w.Recorded root)
    (working : w.Working root) : w'.Recorded root ∧ w'.limits = w.limits := by
  induction loops with
  | done _ => exact ⟨recorded, rfl⟩
  | spent => exact ⟨recorded, rfl⟩
  | failed stack nexts => exact ⟨(nexts.bounded recorded working stack).1, nexts.fixed.1⟩
  | next stack nexts _ ih =>
    obtain ⟨recorded₁, later⟩ := nexts.bounded recorded working stack
    obtain ⟨records, limits⟩ := ih recorded₁ (later rfl).1
    exact ⟨records, limits.trans nexts.fixed.1⟩

end Loops

theorem validate_eq_none {limits : WalkLimits} (valid : limits.validate = none) :
    0 ≤ limits.maxDepth ∧ 0 < limits.maxComponents ∧ 0 < limits.maxEntries := by
  rw [WalkLimits.validate] at valid
  split at valid
  · cases valid
  · omega

theorem Walker.start_recorded {limits : WalkLimits} (valid : limits.validate = none)
    (root : BitVec 64) (w : World) :
    (Walker.start limits w).Recorded root := by
  obtain ⟨_, components, entries⟩ := validate_eq_none valid
  exact ⟨⟨components.le, entries.le, nofun, List.nodup_nil, nofun, nofun⟩, rfl, nofun⟩

theorem Walker.start_working (limits : WalkLimits) (root : BitVec 64) (w : World) :
    (Walker.start limits w).Working root := ⟨nofun, List.nodup_nil⟩

/-- A walk on any target ends, and stays within its limits. -/
theorem walk_bounded (ctx : Ctx) (base : BitVec 64) (limits : WalkLimits) (w : World)
    (valid : limits.validate = none)
    (turns : Nat) (enough : limits.maxEntries + limits.maxComponents ≤ turns) :
    ∃ visits err log, walk ctx base limits turns w = (some (visits, err), log) ∧
      Bounded base limits visits log := by
  have recorded := Walker.start_recorded valid base w
  have working := Walker.start_working limits base w
  have arrives : (Walker.start limits w).Arrives base base .root 0 := ⟨.inl ⟨rfl, rfl, rfl⟩, rfl⟩
  have spec := inspect_spec (fun _ => .ok 0) ctx base .root 0 (Walker.start limits w)
  simp only [walk, valid]
  have nothing : Bounded base limits [] [] := recorded.toBounded
  split
  · exact ⟨_, _, _, rfl, nothing⟩
  split
  · exact ⟨_, _, _, rfl, nothing⟩
  rw [Yields] at spec
  rcases ran : (Walker.inspect ctx base .root 0).run (Walker.start limits w) with ⟨err | _, w₁⟩
  · rw [ran] at spec
    refine ⟨_, _, _, rfl, ?_⟩
    have bounded := (spec.bounded recorded working arrives).1.toBounded
    rw [spec.fixed.1] at bounded
    exact bounded
  · rw [ran] at spec
    have spec : Inspects _ base .root 0 (Walker.start limits w) (.ok ()) w₁ := spec
    obtain ⟨recorded₁, working₁⟩ := spec.bounded recorded working arrives
    obtain ⟨loops, ends⟩ := walkLoop_loops (fun _ => .ok 0) ctx turns recorded₁ (working₁ rfl)
    obtain ⟨records, same⟩ := loops.bounded recorded₁ (working₁ rfl)
    have less : w₁.work ≤ (Walker.start limits w).work := spec.work_le recorded
    have start : (Walker.start limits w).work = limits.maxEntries.toNat +
        limits.maxComponents.toNat := by
      simp [Walker.work, Walker.start]
    obtain ⟨_, components, entries⟩ := validate_eq_none valid
    have ended := ends (by omega)
    have bounded := records.toBounded
    rw [same, spec.fixed.1] at bounded
    rcases looped : walkLoop ctx turns w₁ with ⟨_ | err, w'⟩
    · rw [looped] at ended
      exact absurd rfl ended
    · rw [looped] at bounded
      simp only [looped]
      exact ⟨_, _, _, rfl, bounded⟩

/-- A target on which every page is a table whose entries all lead to the next page. -/
def ladder : World where
  answer _ address := .ok <|
    if address &&& 0xfff = 0xff0 then 0x0d else if address &&& 0xfff = 0xff4 then 0x10
    else if address &&& 0xfff = 0xff8 then 0x05 else if address &&& 0xfff = 0xffc then 0xb1
      else 0x1003
  clock := 0

/-- On the ladder a walk is stopped by its depth. -/
theorem walk_bounded_ladder : ∃ visits err log,
    walk ⟨1000, .canceled⟩ 0 ⟨2, 5, 7⟩ 12 ladder = (some (visits, err), log) ∧
      Bounded 0 ⟨2, 5, 7⟩ visits log ∧
      visits.length = 3 ∧ isErr err .walkLimit = true := by
  obtain ⟨visits, err, log, ran, bounded⟩ :=
    walk_bounded ⟨1000, .canceled⟩ 0 ⟨2, 5, 7⟩ ladder (by decide) 12 (by decide)
  have shown : (walk ⟨1000, .canceled⟩ 0 ⟨2, 5, 7⟩ 12 ladder).1.map
    (fun result => (result.1.length, isErr result.2 .walkLimit)) =
      some (3, true) := by decide +kernel
  rw [ran] at shown
  obtain ⟨count, limit⟩ := Prod.mk.inj (Option.some.inj shown)
  exact ⟨visits, err, log, ran, bounded, count, limit⟩

end Ostiole.Coresight
