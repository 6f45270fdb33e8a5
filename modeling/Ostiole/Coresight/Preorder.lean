import Ostiole.Coresight.Bounds

/-!
# The ROM walk as a recursion

What a walk is for: the tree below a root in pre-order. The definition recurses over tables
and their entries, without a stack and without limits; it is given a depth only so that it
ends on memory whose tables lead back to themselves. A walk that was not stopped has made
exactly the visits of the recursion.
-/

namespace Ostiole.Coresight

open Ostiole Logic

variable {base : BitVec 64} {position : Nat} {visit : Visit} {w₁ : Walker}

/-! ## The recursion -/

/-- The visits at and below a component, and how many entries are read for them: from the
position of the first visit, the address of the component, and its visit. -/
abbrev Visits := Nat → BitVec 64 → Visit → Option (List Visit × Nat)

section Preorder

variable (memory : Memory)

/-- The visits below the last entries of a table, and how many entries were read for them.
`recurse` gives those below one child; `position` is where the next visit stands. -/
def preorderEntries (recurse : Visits) (parent : Nat) (table : ROMTable) :
    Nat → Nat → Option (List Visit × Nat)
  | 0, _ => some ([], 0)
  | left + 1, position => do
    let index := table.count - (left + 1)
    let entry ← (table.readEntry (memorySource memory) index).run.toOption
    if entry.isEnd then return ([], 1)
    else if entry.present then
      let (child, taken) ← recurse position entry.base ⟨parent, index, entry, none, none⟩
      let (rest, more) ← preorderEntries recurse parent table left (position + child.length)
      return (child ++ rest, taken + more + 1)
    else
      let (rest, more) ← preorderEntries recurse parent table left position
      return (rest, more + 1)

/-- A component and, if it is a table, what is below it. -/
def preorderVisit (recurse : Visits) (position : Nat) (base : BitVec 64)
    (visit : Visit) : Option (List Visit × Nat) := do
  if visit.entry.powerIDValid then return ([visit.skipped base], 0)
  else
    let component ← (identify (memorySource memory) base).run.toOption
    match component.romTable with
    | .error err => if err.is .notROMTable then return ([visit.found component], 0) else none
    | .ok table =>
      let (rest, taken) ← preorderEntries memory recurse position table table.count (position + 1)
      return (visit.found component :: rest, taken)

/-- The visits below the children at some depth, and the entries read for them. -/
def preorderBelow : Nat → Visits
  | 0 => fun _ _ _ => none
  | depth + 1 => preorderVisit memory (preorderBelow depth)

/-- The tree below a component in pre-order, if it is no deeper than `depth`, and the number
of entries read for it. -/
def preorder (depth : Nat) : Visits :=
  preorderVisit memory (preorderBelow memory depth)

end Preorder

/-- What a walk reports about a visit that it skipped. -/
def Visit.skip (visit : Visit) : Option Err := if visit.entry.powerIDValid then visit.err else none

/-! ## The stack as a recursion -/

section Pending

variable {memory : Memory} {frame : WalkFrame} {below : List WalkFrame} {w w' : Walker}
  {depth : Nat}

/-- The visits that the frames of a stack are still to make, for trees down to some depth. -/
def pending (memory : Memory) (depth : Nat) : List WalkFrame → Nat → Option (List Visit × Nat)
  | [], _ => some ([], 0)
  | frame :: below, position => do
    let (visits, taken) ← preorderEntries memory (preorderBelow memory (depth - frame.depth))
      frame.parent frame.table
      (frame.table.count - frame.next) position
    let (rest, more) ← pending memory depth below (position + visits.length)
    return (visits ++ rest, taken + more)

theorem pending_cons_iff {visits : List Visit} {taken : Nat} :
    pending memory depth (frame :: below) position = some (visits, taken) ↔ ∃ first count rest more,
      preorderEntries memory (preorderBelow memory (depth - frame.depth)) frame.parent frame.table
        (frame.table.count - frame.next) position = some (first, count) ∧
      pending memory depth below (position + first.length) = some (rest, more) ∧
      visits = first ++ rest ∧ taken = count + more := by
  simp only [pending, Option.bind_eq_bind, Option.bind_eq_some_iff, Option.pure_def,
    Option.some.injEq, Prod.mk.injEq, Prod.exists]
  constructor
  · rintro ⟨first, count, here, rest, more, later, rfl, rfl⟩
    exact ⟨first, count, rest, more, here, later, rfl, rfl⟩
  · rintro ⟨first, count, rest, more, here, later, rfl, rfl⟩
    exact ⟨first, count, here, rest, more, later, rfl, rfl⟩

/-- The entry that a frame takes up next. -/
theorem preorderEntries_next {recurse : Visits} {parent next : Nat}
    {table : ROMTable} {entry : ROMEntry} (more : next < table.count)
    (found : table.readEntry (memorySource memory) next = pure entry) :
    preorderEntries memory recurse parent table (table.count - next) position =
      if entry.isEnd then some ([], 1)
      else if entry.present then
        (recurse position entry.base ⟨parent, next, entry, none, none⟩).bind fun child =>
          (preorderEntries memory recurse parent table (table.count - (next + 1))
            (position + child.1.length)).map
            fun rest => (child.1 ++ rest.1, child.2 + rest.2 + 1)
      else
        (preorderEntries memory recurse parent table (table.count - (next + 1)) position).map
          fun rest => (rest.1, rest.2 + 1) := by
  have left : table.count - next = table.count - (next + 1) + 1 := by omega
  have index : table.count - (table.count - (next + 1) + 1) = next := by omega
  have shown : (pure entry : ExceptT Err Id ROMEntry).run.toOption = some entry := rfl
  rw [left, preorderEntries, index, found, shown, Option.bind_eq_bind, Option.bind_some]
  split
  · rfl
  split
  · rcases recurse position entry.base ⟨parent, next, entry, none, none⟩ with _ | ⟨child, taken⟩
    · rfl
    · simp only [Option.bind_eq_bind, Option.bind_some]
      cases preorderEntries memory recurse parent table (table.count - (next + 1))
        (position + child.length) <;> rfl
  · cases preorderEntries memory recurse parent table (table.count - (next + 1)) position <;> rfl

/-- An entry that is present, with what is below it in front of the rest. -/
theorem pending_present {taken more : Nat} {entry : ROMEntry} {child visits : List Visit}
    (left : frame.next < frame.table.count)
    (found : frame.table.readEntry (memorySource memory) frame.next = pure entry)
    (inner : entry.isEnd = false)
    (present : entry.present = true)
    (visited : preorderBelow memory (depth - frame.depth) position entry.base
      ⟨frame.parent, frame.next, entry, none, none⟩ = some (child, taken))
    (later : pending memory depth (frame.advanced :: below) (position + child.length) =
      some (visits, more)) :
    pending memory depth (frame :: below) position = some (child ++ visits, taken + more + 1) := by
  obtain ⟨first, count, rest, others, here, after, rfl, rfl⟩ := pending_cons_iff.mp later
  have here : preorderEntries memory (preorderBelow memory (depth - frame.depth)) frame.parent
    frame.table
      (frame.table.count - (frame.next + 1)) (position + child.length) = some (first, count) := here
  refine pending_cons_iff.mpr ⟨child ++ first, taken + count + 1, rest, others, ?_, ?_,
    ?_, by omega⟩
  · rw [preorderEntries_next left found, inner, present, visited]
    simp only [Bool.false_eq_true, if_false, if_true, Option.bind_some, here, Option.map_some]
  · rw [List.length_append, ← Nat.add_assoc]
    exact after
  · rw [List.append_assoc]

/-- What the loop still does from one state to another is a pending list of visits. -/
structure Completes (memory : Memory) (depth : Nat) (w w' : Walker) : Prop where
  visits : ∃ visits taken, pending memory depth w.stack w.visits.length = some (visits, taken) ∧
    w'.visits = w.visits ++ visits ∧ w'.entries = w.entries + taken

/-- A component that was identified. -/
theorem preorderVisit_found {recurse : Visits} {component : Component}
    (ungated : visit.entry.powerIDValid = false)
    (found : identify (memorySource memory) base = pure component) :
    preorderVisit memory recurse position base visit =
      match component.romTable with
      | .error err => if err.is .notROMTable then some ([visit.found component], 0) else none
      | .ok table => (preorderEntries memory recurse position table table.count (position + 1)).map
          fun rest => (visit.found component :: rest.1, rest.2) := by
  have shown : (pure component : ExceptT Err Id Component).run.toOption = some component := rfl
  rw [preorderVisit, ungated, if_neg Bool.false_ne_true, found, shown, Option.bind_eq_bind,
    Option.bind_some]
  rcases component.romTable with err | table
  · rfl
  · dsimp only
    cases preorderEntries memory recurse position table table.count (position + 1) <;> rfl

/-- An inspected component in front of what the loop does. -/
theorem Inspects.completes {level : Nat}
    (inspects : Inspects memory base visit level w (.ok ()) w₁) (remembers : w.Remembers memory)
    (rest : Completes memory depth w₁ w') :
    (level : Int) ≤ w.limits.maxDepth ∧ ∃ child count visits taken,
      preorderVisit memory (preorderBelow memory (depth - level)) w.visits.length base visit =
        some (child, count) ∧
      pending memory depth w.stack (w.visits.length + child.length) = some (visits, taken) ∧
      w'.visits = w.visits ++ (child ++ visits) ∧ w'.entries = w.entries + count + taken := by
  obtain ⟨visits, taken, later, visited, entered⟩ := rest.visits
  cases inspects with
  | gated room gated =>
    refine ⟨room.depth, [visit.skipped base], 0, visits, taken, ?_, ?_, ?_, entered⟩
    · rw [preorderVisit, if_pos gated]
      rfl
    · simpa [Walker.visiting] using later
    · rw [visited, ← List.append_assoc]
      rfl
  | @leaf component err w₁ room ungated found leaf notTable read =>
    rw [read.stack, read.visits] at later
    refine ⟨room.depth, [visit.found component], 0, visits, taken, ?_, ?_, ?_, ?_⟩
    · rw [preorderVisit_found ungated (found remembers), leaf]
      exact if_pos notTable
    · simpa [Walker.visiting] using later
    · rw [visited, read.visits, ← List.append_assoc]
      rfl
    · rw [entered, read.entries]
      rfl
  | @table component table w₁ room ungated new found layout based read =>
    rw [read.stack, read.visits] at later
    obtain ⟨first, count, others, more, here, after, rfl, rfl⟩ := pending_cons_iff.mp later
    refine ⟨room.depth, visit.found component :: first, count, others, more, ?_, ?_, ?_, ?_⟩
    · have here : preorderEntries memory (preorderBelow memory (depth - level)) w.visits.length
        table table.count
          (w.visits.length + 1) = some (first, count) := by simpa [Walker.visiting] using here
      rw [preorderVisit_found ungated (found remembers), layout]
      simp only [here, Option.map_some]
    · rw [List.length_cons, ← Nat.add_assoc, Nat.add_right_comm]
      simpa [Walker.visiting] using after
    · rw [visited, read.visits]
      simp [Walker.visiting]
    · rw [entered, read.entries, ← Nat.add_assoc]
      rfl

/-- The children of a frame that may have some. -/
theorem preorderBelow_child {room : Nat} (deep : room + 1 ≤ depth) :
    preorderBelow memory (depth - room) =
      preorderVisit memory (preorderBelow memory (depth - (room + 1))) := by
  have left : depth - room = depth - (room + 1) + 1 := by omega
  rw [left, preorderBelow]

/-- One more step in front of what the loop does. -/
theorem Completes.next (stack : w.stack = frame :: below) (deep : w.limits.maxDepth ≤ depth)
    (remembers : w.Remembers memory) (within : frame.next ≤ frame.table.count)
    (nexts : Nexts memory frame below w (.ok ()) w₁) (rest : Completes memory depth w₁ w') :
    Completes memory depth w w' := by
  obtain ⟨visits, taken, later, visited, entered⟩ := rest.visits
  cases nexts with
  | complete last read =>
    refine ⟨visits, taken, ?_, ?_, ?_⟩
    · rw [stack]
      refine pending_cons_iff.mpr ⟨[], 0, visits, taken, ?_, ?_, rfl, (Nat.zero_add _).symm⟩
      · rw [last, Nat.sub_self]
        rfl
      · rw [read.stack, read.visits] at later
        exact later
    · rw [visited, read.visits]
    · rw [entered, read.entries]
  | @terminated entry w₁ more room found last read =>
    have left : frame.next < frame.table.count := Nat.lt_of_le_of_ne within more
    rw [read.stack, read.visits] at later
    refine ⟨visits, taken + 1, ?_, ?_, ?_⟩
    · rw [stack]
      refine pending_cons_iff.mpr ⟨[], 1, visits, taken, ?_, later, rfl, Nat.add_comm _ _⟩
      rw [preorderEntries_next left (found remembers), if_pos last]
    · rw [visited, read.visits]
      rfl
    · rw [entered, read.entries]
      simp only [Walker.taking]
      omega
  | @absent entry w₁ more room found inner absent read =>
    have left : frame.next < frame.table.count := Nat.lt_of_le_of_ne within more
    rw [read.stack, read.visits] at later
    obtain ⟨first, count, rest, others, here, after, rfl, rfl⟩ := pending_cons_iff.mp later
    have here : preorderEntries memory (preorderBelow memory (depth - frame.depth)) frame.parent
      frame.table
        (frame.table.count - (frame.next + 1)) w.visits.length = some (first, count) := here
    refine ⟨first ++ rest, count + others + 1, ?_, ?_, ?_⟩
    · rw [stack]
      refine pending_cons_iff.mpr ⟨first, count + 1, rest, others, ?_, after, rfl, by omega⟩
      rw [preorderEntries_next left (found remembers), inner, absent]
      simp only [Bool.false_eq_true, if_false, here, Option.map_some]
    · rw [visited, read.visits]
      rfl
    · rw [entered, read.entries]
      simp only [Walker.taking]
      omega
  | @present entry w₂ w₁ result more room found inner present read inspected =>
    have left : frame.next < frame.table.count := Nat.lt_of_le_of_ne within more
    have visits₂ : w₂.visits = w.visits := read.visits
    have stack₂ : w₂.stack = frame.advanced :: below := read.stack
    have entries₂ : w₂.entries = w.entries + 1 := read.entries
    have limits₂ : w₂.limits = w.limits := read.limits
    have remembers₂ : w₂.Remembers memory := by rw [World.Remembers, read.answer]; exact remembers
    obtain ⟨fits, child, count, more', others, here, after, visited', entered'⟩ :=
      inspected.completes remembers₂ rest
    rw [stack₂, visits₂] at after
    rw [visits₂, ← preorderBelow_child (by rw [limits₂] at fits; omega)] at here
    refine ⟨child ++ more', count + others + 1, ?_, ?_, ?_⟩
    · rw [stack]
      exact pending_present left (found remembers) inner present here after
    · rw [visited', visits₂]
    · rw [entered', entries₂]
      omega

/-- The loop makes the visits that were pending. -/
theorem Loops.completes {root : BitVec 64} {ended : Option (Option Err)}
    (loops : Loops memory w ended w') (done : ended = some none) (recorded : w.Recorded root)
    (working : w.Working root) (deep : w.limits.maxDepth ≤ depth) (remembers : w.Remembers memory) :
    Completes memory depth w w' := by
  induction loops with
  | done stack =>
    refine ⟨[], 0, ?_, (List.append_nil _).symm, rfl⟩
    rw [stack]
    rfl
  | spent => cases done
  | failed _ _ => cases done
  | next stack nexts _ ih =>
    have valid := working.frames _ (by rw [stack]; exact List.mem_cons_self)
    obtain ⟨recorded₁, later⟩ := nexts.bounded recorded working stack
    have rest := ih done recorded₁ (later rfl).1 (by rw [nexts.fixed.1]; exact deep)
      (by rw [World.Remembers, nexts.fixed.2]; exact remembers)
    exact rest.next stack deep remembers valid.within nexts

/-- What was skipped is what the visits say. -/
def Walker.Reported (w : Walker) : Prop := w.skipped = w.visits.filterMap Visit.skip

theorem Walker.Read.reported {visit : Nat} (read : w.Read visit base w') (reported : w.Reported) :
    w'.Reported := by
  rw [Walker.Reported, read.skipped, read.visits]
  exact reported

theorem Walker.Reported.visiting (reported : w.Reported)
    (ungated : visit.entry.powerIDValid = false) :
    (w.visiting visit).Reported := by
  have nothing : visit.skip = none := by simp [Visit.skip, ungated]
  rw [Walker.Reported, Walker.visiting, List.filterMap_append, List.filterMap_cons_none nothing,
    List.filterMap_nil, List.append_nil]
  exact reported

theorem Inspects.reported {result : Except Err Unit} {level : Nat}
    (inspects : Inspects memory base visit level w result w') (reported : w.Reported) :
    w'.Reported := by
  cases inspects with
  | limited err => exact reported
  | gated room gated =>
    have skip : (visit.skipped base).skip = some (powerDomain base visit.entry) := if_pos gated
    have reported : w.skipped = _ := reported
    rw [Walker.Reported, Walker.visiting, List.filterMap_append,
      List.filterMap_cons_some skip, ← reported]
    rfl
  | failed err room ungated same read =>
    exact read.reported (reported.visiting (by rw [same.entry]; exact ungated))
  | @leaf component err w' room ungated found leaf notTable read =>
    have open_ : (visit.found component).entry.powerIDValid = false := ungated
    exact read.reported (reported.visiting open_)
  | @table component table w' room ungated new found layout based read =>
    have open_ : (visit.found component).entry.powerIDValid = false := ungated
    exact read.reported (reported.visiting open_)

theorem Nexts.reported {result : Except Err Unit} (nexts : Nexts memory frame below w result w')
    (reported : w.Reported) : w'.Reported := by
  cases nexts with
  | ended err read => exact read.reported reported
  | complete last read => exact read.reported reported
  | unread err more room read => exact read.reported reported
  | terminated more room found last read => exact read.reported reported
  | absent more room found inner absent read => exact read.reported reported
  | present more room found inner present read inspected =>
    exact inspected.reported (read.reported reported)

/-- So it stays over the loop. -/
theorem Loops.reported {ended : Option (Option Err)} (loops : Loops memory w ended w')
    (reported : w.Reported) : w'.Reported := by
  induction loops with
  | done _ => exact reported
  | spent => exact reported
  | failed _ nexts => exact nexts.reported reported
  | next _ nexts _ ih => exact ih (nexts.reported reported)

end Pending

/-! ## Walks that were not stopped -/

/-- An error that stops a walk shows in what it returns. -/
theorem joinErrs_append_ne (errs : List Err) (err : Err) :
    joinErrs (errs ++ [err]) ≠ joinErrs errs := by
  rcases errs with _ | ⟨first, _ | ⟨second, rest⟩⟩
  · exact Option.some_ne_none _
  · simp [joinErrs]
  · intro same
    have grown : (second :: (rest ++ [err])).foldl Err.join first =
        (second :: rest).foldl Err.join first :=
      Option.some.inj same
    rw [← List.cons_append, List.foldl_append] at grown
    have sizes := congrArg sizeOf grown
    simp at sizes
    omega

/-- The first component, and all that follows from it. -/
theorem Inspects.walked {memory : Memory} {limits : WalkLimits} {w : World}
    {w' : Walker} (remembers : w.Remembers memory)
    (inspects : Inspects memory base .root 0 (Walker.start limits w) (.ok ()) w₁)
    (rest : ∀ depth : Nat, limits.maxDepth ≤ depth → Completes memory depth w₁ w') (depth : Nat)
    (deep : limits.maxDepth ≤ depth) :
    preorder memory depth 0 base .root = some (w'.visits, w'.entries) := by
  obtain ⟨_, child, count, visits, taken, visited, nothing, all, entries⟩ :=
    inspects.completes remembers (rest depth deep)
  obtain ⟨rfl, rfl⟩ : [] = visits ∧ 0 = taken := Prod.mk.inj (Option.some.inj nothing)
  have all : w'.visits = child := by simpa [Walker.start] using all
  have entries : w'.entries = count := by simpa [Walker.start] using entries
  rw [all, entries]
  exact visited

/-- A walk on a memory whose error is that of the children it skipped, if any, has made the
visits of the recursion; the recursion is within the limits, and what is behind a power
domain was not read. -/
theorem walk_preorder (memory : Memory) (ctx : Ctx) (base : BitVec 64) (limits : WalkLimits)
    (turns : Nat) (w : World) (remembers : w.Remembers memory) (visits : List Visit)
    (err : Option Err) (log : List Event)
    (ran : walk ctx base limits turns w = (some (visits, err), log))
    (onlySkips : err = joinErrs (visits.filterMap Visit.skip)) :
    ∃ taken : Nat,
      (∀ depth : Nat, limits.maxDepth ≤ depth →
        preorder memory depth 0 base .root = some (visits, taken)) ∧
      (visits.length : Int) ≤ limits.maxComponents ∧ (taken : Int) ≤ limits.maxEntries ∧
      ∀ i address, .word i address ∈ log → ∃ visit, visits[i]? = some visit ∧
        visit.entry.powerIDValid = false ∧ InPage (visit.base base) address := by
  subst onlySkips
  have early {first : Err} {log' : List Event} :
      ((some ([], some first), log') : Option (List Visit × Option Err) × List Event) ≠
        (some (visits, joinErrs (visits.filterMap Visit.skip)), log) := by
    rintro same
    obtain ⟨result, -⟩ := Prod.mk.inj same
    obtain ⟨rfl, failed⟩ := Prod.mk.inj (Option.some.inj result)
    cases failed
  -- an error that stops the walk is joined to those of the skipped children
  have stopped {w' : Walker} (reported : w'.Reported) (first : Err) :
      ((some (w'.visits, joinErrs (w'.skipped ++ [first])),
        w'.log) : Option (List Visit × Option Err) × List Event) ≠
        (some (visits, joinErrs (visits.filterMap Visit.skip)), log) := by
    rintro same
    obtain ⟨result, -⟩ := Prod.mk.inj same
    obtain ⟨rfl, failed⟩ := Prod.mk.inj (Option.some.inj result)
    rw [reported] at failed
    exact joinErrs_append_ne _ first failed
  rw [walk] at ran
  rcases valid : limits.validate with _ | invalid
  swap
  · rw [valid] at ran
    exact absurd ran early
  simp only [valid] at ran
  split at ran
  · exact absurd ran early
  split at ran
  · exact absurd ran early
  have recorded := Walker.start_recorded valid base w
  have working := Walker.start_working limits base w
  have arrives : (Walker.start limits w).Arrives base base .root 0 := ⟨.inl ⟨rfl, rfl, rfl⟩, rfl⟩
  have reported : (Walker.start limits w).Reported := rfl
  have spec := inspect_spec memory ctx base .root 0 (Walker.start limits w)
  rw [Yields] at spec
  rcases inspected : (Walker.inspect ctx base .root 0).run (Walker.start limits w)
    with ⟨first | _, w₁⟩
  · rw [inspected] at spec ran
    exact absurd ran (stopped (spec.reported reported) first)
  rw [inspected] at spec
  have spec : Inspects memory base .root 0 (Walker.start limits w) (.ok ()) w₁ := spec
  obtain ⟨recorded₁, working₁⟩ := spec.bounded recorded working arrives
  obtain ⟨loops, -⟩ := walkLoop_loops memory ctx turns recorded₁ (working₁ rfl)
  obtain ⟨records, same⟩ := loops.bounded recorded₁ (working₁ rfl)
  have reports := loops.reported (spec.reported reported)
  simp only [inspected] at ran
  rcases looped : walkLoop ctx turns w₁ with ⟨_ | _ | first, w'⟩
  · rw [looped] at ran
    cases (Prod.mk.inj ran).1
  · rw [looped] at ran records same loops
    obtain ⟨result, rfl⟩ := Prod.mk.inj ran
    obtain ⟨rfl, -⟩ := Prod.mk.inj (Option.some.inj result)
    have limits' : w'.limits = limits := same.trans spec.fixed.1
    have bounded := records.toBounded
    have counted := records.counted
    rw [limits'] at bounded
    have completes (depth : Nat) (deep : limits.maxDepth ≤ depth) :
        Completes memory depth w₁ w' := by
      refine loops.completes rfl recorded₁ (working₁ rfl) ?_ ?_
      · rw [spec.fixed.1]
        exact deep
      · rw [World.Remembers, spec.fixed.2]
        exact remembers
    refine ⟨w'.entries, spec.walked remembers completes, bounded.components, ?_, bounded.reads⟩
    rw [← counted]
    exact bounded.entries
  · rw [looped] at ran reports
    exact absurd ran (stopped reports first)

/-- A table with a child that is no table and one behind a power domain. -/
def pair : Memory := fun address =>
  .ok <|
    if address = 0x0 then 0x1003 else if address = 0x4 then 0x2007
    else if address = 0xff4 then 0x10 else if address = 0x1ff4 then 0x90
    else if address &&& 0xfff = 0xff0 then 0x0d else if address &&& 0xfff = 0xff8 then 0x05
    else if address &&& 0xfff = 0xffc then 0xb1 else 0

/-- The walk of the pair. -/
theorem walk_preorder_pair : ∃ visits err log taken,
    walk ⟨1000, .canceled⟩ 0 ⟨1, 3, 3⟩ 6 ⟨fun _ => pair, 0⟩ = (some (visits, err), log) ∧
      (∀ depth : Nat, 1 ≤ depth → preorder pair depth 0 0 .root = some (visits, taken)) ∧
      visits.length = 3 ∧ taken = 3 ∧ isErr err .powerDomain = true := by
  rcases ran : walk ⟨1000, .canceled⟩ 0 ⟨1, 3, 3⟩ 6 ⟨fun _ => pair, 0⟩ with ⟨_ | ⟨visits, err⟩, log⟩
  · have shown : (walk ⟨1000, .canceled⟩ 0 ⟨1, 3, 3⟩ 6 ⟨fun _ => pair, 0⟩).1.isSome = true := by
      decide +kernel
    rw [ran] at shown
    cases shown
  · have skips : (walk ⟨1000, .canceled⟩ 0 ⟨1, 3, 3⟩ 6 ⟨fun _ => pair, 0⟩).1.map
        (fun result => (result.2 == joinErrs (result.1.filterMap Visit.skip), result.1.length,
          isErr result.2 .powerDomain)) =
          some (true, 3, true) := by decide +kernel
    rw [ran] at skips
    obtain ⟨only, count, skipped⟩ : _ ∧ _ ∧ _ := by simpa using skips
    obtain ⟨taken, same, -⟩ := walk_preorder pair ⟨1000, .canceled⟩ 0 ⟨1, 3, 3⟩ 6 ⟨fun _ => pair,
      0⟩ rfl visits err log ran only
    have three : (preorder pair 1 0 0 .root).map Prod.snd = some 3 := by decide +kernel
    rw [same 1 (by decide)] at three
    exact ⟨visits, err, log, taken, rfl, fun depth deep => same depth (Int.ofNat_le.mpr deep),
      count, Option.some.inj three, skipped⟩

end Ostiole.Coresight
