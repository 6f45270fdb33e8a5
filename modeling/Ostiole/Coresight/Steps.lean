import Ostiole.Coresight.Reading
import Ostiole.Logic.Lists

/-!
# The steps of a walk

What `inspect` and `next` can do to a walker, case by case. Everything proved about whole
walks is read off these cases.
-/

namespace Ostiole.Coresight

open Ostiole Logic

/-- Two records of one visit, which may differ in what was found there. -/
structure Visit.Same (v visit : Visit) : Prop where
  parent : v.parent = visit.parent
  index : v.index = visit.index
  entry : v.entry = visit.entry

/-- A walker with one more visit. -/
def Walker.visiting (w : Walker) (v : Visit) : Walker := { w with visits := w.visits ++ [v] }

/-- The limits allow another visit at a depth. -/
structure Walker.Room (w : Walker) (depth : Nat) : Prop where
  depth : (depth : Int) ≤ w.limits.maxDepth
  components : (w.visits.length : Int) ≠ w.limits.maxComponents

/-- A walker that has taken up the next entry of a frame. -/
def Walker.taking (w : Walker) (frame : WalkFrame) : Walker :=
  { w with entries := w.entries + 1, log := w.log ++ [.entry frame.table.base frame.next] }

/-- A frame behind its next entry. -/
def WalkFrame.advanced (frame : WalkFrame) : WalkFrame := { frame with next := frame.next + 1 }

/-- What a child behind a power domain is recorded as. -/
def Visit.skipped (visit : Visit) (base : BitVec 64) : Visit :=
  { visit with err := some (powerDomain base visit.entry) }

/-- What a component is recorded as. -/
def Visit.found (visit : Visit) (component : Component) :
    Visit := { visit with component := some component }

/-- The outcomes of `inspect`. -/
inductive Inspects (memory : Memory) (base : BitVec 64) (visit : Visit) (depth : Nat)
    (w : Walker) : Except Err Unit → Walker → Prop
  | limited (err : Err) : Inspects memory base visit depth w (.error err) w
  | gated (room : w.Room depth) (gated : visit.entry.powerIDValid = true) :
      Inspects memory base visit depth w (.ok ())
        { w.visiting (visit.skipped base) with
          skipped := w.skipped ++ [powerDomain base visit.entry] }
  | failed (err : Err) {v : Visit} {w' : Walker} (room : w.Room depth)
      (ungated : visit.entry.powerIDValid = false)
      (same : v.Same visit) (read : (w.visiting v).Read w.visits.length base w') :
      Inspects memory base visit depth w (.error err) w'
  | leaf {component : Component} {err : Err} {w' : Walker} (room : w.Room depth)
      (ungated : visit.entry.powerIDValid = false)
      (found : w.Remembers memory → identify (memorySource memory) base = pure component)
      (leaf : component.romTable = .error err) (notTable : err.is .notROMTable = true)
      (read : (w.visiting (visit.found component)).Read w.visits.length base w') :
      Inspects memory base visit depth w (.ok ()) w'
  | table {component : Component} {table : ROMTable} {w' : Walker} (room : w.Room depth)
      (ungated : visit.entry.powerIDValid = false) (new : base ∉ w.seen)
      (found : w.Remembers memory → identify (memorySource memory) base = pure component)
      (layout : component.romTable = .ok table) (based : table.base = base)
      (read : Walker.Read w.visits.length base
        { w.visiting (visit.found component) with
          seen := base :: w.seen, stack := ⟨table, w.visits.length, 0, depth⟩ :: w.stack } w') :
      Inspects memory base visit depth w (.ok ()) w'

section Inspect

variable {base : BitVec 64} {w w' : Walker} {visit : Visit}

/-- A component is identified under the address it was looked for at. -/
theorem identify_based (ctx : Ctx) (index : Nat) (base : BitVec 64) (w : Walker) :
    Yields (identify (source ctx index) base) w (fun component _ => component.base = base)
      (fun _ _ => True) := by
  have anything {α : Type} (program : ExceptT Err WalkM α) (w : Walker) :
      Yields program w (fun _ _ => True) (fun _ _ => True) := by
    rw [Yields]
    split <;> trivial
  refine Yields.ite (fun _ => Yields.throw trivial) fun _ => ?_
  refine Yields.bind _ (anything _ w) fun _ w₁ _ => ?_
  refine Yields.bind _ (anything _ w₁) fun cidr w₂ _ => ?_
  refine Yields.ite (fun _ => Yields.throw trivial) fun _ => ?_
  refine Yields.bind _ (anything _ w₂) fun pidr w₃ _ => ?_
  refine Yields.ite (fun _ => ?_) fun _ => Yields.pure rfl
  refine Yields.bind _ (anything _ w₃) fun devarch w₄ _ => ?_
  refine Yields.bind _ (anything _ w₄) fun devid w₅ _ => ?_
  exact Yields.bind _ (anything _ w₅) fun devtype w₆ _ => Yields.pure rfl

/-- A change that leaves the clock and the log alone may come before reading or after it. -/
theorem Walker.Read.update {index : Nat} (read : w.Read index base w') (change : Walker → Walker)
    (apart : ∀ (w : Walker) clock log, change { w with clock := clock, log := log } =
      { change w with clock := clock, log := log }) : (change w).Read index base (change w') := by
  have kept (w : Walker) : (change w).clock = w.clock ∧ (change w).log = w.log := by
    have whole := apart w w.clock w.log
    have clock := congrArg (fun w : Walker => w.clock) whole
    have log := congrArg (fun w : Walker => w.log) whole
    exact ⟨clock, log⟩
  refine ⟨?_, ?_⟩
  · rw [(kept w').1, (kept w').2, ← apart, ← read.rest]
  · rw [(kept w').2, (kept w).2]
    exact read.log

theorem Walker.Read.recorded {index : Nat} {v : Visit} (read : (w.visiting v).Read index base w')
    (change : Visit → Visit) :
    (w.visiting (change v)).Read index base
      { w' with visits := w'.visits.modify w.visits.length change } := by
  have changed := read.update
    (fun w' => { w' with visits := w'.visits.modify w.visits.length change }) fun _ _ _ => rfl
  have last : (w.visiting v).visits.modify w.visits.length change = w.visits ++ [change v] :=
    modify_at_length w.visits v [] change
  rw [last] at changed
  exact changed

theorem walkerIdentify_spec (memory : Memory) (ctx : Ctx) (base : BitVec 64) (visit : Visit)
    (depth : Nat) (w : Walker) (room : w.Room depth) (ungated : visit.entry.powerIDValid = false) :
    Yields (Walker.identify ctx base w.visits.length depth) (w.visiting visit)
      (fun _ w' => Inspects memory base visit depth w (.ok ()) w')
      (fun _ w' => ∃ v, v.Same visit ∧ (w.visiting v).Read w.visits.length base w') := by
  refine Yields.lift_bind (Yields.ite (fun _ => ?_) fun new => ?_)
  · exact Yields.throw ⟨visit, ⟨rfl, rfl, rfl⟩, .refl _⟩
  · have follows : Follows w.visits.length base memory (identify (source ctx w.visits.length) base)
        _ := identify_follows ctx
    have identified := (follows (w.visiting visit)).and (identify_based ctx w.visits.length base
      (w.visiting visit))
    refine Yields.bind _ (identified.mono (fun _ _ holds => holds) fun err w₁ failed => ?_) ?_
    · exact ⟨visit, ⟨rfl, rfl, rfl⟩, failed.1⟩
    · rintro component w₁ ⟨⟨read, found⟩, based⟩
      have recorded := read.recorded fun visit => visit.found component
      refine Yields.lift_bind ?_
      rcases layout : component.romTable with err | table
      · refine Yields.ite (fun notTable => ?_) fun _ => ?_
        · exact Yields.pure (.leaf room ungated found layout notTable recorded)
        · exact Yields.throw ⟨visit.found component, ⟨rfl, rfl, rfl⟩, recorded⟩
      · refine Yields.lift (.table room ungated new found layout
          ((romTable_proper layout).2.trans based) ?_)
        exact recorded.update (fun w' => { w' with
          seen := base :: w'.seen, stack := ⟨table, w.visits.length, 0, depth⟩ :: w'.stack })
            fun _ _ _ => rfl

theorem inspect_spec (memory : Memory) (ctx : Ctx) (base : BitVec 64) (visit : Visit)
    (depth : Nat) (w : Walker) :
    Yields (Walker.inspect ctx base visit depth) w
      (fun _ w' => Inspects memory base visit depth w (.ok ()) w')
      (fun err w' => Inspects memory base visit depth w (.error err) w') := by
  refine Yields.lift_bind (Yields.ite (fun _ => Yields.throw (.limited _)) fun within => ?_)
  have room : w.Room depth := by
    have within : ¬((depth : Int) > w.limits.maxDepth ∨
        (w.visits.length : Int) = w.limits.maxComponents) := within
    exact ⟨by omega, by omega⟩
  refine Yields.lift_bind (Yields.ite (fun gated => ?_) fun ungated => ?_)
  · refine Yields.lift_bind (Yields.lift ?_)
    have outcome : Inspects memory base visit depth w (.ok ()) _ := .gated room gated
    have recorded : (w.visits ++ [visit]).modify w.visits.length
        (fun v => { v with err := some (powerDomain base visit.entry) }) = w.visits ++
          [visit.skipped base] :=
      modify_at_length w.visits visit [] _
    rw [Walker.visiting, ← recorded] at outcome
    exact outcome
  · have ungated : visit.entry.powerIDValid = false := by simpa using ungated
    refine (walkerIdentify_spec memory ctx base visit depth w room ungated).tryCatch
      fun err w₁ ⟨v, same, read⟩ => ?_
    refine Yields.lift_bind (Yields.throw (.failed err room ungated ?_ (read.recorded _)))
    exact ⟨same.parent, same.index, same.entry⟩

end Inspect

/-- The outcomes of `next` with some frame on top of the stack. -/
inductive Nexts (memory : Memory) (frame : WalkFrame) (below : List WalkFrame) (w : Walker) :
    Except Err Unit → Walker → Prop
  | ended (err : Err) {w' : Walker} (read : w.Read frame.parent frame.table.base w') :
      Nexts memory frame below w (.error err) w'
  | complete {w' : Walker} (last : frame.next = frame.table.count)
      (read : Walker.Read frame.parent frame.table.base { w with stack := below } w') :
      Nexts memory frame below w (.ok ()) w'
  | unread (err : Err) {w' : Walker} (more : frame.next ≠ frame.table.count)
      (room : (w.entries : Int) ≠ w.limits.maxEntries)
      (read : Walker.Read frame.parent frame.table.base (w.taking frame) w') :
      Nexts memory frame below w (.error err) w'
  | terminated {entry : ROMEntry} {w' : Walker} (more : frame.next ≠ frame.table.count)
      (room : (w.entries : Int) ≠ w.limits.maxEntries)
      (found : w.Remembers memory → frame.table.readEntry (memorySource memory) frame.next =
        pure entry)
      (last : entry.isEnd = true)
      (read : Walker.Read frame.parent frame.table.base { w.taking frame with stack := below } w') :
      Nexts memory frame below w (.ok ()) w'
  | absent {entry : ROMEntry} {w' : Walker} (more : frame.next ≠ frame.table.count)
      (room : (w.entries : Int) ≠ w.limits.maxEntries)
      (found : w.Remembers memory → frame.table.readEntry (memorySource memory) frame.next =
        pure entry)
      (inner : entry.isEnd = false) (absent : entry.present = false)
      (read : Walker.Read frame.parent frame.table.base
        { w.taking frame with stack := frame.advanced :: below } w') :
      Nexts memory frame below w (.ok ()) w'
  | present {entry : ROMEntry} {w₁ w' : Walker} {result : Except Err Unit} (more : frame.next ≠
      frame.table.count)
      (room : (w.entries : Int) ≠ w.limits.maxEntries)
      (found : w.Remembers memory → frame.table.readEntry (memorySource memory) frame.next =
        pure entry)
      (inner : entry.isEnd = false) (present : entry.present = true)
      (read : Walker.Read frame.parent frame.table.base
        { w.taking frame with stack := frame.advanced :: below } w₁)
      (inspected : Inspects memory entry.base ⟨frame.parent, frame.next, entry, none,
        none⟩ (frame.depth + 1) w₁ result w') :
      Nexts memory frame below w result w'

theorem next_spec (memory : Memory) (ctx : Ctx) (frame : WalkFrame) (below : List WalkFrame)
    (w : Walker) (proper : frame.table.Proper) (within : frame.next ≤ frame.table.count) :
    Yields (Walker.next ctx frame below) w
      (fun _ w' => Nexts memory frame below w (.ok ()) w')
      (fun err w' => Nexts memory frame below w (.error err) w') := by
  refine Yields.bind _ ((poll_ticks ctx frame.parent w).mono (fun _ _ holds => holds) ?_) ?_
  · rintro err _ rfl
    exact .ended err (.tick w)
  rintro _ _ rfl
  refine Yields.ite (fun last => Yields.lift ?_) fun more => ?_
  · exact .complete last (.tick _)
  refine Yields.lift_bind (Yields.ite (fun _ => Yields.throw (.ended _ (.tick w))) fun room => ?_)
  have room : (w.entries : Int) ≠ w.limits.maxEntries := room
  have entered : Follows frame.parent frame.table.base memory
      (frame.table.readEntry (source ctx frame.parent) frame.next) _ :=
    readEntry_follows ctx proper (Nat.lt_of_le_of_ne within more)
  have start : Walker.Read frame.parent frame.table.base (w.taking frame)
      (Walker.taking { w with clock := w.clock + 1 } frame) := .tick _
  refine Yields.bind _ (Yields.lift_bind
    ((entered (Walker.taking { w with clock := w.clock + 1 } frame)).mono
    (fun _ _ holds => holds) ?_)) ?_
  · exact fun err w₁ read => .unread err more room (start.trans read)
  rintro entry w₁ ⟨read, found⟩
  have advanced := (start.trans read).update (fun w => { w with stack := frame.advanced :: below })
    fun _ _ _ => rfl
  refine Yields.lift_bind (Yields.ite (fun last => Yields.lift ?_) fun inner => ?_)
  · have popped := (start.trans read).update (fun w => { w with stack := below }) fun _ _ _ => rfl
    exact .terminated more room found last popped
  have inner : entry.isEnd = false := by simpa using inner
  refine Yields.ite (fun present => ?_) fun absent => Yields.pure ?_
  · refine (inspect_spec memory ctx entry.base _ (frame.depth + 1) _).mono (fun _ w' inspected =>
      ?_) fun err w' inspected => ?_
    · exact .present more room found inner present advanced inspected
    · exact .present more room found inner present advanced inspected
  · exact .absent more room found inner (by simpa using absent) advanced

end Ostiole.Coresight
