import Ostiole.Coresight.Entry
import Ostiole.Coresight.Walk

/-!
# What a walk reads

The routines that read for a visit leave everything but the clock and the log alone, and read
only the page of the component that is visited. On a target that is a memory they find what
the memory holds.
-/

namespace Ostiole.Coresight

open Ostiole Logic

/-- What a target holds that answers an address always in the same way. -/
abbrev Memory := BitVec 64 → Except Err (BitVec 64)

/-- A memory, as the source of what it holds. -/
def memorySource (memory : Memory) : Source Id := ⟨none, memory⟩

/-- An address on the page of a component. -/
def InPage (base address : BitVec 64) : Prop := address &&& ~~~0xfff = base

/-- A component starts at its page. -/
theorem and_page {base : BitVec 64} (aligned : base &&& 0xfff = 0) : base &&& ~~~0xfff = base := by
  have whole : base &&& (0xfff ||| ~~~0xfff) = base := by
    rw [show (0xfff ||| ~~~0xfff : BitVec 64) = BitVec.allOnes 64 from rfl, BitVec.and_allOnes]
  rw [BitVec.and_or_distrib_left, aligned] at whole
  exact (BitVec.zero_or).symm.trans whole

/-- Small offsets stay on the page. -/
theorem inPage_add {base : BitVec 64} (aligned : base &&& 0xfff = 0) {offset : BitVec 64}
    (small : offset &&& ~~~0xfff = 0) : InPage base (base + offset) := by
  have apart : base &&& offset = 0 := by
    have low : base &&& (offset &&& 0xfff) = 0 := by
      rw [BitVec.and_comm offset, ← BitVec.and_assoc, aligned]
      exact BitVec.zero_and
    have high : base &&& (offset &&& ~~~0xfff) = 0 := by
      rw [small]
      exact BitVec.and_zero
    have whole : base &&& (offset &&& (0xfff ||| ~~~0xfff)) = base &&& offset := by
      rw [show (0xfff ||| ~~~0xfff : BitVec 64) = BitVec.allOnes 64 from rfl, BitVec.and_allOnes]
    rw [← whole, BitVec.and_or_distrib_left, BitVec.and_or_distrib_left, low, high]
    rfl
  rw [InPage, BitVec.add_eq_or_of_and_eq_zero _ _ apart, BitVec.and_or_distrib_right, small,
    and_page aligned]
  exact BitVec.or_zero

/-- Reading for a visit on a page. -/
structure Walker.Read (visit : Nat) (base : BitVec 64) (w w' : Walker) : Prop where
  rest : w' = { w with clock := w'.clock, log := w'.log }
  log : ∃ addresses : List (BitVec 64), w'.log = w.log ++ addresses.map (.word visit) ∧
    ∀ address ∈ addresses, InPage base address

/-- A target that is a memory. -/
def World.Remembers (w : World) (memory : Memory) : Prop := w.answer = fun _ => memory

section Read

variable {visit : Nat} {base : BitVec 64} {w w₁ w' : Walker}

theorem Walker.Read.refl (w : Walker) : w.Read visit base w := ⟨rfl, [], by simp⟩

/-- Reading on for the same visit. -/
theorem Walker.Read.trans (first : w.Read visit base w₁) (second : w₁.Read visit base w') :
    w.Read visit base w' := by
  obtain ⟨rest, addresses, log, inside⟩ := first
  obtain ⟨rest', addresses', log', inside'⟩ := second
  refine ⟨?_, addresses ++ addresses', ?_, ?_⟩
  · rw [rest', rest]
  · rw [log', log, List.map_append, List.append_assoc]
  · intro address member
    exact (List.mem_append.mp member).elim (inside address) (inside' address)

/-- The target answers as before. -/
theorem Walker.Read.answer (read : w.Read visit base w') : w'.answer = w.answer := by rw [read.rest]

theorem Walker.Read.limits (read : w.Read visit base w') : w'.limits = w.limits := by rw [read.rest]

theorem Walker.Read.entries (read : w.Read visit base w') : w'.entries = w.entries := by
  rw [read.rest]

theorem Walker.Read.visits (read : w.Read visit base w') : w'.visits = w.visits := by rw [read.rest]

theorem Walker.Read.stack (read : w.Read visit base w') : w'.stack = w.stack := by rw [read.rest]

theorem Walker.Read.seen (read : w.Read visit base w') : w'.seen = w.seen := by rw [read.rest]

theorem Walker.Read.skipped (read : w.Read visit base w') : w'.skipped = w.skipped := by
  rw [read.rest]

end Read

/-! ## Routines that read -/

/-- A routine reads for a visit on one page. Its value is what another one finds in the
memory behind the target. -/
def Follows {α : Type} (visit : Nat) (base : BitVec 64) (memory : Memory)
    (program : ExceptT Err WalkM α) (found : ExceptT Err Id α) : Prop :=
  ∀ w : Walker, Yields program w
    (fun value w' => w.Read visit base w' ∧ (w.Remembers memory → found = pure value))
    (fun _ w' => w.Read visit base w')

namespace Follows

variable {α β : Type} {visit : Nat} {base : BitVec 64} {memory : Memory}

theorem pure (value : α) : Follows visit base memory (Pure.pure value) (Pure.pure value) :=
  fun w => Yields.pure ⟨.refl w, fun _ => rfl⟩

/-- A routine that fails has found nothing. -/
theorem throw (err : Err) (found : ExceptT Err Id α) :
    Follows visit base memory (MonadExcept.throw err) found :=
  fun w => Yields.throw (.refl w)

/-- What is found first decides what is looked for next. -/
theorem bind {program : ExceptT Err WalkM α} {found : ExceptT Err Id α}
    {next : α → ExceptT Err WalkM β}
    {later : α → ExceptT Err Id β} (first : Follows visit base memory program found)
    (second : ∀ value, Follows visit base memory (next value) (later value)) :
    Follows visit base memory (program >>= next) (found >>= later) := by
  intro w
  have start := (first w).mono (fun _ _ holds => holds) (fun _ _ holds => holds)
  refine Yields.bind _ start fun value w₁ ⟨read, known⟩ => ?_
  refine (second value w₁).mono (fun result w' ⟨read', known'⟩ =>
    ⟨read.trans read', fun remembers => ?_⟩)
    (fun _ w' read' => read.trans read')
  rw [known remembers]
  exact known' (by rw [World.Remembers, read.answer]; exact remembers)

theorem ite {condition : Prop} [Decidable condition] {first second : ExceptT Err WalkM α}
    {found found' : ExceptT Err Id α}
    (onTrue : condition → Follows visit base memory first found)
    (onFalse : ¬condition → Follows visit base memory second found') :
    Follows visit base memory (if condition then first else second) (if condition then found
      else found') := by
  split
  · next holds => exact onTrue holds
  · next fails => exact onFalse fails

end Follows

section Routines

variable {visit : Nat} {base : BitVec 64} {memory : Memory} (ctx : Ctx)

/-- Reading the clock. -/
theorem Walker.Read.tick (w : Walker) : w.Read visit base { w with clock := w.clock + 1 } :=
  ⟨rfl, [], by simp⟩

/-- Polling the context only takes time. -/
theorem poll_ticks (visit : Nat) (w : Walker) :
    Yields (poll (source ctx visit)) w (fun _ w' => w' = { w with clock := w.clock + 1 })
      (fun _ w' => w' = { w with clock := w.clock + 1 }) := by
  refine Yields.lift_bind ?_
  rcases ended : ctx.err w.clock with _ | err
  · simp only [source, ctxErr, ended]
    exact Yields.pure rfl
  · simp only [source, ctxErr, ended]
    exact Yields.throw rfl

/-- A memory is polled in vain. -/
theorem poll_follows : Follows visit base memory (poll (source ctx visit))
    (poll (memorySource memory)) := by
  refine fun w => (poll_ticks ctx visit w).mono ?_ ?_
  · rintro _ _ rfl
    exact ⟨.tick w, fun _ => rfl⟩
  · rintro _ _ rfl
    exact .tick w

/-- An access to the page finds the word that the memory holds there. -/
theorem readScalar_follows (message : String) {address : BitVec 64} (inside : InPage base address) :
    Follows visit base memory ((readScalar visit address).adapt (Err.wrap message))
      (((memorySource memory).readScalar address).adapt (Err.wrap message)) := by
  intro w
  have ran : (readScalar visit address).adapt (Err.wrap message) w =
    ((w.answer w.log address).mapError (Err.wrap message),
      { w with clock := w.clock + 1, log := w.log ++ [.word visit address] }) := rfl
  have read : w.Read visit base
      { w with clock := w.clock + 1, log := w.log ++ [.word visit address] } :=
    ⟨rfl, [address], rfl, by simpa using inside⟩
  rw [Yields, ExceptT.run, ran]
  rcases answered : w.answer w.log address with err | word
  · exact read
  · refine ⟨read, fun remembers => ?_⟩
    rw [remembers] at answered
    exact congrArg (Except.mapError (Err.wrap message)) answered

/-- A register of the component. -/
theorem readWord_follows {address : BitVec 64} (inside : InPage base address) :
    Follows visit base memory (readWord (source ctx visit) address)
      (readWord (memorySource memory) address) :=
  (poll_follows ctx).bind fun _ => (readScalar_follows _ inside).bind fun word =>
    .pure (word.setWidth 32)

/-- By induction on the offsets, all of them on the page. -/
theorem readID_follows (aligned : base &&& 0xfff = 0) (offsets : List (BitVec 64))
    (small : ∀ offset ∈ offsets, offset &&& ~~~0xfff = 0) : ∀ (i : Nat) (id : BitVec 64),
    Follows visit base memory (readID (source ctx visit) base i offsets id)
      (readID (memorySource memory) base i offsets id) := by
  induction offsets with
  | nil => exact fun _ id => .pure id
  | cons offset rest ih =>
    obtain ⟨here, others⟩ := List.forall_mem_cons.mp small
    exact fun i id => (readWord_follows ctx (inPage_add aligned here)).bind fun word =>
      ih others (i + 1) _

/-- The three registers that describe a device. -/
theorem readDevice_follows {c : Component} (aligned : c.base &&& 0xfff = 0) :
    Follows visit c.base memory (readDevice (source ctx visit) c)
      (readDevice (memorySource memory) c) := by
  refine (readWord_follows ctx (inPage_add aligned (by decide))).bind fun devarch => ?_
  refine (readWord_follows ctx (inPage_add aligned (by decide))).bind fun devid => ?_
  exact (readWord_follows ctx (inPage_add aligned (by decide))).bind fun devtype => .pure _

/-- Identification reads the component alone and finds what the memory says it is. -/
theorem identify_follows :
    Follows visit base memory (identify (source ctx visit) base)
      (identify (memorySource memory) base) := by
  refine .ite (fun _ => .throw _ _) fun page => ?_
  have aligned : base &&& 0xfff = 0 := not_not.mp page
  refine (poll_follows ctx).bind fun _ => ?_
  refine (readID_follows ctx aligned _ (by simp) 0 0).bind fun cidr => ?_
  refine .ite (fun _ => .throw _ _) fun _ => ?_
  refine (readID_follows ctx aligned _ (by simp) 0 0).bind fun pidr => ?_
  refine .ite (fun _ => ?_) fun _ => .pure _
  exact readDevice_follows ctx aligned

end Routines

/-! ## Table entries -/

/-- A table as `Component.ROMTable` gives it. -/
structure ROMTable.Proper (t : ROMTable) : Prop where
  aligned : t.base &&& 0xfff = 0
  layout : (t.stride = 4 ∧ t.count ≤ 960) ∨ (t.stride = 8 ∧ t.count ≤ 256)

/-- `Component.ROMTable` gives tables that fit their page. -/
theorem romTable_proper {c : Component} {t : ROMTable} (read : c.romTable = .ok t) :
    t.Proper ∧ t.base = c.base := by
  rw [Component.romTable] at read
  split at read
  · cases read
  · next valid =>
      have aligned : c.base &&& 0xfff = 0 := by
        by_contra other
        exact valid (.inl other)
      split at read
      · cases read
        exact ⟨⟨aligned, .inl ⟨rfl, le_rfl⟩⟩, rfl⟩
      · split at read
        · cases read
        · split at read
          · cases read
          · split at read
            · cases read
            · split at read <;> cases read
              · exact ⟨⟨aligned, .inr ⟨rfl, le_rfl⟩⟩, rfl⟩
              · exact ⟨⟨aligned, .inl ⟨rfl, Nat.le_of_ble_eq_true rfl⟩⟩, rfl⟩

/-- Offsets below the size of a page. -/
theorem and_page_of_small {offset : BitVec 64} (small : offset.toNat < 4096) :
    offset &&& ~~~0xfff = 0 := by
  have low : offset &&& 0xfff = offset := by
    refine BitVec.eq_of_toNat_eq ?_
    rw [BitVec.toNat_and, show (0xfff : BitVec 64).toNat = 2 ^ 12 - 1 from rfl,
      Nat.and_two_pow_sub_one_eq_mod]
    exact Nat.mod_eq_of_lt small
  rw [← low, BitVec.and_assoc, BitVec.and_not_self]
  exact BitVec.and_zero

section Entries

variable {visit : Nat} {memory : Memory} {t : ROMTable} (ctx : Ctx)

/-- The words of an entry lie on the page of its table. -/
theorem entryAddress_inPage (proper : t.Proper) {index : Nat} (inside : index < t.count) :
    InPage t.base (t.entryAddress index) ∧
      (t.stride = 8 → InPage t.base (t.entryAddress index + 4)) := by
  have layout := proper.layout
  have offset : (BitVec.ofInt 64 index * t.stride).toNat = index * t.stride.toNat := by
    rw [BitVec.ofInt_natCast, BitVec.toNat_mul, BitVec.toNat_ofNat]
    rcases layout with ⟨stride, count⟩ | ⟨stride, count⟩ <;> rw [stride] <;> simp <;> omega
  constructor
  · refine inPage_add proper.aligned (and_page_of_small ?_)
    rw [offset]
    rcases layout with ⟨stride, count⟩ | ⟨stride, count⟩ <;> rw [stride] <;> simp <;> omega
  · intro stride
    have count : t.count ≤ 256 := by
      refine (layout.resolve_left fun narrow => ?_).2
      exact absurd (stride.symm.trans narrow.1) (by decide)
    rw [ROMTable.entryAddress, BitVec.add_assoc]
    refine inPage_add proper.aligned (and_page_of_small ?_)
    rw [BitVec.toNat_add, offset, stride]
    simp
    omega

/-- An entry is read from the page of its table. -/
theorem readEntry_follows (proper : t.Proper) {index : Nat} (inside : index < t.count) :
    Follows visit t.base memory (t.readEntry (source ctx visit) index)
      (t.readEntry (memorySource memory) index) := by
  obtain ⟨first, second⟩ := entryAddress_inPage proper inside
  have raw : Follows visit t.base memory (t.readRaw (source ctx visit) (t.entryAddress index))
      (t.readRaw (memorySource memory) (t.entryAddress index)) := by
    refine (readWord_follows ctx first).bind fun low => .ite (fun stride => ?_) fun _ => .pure _
    exact (readWord_follows ctx (second stride)).bind fun high => .pure _
  refine .ite (fun _ => .throw _ _) fun _ => raw.bind fun raw => ?_
  cases t.decode raw with
  | error err => exact .throw _ _
  | ok entry => exact .pure entry

end Entries

end Ostiole.Coresight
