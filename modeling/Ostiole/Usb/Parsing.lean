import Ostiole.Usb.Represents

/-!
# The parser accepts what is described

The parser reads descriptor by descriptor. `Reads` is that reading without the parser's checks on
the settings as a whole: it says which settings the bytes describe. The parser either represents
the settings that the bytes describe or refuses them, and then no well-formed settings are
described.
-/

namespace Ostiole.Usb

open Ostiole

/-! ## Descriptors in turn -/

/-- Settings with one more item: an interface opens a setting, an endpoint belongs to the last. -/
def Item.extend (settings : List Setting) : Item → Option (List Setting)
  | .interface header => some (settings ++ [header.opened])
  | .endpoint added => settings.getLast?.map fun last => settings.dropLast ++ [last.add added]

/-- Settings behind one more descriptor. -/
def extend (settings : List Setting) : Option Item → Option (List Setting)
  | none => some settings
  | some item => item.extend settings

/-- The bytes are descriptors that turn some settings into others. -/
inductive Reads : List Byte → List Setting → List Setting → Prop
  | done {settings : List Setting} : Reads [] settings settings
  | step {descriptor bytes : List Byte} {meaning : Option Item} {settings next last : List Setting}
      (proper : Proper descriptor) (means : Means descriptor meaning)
        (extended : extend settings meaning = some next)
      (rest : Reads bytes next last) : Reads (descriptor ++ bytes) settings last

section Reads

variable {settings next last : List Setting} {item : Item} {meaning : Option Item}
  {bytes descriptor : List Byte}

@[simp]
theorem extend_endpoint (endpoint : Endpoint) (s : Setting) :
    Item.extend (settings ++ [s]) (.endpoint endpoint) = some (settings ++ [s.add endpoint]) := by
  simp [Item.extend]

theorem Setting.items_add (s : Setting) (endpoint : Endpoint) :
    (s.add endpoint).items = s.items ++ [.endpoint endpoint] := by
  simp [Setting.items, Setting.add]

/-- One more item is one more item. -/
theorem Item.extend_items (extended : item.extend settings = some next) :
    next.flatMap Setting.items = settings.flatMap Setting.items ++ [item] := by
  cases item with
  | interface header =>
    obtain rfl : settings ++ [header.opened] = next := Option.some_inj.mp extended
    simp [Setting.items, SettingHeader.opened]
  | endpoint endpoint =>
    rcases List.eq_nil_or_concat settings with rfl | ⟨done, s, split⟩
    · cases extended
    · rw [List.concat_eq_append] at split
      subst split
      rw [extend_endpoint, Option.some_inj] at extended
      subst extended
      simp [Setting.items_add]

/-- An item only ever makes settings inconsistent. -/
theorem Item.extend_consistent (extended : item.extend settings = some next)
    (consistent : Consistent next) :
    Consistent settings := by
  cases item with
  | interface header =>
    obtain rfl : settings ++ [header.opened] = next := Option.some_inj.mp extended
    have complete := consistent.complete
    rw [List.dropLast_concat] at complete
    exact ⟨(sound_opened_iff.mp consistent.toSound).1, fun s member =>
      complete s (List.mem_of_mem_dropLast member)⟩
  | endpoint endpoint =>
    rcases List.eq_nil_or_concat settings with rfl | ⟨done, s, split⟩
    · cases extended
    · rw [List.concat_eq_append] at split
      subst split
      rw [extend_endpoint, Option.some_inj] at extended
      subst extended
      have complete := consistent.complete
      rw [List.dropLast_concat] at complete
      refine ⟨((sound_add_iff _).mp consistent.toSound).1, ?_⟩
      rw [List.dropLast_concat]
      exact complete

theorem Reads.consistent (reads : Reads bytes settings last) (consistent : Consistent last) :
    Consistent settings := by
  induction reads with
  | done => exact consistent
  | step proper means extended rest ih =>
    rename_i meaning _ _ _
    have next := ih consistent
    cases meaning with
    | none => exact Option.some_inj.mp extended ▸ next
    | some item => exact item.extend_consistent extended next

/-- A descriptor determines what it means. -/
theorem Means.unique {other : Option Item} (means : Means descriptor meaning)
    (means' : Means descriptor other) :
    meaning = other := by
  cases means with
  | interface kind long =>
    cases means' with
    | interface => rfl
    | endpoint kind' => exact absurd (Option.some_inj.mp (kind.symm.trans kind')) (by decide)
    | other found noInterface =>
      exact absurd (Option.some_inj.mp (found.symm.trans kind)) noInterface
  | endpoint kind fields =>
    cases means' with
    | interface kind' => exact absurd (Option.some_inj.mp (kind'.symm.trans kind)) (by decide)
    | endpoint _ fields' => rw [fields.unique fields']
    | other found _ noEndpoint =>
      exact absurd (Option.some_inj.mp (found.symm.trans kind)) noEndpoint
  | other found noInterface noEndpoint =>
    cases means' with
    | interface kind => exact absurd (Option.some_inj.mp (found.symm.trans kind)) noInterface
    | endpoint kind => exact absurd (Option.some_inj.mp (found.symm.trans kind)) noEndpoint
    | other => rfl

/-- Bytes start with at most one descriptor. -/
theorem Proper.unique {other rest : List Byte} (proper : Proper descriptor) (proper' : Proper other)
    (same : descriptor ++ bytes = other ++ rest) : descriptor = other ∧ bytes = rest := by
  obtain ⟨-, size, head, length⟩ := proper
  obtain ⟨-, size', head', length'⟩ := proper'
  have heads : (descriptor ++ bytes).head? = (other ++ rest).head? := by rw [same]
  rw [List.head?_append, List.head?_append, head, head'] at heads
  obtain rfl : size = size' := Option.some_inj.mp heads
  exact List.append_inj same (length.symm.trans length')

theorem Reads.unique {other : List Setting} (reads : Reads bytes settings last)
    (reads' : Reads bytes settings other) :
    last = other := by
  induction reads with
  | done =>
    generalize empty : ([] : List Byte) = bytes at reads'
    cases reads' with
    | done => rfl
    | step proper =>
      rw [List.nil_eq, List.append_eq_nil_iff] at empty
      rw [empty.1] at proper
      exact absurd proper.1 (by simp)
  | @step descriptor bytes _ _ _ _ proper means extended rest ih =>
    generalize same : descriptor ++ bytes = whole at reads'
    cases reads' with
    | done =>
      rw [(List.append_eq_nil_iff.mp same).1] at proper
      exact absurd proper.1 (by simp)
    | step proper' means' extended' rest' =>
      obtain ⟨rfl, rfl⟩ := proper.unique proper' same
      obtain rfl := means.unique means'
      obtain rfl := Option.some_inj.mp (extended.symm.trans extended')
      exact ih rest'

/-- What is read are descriptors, and their items are added. -/
theorem Reads.described (reads : Reads bytes settings last) :
    ∃ descriptors items, bytes = descriptors.flatten ∧
      (∀ descriptor ∈ descriptors, Proper descriptor) ∧
      List.Forall₂ Means descriptors items ∧
      last.flatMap Setting.items = settings.flatMap Setting.items ++ items.reduceOption := by
  induction reads with
  | done => exact ⟨[], [], rfl, nofun, .nil, by simp⟩
  | @step descriptor bytes meaning _ _ _ proper means extended rest ih =>
    obtain ⟨descriptors, items, rfl, propers, meanings, same⟩ := ih
    refine ⟨descriptor :: descriptors, meaning :: items, rfl, ?_, .cons means meanings, ?_⟩
    · rintro other (_ | ⟨_, member⟩)
      · exact proper
      · exact propers other member
    · rw [same]
      cases meaning with
      | none =>
        rw [List.reduceOption_cons_of_none, Option.some_inj.mp extended]
      | some item =>
        rw [item.extend_items extended, List.reduceOption_cons_of_some, List.append_assoc,
          List.singleton_append]

end Reads

/-! ## Items and settings -/

/-- Settings behind items. -/
def extendAll (settings : List Setting) (items : List Item) : Option (List Setting) :=
  items.foldlM Item.extend settings

theorem extendAll_endpoints (settings : List Setting) (s : Setting) (endpoints : List Endpoint) :
    extendAll (settings ++ [s]) (endpoints.map .endpoint) =
      some (settings ++ [{ s with endpoints := s.endpoints ++ endpoints }]) := by
  induction endpoints generalizing s with
  | nil => simp [extendAll]
  | cons endpoint endpoints ih =>
    have tail := ih (s.add endpoint)
    rw [extendAll] at tail ⊢
    rw [List.map_cons, List.foldlM_cons, extend_endpoint, Option.bind_eq_bind,
      Option.bind_some, tail]
    simp [Setting.add]

/-- The items of settings build them up. -/
theorem extendAll_items (settings : List Setting) :
    extendAll [] (settings.flatMap Setting.items) = some settings := by
  induction settings using List.reverseRecOn with
  | nil => rfl
  | append_singleton settings s ih =>
    rw [extendAll] at ih ⊢
    rw [List.flatMap_append, List.foldlM_append, ih, List.flatMap_singleton, Setting.items,
      Option.bind_eq_bind, Option.bind_some, List.foldlM_cons]
    exact extendAll_endpoints settings s.toSettingHeader.opened s.endpoints

/-- Descriptors whose items build up settings are read as these. -/
theorem reads_of_extendAll {descriptors : List (List Byte)} {items : List (Option Item)}
    {settings last : List Setting}
    (propers : ∀ descriptor ∈ descriptors, Proper descriptor)
    (meanings : List.Forall₂ Means descriptors items)
    (extended : extendAll settings items.reduceOption = some last) :
    Reads descriptors.flatten settings last := by
  induction meanings generalizing settings with
  | nil =>
    obtain rfl : settings = last := Option.some_inj.mp extended
    exact .done
  | @cons descriptor meaning descriptors items means meanings ih =>
    have rest {next : List Setting} (following : extendAll next items.reduceOption = some last) :
        Reads descriptors.flatten next last :=
      ih (fun other member => propers other (List.mem_cons_of_mem _ member)) following
    have proper := propers descriptor List.mem_cons_self
    rw [List.flatten_cons]
    cases meaning with
    | none =>
      rw [List.reduceOption_cons_of_none] at extended
      exact .step proper means rfl (rest extended)
    | some item =>
      rw [List.reduceOption_cons_of_some, extendAll, List.foldlM_cons, Option.bind_eq_bind,
        Option.bind_eq_some_iff] at extended
      obtain ⟨next, first, extended⟩ := extended
      exact .step proper means first (rest extended)

theorem reads_iff {bytes : List Byte} {settings : List Setting} : Reads bytes [] settings ↔
    ∃ descriptors items, bytes = descriptors.flatten ∧
      (∀ descriptor ∈ descriptors, Proper descriptor) ∧
      List.Forall₂ Means descriptors items ∧
        items.reduceOption = settings.flatMap Setting.items := by
  constructor
  · intro reads
    obtain ⟨descriptors, items, flat, propers, meanings, same⟩ := reads.described
    exact ⟨descriptors, items, flat, propers, meanings, same.symm⟩
  · rintro ⟨descriptors, items, rfl, propers, meanings, same⟩
    exact reads_of_extendAll propers meanings (same ▸ extendAll_items settings)

/-! ## The loop -/

section Loop

variable {p : Parser} {value : Byte} {settings : List Setting} {descriptor raw : List Byte}
  {position : Nat}

/-- The parser follows a descriptor, unless no consistent settings come of it. -/
theorem Parser.Represents.addDescriptor (rep : p.Represents value settings)
    (long : 2 ≤ descriptor.length) (position : Nat) :
    Settles (fun p' => ∃ meaning next, Means descriptor meaning ∧
      extend settings meaning = some next ∧
        p'.Represents value next)
      (∀ meaning next, Means descriptor meaning → extend settings meaning = some next →
        ¬Consistent next)
      (p.addDescriptor descriptor position) := by
  have kind : descriptor[1]? = some (descriptor.getD 1 0) := by
    rw [List.getD_eq_getElem?_getD, List.getElem?_eq_getElem (by omega)]
    rfl
  rw [Parser.addDescriptor, byteAt_eq (show 1 < descriptor.length by omega)]
  simp only [bind, Except.bind]
  split
  case isTrue isInterface =>
    rw [isInterface] at kind
    by_cases whole : 9 ≤ descriptor.length
    · have means := Means.interface kind whole
      refine (rep.addInterface position whole).weaken
        (fun inconsistent meaning next means' extended => ?_)
        fun p' rep' => ⟨_, _, means, rfl, rep'⟩
      obtain rfl := means.unique means'
      exact Option.some_inj.mp extended ▸ inconsistent
    · refine .check (fun _ meaning next means' _ => ?_) fun whole' => absurd (by omega) whole'
      cases means' with
      | interface _ long' => exact absurd long' whole
      | endpoint kind' => exact absurd (Option.some_inj.mp (kind.symm.trans kind')) (by decide)
      | other found noInterface =>
        exact absurd (Option.some_inj.mp (found.symm.trans kind)) noInterface
  case isFalse noInterface =>
    split
    case isTrue isEndpoint =>
      rw [isEndpoint] at kind
      have fieldsOf {meaning : Option Item} (means : Means descriptor meaning) :
          ∃ endpoint, meaning = some (.endpoint endpoint) ∧ endpoint.OfDescriptor descriptor := by
        cases means with
        | interface kind' => exact absurd (Option.some_inj.mp (kind'.symm.trans kind)) (by decide)
        | endpoint _ fields => exact ⟨_, rfl, fields⟩
        | other found _ noEndpoint =>
          exact absurd (Option.some_inj.mp (found.symm.trans kind)) noEndpoint
      rcases List.eq_nil_or_concat settings with rfl | ⟨done, last, split⟩
      · rw [Parser.addEndpoint, rep.nothing rfl]
        intro meaning next means extended
        obtain ⟨endpoint, rfl, -⟩ := fieldsOf means
        cases extended
      · rw [List.concat_eq_append] at split
        subst split
        refine (rep.addEndpoint position).weaken
          (fun inconsistent meaning next means extended => ?_) ?_
        · obtain ⟨endpoint, rfl, fields⟩ := fieldsOf means
          exact Option.some_inj.mp ((extend_endpoint endpoint last).symm.trans extended) ▸
            inconsistent endpoint fields
        · rintro p' ⟨endpoint, fields, rep'⟩
          exact ⟨_, _, .endpoint kind fields, extend_endpoint endpoint last, rep'⟩
    case isFalse noEndpoint => exact ⟨none, settings, .other kind noInterface noEndpoint, rfl, rep⟩

/-- `configurationDescriptor` finds the descriptor that the bytes start with. -/
theorem configurationDescriptor_spec (inside : position < raw.length) :
    Settles (fun found => Proper found.1 ∧ found.2 = position + found.1.length ∧
        raw.drop position = found.1 ++ raw.drop found.2)
      (∀ descriptor rest, Proper descriptor → raw.drop position ≠ descriptor ++ rest)
      (configurationDescriptor raw position) := by
  have head : (raw.drop position).head? = some (raw.getD position 0) := by
    rw [List.head?_drop, List.getD_eq_getElem?_getD, List.getElem?_eq_getElem inside]
    rfl
  rw [configurationDescriptor, byteAt_eq inside]
  simp only [bind, Except.bind]
  refine .check (fun malformed descriptor rest proper starts => ?_) fun fits => ?_
  · obtain ⟨long, size, first, length⟩ := proper
    rw [starts, List.head?_append, first] at head
    obtain rfl : size = raw.getD position 0 := Option.some_inj.mp head
    have fits := congrArg List.length starts
    rw [List.length_drop, List.length_append] at fits
    omega
  · have length : ((raw.drop position).take (raw.getD position 0).toNat).length =
        (raw.getD position 0).toNat := by
      rw [List.length_take, List.length_drop]
      omega
    refine ⟨⟨le_of_le_of_eq (by omega) length.symm, raw.getD position 0, ?_,
      length.symm⟩, by rw [length], ?_⟩
    · rw [List.head?_take, if_neg (by omega), head]
    · rw [← List.drop_drop, List.take_append_drop]

/-- The loop reads what is left, unless no consistent settings are described there. -/
theorem configurationLoop_spec (raw : List Byte) (turns position : Nat)
    (rep : p.Represents value settings)
    (enough : raw.length ≤ position + turns) :
    Settles (fun p' => ∃ last, Reads (raw.drop position) settings last ∧ p'.Represents value last)
      (∀ last, Reads (raw.drop position) settings last → ¬Consistent last)
      (configurationLoop raw turns position p) := by
  have finished (all : ¬position < raw.length) : Reads (raw.drop position) settings settings := by
    rw [List.drop_eq_nil_of_le (by omega)]
    exact .done
  induction turns generalizing position p settings with
  | zero =>
    rw [configurationLoop, if_neg (by omega)]
    exact ⟨settings, finished (by omega), rep⟩
  | succ turns ih =>
    rw [configurationLoop]
    by_cases inside : position < raw.length
    swap
    · rw [if_neg inside]
      exact ⟨settings, finished inside, rep⟩
    rw [if_pos inside]
    have nonempty : raw.drop position ≠ [] := by
      rw [Ne, List.drop_eq_nil_iff]
      omega
    refine (configurationDescriptor_spec inside).bind (fun none last reads _ => ?_) ?_
    · generalize whole : raw.drop position = bytes at reads
      cases reads with
      | done => exact nonempty whole
      | step proper => exact none _ _ proper whole
    rintro ⟨descriptor, next⟩ ⟨proper, after, starts⟩
    dsimp only at proper after starts
    have long := proper.1
    -- What is read from here starts with this descriptor.
    have first {last : List Setting} (reads : Reads (raw.drop position) settings last) :
        ∃ meaning middle, Means descriptor meaning ∧ extend settings meaning = some middle ∧
          Reads (raw.drop next) middle last := by
      generalize whole : raw.drop position = bytes at reads
      cases reads with
      | done => exact absurd whole nonempty
      | step proper' means extended rest =>
        obtain ⟨rfl, rfl⟩ := proper.unique proper' (starts.symm.trans whole)
        exact ⟨_, _, means, extended, rest⟩
    refine (rep.addDescriptor long position).bind (fun refused last reads consistent => ?_) ?_
    · obtain ⟨meaning, middle, means, extended, rest⟩ := first reads
      exact refused meaning middle means extended (rest.consistent consistent)
    rintro p' ⟨meaning, middle, means, extended, rep'⟩
    refine (ih next rep' (by omega) ?_).weaken (fun refused last reads => ?_) ?_
    · intro all
      rw [List.drop_eq_nil_of_le (by omega)]
      exact .done
    · obtain ⟨meaning', middle', means', extended', rest⟩ := first reads
      obtain rfl := means.unique means'
      obtain rfl := Option.some_inj.mp (extended.symm.trans extended')
      exact refused last rest
    · rintro p'' ⟨last, reads, rep''⟩
      exact ⟨last, starts ▸ .step proper means extended reads, rep''⟩

end Loop

/-! ## The end of the configuration -/

/-- Numbers without repetition are all those below some bound if they are that many. -/
theorem perm_range_iff {numbers : List Nat} (distinct : numbers.Nodup) :
    numbers.Perm (List.range numbers.length) ↔ ∀ number ∈ numbers, number < numbers.length := by
  constructor
  · intro perm number member
    exact List.mem_range.mp (perm.mem_iff.mp member)
  · intro below
    have within : numbers.Subperm (List.range numbers.length) :=
      List.subperm_of_subset distinct fun number member => List.mem_range.mpr (below number member)
    exact within.perm_of_length_le (by simp)

/-- Checks of several things. -/
theorem Decides.forM {α : Type} {check : α → Except Stop Unit} {holds : α → Prop} (items : List α)
    (checks : ∀ item ∈ items, Decides (holds item) (check item)) :
    Decides (∀ item ∈ items, holds item) (items.forM check) := by
  induction items with
  | nil => exact nofun
  | cons item items ih =>
    rw [List.forall_mem_cons]
    refine (checks item List.mem_cons_self).bind (fun fails all => fails all.1) fun _ here => ?_
    exact (ih fun other member => checks other (List.mem_cons_of_mem _ member)).weaken
      (fun fails all => fails all.2) fun _ rest => ⟨here, rest⟩

section Finish

variable {p : Parser} {value : Byte} {settings : List Setting}

/-- The alternates of an interface are distinct. -/
theorem Sound.alternates (sound : Sound settings) (number : Byte) :
    ((settingsOf settings number).map (·.alternate.toNat)).Nodup := by
  have pairs := sound.pairs
  rw [List.Nodup, List.pairwise_map] at pairs ⊢
  rw [settingsOf, List.pairwise_filter]
  refine pairs.imp ?_
  intro s t apart same same' alternates
  refine apart (Prod.ext ?_ (BitVec.eq_of_toNat_eq alternates))
  rw [beq_iff_eq] at same same'
  exact same.trans same'.symm

theorem nodup_numbers (settings : List Setting) : ((numbersOf settings).map BitVec.toNat).Nodup :=
  (nodup_numbersOf settings).map fun _ _ => BitVec.eq_of_toNat_eq

/-- `finish` on one interface: its number is small enough, and its alternates are as many as their
numbers say. -/
theorem Parser.Represents.finishInterface (rep : p.Represents value settings) (count : Nat)
    {iface : Interface}
    (member : iface ∈ interfacesOf settings) :
    Decides (iface.number.toNat < count ∧
      ((settingsOf settings iface.number).map (·.alternate.toNat)).Perm
      (List.range (settingsOf settings iface.number).length)) (p.finishInterface count iface) := by
  obtain ⟨number, known, rfl⟩ := List.mem_map.mp member
  have perm := perm_range_iff (rep.consistent.toSound.alternates number)
  rw [List.length_map] at perm
  rw [perm]
  refine .check (fun outside both => absurd both.1 (by omega)) fun below =>
    .check (fun noDefault both => ?_) fun _ => ?_
  · -- Some alternate is there, and numbers below a positive bound that are as many hold zero.
    have zero : 0 ∈ (settingsOf settings number).map (·.alternate.toNat) := by
      rw [(perm.mpr both.2).mem_iff, List.mem_range, List.length_pos_iff]
      rw [mem_numbersOf, List.mem_map] at known
      obtain ⟨s, inside, same⟩ := known
      exact List.ne_nil_of_mem (List.mem_filter.mpr ⟨inside, by simpa using same⟩)
    obtain ⟨s, inside, same⟩ := List.mem_map.mp zero
    obtain ⟨inside, number⟩ := List.mem_filter.mp inside
    have present := (rep.defaults _).mpr ⟨s, inside, by simpa using number,
      BitVec.eq_of_toNat_eq same⟩
    rw [present] at noDefault
    cases noDefault
  split
  case h_1 alternate found =>
    intro both
    have large := List.find?_some found
    obtain ⟨s, inside, rfl⟩ := List.mem_map.mp (List.mem_of_find?_eq_some found)
    have small := both.2 _ (List.mem_map_of_mem inside)
    rw [decide_eq_true_eq, List.length_map] at large
    exact Nat.not_lt.mpr large small
  case h_2 none =>
    refine ⟨by omega, fun alternate member => ?_⟩
    obtain ⟨s, inside, rfl⟩ := List.mem_map.mp member
    rw [List.find?_eq_none] at none
    have small := none s.setting (List.mem_map_of_mem inside)
    rw [decide_eq_true_eq, List.length_map] at small
    exact Nat.lt_of_not_ge small

/-- `finish` accepts settings that are well-formed. -/
theorem Parser.Represents.finish (rep : p.Represents value settings) (count : Nat) :
    Decides (WellFormed count settings) (p.finish count) := by
  have length : p.configuration.interfaces.length = (numbersOf settings).length := by
    rw [rep.configuration]
    exact List.length_map _
  refine rep.finishAlternate.bind (fun incomplete wellFormed => incomplete wellFormed.complete)
    fun _ complete => ?_
  refine .check (fun none wellFormed => absurd wellFormed.some (by omega)) fun some => ?_
  refine .check (fun mismatch wellFormed => mismatch ?_) fun matching => ?_
  · have lengths := wellFormed.interfaces.length_eq
    rw [List.length_map, List.length_range] at lengths
    rw [length, lengths]
  rw [not_not, length] at matching
  have perm := perm_range_iff (nodup_numbers settings)
  rw [List.length_map, matching] at perm
  rw [rep.configuration]
  refine (Decides.forM (interfacesOf settings) fun iface member =>
    rep.finishInterface count member).weaken
    (fun refused wellFormed => refused fun iface member => ?_) fun _ all => ?_
  · obtain ⟨number, known, rfl⟩ := List.mem_map.mp member
    exact ⟨perm.mp wellFormed.interfaces _ (List.mem_map_of_mem known),
      wellFormed.alternates number known⟩
  · have interface {number : Byte} (known : number ∈ numbersOf settings) :=
      all ⟨number, (settingsOf settings number).map Setting.setting⟩ (List.mem_map_of_mem known)
    refine ⟨rep.consistent.toSound, complete, by omega, perm.mpr ?_, fun number known =>
      (interface known).2⟩
    intro index member
    obtain ⟨number, known, rfl⟩ := List.mem_map.mp member
    exact (interface known).1

theorem WellFormed.consistent {count : Nat} (wellFormed : WellFormed count settings) :
    Consistent settings :=
  ⟨wellFormed.toSound, fun s member => wellFormed.complete s (List.mem_of_mem_dropLast member)⟩

end Finish

/-! ## The configuration -/

/-- `validConfigurationHeader` reads only bytes that are there. -/
theorem validConfigurationHeader_spec (raw : List Byte) :
    ∃ valid, validConfigurationHeader raw = .ok valid ∧ (valid = true ↔ 9 ≤ raw.length ∧
      9 ≤ (raw.getD 0 0).toNat ∧
      (raw.getD 0 0).toNat ≤ raw.length ∧ raw.getD 1 0 = descriptorConfiguration ∧
      (wordAt raw 2).toNat = raw.length ∧
      raw.getD 7 0 &&& 0x80 ≠ 0 ∧ raw.getD 7 0 &&& 0x1f = 0) := by
  rw [validConfigurationHeader]
  split
  case isTrue short => exact ⟨false, rfl, iff_of_false (by decide) fun valid =>
    absurd valid.1 (by omega)⟩
  case isFalse long =>
    rw [byteAt_eq (show 0 < raw.length by omega), byteAt_eq (show 1 < raw.length by omega),
      uint16At_eq (show 2 + 1 < raw.length by omega), byteAt_eq (show 7 < raw.length by omega)]
    refine ⟨_, rfl, ?_⟩
    rw [decide_eq_true_eq, and_iff_right (show 9 ≤ raw.length by omega)]

/-- The parser returns the interfaces that the bytes describe, or no well-formed settings are
described. -/
theorem parseConfiguration_spec (raw : List Byte) :
    Settles (fun configuration => ∃ settings, Describes raw settings ∧
      WellFormed (raw.getD 4 0).toNat settings ∧
        configuration = ⟨raw.getD 5 0, interfacesOf settings⟩)
      (∀ settings, Describes raw settings → ¬WellFormed (raw.getD 4 0).toNat settings)
        (parseConfiguration raw) := by
  obtain ⟨valid, checked, header⟩ := validConfigurationHeader_spec raw
  rw [parseConfiguration, checked]
  refine .check (fun invalid settings described => ?_) fun good => ?_
  · rw [header.mpr described.header] at invalid
    cases invalid
  have header := header.mp (by simpa using good)
  have long := header.1
  rw [byteAt_eq (show 5 < raw.length by omega), byteAt_eq (show 0 < raw.length by omega),
    byteAt_eq (show 4 < raw.length by omega)]
  refine (configurationLoop_spec raw raw.length (raw.getD 0 0).toNat
    (Parser.new_represents (raw.getD 5 0))
    (by omega)).bind (fun refused settings described wellFormed => ?_) ?_
  · exact refused settings (reads_iff.mpr described.tiled) wellFormed.consistent
  rintro p ⟨settings, reads, rep⟩
  refine (rep.finish (raw.getD 4 0).toNat).bind
    (fun refused others described wellFormed => refused ?_)
    fun _ wellFormed => ?_
  · rw [reads.unique (reads_iff.mpr described.tiled)]
    exact wellFormed
  · refine ⟨settings, ⟨header, reads_iff.mp reads⟩, wellFormed, ?_⟩
    rw [← rep.value, ← rep.configuration]

/-- The parser reads no byte that is not there, finishes, and accepts a configuration if and only if
its bytes describe well-formed settings; it then returns exactly these. -/
theorem parseConfiguration_described (raw : List Byte) :
    parseConfiguration raw ≠ .error .outOfRange ∧ parseConfiguration raw ≠ .error .unfinished ∧
      ∀ configuration, parseConfiguration raw = .ok configuration ↔
        ∃ settings, Describes raw settings ∧ WellFormed (raw.getD 4 0).toNat settings ∧
          configuration = ⟨raw.getD 5 0, interfacesOf settings⟩ := by
  have settles := parseConfiguration_spec raw
  match outcome : parseConfiguration raw with
  | .ok parsed =>
    rw [outcome] at settles
    obtain ⟨settings, described, wellFormed, same⟩ := settles
    refine ⟨nofun, nofun, fun configuration => ⟨?_, ?_⟩⟩
    · rintro ⟨⟩
      exact ⟨settings, described, wellFormed, same⟩
    · rintro ⟨others, described', -, rfl⟩
      rw [same, (reads_iff.mpr described.tiled).unique (reads_iff.mpr described'.tiled)]
  | .error (.failed err) =>
    rw [outcome] at settles
    refine ⟨nofun, nofun, fun configuration => ⟨nofun, ?_⟩⟩
    rintro ⟨settings, described, wellFormed, -⟩
    exact absurd wellFormed (settles settings described)
  | .error .outOfRange =>
    rw [outcome] at settles
    cases settles
  | .error .unfinished =>
    rw [outcome] at settles
    cases settles

-- Two alternates of one interface, the second with a bulk endpoint.
example : parseConfiguration [9, 2, 34, 0, 1, 3, 0, 0x80, 50, 9, 4, 0, 0, 0, 255, 0, 0, 0,
    9, 4, 0, 1, 1, 255, 0, 0, 0, 7, 5, 0x81, 2, 64, 0, 0] =
    .ok ⟨3, [⟨0, [⟨0, 255, 0, 0, []⟩, ⟨1, 255, 0, 0, [⟨0x81, .bulk, 64⟩]⟩]⟩]⟩ := by
  decide +kernel

end Ostiole.Usb
