import Ostiole.Discover.Registry
import Ostiole.Logic.Program

/-!
# Discovery does not depend on order

Two runs of discovery on the same providers agree, whatever the order of registration,
of map iteration and of the providers' answers, and whatever an unstable sort does with
ties. Each list that is sorted has no element twice, its elements do not depend on the
order, and the comparison separates them.
-/

namespace Ostiole.Discover

open Ostiole Logic

variable {c : Candidate} {work : Classification} {now later : Nat} {t : Transport}
    {inventory : TransportInventory}

/-! ## Comparisons -/

instance : Std.TransCmp compareCandidates :=
  inferInstanceAs (Std.TransCmp (compareLex (compareOn fun a : Candidate => a.info.provider)
    (compareLex (compareOn fun a => a.info.serial) (compareLex (compareOn fun a => a.info.function)
    (compareLex (compareOn fun a => a.info.location) (compareLex (compareOn fun a => a.info.product)
    (compareLex (compareOn fun a => a.transport) (compareOn fun a => a.key))))))))

instance : Std.TransCmp compareWork :=
  inferInstanceAs (Std.TransCmp (compareLex (compareOn fun a : Classification => a.provider.id)
    (compareLex (compareOn fun a => a.transport.info.provider)
    (compareLex (compareOn fun a => a.transport.info.serial)
    (compareLex (compareOn fun a => a.transport.info.location)
    (compareLex (compareOn fun a => a.transport.info.product)
    (compareOn fun a => a.transport.info.key)))))))

theorem compareTransports_eq {a b : Transport} (equal : compareTransports a b = .eq) :
    a.info = b.info := by
  obtain ⟨⟨⟨product, serial, location, key⟩, provider⟩, device⟩ := a
  obtain ⟨⟨⟨product', serial', location', key'⟩, provider'⟩, device'⟩ := b
  simp only [compareTransports, Ordering.then_eq_eq, Std.LawfulEqOrd.compare_eq_iff_eq] at equal
  obtain ⟨rfl, rfl, rfl, rfl, rfl⟩ := equal
  rfl

theorem compareCandidates_eq {a b : Candidate} (equal : compareCandidates a b = .eq) :
    a.info = b.info ∧ a.transport = b.transport ∧ a.key = b.key := by
  obtain ⟨⟨⟨product, serial, function, location⟩, provider⟩, key, transport, opener⟩ := a
  obtain ⟨⟨⟨product', serial', function', location'⟩, provider'⟩, key', transport', opener'⟩ := b
  simp only [compareCandidates, Ordering.then_eq_eq, Std.LawfulEqOrd.compare_eq_iff_eq] at equal
  obtain ⟨rfl, rfl, rfl, rfl, rfl, rfl, rfl⟩ := equal
  exact ⟨rfl, rfl, rfl⟩

/-! ## The assumptions -/

/-- The attachments of a provider, and how it names them. -/
structure TransportProvider.Steady (p : TransportProvider) : Prop where
  same : ∀ {now later t}, t ∈ p.found now → t ∈ p.found later
  keys : ∀ now, ((p.found now).map (·.info.key)).Nodup

/-- The candidates of a provider for the attachments of one transport, and how it names
them. -/
structure ProbeProvider.Steady (p : ProbeProvider) (q : TransportProvider) : Prop where
  same : ∀ {now later t c}, c ∈ (p.classify now t).1 → c ∈ (p.classify later t).1
  keys : ∀ {instant t}, t ∈ q.found instant →
    ∀ now, (((Classification.mk p t).found now).map (·.key)).Nodup
  apart : ∀ {now later instant instant' t t' c c'}, t ∈ q.found instant → t' ∈ q.found instant' →
    c ∈ (Classification.mk p t).found now → c' ∈ (Classification.mk p t').found later →
    c.key = c'.key → t = t'

/-- Providers return the same attachments and candidates whenever they are asked, with
keys unique for a transport provider, and for a probe provider and its transport. -/
structure Registry.Steady (r : Registry) : Prop where
  transports : ∀ p ∈ r.transports, p.Steady
  probes : ∀ p ∈ r.probes, ∀ q ∈ r.transports, q.id = p.transport → p.Steady q

/-! ## The loops -/

section Loops

variable {α β : Type} {ctx : Ctx} {visit : α → DiscoverM (List β × List Err)} {w : World}

/-- What a turn of a loop does: it takes what is answered at that instant, and makes
the calls `log`. -/
structure Visits (visit : α → DiscoverM (List β × List Err)) (answer : α → Nat → List β)
    (log : α → List (ProbeKey × Transport)) : Prop where
  found : ∀ x w, (visit x w).1.1 = answer x w.clock
  clock : ∀ x w, (visit x w).2.clock = w.clock + 1
  calls : ∀ x w, (visit x w).2.calls = w.calls ++ log x

variable {answer : α → Nat → List β} {log : α → List (ProbeKey × Transport)}

/-- The context has not ended before the loop has. -/
theorem gather_later (ctx : Ctx) (visits : Visits visit answer log) (xs : List α) (w : World) :
    w.clock ≤ (gather ctx visit xs w).2.clock := by
  induction xs generalizing w with
  | nil => exact Nat.le_refl _
  | cons x xs ih =>
    rw [gather, run_bind]
    simp only [ctxErr]
    cases ctx.err w.clock with
    | some err => exact Nat.le_succ _
    | none =>
      have turn := visits.clock x { w with clock := w.clock + 1 }
      have rest := ih (visit x { w with clock := w.clock + 1 }).2
      simp only [turn] at rest
      exact Nat.le_trans (by omega) rest

theorem err_earlier (alive : ctx.err later = none) (before : now ≤ later) :
    ctx.err now = none := by
  cases ended : ctx.err now with
  | none => rfl
  | some cause => exact nomatch alive.symm.trans (Ctx.err_mono ended before)

/-- A loop that was not cut short asked everyone. -/
theorem gather_cons (visits : Visits visit answer log) {x : α} {xs : List α}
    (alive : ctx.err (gather ctx visit (x :: xs) w).2.clock = none) :
    ∃ w', (gather ctx visit (x :: xs) w).1.1 =
        answer x (w.clock + 1) ++ (gather ctx visit xs w').1.1 ∧
      (gather ctx visit (x :: xs) w).2 = (gather ctx visit xs w').2 ∧
      w'.calls = w.calls ++ log x := by
  have started := err_earlier alive (gather_later ctx visits (x :: xs) w)
  refine ⟨(visit x { w with clock := w.clock + 1 }).2, ?_, ?_, visits.calls x _⟩
  · rw [gather, run_bind]
    simp only [ctxErr, started]
    rw [← visits.found x { w with clock := w.clock + 1 }]
    rfl
  · rw [gather, run_bind]
    simp only [ctxErr, started]
    rfl

theorem gather_calls (visits : Visits visit answer log) (xs : List α) (w : World)
    (alive : ctx.err (gather ctx visit xs w).2.clock = none) :
    (gather ctx visit xs w).2.calls = w.calls ++ xs.flatMap log := by
  induction xs generalizing w with
  | nil => exact (List.append_nil _).symm
  | cons x xs ih =>
    obtain ⟨w', -, same, calls⟩ := gather_cons visits alive
    rw [same] at alive ⊢
    rw [ih w' alive, calls, List.flatMap_cons, List.append_assoc]

/-- What a loop finds if answers depend on time only in their order, and different
providers answer differently. -/
theorem gather_found (visits : Visits visit answer log) (xs : List α) (w : World)
    (alive : ctx.err (gather ctx visit xs w).2.clock = none)
    (same : ∀ x ∈ xs, ∀ {now later b}, b ∈ answer x now → b ∈ answer x later)
    (distinct : ∀ x ∈ xs, ∀ now, (answer x now).Nodup)
    (apart : xs.Pairwise fun x y => ∀ now later, (answer x now).Disjoint (answer y later)) :
    (gather ctx visit xs w).1.1.Nodup ∧
      ∀ b, b ∈ (gather ctx visit xs w).1.1 ↔ ∃ x ∈ xs, b ∈ answer x 0 := by
  induction xs generalizing w with
  | nil => exact ⟨List.nodup_nil, fun b => ⟨nofun, nofun⟩⟩
  | cons x xs ih =>
    obtain ⟨w', found, state, -⟩ := gather_cons visits alive
    rw [state] at alive
    rw [List.pairwise_cons] at apart
    obtain ⟨unique, members⟩ := ih w' alive
      (fun y member => same y (List.mem_cons_of_mem _ member))
      (fun y member => distinct y (List.mem_cons_of_mem _ member)) apart.2
    rw [found]
    refine ⟨List.nodup_append'.2 ⟨distinct x List.mem_cons_self _, unique, ?_⟩, fun b => ?_⟩
    · intro b here later
      obtain ⟨y, member, there⟩ := (members b).1 later
      exact apart.1 y member _ _ here there
    · rw [List.mem_append, members, List.exists_mem_cons_iff]
      exact or_congr_left ⟨same x List.mem_cons_self, same x List.mem_cons_self⟩

end Loops

theorem visitTransport_visits :
    Visits visitTransport TransportProvider.found fun _ => [] where
  found _ _ := rfl
  clock _ _ := rfl
  calls _ _ := (List.append_nil _).symm

theorem visitProbe_visits :
    Visits visitProbe Classification.found fun work =>
      [(work.provider.toProbeKey, work.transport)] where
  found _ _ := rfl
  clock _ _ := rfl
  calls _ _ := rfl

/-! ## The two phases -/

/-- A transport of a registry. -/
def Registry.Attached (r : Registry) (t : Transport) : Prop := ∃ p ∈ r.transports, t ∈ p.found 0

/-- A pair of a probe provider and a transport of the kind it classifies. -/
def Registry.Assigned (r : Registry) (work : Classification) : Prop :=
  work.provider ∈ r.probes ∧ r.Attached work.transport ∧
    work.provider.transport = work.transport.info.provider

/-- A candidate of a registry. -/
def Registry.Offered (r : Registry) (c : Candidate) : Prop :=
  ∃ work, r.Assigned work ∧ c ∈ work.found 0

section Phases

variable {r : Registry} {go : Runtime} {ctx : Ctx} {w : World}

theorem found_provider {p : TransportProvider}
    (found : t ∈ p.found now) : t.info.provider = p.id := by
  obtain ⟨_ | a, -, accepted⟩ := List.mem_filterMap.1 found
  · exact nomatch accepted
  · simp only [TransportProvider.accept, Option.bind_some] at accepted
    split at accepted
    · exact nomatch accepted
    · rw [← Option.some.inj accepted]

theorem found_candidate
    (found : c ∈ work.found now) :
    c.info.provider = work.provider.id ∧ c.transport = work.provider.transport := by
  obtain ⟨a, -, accepted⟩ := List.mem_filterMap.1 found
  rw [ProbeProvider.accept] at accepted
  split at accepted
  · exact nomatch accepted
  · rw [← Option.some.inj accepted]
    exact ⟨rfl, rfl⟩

theorem discoveryErrors_world (failures : List Err) :
    (discoveryErrors ctx failures w).2 = { w with clock := w.clock + 1 } := by
  rw [discoveryErrors, run_bind]
  simp only [ctxErr, Ctx.err]
  split
  · cases ctx.cause <;> rfl
  · rfl

/-- How `enumerate` ends if the context has not. -/
structure Enumerated (providers : List TransportProvider) (classifiers : List ProbeProvider)
    (w : World) (inventory : TransportInventory) (w' : World) : Prop where
  classifiers : inventory.classifiers = classifiers
  distinct : inventory.values.Nodup
  members : ∀ t, t ∈ inventory.values ↔ ∃ p ∈ providers, t ∈ p.found 0
  calls : w'.calls = w.calls

theorem enumerate_enumerated (go : Runtime) {providers : List TransportProvider}
    (classifiers : List ProbeProvider) (ids : providers.Pairwise fun p q => p.id ≠ q.id)
    (steady : ∀ p ∈ providers, p.Steady)
    (alive : ctx.err (enumerate go ctx providers classifiers w).2.clock = none) :
    Enumerated providers classifiers w (enumerate go ctx providers classifiers w).1.1
      (enumerate go ctx providers classifiers w).2 := by
  rw [enumerate, run_bind] at alive ⊢
  simp only [ctxErr] at alive ⊢
  cases started : ctx.err w.clock with
  | some err =>
    simp only [started] at alive
    exact nomatch alive.symm.trans (Ctx.err_mono started (Nat.le_succ _))
  | none =>
    simp only [started] at alive ⊢
    rw [run_ite] at alive ⊢
    split at alive <;> rename_i empty
    · rw [if_pos empty]
      rw [List.isEmpty_iff.1 empty]
      exact ⟨rfl, List.nodup_nil, fun t => ⟨nofun, nofun⟩, rfl⟩
    · rw [if_neg empty]
      rw [run_bind, run_bind] at alive ⊢
      simp only [run_pure, discoveryErrors_world] at alive ⊢
      have finished := err_earlier alive (Nat.le_succ _)
      have apart : providers.Pairwise fun p q => ∀ now later,
          (p.found now).Disjoint (q.found later) :=
        ids.imp fun different _ _ _ here there =>
          different ((found_provider here).symm.trans (found_provider there))
      obtain ⟨distinct, members⟩ := gather_found visitTransport_visits providers _ finished
        (fun p member => (steady p member).same)
        (fun p member now => .of_map _ ((steady p member).keys now)) apart
      refine ⟨rfl, go.sorter.nodup_sort.2 distinct,
        fun t => go.sorter.mem_sort.trans (members t), ?_⟩
      rw [gather_calls visitTransport_visits providers _ finished]
      simp

/-- How `Probes` ends if the context has not. -/
structure Classified (go : Runtime) (inventory : TransportInventory) (w : World)
    (candidates : List Candidate) (w' : World) : Prop where
  found : ∃ found, candidates = go.sorter.sort compareCandidates found ∧ found.Nodup ∧
    ∀ c, c ∈ found ↔ ∃ work ∈ inventory.pairs, c ∈ work.found 0
  calls : w'.calls = w.calls ++ (inventory.classificationWork go).map fun work =>
    (work.provider.toProbeKey, work.transport)

theorem sort_nil {α : Type} (sorter : Sorter) (cmp : α → α → Ordering) :
    sorter.sort cmp [] = [] :=
  (sorter.perm cmp []).eq_nil

theorem probes_classified (go : Runtime) (distinct : inventory.pairs.Nodup)
    (steady : ∀ work ∈ inventory.pairs, (∀ {now later c}, c ∈ work.found now →
      c ∈ work.found later) ∧
      ∀ now, (work.found now).Nodup)
    (apart : ∀ work ∈ inventory.pairs, ∀ other ∈ inventory.pairs, ∀ {now later c},
      c ∈ work.found now → c ∈ other.found later → work = other)
    (alive : ctx.err (inventory.probes go ctx w).2.clock = none) :
    Classified go inventory w (inventory.probes go ctx w).1.1 (inventory.probes go ctx w).2 := by
  rw [TransportInventory.probes, run_bind] at alive ⊢
  simp only [ctxErr] at alive ⊢
  cases started : ctx.err w.clock with
  | some err =>
    simp only [started] at alive
    exact nomatch alive.symm.trans (Ctx.err_mono started (Nat.le_succ _))
  | none =>
    simp only [started] at alive ⊢
    rw [run_ite] at alive ⊢
    split at alive <;> rename_i empty
    · rw [if_pos empty]
      have none : inventory.pairs = [] := by
        simp [TransportInventory.pairs, List.isEmpty_iff.1 empty]
      refine ⟨⟨[], (sort_nil _ _).symm, List.nodup_nil, ?_⟩, ?_⟩
      · simp [none]
      · rw [TransportInventory.classificationWork, none, sort_nil]
        exact (List.append_nil _).symm
    · rw [if_neg empty]
      rw [run_bind, run_bind] at alive ⊢
      simp only [run_pure, discoveryErrors_world] at alive ⊢
      have finished := err_earlier alive (Nat.le_succ _)
      have assigned : ∀ work ∈ inventory.classificationWork go, work ∈ inventory.pairs :=
        fun work member => go.sorter.mem_sort.1 member
      have disjoint : (inventory.classificationWork go).Pairwise fun work other =>
          ∀ now later, (work.found now).Disjoint (other.found later) := by
        refine List.Pairwise.imp_of_mem ?_ (go.sorter.nodup_sort.2 distinct)
        intro work other left right different now later c here there
        exact different (apart work (assigned work left) other (assigned other right) here there)
      obtain ⟨unique, members⟩ := gather_found visitProbe_visits _ _ finished
        (fun work member => (steady work (assigned work member)).1)
        (fun work member => (steady work (assigned work member)).2) disjoint
      refine ⟨⟨_, rfl, unique, fun c => (members c).trans ?_⟩, ?_⟩
      · simp [TransportInventory.classificationWork]
      · rw [gather_calls visitProbe_visits _ _ finished, List.map_eq_flatMap]

theorem snapshot_perm (r : Registry) (go : Runtime) (w : World) :
    (r.snapshot go w).1.1.Perm r.transports ∧ (r.snapshot go w).1.2.Perm r.probes ∧
      (r.snapshot go w).2.calls = w.calls :=
  ⟨(go.sorter.perm _ _).trans (go.range_perm _ _),
    (go.sorter.perm _ _).trans (go.range_perm _ _), rfl⟩

/-! ## Names -/

/-- A name belongs to one element of a list without repeated names. -/
theorem eq_of_name {α β : Type} {name : α → β} {list : List α} (names : (list.map name).Nodup)
    {a b : α} (left : a ∈ list) (right : b ∈ list) (same : name a = name b) : a = b :=
  List.inj_on_of_nodup_map names left right same

/-- A transport is known by its metadata. -/
theorem attached_unique (steady : r.Steady) {t' : Transport} (attached : r.Attached t)
    (attached' : r.Attached t') (same : t.info = t'.info) : t = t' := by
  obtain ⟨p, member, found⟩ := attached
  obtain ⟨p', member', found'⟩ := attached'
  have one : p = p' := eq_of_name r.transportIds member member'
    ((found_provider found).symm.trans ((congrArg (·.provider) same).trans (found_provider found')))
  subst one
  exact eq_of_name ((steady.transports p member).keys 0) found found' (congrArg (·.key) same)

/-- The work is known by what `compareWork` compares. -/
theorem assigned_unique (steady : r.Steady) {other : Classification} (assigned : r.Assigned work)
    (assigned' : r.Assigned other) (equal : compareWork work other = .eq) : work = other := by
  obtain ⟨p, t⟩ := work
  obtain ⟨p', t'⟩ := other
  obtain ⟨member, attached, kind⟩ := assigned
  obtain ⟨member', attached', kind'⟩ := assigned'
  rw [compareWork, Ordering.then_eq_eq, Std.LawfulEqOrd.compare_eq_iff_eq] at equal
  have info := compareTransports_eq equal.2
  have one : p = p' := eq_of_name r.probeKeys member member' <| by
    have transport : p.transport = p'.transport :=
      kind.trans ((congrArg (·.provider) info).trans kind'.symm)
    exact congrArg₂ ProbeKey.mk equal.1 transport
  have same : t = t' := attached_unique steady attached attached' info
  rw [one, same]

theorem Registry.Assigned.steady (steady : r.Steady)
    (assigned : r.Assigned work) : ∃ q ∈ r.transports, work.transport ∈ q.found 0 ∧
      q.id = work.provider.transport ∧ work.provider.Steady q := by
  obtain ⟨member, ⟨q, attached, found⟩, kind⟩ := assigned
  have id : q.id = work.provider.transport := (found_provider found).symm.trans kind.symm
  exact ⟨q, attached, found, id, steady.probes _ member q attached id⟩

theorem found_same {p : ProbeProvider} {q : TransportProvider} (steady : p.Steady q)
    (found : c ∈ (Classification.mk p t).found now) :
    c ∈ (Classification.mk p t).found later := by
  obtain ⟨a, member, accepted⟩ := List.mem_filterMap.1 found
  exact List.mem_filterMap.2 ⟨a, steady.same member, accepted⟩

/-- A candidate is known by its provider, its transport and its key. -/
theorem found_unique (steady : r.Steady) {other : Classification} (assigned : r.Assigned work)
    (assigned' : r.Assigned other) {c' : Candidate} (found : c ∈ work.found now)
    (found' : c' ∈ other.found later) (provider : c.info.provider = c'.info.provider)
    (transport : c.transport = c'.transport) (key : c.key = c'.key) : work = other ∧ c = c' := by
  obtain ⟨q, attached, place, id, calm⟩ := assigned.steady steady
  obtain ⟨q', attached', place', id', -⟩ := assigned'.steady steady
  obtain ⟨p, t⟩ := work
  obtain ⟨p', t'⟩ := other
  obtain ⟨owner, carrier⟩ := found_candidate found
  obtain ⟨owner', carrier'⟩ := found_candidate found'
  have one : p = p' := eq_of_name r.probeKeys assigned.1 assigned'.1 <|
    congrArg₂ ProbeKey.mk (owner.symm.trans (provider.trans owner'))
      (carrier.symm.trans (transport.trans carrier'))
  subst one
  have source : q = q' := eq_of_name r.transportIds attached attached' (id.trans id'.symm)
  subst source
  have same : t = t' := calm.apart place place' found found' key
  subst same
  exact ⟨rfl, eq_of_name (calm.keys place now) found (found_same calm found') key⟩

/-! ## Whole runs -/

/-- How discovery ends if the context has not: it works off a list of pairs and finds
a list of candidates, both without repetition, and sorts them. -/
structure Discovered (r : Registry) (go : Runtime) (w : World) (candidates : List Candidate)
    (w' : World) (pairs : List Classification) (found : List Candidate) : Prop where
  distinct : pairs.Nodup
  assigned : ∀ work, work ∈ pairs ↔ r.Assigned work
  calls : w'.calls = w.calls ++ (go.sorter.sort compareWork pairs).map fun work =>
    (work.provider.toProbeKey, work.transport)
  unique : found.Nodup
  offered : ∀ c, c ∈ found ↔ r.Offered c
  candidates : candidates = go.sorter.sort compareCandidates found

theorem probes_later (inventory : TransportInventory) (w : World) :
    w.clock ≤ (inventory.probes go ctx w).2.clock := by
  rw [TransportInventory.probes, run_bind]
  simp only [ctxErr]
  cases ctx.err w.clock with
  | some err => exact Nat.le_succ _
  | none =>
    simp only
    rw [run_ite]
    split
    · exact Nat.le_succ _
    · rw [run_bind, run_bind]
      simp only [run_pure, discoveryErrors_world]
      have later := gather_later ctx visitProbe_visits
        (inventory.classificationWork go) { w with clock := w.clock + 1 }
      exact Nat.le_trans (Nat.le_succ _) (Nat.le_succ_of_le later)

theorem pairs_nodup (values : inventory.values.Nodup)
    (classifiers : inventory.classifiers.Nodup) : inventory.pairs.Nodup := by
  refine List.nodup_flatMap.2 ⟨fun t _ => ?_, values.imp fun different work left right => ?_⟩
  · exact (classifiers.filter _).map fun p q same => (Classification.mk.inj same).1
  · obtain ⟨p, -, rfl⟩ := List.mem_map.1 left
    obtain ⟨q, -, same⟩ := List.mem_map.1 right
    exact different (Classification.mk.inj same).2.symm

theorem mem_pairs :
    work ∈ inventory.pairs ↔ work.provider ∈ inventory.classifiers ∧
      work.transport ∈ inventory.values ∧
        work.provider.transport = work.transport.info.provider := by
  obtain ⟨p, t⟩ := work
  simp only [TransportInventory.pairs, List.mem_flatMap, List.mem_map, List.mem_filter,
    decide_eq_true_eq, Classification.mk.injEq]
  constructor
  · rintro ⟨t', value, p', ⟨member, kind⟩, rfl, rfl⟩
    exact ⟨member, value, kind⟩
  · rintro ⟨member, value, kind⟩
    exact ⟨t, value, p, ⟨member, kind⟩, rfl, rfl⟩

theorem discover_discovered (steady : r.Steady)
    (alive : ctx.err (r.discover go ctx w).2.clock = none) :
    ∃ pairs found, Discovered r go w (r.discover go ctx w).1 (r.discover go ctx w).2 pairs
      found := by
  obtain ⟨transports, probes, quiet⟩ := snapshot_perm r go w
  rw [Registry.discover, run_bind] at alive ⊢
  rw [Registry.enumerateTransports, run_bind] at alive ⊢
  generalize r.snapshot go w = outcome at alive transports probes quiet ⊢
  obtain ⟨⟨providers, classifiers⟩, w₁⟩ := outcome
  simp only at alive transports probes quiet ⊢
  rw [run_bind] at alive ⊢
  have ids : providers.Pairwise fun p q => p.id ≠ q.id :=
    List.pairwise_map.1 ((transports.map _).nodup_iff.2 r.transportIds)
  have enumerated := enumerate_enumerated go classifiers ids
    (fun p member => steady.transports p (transports.mem_iff.1 member))
    (err_earlier alive (probes_later _ _))
  generalize enumerate go ctx providers classifiers w₁ = outcome at alive enumerated ⊢
  obtain ⟨⟨inventory, err⟩, w₂⟩ := outcome
  simp only at alive enumerated ⊢
  have assigned : ∀ work, work ∈ inventory.pairs ↔ r.Assigned work := by
    intro work
    rw [mem_pairs, enumerated.classifiers, probes.mem_iff, enumerated.members, Registry.Assigned,
      Registry.Attached]
    simp only [transports.mem_iff]
  have distinct : inventory.pairs.Nodup := by
    refine pairs_nodup enumerated.distinct ?_
    rw [enumerated.classifiers, probes.nodup_iff]
    exact .of_map _ r.probeKeys
  have classified := probes_classified go (w := w₂) distinct (fun work member => ?_)
    (fun work member other member' {now later c} left right =>
      (found_unique steady ((assigned work).1 member) ((assigned other).1 member') left right
        rfl rfl rfl).1) alive
  · obtain ⟨found, candidates, unique, members⟩ := classified.found
    refine ⟨inventory.pairs, found, distinct, assigned, ?_, unique, fun c => ?_, candidates⟩
    · exact classified.calls.trans (by rw [enumerated.calls, quiet]; rfl)
    · rw [members, Registry.Offered]
      simp only [assigned]
  · obtain ⟨q, -, place, -, calm⟩ := ((assigned work).1 member).steady steady
    exact ⟨found_same calm, fun now => .of_map _ (calm.keys place now)⟩

end Phases

section Agreement

variable {r r' : Registry}

theorem Registry.assigned_congr (transports : r.transports.Perm r'.transports)
    (probes : r.probes.Perm r'.probes) (work : Classification) :
    r.Assigned work ↔ r'.Assigned work := by
  simp only [Registry.Assigned, Registry.Attached, transports.mem_iff, probes.mem_iff]

theorem Registry.Steady.congr (steady : r.Steady) (transports : r.transports.Perm r'.transports)
    (probes : r.probes.Perm r'.probes) : r'.Steady :=
  ⟨fun p member => steady.transports p (transports.mem_iff.2 member),
    fun p member q other => steady.probes p (probes.mem_iff.2 member) q
      (transports.mem_iff.2 other)⟩

end Agreement

/-- Two registries that hold the same providers, however they came to be registered, and
two runtimes that iterate over maps and sort in their own ways, make the same calls of
`classify` in the same order and produce the same candidates: in strict order, each of
those the providers offer once. -/
theorem discovery_order_independent (r r' : Registry) (go go' : Runtime) (ctx ctx' : Ctx)
    (now now' : Nat) (transports : r.transports.Perm r'.transports)
    (probes : r.probes.Perm r'.probes) (steady : r.Steady)
    (alive : ctx.err (r.discover go ctx ⟨now, []⟩).2.clock = none)
    (alive' : ctx'.err (r'.discover go' ctx' ⟨now', []⟩).2.clock = none) :
    (r.discover go ctx ⟨now, []⟩).2.calls = (r'.discover go' ctx' ⟨now', []⟩).2.calls ∧
      (r.discover go ctx ⟨now, []⟩).1 = (r'.discover go' ctx' ⟨now', []⟩).1 ∧
      (r.discover go ctx ⟨now, []⟩).1.Pairwise (fun a b => compareCandidates a b = .lt) ∧
      (r.discover go ctx ⟨now, []⟩).1.Nodup ∧
      ∀ c, c ∈ (r.discover go ctx ⟨now, []⟩).1 ↔ r.Offered c := by
  obtain ⟨pairs, found, one⟩ := discover_discovered steady alive
  obtain ⟨pairs', found', other⟩ := discover_discovered (steady.congr transports probes) alive'
  have assigned := Registry.assigned_congr transports probes
  have work : go.sorter.sort compareWork pairs = go'.sorter.sort compareWork pairs' := by
    refine go.sorter.sort_eq go'.sorter one.distinct other.distinct (fun work => ?_) ?_
    · rw [one.assigned, other.assigned, assigned]
    · exact fun a left b right => assigned_unique steady ((one.assigned a).1 left)
        ((one.assigned b).1 right)
  have separates : Separates compareCandidates found := by
    intro a left b right equal
    obtain ⟨work, given, member⟩ := (one.offered a).1 left
    obtain ⟨work', given', member'⟩ := (one.offered b).1 right
    obtain ⟨info, transport, key⟩ := compareCandidates_eq equal
    exact (found_unique steady given given' member member'
      (congrArg (·.provider) info) transport key).2
  refine ⟨?_, ?_, ?_, ?_, fun c => ?_⟩
  · rw [one.calls, other.calls, work]
  · rw [one.candidates, other.candidates]
    refine go.sorter.sort_eq go'.sorter one.unique other.unique (fun c => ?_) separates
    rw [one.offered, other.offered, Registry.Offered, Registry.Offered]
    simp only [assigned]
  · rw [one.candidates]
    exact go.sorter.sort_strict one.unique separates
  · rw [one.candidates]
    exact go.sorter.nodup_sort.2 one.unique
  · rw [one.candidates, go.sorter.mem_sort, one.offered]

/-! ## A registry -/

/-- Two attachments `1` and `2`, in an order that changes with time. -/
def usbProvider : TransportProvider where
  address := 0
  id := [117, 115, 98]
  enumerate now :=
    let first : Attachment := ⟨⟨[80], [83], [76], [49]⟩, 1⟩
    let second : Attachment := ⟨⟨[80], [83], [76], [50]⟩, 2⟩
    (if now % 2 = 0 then [some first, some second] else [none, some second, some first], none)

/-- A provider without attachments. -/
def netProvider : TransportProvider where
  address := 1
  id := [110, 101, 116]
  enumerate _ := ([], some (.text "no route"))

/-- One candidate for each attachment, with its key. -/
def dapProvider : ProbeProvider where
  id := [100, 97, 112]
  transport := [117, 115, 98]
  classify _ t := ([⟨⟨⟨[80], [83], [70], [76]⟩, []⟩, t.info.key, [], some t.attachment.device⟩],
    none)

def usbFirst : Registry :=
  (((Registry.empty.registerTransport (some usbProvider)).2.registerTransport
    (some netProvider)).2.registerProbe (some dapProvider)).2

def netFirst : Registry :=
  (((Registry.empty.registerProbe (some dapProvider)).2.registerTransport
    (some netProvider)).2.registerTransport (some usbProvider)).2

/-- A runtime that iterates in the order of registration, or against it. -/
def runtime (forward : Bool) : Runtime where
  sorter := .insertion
  range _ _ entries := if forward then entries else entries.reverse
  range_perm _ _ entries := by
    cases forward with
    | true => exact .refl _
    | false => exact entries.reverse_perm

theorem mem_usb_found :
    t ∈ usbProvider.found now ↔
      t = ⟨⟨⟨[80], [83], [76], [49]⟩, [117, 115, 98]⟩, ⟨⟨[80], [83], [76], [49]⟩, 1⟩⟩ ∨
      t = ⟨⟨⟨[80], [83], [76], [50]⟩, [117, 115, 98]⟩, ⟨⟨[80], [83], [76], [50]⟩, 2⟩⟩ := by
  by_cases even : now % 2 = 0
  · simp [TransportProvider.found, TransportProvider.accept, usbProvider, even]
  · simp [TransportProvider.found, TransportProvider.accept, usbProvider, even, or_comm]

theorem usbFirst_steady : usbFirst.Steady := by
  have transports : usbFirst.transports = [usbProvider, netProvider] := rfl
  have probes : usbFirst.probes = [dapProvider] := rfl
  constructor
  · rw [transports]
    refine List.forall_mem_cons.2 ⟨⟨?_, fun now => ?_⟩, List.forall_mem_singleton.2 ⟨?_,
      fun _ => ?_⟩⟩
    · exact fun found => mem_usb_found.2 (mem_usb_found.1 found)
    · by_cases even : now % 2 = 0 <;>
        simp [TransportProvider.found, TransportProvider.accept, usbProvider, even]
    · exact id
    · exact List.nodup_nil
  · rw [transports, probes]
    refine List.forall_mem_singleton.2 (List.forall_mem_cons.2 ⟨fun _ => ⟨id, ?_, ?_⟩, ?_⟩)
    · intro instant t attached now
      rcases mem_usb_found.1 attached with rfl | rfl <;> exact List.nodup_singleton _
    · intro now later instant instant' t t' c c' attached attached' found found' key
      rcases mem_usb_found.1 attached with rfl | rfl <;>
        rcases mem_usb_found.1 attached' with rfl | rfl <;>
        rw [List.mem_singleton.1 found, List.mem_singleton.1 found'] at key <;>
        first | rfl | exact absurd key (by decide)
    · exact List.forall_mem_singleton.2 fun same => absurd same (by decide)

/-- Two registrations of the same providers, in either order and with other schedules,
discover the same. -/
theorem discovery_order_independent_usb :
    (usbFirst.discover (runtime true) ⟨100, .canceled⟩ ⟨0, []⟩).1 =
      (netFirst.discover (runtime false) ⟨100, .canceled⟩ ⟨1, []⟩).1 :=
  (discovery_order_independent usbFirst netFirst (runtime true) (runtime false) ⟨100, .canceled⟩
    ⟨100, .canceled⟩ 0 1 (.swap _ _ _) (.refl _) usbFirst_steady (by decide) (by decide)).2.1

end Ostiole.Discover
