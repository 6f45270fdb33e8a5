import Ostiole.Go.Context
import Ostiole.Logic.Sort

/-!
# Discovery

`discover.Registry` keeps providers of transports and of probes. `Transports` asks
every transport provider for its attachments, `Probes` asks the probe providers to
classify them. What a provider answers is fixed by a schedule; the order in which Go
iterates over a map and the outcome of its unstable sort are left open.
-/

namespace Ostiole.Discover

open Ostiole Logic

/-- A Go string: `cmp.Compare` compares the bytes. -/
abbrev Text := List UInt8

/-- The `%s` verb. -/
def Text.format (text : Text) : String := String.ofList (text.map fun byte => Char.ofNat byte.toNat)

/-- What the Go runtime leaves open: the order of a map at each instant, and what
`slices.SortFunc` does with elements that compare equal. -/
structure Runtime where
  sorter : Sorter
  range : Nat → {α : Type} → List α → List α
  range_perm : ∀ (now : Nat) {α : Type} (entries : List α), (range now entries).Perm entries

/-! ## Identities -/

/-- `AttachmentInfo`. -/
structure AttachmentInfo where
  product : Text
  serial : Text
  location : Text
  key : Text
deriving DecidableEq

/-- `Attachment`. `device` stands for the transport-specific identity. -/
structure Attachment where
  info : AttachmentInfo
  device : Nat
deriving DecidableEq

/-- `TransportInfo`. -/
structure TransportInfo extends AttachmentInfo where
  provider : Text
deriving DecidableEq

/-- `Transport`. -/
structure Transport where
  info : TransportInfo
  attachment : Attachment
deriving DecidableEq

/-- `probe.Info`. -/
structure ProbeInfo where
  product : Text
  serial : Text
  function : Text
  location : Text
deriving DecidableEq

/-- `CandidateInfo`, as it is stored. -/
structure CandidateInfo extends ProbeInfo where
  provider : Text
deriving DecidableEq

/-- `Candidate`. `opener` stands for the callback, which may be nil. -/
structure Candidate where
  info : CandidateInfo
  key : Text
  transport : Text
  opener : Option Nat
deriving DecidableEq

/-- `compareTransports`. -/
def compareTransports (a b : Transport) : Ordering :=
  (compare a.info.provider b.info.provider).then <| (compare a.info.serial b.info.serial).then <|
    (compare a.info.location b.info.location).then <|
    (compare a.info.product b.info.product).then (compare a.info.key b.info.key)

/-- `compareCandidates`. -/
def compareCandidates (a b : Candidate) : Ordering :=
  (compare a.info.provider b.info.provider).then <| (compare a.info.serial b.info.serial).then <|
    (compare a.info.function b.info.function).then <|
    (compare a.info.location b.info.location).then <|
    (compare a.info.product b.info.product).then <|
    (compare a.transport b.transport).then (compare a.key b.key)

/-! ## Providers -/

/-- `TransportProvider`, with its address and its answer at each instant. An
attachment may be nil. -/
structure TransportProvider where
  address : Nat
  id : Text
  enumerate : Nat → List (Option Attachment) × Option Err

/-- `probeKey`. -/
structure ProbeKey where
  id : Text
  transport : Text
deriving DecidableEq

/-- `ProbeProvider`, with its answer at each instant. -/
structure ProbeProvider extends ProbeKey where
  classify : Nat → Transport → List Candidate × Option Err

/-- `Registry`. Its maps have one provider for each key. -/
structure Registry where
  transports : List TransportProvider
  probes : List ProbeProvider
  transportIds : (transports.map (·.id)).Nodup
  probeKeys : (probes.map (·.toProbeKey)).Nodup

namespace Registry

/-- The zero value. -/
def empty : Registry := ⟨[], [], List.nodup_nil, List.nodup_nil⟩

/-- `addTransport`. A provider without a callback is refused as a nil one is. -/
def addTransport (r : Registry) (p : Option TransportProvider) (ensure : Bool) :
    Option Err × Registry :=
  match p with
  | none => (some (.text "discover: invalid transport provider"), r)
  | some p =>
    if p.id = [] then (some (.text "discover: invalid transport provider"), r)
    else match previous : r.transports.find? (fun q => q.id = p.id) with
      | some q =>
        if ensure ∧ q.address = p.address then (none, r)
        else (some (.wrap ("discover: duplicate provider: transport " ++ p.id.format)
          (.sentinel .duplicateProvider)), r)
      | none => (none, { r with
          transports := r.transports ++ [p]
          transportIds := by
            have fresh : ∀ q ∈ r.transports, q.id ≠ p.id := by simpa using previous
            rw [List.map_append]
            refine List.nodup_append.2 ⟨r.transportIds, List.nodup_singleton _, ?_⟩
            simpa using fresh })

/-- `RegisterTransport`. -/
def registerTransport (r : Registry) (p : Option TransportProvider) : Option Err × Registry :=
  r.addTransport p false

/-- `RegisterProbe`. -/
def registerProbe (r : Registry) (p : Option ProbeProvider) : Option Err × Registry :=
  match p with
  | none => (some (.text "discover: invalid probe provider"), r)
  | some p =>
    if p.id = [] ∨ p.transport = [] then (some (.text "discover: invalid probe provider"), r)
    else if known : ∃ q ∈ r.probes, q.toProbeKey = p.toProbeKey then
      (some (.wrap ("discover: duplicate provider: probe " ++ p.id.format ++ " over " ++
        p.transport.format) (.sentinel .duplicateProvider)), r)
    else (none, { r with
      probes := r.probes ++ [p]
      probeKeys := by
        rw [List.map_append]
        refine List.nodup_append.2 ⟨r.probeKeys, List.nodup_singleton _, ?_⟩
        simpa using known })

end Registry

/-! ## Runs -/

/-- The clock, and the calls of `classify` made so far. -/
structure World where
  clock : Nat
  calls : List (ProbeKey × Transport)

abbrev DiscoverM := StateM World

def ctxErr (ctx : Ctx) : DiscoverM (Option Err) := fun w =>
  (ctx.err w.clock, { w with clock := w.clock + 1 })

def tick : DiscoverM Nat := fun w => (w.clock, { w with clock := w.clock + 1 })

/-- A loop that asks one provider after another until the context ends. -/
def gather {α β : Type} (ctx : Ctx) (visit : α → DiscoverM (List β × List Err)) :
    List α → DiscoverM (List β × List Err)
  | [] => return ([], [])
  | x :: xs => do
    if let some _ ← ctxErr ctx then return ([], [])
    let (found, failures) ← visit x
    let (rest, later) ← gather ctx visit xs
    return (found ++ rest, failures ++ later)

/-- `discoveryErrors`. -/
def discoveryErrors (ctx : Ctx) (failures : List Err) : DiscoverM (Option Err) := do
  let err := joinErrs failures
  match ← ctxErr ctx with
  | none => return err
  | some (.sentinel cause) =>
    return if isErr err cause then err else Err.joined err (some (.sentinel cause))
  | some cause => return Err.joined err (some cause)

/-- `missingDependencies`. -/
def missingDependencies (transports : List TransportProvider) (probes : List ProbeProvider) :
    List Err :=
  probes.filterMap fun p =>
    if transports.any fun t => t.id = p.transport then none
    else some (.text ("discover: probe " ++ p.id.format ++ " requires unregistered transport " ++
      p.transport.format))

/-! ## Transports -/

/-- An attachment as `enumerate` keeps it: not a nil one, and not one without a key. -/
def TransportProvider.accept (p : TransportProvider) (attachment : Option Attachment) :
    Option Transport :=
  attachment.bind fun a =>
    if a.info.key = [] then none else some ⟨⟨a.info, p.id⟩, a⟩

/-- The transports found in the answer at one instant. -/
def TransportProvider.found (p : TransportProvider) (now : Nat) : List Transport :=
  (p.enumerate now).1.filterMap p.accept

/-- One turn of the loop of `enumerate`. -/
def visitTransport (p : TransportProvider) : DiscoverM (List Transport × List Err) := do
  let now ← tick
  let failure := (p.enumerate now).2.map fun err =>
    Err.wrap ("discover: transport " ++ p.id.format) err
  let refused := (p.enumerate now).1.filter fun a => (p.accept a).isNone
  return (p.found now, failure.toList ++ refused.map fun _ =>
    .text ("discover: transport " ++ p.id.format ++ " returned invalid attachment"))

/-- `TransportInventory`. -/
structure TransportInventory where
  values : List Transport
  classifiers : List ProbeProvider

/-- `enumerate`. -/
def enumerate (go : Runtime) (ctx : Ctx) (providers : List TransportProvider)
    (classifiers : List ProbeProvider) : DiscoverM (TransportInventory × Option Err) := do
  if let some err ← ctxErr ctx then return (⟨[], []⟩, some err)
  let missing := missingDependencies providers classifiers
  if providers.isEmpty then
    return (⟨[], classifiers⟩, joinErrs (missing ++ [.sentinel .noProviders]))
  let (found, failures) ← gather ctx visitTransport providers
  let values := go.sorter.sort compareTransports found
  return (⟨values, classifiers⟩, ← discoveryErrors ctx (missing ++ failures))

namespace Registry

/-- `snapshot`. -/
def snapshot (r : Registry) (go : Runtime) :
    DiscoverM (List TransportProvider × List ProbeProvider) := do
  let transports := go.range (← tick) r.transports
  let probes := go.range (← tick) r.probes
  return (go.sorter.sort (fun a b => compare a.id b.id) transports,
    go.sorter.sort (fun a b => (compare a.id b.id).then (compare a.transport b.transport)) probes)

/-- `Transports`. -/
def enumerateTransports (r : Registry) (go : Runtime) (ctx : Ctx) :
    DiscoverM (TransportInventory × Option Err) := do
  let (providers, classifiers) ← r.snapshot go
  enumerate go ctx providers classifiers

end Registry

/-! ## Probes -/

/-- `classification`. -/
structure Classification where
  provider : ProbeProvider
  transport : Transport

/-- The comparison of `classificationWork`. -/
def compareWork (a b : Classification) : Ordering :=
  (compare a.provider.id b.provider.id).then (compareTransports a.transport b.transport)

/-- A candidate as `Probes` keeps it: not one without a key or an opener. -/
def ProbeProvider.accept (p : ProbeProvider) (c : Candidate) : Option Candidate :=
  if c.opener.isNone ∨ c.key = [] then none
  else some { c with info := { c.info with provider := p.id }, transport := p.transport }

/-- The candidates found in the answer at one instant. -/
def Classification.found (work : Classification) (now : Nat) : List Candidate :=
  (work.provider.classify now work.transport).1.filterMap work.provider.accept

/-- One turn of the loop of `Probes`. -/
def visitProbe (work : Classification) : DiscoverM (List Candidate × List Err) := do
  let p := work.provider
  let place := "discover: probe " ++ p.id.format ++ " over " ++ p.transport.format ++ " at " ++
    Text.format work.transport.info.key
  let now ← tick
  modify fun w => { w with calls := w.calls ++ [(p.toProbeKey, work.transport)] }
  let failure := (p.classify now work.transport).2.map fun err => Err.wrap place err
  let refused := (p.classify now work.transport).1.filter fun c => (p.accept c).isNone
  return (work.found now, failure.toList ++ refused.map fun _ =>
    .text (place ++ " returned invalid candidate"))

namespace TransportInventory

/-- `classificationWork`, before it is sorted. -/
def pairs (inventory : TransportInventory) : List Classification :=
  inventory.values.flatMap fun transport =>
    (inventory.classifiers.filter fun p => p.transport = transport.info.provider).map
      fun p => ⟨p, transport⟩

/-- `classificationWork`. -/
def classificationWork (inventory : TransportInventory) (go : Runtime) : List Classification :=
  go.sorter.sort compareWork inventory.pairs

/-- `Probes`. -/
def probes (inventory : TransportInventory) (go : Runtime) (ctx : Ctx) :
    DiscoverM (List Candidate × Option Err) := do
  if let some err ← ctxErr ctx then return ([], some err)
  if inventory.classifiers.isEmpty then return ([], some (.sentinel .noProviders))
  let (found, failures) ← gather ctx visitProbe (inventory.classificationWork go)
  let candidates := go.sorter.sort compareCandidates found
  return (candidates, ← discoveryErrors ctx failures)

end TransportInventory

/-- `Transports` followed by `Probes`. -/
def Registry.discover (r : Registry) (go : Runtime) (ctx : Ctx) : DiscoverM (List Candidate) := do
  let (inventory, _) ← r.enumerateTransports go ctx
  let (candidates, _) ← inventory.probes go ctx
  return candidates

end Ostiole.Discover
