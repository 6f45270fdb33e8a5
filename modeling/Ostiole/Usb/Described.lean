import Mathlib.Data.List.Perm.Subperm
import Mathlib.Data.List.ReduceOption
import Ostiole.Usb.Configuration

/-!
# What configuration descriptors describe

The bytes of a configuration as a whole, without the order in which a parser meets them: the
descriptors that tile them, the settings that these describe, and what a set of settings has to
satisfy.
-/

namespace Ostiole.Usb

/-! ## Endpoints -/

/-- The endpoint number, without the direction. -/
def Endpoint.number (endpoint : Endpoint) : Byte := endpoint.address &&& 0x0f

/-- Endpoints that cannot both be in use: of one address, or of one number with a control endpoint
among them. -/
def Endpoint.Clash (first second : Endpoint) : Prop :=
  first.address = second.address ∨
    first.number = second.number ∧ (first.transferType = .control ∨ second.transferType = .control)

instance (first second : Endpoint) : Decidable (first.Clash second) :=
  inferInstanceAs (Decidable (_ ∨ _))

theorem Endpoint.Clash.symm {first second : Endpoint} (clash : first.Clash second) :
    second.Clash first := by
  obtain same | ⟨same, control⟩ := clash
  · exact .inl same.symm
  · exact .inr ⟨same.symm, control.symm⟩

/-- The number of a transfer type in the attributes of an endpoint. -/
def TransferType.code : TransferType → Byte
  | .control => 0
  | .isochronous => 1
  | .bulk => 2
  | .interrupt => 3

/-- A type whose transfers come at intervals. -/
def TransferType.Periodic (transferType : TransferType) : Prop :=
  transferType = .isochronous ∨ transferType = .interrupt

/-- The number in two bytes, the lower one first. -/
def wordAt (data : List Byte) (index : Nat) : BitVec 16 :=
  (data.getD index 0).setWidth 16 ||| (data.getD (index + 1) 0).setWidth 16 <<< 8

/-- The endpoint of a descriptor whose fields are valid. -/
structure Endpoint.OfDescriptor (descriptor : List Byte) (endpoint : Endpoint) : Prop where
  long : 7 ≤ descriptor.length
  address : endpoint.address = descriptor.getD 2 0
  usable : endpoint.number ≠ 0 ∧ endpoint.address &&& 0x70 = 0
  transferType : descriptor.getD 3 0 &&& 0x03 = endpoint.transferType.code
  /-- A feedback endpoint is not synchronized. -/
  attributes : endpoint.transferType = .isochronous → descriptor.getD 3 0 &&& 0x30 = 0x10 →
    descriptor.getD 3 0 &&& 0x0c = 0
  interval : (endpoint.transferType.Periodic → descriptor.getD 6 0 ≠ 0) ∧
    (endpoint.transferType = .isochronous → descriptor.getD 6 0 ≤ 16)
  packetSize : endpoint.maxPacketSize = wordAt descriptor 4 &&& 0x07ff ∧
    endpoint.maxPacketSize ≤ 1024 ∧ wordAt descriptor 4 &&& 0xe000 = 0
  /-- A periodic endpoint with an interval of one may have one or two more transactions, of
  packets that need as many. -/
  transactions :
    wordAt descriptor 4 &&& 0x1800 = 0 ∧
        (endpoint.maxPacketSize = 0 → endpoint.transferType.Periodic) ∨
      endpoint.transferType.Periodic ∧ descriptor.getD 6 0 = 1 ∧
        (wordAt descriptor 4 &&& 0x1800 = 0x0800 ∧ 513 ≤ endpoint.maxPacketSize ∨
          wordAt descriptor 4 &&& 0x1800 = 0x1000 ∧ 683 ≤ endpoint.maxPacketSize)

/-! ## Settings -/

/-- What an interface descriptor says. -/
structure SettingHeader where
  number : Byte
  alternate : Byte
  classCode : Byte
  subclass : Byte
  protocol : Byte
  wantEndpoints : Nat
deriving DecidableEq, Repr

/-- An alternate setting of an interface, with the endpoints that follow its descriptor. -/
structure Setting extends SettingHeader where
  endpoints : List Endpoint
deriving DecidableEq, Repr

def Setting.setting (s : Setting) : AlternateSetting :=
  ⟨s.alternate, s.classCode, s.subclass, s.protocol, s.endpoints⟩

/-- What one descriptor contributes. -/
inductive Item where
  | interface (header : SettingHeader)
  | endpoint (endpoint : Endpoint)
deriving DecidableEq, Repr

/-- The items of a setting, in descriptor order. -/
def Setting.items (s : Setting) : List Item :=
  .interface s.toSettingHeader :: s.endpoints.map .endpoint

def SettingHeader.ofDescriptor (descriptor : List Byte) : SettingHeader :=
  ⟨descriptor.getD 2 0, descriptor.getD 3 0, descriptor.getD 5 0, descriptor.getD 6 0,
    descriptor.getD 7 0, (descriptor.getD 4 0).toNat⟩

/-- What a descriptor means, if it is valid by itself. -/
inductive Means (descriptor : List Byte) : Option Item → Prop
  | interface (kind : descriptor[1]? = some descriptorInterface) (long : 9 ≤ descriptor.length) :
      Means descriptor (some (.interface (.ofDescriptor descriptor)))
  | endpoint {endpoint : Endpoint} (kind : descriptor[1]? = some descriptorEndpoint)
      (fields : endpoint.OfDescriptor descriptor) : Means descriptor (some (.endpoint endpoint))
  | other {kind : Byte} (found : descriptor[1]? = some kind) (noInterface : kind ≠
      descriptorInterface)
      (noEndpoint : kind ≠ descriptorEndpoint) : Means descriptor none

/-- A descriptor whose first byte is its length. -/
def Proper (descriptor : List Byte) : Prop :=
  2 ≤ descriptor.length ∧ ∃ size, descriptor.head? = some size ∧ size.toNat = descriptor.length

/-- The bytes behind the header are descriptors, and the descriptors are those of the settings. -/
structure Describes (raw : List Byte) (settings : List Setting) : Prop where
  header : 9 ≤ raw.length ∧ 9 ≤ (raw.getD 0 0).toNat ∧ (raw.getD 0 0).toNat ≤ raw.length ∧
    raw.getD 1 0 = descriptorConfiguration ∧
    (wordAt raw 2).toNat = raw.length ∧
    raw.getD 7 0 &&& 0x80 ≠ 0 ∧ raw.getD 7 0 &&& 0x1f = 0
  tiled : ∃ descriptors items, raw.drop (raw.getD 0 0).toNat = descriptors.flatten ∧
    (∀ descriptor ∈ descriptors, Proper descriptor) ∧ List.Forall₂ Means descriptors items ∧
    items.reduceOption = settings.flatMap Setting.items

/-- The settings of one interface. -/
def settingsOf (settings : List Setting) (number : Byte) : List Setting :=
  settings.filter (·.number == number)

/-- The interfaces of some settings, in the order in which they first occur. -/
def numbersOf (settings : List Setting) : List Byte := (settings.map (·.number)).eraseDups

/-- The interfaces that settings describe. -/
def interfacesOf (settings : List Setting) : List Interface :=
  (numbersOf settings).map fun number => ⟨number, (settingsOf settings number).map Setting.setting⟩

/-- The conditions on settings that do not depend on how many there are. -/
structure Sound (settings : List Setting) : Prop where
  pairs : (settings.map fun s => (s.number, s.alternate)).Nodup
  within : ∀ s ∈ settings, s.endpoints.Pairwise fun first second => ¬first.Clash second
  across : ∀ s ∈ settings, ∀ t ∈ settings, s.number ≠ t.number →
    ∀ first ∈ s.endpoints, ∀ second ∈ t.endpoints, ¬first.Clash second

/-- What the settings of a configuration of `count` interfaces have to satisfy. -/
structure WellFormed (count : Nat) (settings : List Setting) : Prop extends Sound settings where
  complete : ∀ s ∈ settings, s.endpoints.length = s.wantEndpoints
  some : 1 ≤ count
  interfaces : ((numbersOf settings).map BitVec.toNat).Perm (List.range count)
  alternates : ∀ number ∈ numbersOf settings,
    ((settingsOf settings number).map (·.alternate.toNat)).Perm
      (List.range (settingsOf settings number).length)

end Ostiole.Usb
