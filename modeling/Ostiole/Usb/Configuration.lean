import Ostiole.Go.Error

/-!
# Configuration descriptors

The parser of `configuration.go`. An index outside a slice stops the parser like an error does,
so that its absence can be stated; maps are functions, with their zero value where a key is
missing.
-/

namespace Ostiole.Usb

open Ostiole

abbrev Byte := BitVec 8

def descriptorConfiguration : Byte := 0x02

def descriptorInterface : Byte := 0x04

def descriptorEndpoint : Byte := 0x05

/-- `TransferType`. -/
inductive TransferType where
  | control | isochronous | bulk | interrupt
deriving DecidableEq, Repr

/-- `TransferType(attributes & 0x03)`. -/
def TransferType.ofAttributes (attributes : Byte) : TransferType :=
  if attributes &&& 0x03 = 0 then .control
  else if attributes &&& 0x03 = 1 then .isochronous
  else if attributes &&& 0x03 = 2 then .bulk
  else .interrupt

/-- `Endpoint`. -/
structure Endpoint where
  address : Byte
  transferType : TransferType
  maxPacketSize : BitVec 16
deriving DecidableEq, Repr

/-- `AlternateSetting`. -/
structure AlternateSetting where
  number : Byte
  classCode : Byte
  subclass : Byte
  protocol : Byte
  endpoints : List Endpoint
deriving DecidableEq, Repr

/-- `Interface`. -/
structure Interface where
  number : Byte
  alternates : List AlternateSetting
deriving DecidableEq, Repr

/-- `Configuration`. -/
structure Configuration where
  value : Byte
  interfaces : List Interface
deriving DecidableEq, Repr

/-- Why the parser does not return a configuration. -/
inductive Stop where
  | failed (err : Err)
  /-- An index outside a slice: a panic. -/
  | outOfRange
  /-- The loop was not given enough turns. -/
  | unfinished
deriving DecidableEq, Repr

/-- `fmt.Errorf` and `errors.New`. -/
def fail {α : Type} (message : String) : Except Stop α := .error (.failed (.text message))

/-- `data[index]`. -/
def byteAt (data : List Byte) (index : Nat) : Except Stop Byte :=
  match data[index]? with
  | some byte => .ok byte
  | none => .error .outOfRange

/-- `binary.LittleEndian.Uint16(data[index : index+2])`. -/
def uint16At (data : List Byte) (index : Nat) : Except Stop (BitVec 16) := do
  let low ← byteAt data index
  let high ← byteAt data (index + 1)
  return low.setWidth 16 ||| high.setWidth 16 <<< 8

/-! ## Endpoints -/

/-- `validEndpointAttributes`. -/
def validEndpointAttributes (attributes : Byte) (transferType : TransferType) : Bool :=
  if transferType ≠ .isochronous then true
  else attributes &&& 0x30 ≠ 0x10 ∨ attributes &&& 0x0c = 0

/-- `validEndpointInterval`. -/
def validEndpointInterval (interval : Byte) (transferType : TransferType)
    (encodedPacketSize : BitVec 16) : Bool :=
  if transferType = .isochronous ∧ (interval = 0 ∨ interval > 16) then false
  else if transferType = .interrupt ∧ interval = 0 then false
  else
    let periodic := transferType = .isochronous ∨ transferType = .interrupt
    ¬periodic ∨ encodedPacketSize &&& 0x1800 = 0 ∨ interval = 1

/-- `validEndpointTransactions`. -/
def validEndpointTransactions (transactions : BitVec 16) (transferType : TransferType) : Bool :=
  transactions ≠ 0x1800 ∧ (transactions = 0 ∨ transferType = .isochronous ∨
    transferType = .interrupt)

/-- `endpointPacketSizeMinimum`. -/
def endpointPacketSizeMinimum (transactions : BitVec 16) : BitVec 16 :=
  if transactions = 0 then 1 else if transactions = 0x0800 then 513 else 683

/-- `endpointMaxPacketSize`. -/
def endpointMaxPacketSize (encoded : BitVec 16) (transferType : TransferType) : BitVec 16 × Bool :=
  let transactions := encoded &&& 0x1800
  if encoded &&& 0xe000 ≠ 0 ∨ !validEndpointTransactions transactions transferType then (0, false)
  else
    let size := encoded &&& 0x07ff
    let minimum := endpointPacketSizeMinimum transactions
    (size, size ≤ 1024 ∧ (size ≥ minimum ∨ transactions = 0 ∧ size = 0 ∧
      (transferType = .interrupt ∨ transferType = .isochronous)))

/-- `endpointFromDescriptor`. -/
def endpointFromDescriptor (descriptor : List Byte) (position : Nat) : Except Stop Endpoint := do
  if descriptor.length < 7 then
    fail s!"usb: invalid endpoint descriptor length {descriptor.length} at offset {position}"
  else
    let address ← byteAt descriptor 2
    if address &&& 0x0f = 0 ∨ address &&& 0x70 ≠ 0 then
      fail ("usb: invalid endpoint address " ++ hex 2 address.toNat ++ s!" at offset {position}")
    else
      let attributes ← byteAt descriptor 3
      let transferType := TransferType.ofAttributes attributes
      if !validEndpointAttributes attributes transferType then
        fail ("usb: invalid endpoint attributes " ++ hex 2 attributes.toNat ++
          s!" at offset {position}")
      else
        let encodedPacketSize ← uint16At descriptor 4
        let interval ← byteAt descriptor 6
        if !validEndpointInterval interval transferType encodedPacketSize then
          fail s!"usb: invalid endpoint interval {interval.toNat} at offset {position}"
        else
          let (maxPacketSize, ok) := endpointMaxPacketSize encodedPacketSize transferType
          if !ok then
            fail ("usb: invalid endpoint maximum packet size " ++ hex 4 encodedPacketSize.toNat ++
              s!" at offset {position}")
          else return ⟨address, transferType, maxPacketSize⟩

/-! ## The parser -/

/-- `configurationParser`. `alternate` points into the configuration: the position of an interface
and of one of its alternates. The slices grow only where it is set again. -/
structure Parser where
  configuration : Configuration
  interfaces : Byte → Option Nat
  defaultAlternates : Byte → Bool
  endpointInterfaces : Byte → Option Byte
  endpointNumberInterfaces : Byte → List Byte
  controlEndpointInterfaces : Byte → Option Byte
  alternate : Option (Nat × Nat)
  alternateEndpoints : Byte → Bool
  alternateEndpointNumbers : Byte → Byte
  interfaceNumber : Byte
  wantEndpoints : Nat

def endpointNumberSeen : Byte := 1

def controlEndpointSeen : Byte := 2

/-- The parser before the first descriptor. -/
def Parser.new (value : Byte) : Parser where
  configuration := ⟨value, []⟩
  interfaces _ := none
  defaultAlternates _ := false
  endpointInterfaces _ := none
  endpointNumberInterfaces _ := []
  controlEndpointInterfaces _ := none
  alternate := none
  alternateEndpoints _ := false
  alternateEndpointNumbers _ := 0
  interfaceNumber := 0
  wantEndpoints := 0

namespace Parser

/-- `*p.alternate`. -/
def current (p : Parser) : Option AlternateSetting := do
  let (interface, alternate) ← p.alternate
  let found ← p.configuration.interfaces[interface]?
  found.alternates[alternate]?

/-- Change the interface at a position. -/
def modifyInterface (p : Parser) (index : Nat) (change : Interface → Interface) : Parser :=
  { p with configuration := { p.configuration with
    interfaces := p.configuration.interfaces.modify index change } }

/-- `finishAlternate`. -/
def finishAlternate (p : Parser) : Except Stop Unit :=
  match p.current with
  | none => .ok ()
  | some alternate =>
    if alternate.endpoints.length ≠ p.wantEndpoints then
      fail "usb: interface endpoint count does not match its descriptor"
    else .ok ()

/-- `interfaceFor`: where the interface is, once it is there. -/
def interfaceFor (p : Parser) (number : Byte) : Parser × Nat :=
  match p.interfaces number with
  | some index => (p, index)
  | none =>
    let index := p.configuration.interfaces.length
    ({ p with
      interfaces := Function.update p.interfaces number (some index)
      configuration := { p.configuration with
        interfaces := p.configuration.interfaces ++ [⟨number, []⟩] } },
      index)

/-- `addInterface`. -/
def addInterface (p : Parser) (descriptor : List Byte) (position : Nat) : Except Stop Parser := do
  if descriptor.length < 9 then
    fail s!"usb: invalid interface descriptor length {descriptor.length} at offset {position}"
  else
    p.finishAlternate
    let interfaceNumber ← byteAt descriptor 2
    let number ← byteAt descriptor 3
    let wantEndpoints ← byteAt descriptor 4
    let classCode ← byteAt descriptor 5
    let subclass ← byteAt descriptor 6
    let protocol ← byteAt descriptor 7
    let (p, index) := p.interfaceFor interfaceNumber
    match p.configuration.interfaces[index]? with
    | none => .error .outOfRange
    | some iface =>
      if iface.alternates.any (·.number == number) then
        fail s!"usb: duplicate interface {interfaceNumber.toNat} alternate {number.toNat}"
      else
        let p := p.modifyInterface index fun iface =>
          { iface with
            alternates := iface.alternates ++ [⟨number, classCode, subclass, protocol, []⟩] }
        return { p with
          defaultAlternates :=
            if number = 0 then Function.update p.defaultAlternates interfaceNumber true
              else p.defaultAlternates
          alternate := some (index, iface.alternates.length)
          alternateEndpoints := fun _ => false
          alternateEndpointNumbers := fun _ => 0
          interfaceNumber := interfaceNumber
          wantEndpoints := wantEndpoints.toNat }

/-- `validateEndpoint` in an alternate. Go does not fix the order in which it ranges over the
owners, so that it may name another one. -/
def validateEndpoint (p : Parser) (alternate : AlternateSetting) (address : Byte)
    (transferType : TransferType) :
    Except Stop Unit := do
  let number := address &&& 0x0f
  let interface := p.interfaceNumber.toNat
  if p.alternateEndpoints address then
    fail ("usb: duplicate endpoint " ++ hex 2 address.toNat ++
      s!" in interface {interface} alternate {alternate.number.toNat}")
  else
    let seen := p.alternateEndpointNumbers number
    if transferType = .control ∧ seen &&& endpointNumberSeen ≠ 0 ∨
      seen &&& controlEndpointSeen ≠ 0 then
      fail (s!"usb: conflicting control endpoint number {number.toNat} in interface {interface} " ++
        s!"alternate {alternate.number.toNat}")
    else
      match (p.endpointInterfaces address).filter (· ≠ p.interfaceNumber) with
      | some owner =>
        fail ("usb: endpoint " ++ hex 2 address.toNat ++
          s!" belongs to interfaces {owner.toNat} and {interface}")
      | none =>
        match (p.controlEndpointInterfaces number).filter (· ≠ p.interfaceNumber) with
        | some owner =>
          fail (s!"usb: control endpoint number {number.toNat} belongs to interfaces " ++
            s!"{owner.toNat} and {interface}")
        | none =>
          match if transferType = .control then
              (p.endpointNumberInterfaces number).find? (· ≠ p.interfaceNumber) else none with
          | some owner =>
            fail (s!"usb: control endpoint number {number.toNat} belongs to interfaces " ++
              s!"{owner.toNat} and {interface}")
          | none => return ()

/-- `recordEndpoint`. -/
def recordEndpoint (p : Parser) (address : Byte) (transferType : TransferType) : Parser :=
  let number := address &&& 0x0f
  let seen := p.alternateEndpointNumbers number ||| endpointNumberSeen
  { p with
    alternateEndpoints := Function.update p.alternateEndpoints address true
    alternateEndpointNumbers := Function.update p.alternateEndpointNumbers number
      (if transferType = .control then seen ||| controlEndpointSeen else seen)
    controlEndpointInterfaces :=
      if transferType = .control then Function.update p.controlEndpointInterfaces number
        (some p.interfaceNumber)
      else p.controlEndpointInterfaces
    endpointInterfaces := Function.update p.endpointInterfaces address (some p.interfaceNumber)
    endpointNumberInterfaces := Function.update p.endpointNumberInterfaces number
      (p.interfaceNumber :: p.endpointNumberInterfaces number) }

/-- `addEndpoint`. -/
def addEndpoint (p : Parser) (descriptor : List Byte) (position : Nat) : Except Stop Parser := do
  match p.alternate, p.current with
  | some (interface, index), some alternate =>
    let endpoint ← endpointFromDescriptor descriptor position
    p.validateEndpoint alternate endpoint.address endpoint.transferType
    return (p.recordEndpoint endpoint.address endpoint.transferType).modifyInterface interface
      fun iface =>
      { iface with alternates := iface.alternates.modify index fun alternate =>
          { alternate with endpoints := alternate.endpoints ++ [endpoint] } }
  | _, _ => fail s!"usb: invalid endpoint descriptor at offset {position}"

/-- The checks of `finish` on one interface. -/
def finishInterface (p : Parser) (wantInterfaces : Nat) (iface : Interface) : Except Stop Unit := do
  if iface.number.toNat ≥ wantInterfaces then
    fail (s!"usb: interface {iface.number.toNat} is outside configuration interface count " ++
      s!"{wantInterfaces}")
  else if !p.defaultAlternates iface.number then
    fail s!"usb: interface {iface.number.toNat} has no alternate setting zero"
  else
    match iface.alternates.find? fun alternate =>
      alternate.number.toNat ≥ iface.alternates.length with
    | some alternate =>
      fail (s!"usb: interface {iface.number.toNat} alternate setting {alternate.number.toNat} " ++
        s!"is outside range 0 through {iface.alternates.length - 1}")
    | none => return ()

/-- `finish`. -/
def finish (p : Parser) (wantInterfaces : Nat) : Except Stop Unit := do
  p.finishAlternate
  if wantInterfaces = 0 then fail "usb: configuration descriptor has no interfaces"
  else if p.configuration.interfaces.length ≠ wantInterfaces then
    fail "usb: interface count does not match configuration descriptor"
  else p.configuration.interfaces.forM (p.finishInterface wantInterfaces)

/-- The descriptors that the parser looks at; it skips the others. -/
def addDescriptor (p : Parser) (descriptor : List Byte) (position : Nat) : Except Stop Parser := do
  let kind ← byteAt descriptor 1
  if kind = descriptorInterface then p.addInterface descriptor position
  else if kind = descriptorEndpoint then p.addEndpoint descriptor position
  else return p

end Parser

/-- `configurationDescriptor`: the descriptor at a position and the position behind it. -/
def configurationDescriptor (raw : List Byte) (position : Nat) : Except Stop (List Byte × Nat) := do
  let length := (← byteAt raw position).toNat
  if length < 2 ∨ position +
    length > raw.length then fail s!"usb: malformed descriptor at offset {position}"
  else return ((raw.drop position).take length, position + length)

/-- The loop of `parseConfiguration`. -/
def configurationLoop (raw : List Byte) : Nat → Nat → Parser → Except Stop Parser
  | 0, position, p => if position < raw.length then .error .unfinished else .ok p
  | turns + 1, position, p =>
    if position < raw.length then do
      let (descriptor, next) ← configurationDescriptor raw position
      let p ← p.addDescriptor descriptor position
      configurationLoop raw turns next p
    else .ok p

/-- `validConfigurationHeader`. -/
def validConfigurationHeader (raw : List Byte) : Except Stop Bool := do
  if raw.length < 9 then return false
  else
    let size ← byteAt raw 0
    let kind ← byteAt raw 1
    let total ← uint16At raw 2
    let attributes ← byteAt raw 7
    return size.toNat ≥ 9 ∧ size.toNat ≤ raw.length ∧ kind = descriptorConfiguration ∧
      total.toNat = raw.length ∧
      attributes &&& 0x80 ≠ 0 ∧ attributes &&& 0x1f = 0

/-- `parseConfiguration`. -/
def parseConfiguration (raw : List Byte) : Except Stop Configuration := do
  if !(← validConfigurationHeader raw) then fail "usb: malformed configuration descriptor"
  else
    let value ← byteAt raw 5
    let position ← byteAt raw 0
    let p ← configurationLoop raw raw.length position.toNat (.new value)
    p.finish (← byteAt raw 4).toNat
    return p.configuration

end Ostiole.Usb
