import Ostiole.Go.Error

/-!
# Debug components and ROM tables

`component.go` and `rom.go`. Identification and table entries are read through a scalar
reader, which is a parameter here: the walk supplies a target that answers as it likes, the
specification of the walk a memory.
-/

namespace Ostiole.Coresight

open Ostiole

/-- What a `ScalarReader` and a context offer. -/
structure Source (m : Type → Type) where
  ctxErr : m (Option Err)
  /-- `ReadScalar` with `Size32`. -/
  readScalar : BitVec 64 → ExceptT Err m (BitVec 64)

/-- `Component`, without what no walk looks at. -/
structure Component where
  base : BitVec 64
  cidr : Word
  pidr : BitVec 64
  devarch : Word
  devid : Word
  devtype : BitVec 8
deriving DecidableEq, Repr

/-- `Architecture`. -/
structure Architecture where
  architect : BitVec 16
  id : BitVec 16
  revision : BitVec 8
deriving DecidableEq, Repr

namespace Component

/-- `Class`. -/
def componentClass (c : Component) : BitVec 8 := (c.cidr >>> 12 &&& 0xf).setWidth 8

/-- `Architecture`. -/
def architecture (c : Component) : Option Architecture :=
  if c.componentClass ≠ 9 ∨ c.devarch &&& (1#32 <<< 20) = 0 then none
  else some ⟨(c.devarch >>> 21).setWidth 16, c.devarch.setWidth 16,
    (c.devarch >>> 16 &&& 0xf).setWidth 8⟩

end Component

/-! ## Identification -/

section Identify

variable {m : Type → Type} [Monad m] (reader : Source m)

/-- `ctx.Err()`. -/
def poll : ExceptT Err m Unit := do
  if let some err ← reader.ctxErr then throw err

/-- `readWord`. -/
def readWord (address : BitVec 64) : ExceptT Err m Word := do
  poll reader
  let word ← (reader.readScalar address).adapt (.wrap ("coresight: read " ++ hex 0 address.toNat))
  return word.setWidth 32

/-- `readID`: the low byte of the register at each offset. -/
def readID (base : BitVec 64) : Nat → List (BitVec 64) → BitVec 64 → ExceptT Err m (BitVec 64)
  | _, [], id => return id
  | i, offset :: rest, id => do
    let word ← readWord reader (base + offset)
    readID base (i + 1) rest (id ||| (word &&& 0xff).setWidth 64 <<< (8 * i))

/-- `readDevice`. -/
def readDevice (c : Component) : ExceptT Err m Component := do
  let devarch ← readWord reader (c.base + 0xfbc)
  let devid ← readWord reader (c.base + 0xfc8)
  let devtype ← readWord reader (c.base + 0xfcc)
  return { c with devarch := devarch, devid := devid, devtype := devtype.setWidth 8 }

/-- `Identify`. -/
def identify (base : BitVec 64) : ExceptT Err m Component := do
  if base &&& 0xfff ≠ 0 then
    throw (.text ("coresight: unaligned identification page " ++ hex 0 base.toNat))
  else
    poll reader
    let cidr ← readID reader base 0 [0xff0, 0xff4, 0xff8, 0xffc] 0
    if cidr.setWidth 32 &&& 0xffff0fff#32 ≠ 0xb105000d#32 then
      throw (.text ("coresight: invalid CIDR " ++ hex 8 cidr.toNat ++ " at " ++ hex 0 base.toNat))
    else
      let pidr ← readID reader base 0 [0xfe0, 0xfe4, 0xfe8, 0xfec, 0xfd0, 0xfd4, 0xfd8, 0xfdc] 0
      let c : Component := ⟨base, cidr.setWidth 32, pidr, 0, 0, 0⟩
      if c.componentClass = 9 then readDevice reader c else return c

end Identify

/-! ## ROM tables -/

/-- `ErrNotROMTable`. -/
def errNotROMTable : Err := .sentinel .notROMTable

/-- `ROMTable`. -/
structure ROMTable where
  base : BitVec 64
  count : Nat
  stride : BitVec 64
  tableClass : BitVec 8
deriving DecidableEq, Repr

/-- `Component.ROMTable`. -/
def Component.romTable (c : Component) : Except Err ROMTable :=
  if c.base &&& 0xfff ≠ 0 ∨ c.cidr &&& 0xffff0fff#32 ≠ 0xb105000d#32 then
    .error (.text "coresight: invalid component snapshot")
  else
    let table : ROMTable := ⟨c.base, 960, 4, c.componentClass⟩
    if c.componentClass = 1 then .ok table
    else
      match c.architecture with
      | none => .error errNotROMTable
      | some arch =>
        if arch.architect ≠ 0x23b ∨ arch.id ≠ 0x0af7 then .error errNotROMTable
        else if arch.revision ≠ 0 ∨ c.devid &&& 0xf > 1 then
          .error (.text (s!"coresight: unsupported ROM revision {arch.revision.toNat} or format " ++
            hex 0 (c.devid &&& 0xf).toNat))
        else if c.devid &&& 0xf = 1 then .ok { table with count := 256, stride := 8 }
        else .ok { table with count := 512 }

/-- `ROMEntry`. -/
structure ROMEntry where
  raw : BitVec 64
  base : BitVec 64
  present : Bool
  isEnd : Bool
  powerID : BitVec 8
  powerIDValid : Bool
deriving DecidableEq, Repr

/-- The zero `ROMEntry`. -/
def ROMEntry.zero : ROMEntry := ⟨0, 0, false, false, 0, false⟩

namespace ROMTable

/-- `entryBase`. -/
def entryBase (t : ROMTable) (raw : BitVec 64) : Except Err (BitVec 64) :=
  let offset := if t.stride = 4 then ((raw &&& ~~~0xfff).setWidth 32).signExtend 64
    else raw &&& ~~~0xfff
  let base := t.base + offset
  if offset = 0 ∨ (0 < offset.toInt ∧ base < t.base) ∨ (offset.toInt < 0 ∧ base > t.base) then
    .error (.text "zero offset or address outside uint64 range")
  else .ok base

/-- `decode`. -/
def decode (t : ROMTable) (raw : BitVec 64) : Except Err ROMEntry :=
  let entry : ROMEntry := { ROMEntry.zero with raw := raw, isEnd := raw = 0 }
  if raw = 0 then .ok entry
  else if t.tableClass = 9 ∧ raw &&& 3 = 2 then .ok entry
  else if raw &&& 2 = 0 ∨ (t.tableClass = 9 ∧ raw &&& 3 ≠ 3) then
    .error (.text "invalid entry format or presence")
  else if raw &&& 0xe08 ≠ 0 ∨ (raw &&& 4 = 0 ∧ raw &&& 0x1f0 ≠ 0) then
    .error (.text "reserved entry bits are nonzero")
  else if raw &&& 1 = 0 then .ok entry
  else
    match t.entryBase raw with
    | .error err => .error err
    | .ok base =>
      .ok { entry with
        base := base
        present := true
        powerID := (raw >>> 4 &&& 0x1f).setWidth 8
        powerIDValid := raw &&& 4 ≠ 0 }

section ReadEntry

variable {m : Type → Type} [Monad m] (reader : Source m)

/-- The address of an entry. -/
def entryAddress (t : ROMTable) (index : Int) : BitVec 64 :=
  t.base + BitVec.ofInt 64 index * t.stride

/-- The words of an entry. -/
def readRaw (t : ROMTable) (address : BitVec 64) : ExceptT Err m (BitVec 64) := do
  let low ← readWord reader address
  if t.stride = 8 then
    let high ← readWord reader (address + 4)
    return low.setWidth 64 ||| high.setWidth 64 <<< 32
  else return low.setWidth 64

/-- `ReadEntry`. -/
def readEntry (t : ROMTable) (index : Int) : ExceptT Err m ROMEntry := do
  if index < 0 ∨ index ≥ t.count then throw (.text s!"coresight: invalid ROM entry index {index}")
  else
    let raw ← t.readRaw reader (t.entryAddress index)
    match t.decode raw with
    | .error err => throw (.wrap ("coresight: ROM entry at " ++ hex 0 (t.entryAddress index).toNat)
        err)
    | .ok entry => return entry

end ReadEntry

end ROMTable

end Ostiole.Coresight
