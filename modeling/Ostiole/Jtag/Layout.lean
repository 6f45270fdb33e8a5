import Ostiole.Go.Error

/-!
# Layouts

`layout.go`, and the records of `chain.go` and `tap.go`. A layout lists its TAPs
in scan-out order, nearest TDO first.
-/

namespace Ostiole.Jtag

open Ostiole

/-- `ObservedTAP`: one reset data register. Bypass means a one-bit zero, not an
identity of zero. -/
structure ObservedTAP where
  idcode : BitVec 32
  bypass : Bool
deriving DecidableEq, Repr

/-- `TAPSpec`: an expected instruction length and reset register. -/
structure TAPSpec where
  ir : Nat
  reset : ObservedTAP
deriving DecidableEq, Repr

/-- `IDCODE`. -/
def TAPSpec.idcode (irBits : Int) (id : BitVec 32) : Except Err TAPSpec :=
  if irBits < 2 ∨ irBits > 64 ∨ id &&& 1 = 0 ∨ id = BitVec.allOnes 32 then
    .error (.text "jtag: invalid IR length or IDCODE")
  else .ok ⟨irBits.toNat, ⟨id, false⟩⟩

/-- `Bypass`. -/
def TAPSpec.bypass (irBits : Int) : Except Err TAPSpec :=
  if irBits < 2 ∨ irBits > 64 then .error (.text "jtag: invalid IR length")
  else .ok ⟨irBits.toNat, ⟨0, true⟩⟩

/-- `Layout`. -/
abbrev Layout := List TAPSpec

/-- `Layout.Validate`. -/
def Layout.validate (layout : Layout) : Option Err :=
  if layout.length = 0 ∨ layout.length > 1024 then
    some (.text "jtag: bounded nonempty layout required")
  else if layout.any fun spec => decide (spec.ir < 2 ∨ spec.ir > 64) then
    some (.text "jtag: invalid TAP specification")
  else none

/-- The total instruction length. -/
def Layout.irBits (layout : Layout) : Nat := (layout.map (·.ir)).sum

/-- The instruction bits of the TAPs nearer TDO than `index`. -/
def Layout.offset (layout : Layout) (index : Nat) : Nat := Layout.irBits (layout.take index)

/-- `Chain`. `serial` and `generation`, both `uint64` in the source, are unbounded here:
see `Sound.valid_uint64`. `selected` is `none` for -1. -/
structure Chain where
  layout : Layout
  irBits : Nat
  serial : Nat
  generation : Nat
  valid : Bool
  released : Bool
  selected : Option Nat
deriving DecidableEq, Repr

/-- `NewChain` on a connection. -/
def newChain (layout : Layout) : Except Err Chain :=
  match layout.validate with
  | some err => .error err
  | none => .ok ⟨layout, layout.irBits, 0, 0, false, true, none⟩

/-- `TAP`: a position in a chain, borrowed in one generation of it. Chains are
known by their position in the world. -/
structure TAP where
  chain : Nat
  index : Nat
  generation : Nat
deriving DecidableEq, Repr

end Ostiole.Jtag
