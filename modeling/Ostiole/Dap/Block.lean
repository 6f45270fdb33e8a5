import Mathlib.Data.BitVec

/-!
# Block transfers

`memap_block.go`: a byte range becomes naturally aligned edges around word runs
that stay inside the TAR auto-increment window.
-/

namespace Ostiole.Dap

/-- `TransferSize`; `invalid` is every value outside the declared ones. -/
inductive TransferSize where
  | size8 | size16 | size32 | size64 | invalid
deriving DecidableEq, Repr

/-- `sizeBytes`, zero for an invalid size. -/
def TransferSize.bytes : TransferSize → Nat
  | .size8 => 1
  | .size16 => 2
  | .size32 => 4
  | .size64 => 8
  | .invalid => 0

/-- `tarAutoIncrementWindow`. -/
def tarAutoIncrementWindow : Nat := 0x400

/-- `blockSegment`. -/
structure BlockSegment where
  offset : Nat
  address : BitVec 64
  size : TransferSize
  count : Nat
  autoIncrement : Bool
deriving DecidableEq, Repr

/-- The width of the next edge segment. -/
def edgeSize (addr : BitVec 64) (left : Nat) : TransferSize :=
  if addr &&& 1 = 0 ∧ left ≥ 2 then .size16 else .size8

/-- Edge segments while `wanted`, each at least one byte. -/
def edgeSegments (wanted : BitVec 64 → Bool) :
    Nat → Nat → BitVec 64 → Nat → List BlockSegment × Nat × BitVec 64
  | 0, offset, addr, _ => ([], offset, addr)
  | turns + 1, offset, addr, length =>
    if offset < length ∧ wanted addr then
      let size := edgeSize addr (length - offset)
      let (rest, last) := edgeSegments wanted turns (offset + size.bytes)
        (addr + BitVec.ofNat 64 size.bytes) length
      (⟨offset, addr, size, 1, false⟩ :: rest, last)
    else ([], offset, addr)

/-- Word segments up to the next window boundary, each at least one word. -/
def wordSegments : Nat → Nat → BitVec 64 → Nat → List BlockSegment × Nat × BitVec 64
  | 0, offset, addr, _ => ([], offset, addr)
  | turns + 1, offset, addr, words =>
    if words = 0 then ([], offset, addr)
    else
      let window := (tarAutoIncrementWindow - addr.toNat % tarAutoIncrementWindow) / 4
      let count := min words window
      let (rest, last) := wordSegments turns (offset + 4 * count)
        (addr + BitVec.ofNat 64 (4 * count)) (words - count)
      (⟨offset, addr, .size32, count, true⟩ :: rest, last)

/-- `blockSegments`. -/
def blockSegments (addr : BitVec 64) (length : Nat) : List BlockSegment :=
  let (head, offset, addr) := edgeSegments (fun addr => addr &&& 3 != 0) length 0 addr length
  let words := (length - offset) / 4
  let (middle, offset, addr) := wordSegments words offset addr words
  let (tail, _) := edgeSegments (fun _ => true) length offset addr length
  head ++ middle ++ tail

end Ostiole.Dap
