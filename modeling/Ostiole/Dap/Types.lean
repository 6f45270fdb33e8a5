import Ostiole.Target.Registers

/-!
# Debug-port registers and selectors

`types.go`, `identity.go` and the selector parts of `ap.go` and `apv2.go`.
-/

namespace Ostiole.Dap

open Ostiole

/-- A logical debug-port register. -/
inductive DPRegister where
  | dpidr | abort | ctrlStat | dlcr | targetID | dlpidr | eventStat | select | resend | rdbuff
  | idcode | dpidr1 | basePtr0 | basePtr1 | select1
deriving DecidableEq, Repr

/-- `dpRegisterInfo`. -/
structure RegisterInfo where
  name : String
  offset : BitVec 8
  bank : BitVec 4
  bankIndependent : Bool
  readable : Bool
  writable : Bool
  minVersion : Nat
deriving DecidableEq, Repr

/-- `describeDPRegister` and `describeBankedDPRegister`. Every constructor of
`DPRegister` is described, so the lookup does not fail. -/
def describeDPRegister : DPRegister → RegisterInfo
  | .idcode => ⟨"IDCODE", 0x00, 0, true, true, false, 0⟩
  | .dpidr => ⟨"DPIDR", 0x00, 0, true, true, false, 0⟩
  | .abort => ⟨"ABORT", 0x00, 0, true, false, true, 0⟩
  | .ctrlStat => ⟨"CTRL/STAT", 0x04, 0, false, true, true, 0⟩
  | .select => ⟨"SELECT", 0x08, 0, true, false, true, 0⟩
  | .resend => ⟨"RESEND", 0x08, 0, true, true, false, 0⟩
  | .rdbuff => ⟨"RDBUFF", 0x0c, 0, true, true, false, 0⟩
  | .dpidr1 => ⟨"DPIDR1", 0x00, 1, false, true, false, 3⟩
  | .basePtr0 => ⟨"BASEPTR0", 0x00, 2, false, true, false, 3⟩
  | .basePtr1 => ⟨"BASEPTR1", 0x00, 3, false, true, false, 3⟩
  | .select1 => ⟨"SELECT1", 0x04, 5, false, false, true, 3⟩
  | .dlcr => ⟨"DLCR", 0x04, 1, false, true, true, 1⟩
  | .targetID => ⟨"TARGETID", 0x04, 2, false, true, false, 2⟩
  | .dlpidr => ⟨"DLPIDR", 0x04, 3, false, true, false, 2⟩
  | .eventStat => ⟨"EVENTSTAT", 0x04, 4, false, true, false, 2⟩

def dpRegisterOffset (reg : DPRegister) : BitVec 8 := (describeDPRegister reg).offset

/-- The bank an operation on this register names. -/
def RegisterInfo.named (info : RegisterInfo) : Named :=
  if info.bankIndependent then .unbanked else .dpBank info.bank

/-- `dpTransferRequest`. -/
def dpTransferRequest (reg : DPRegister) (read : Bool) : Request :=
  let info := describeDPRegister reg
  ⟨false, read, info.offset, some ⟨0, info.named, none⟩⟩

/-- `DPIDRInfo`. -/
structure DPIDRInfo where
  raw : Word
  revision : BitVec 4
  part : BitVec 8
  minimal : Bool
  version : Nat
  designer : BitVec 11
deriving DecidableEq, Repr

/-- Go's zero value. -/
def DPIDRInfo.zero : DPIDRInfo := ⟨0, 0, 0, false, 0, 0⟩

/-- `Identity`. -/
structure Identity where
  dpidr : DPIDRInfo
  idcode : Word
deriving DecidableEq, Repr

def Identity.zero : Identity := ⟨.zero, 0⟩

/-- `APSel`: an ADIv5 index or an ADIv6 base address. -/
inductive APSel where
  | invalid
  | v1 (index : BitVec 8)
  | v2 (base : BitVec 64)
deriving DecidableEq, Repr

/-! ## CTRL/STAT -/

/-- `transactionModes`. -/
def transactionModes : Word := 3#32 <<< 2 ||| 0xfff#32 <<< 12

/-- `powerAcks`. -/
def powerAcks (requests : Word) : Word :=
  (if requests.has debugPowerRequest then debugPowerAck else 0) |||
  (if requests.has systemPowerRequest then systemPowerAck else 0)

/-- DPv3 CTRL/STAT.ERRMODE. -/
def errorMode : Word := 1#32 <<< 24

end Ostiole.Dap
