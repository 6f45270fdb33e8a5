import Mathlib.Data.List.GetD
import Ostiole.Jtag.Conn

/-!
# Reset registers

`observations` inverts the way a chain lays out its reset registers: each register starts at
its own bit offset, a one-bit zero or an identity, and ones follow the last of them. No
register can be taken for the ones, and no identity for a zero.
-/

namespace Ostiole.Jtag

open Ostiole

/-- The bits of a reset register, first out first. -/
def ObservedTAP.bits (register : ObservedTAP) : List Bool :=
  if register.bypass then [false] else (List.range 32).map register.idcode.getLsbD

/-- A reset register that the standard allows. -/
def ObservedTAP.Valid (register : ObservedTAP) : Prop :=
  register = ⟨0, true⟩ ∨
    register.bypass = false ∧ register.idcode &&& 1 ≠ 0 ∧ register.idcode ≠ BitVec.allOnes 32

instance (register : ObservedTAP) : Decidable register.Valid :=
  inferInstanceAs (Decidable (_ ∨ _))

/-- A buffer of 32 bits more than `maxTAPs` identities, from an offset on: registers, then ones. -/
def Carries (data : Buffer) (maxTAPs offset : Nat) (registers : List ObservedTAP) : Prop :=
  ∀ i, offset + i < 32 * (maxTAPs + 1) →
    data.get (offset + i) = (registers.flatMap (·.bits)).getD i true

instance (data : Buffer) (maxTAPs : Nat) (registers : List ObservedTAP) :
    Decidable (Carries data maxTAPs 0 registers) :=
  decidable_of_iff (∀ i < 32 * (maxTAPs + 1), data.get i = (registers.flatMap (·.bits)).getD i true)
    (forall_congr' fun i => by rw [Nat.zero_add])

section Carries

variable {data : Buffer} {maxTAPs offset : Nat} {register : ObservedTAP} {rest : List ObservedTAP}

/-- Behind the last register there are ones. -/
theorem Carries.ended (carries : Carries data maxTAPs offset []) (inside : offset ≤ 32 * maxTAPs) :
    data.word offset = BitVec.allOnes 32 := by
  apply Buffer.word_eq
  intro i small
  rw [carries i (by omega), BitVec.getLsbD_allOnes]
  simp [small]

theorem Carries.tail (carries : Carries data maxTAPs offset (register :: rest)) :
    Carries data maxTAPs (offset + register.bits.length) rest := by
  intro i inside
  rw [Nat.add_assoc] at inside ⊢
  rw [carries _ inside, List.flatMap_cons, List.getD_append_right _ _ _ _ (Nat.le_add_right _ _),
    Nat.add_sub_cancel_left]

/-- What the loop sees of a register: a word that is even, or the identity. -/
theorem Carries.head (carries : Carries data maxTAPs offset (register :: rest))
    (valid : register.Valid)
    (inside : offset ≤ 32 * maxTAPs) :
    data.word offset ≠ BitVec.allOnes 32 ∧
      (register = ⟨0, true⟩ ∧ data.word offset &&& 1 = 0 ∧ register.bits.length = 1 ∨
        register = ⟨data.word offset, false⟩ ∧ data.word offset &&& 1 ≠ 0 ∧
          register.bits.length = 32) := by
  rcases valid with rfl | ⟨idcode, odd, ordinary⟩
  · -- a bypass register is one zero bit
    have zero : (data.word offset).getLsbD 0 = false := by
      rw [Buffer.getLsbD_word data offset (by decide), carries 0 (by omega)]
      rfl
    have low : data.word offset &&& 1 = 0 := by
      rw [show (1 : BitVec 32) = 1#32 from rfl, BitVec.and_one_eq_setWidth_ofBool_getLsbD, zero]
      rfl
    refine ⟨fun ones => ?_, .inl ⟨rfl, low, rfl⟩⟩
    rw [ones] at zero
    exact absurd zero (by decide)
  · have bits : register.bits = (List.range 32).map register.idcode.getLsbD := by
      rw [ObservedTAP.bits, idcode]
      rfl
    have value : data.word offset = register.idcode := by
      apply Buffer.word_eq
      intro i small
      rw [carries i (by omega), List.flatMap_cons, bits,
        List.getD_append _ _ _ _ (by simpa using small)]
      simp [small]
    rw [value]
    refine ⟨ordinary, .inr ⟨?_, odd, by simp [bits]⟩⟩
    rw [← idcode]

end Carries

/-- The loop appends one register after another, up to the bound. -/
theorem observationLoop_carries {data : Buffer} {maxTAPs offset turns : Nat}
    {found registers : List ObservedTAP}
    (carries : Carries data maxTAPs offset registers)
    (valid : ∀ register ∈ registers, register.Valid)
    (nonempty : found ++ registers ≠ []) (few : found.length ≤ maxTAPs)
    (inside : offset ≤ 32 * found.length)
    (enough : maxTAPs < found.length + turns) :
    observationLoop data maxTAPs turns offset found =
      if (found ++ registers).length ≤ maxTAPs then (found ++ registers, none)
      else ((found ++ registers).take maxTAPs, some errDiscoveryLimit) := by
  induction registers generalizing offset found turns with
  | nil =>
    obtain ⟨turns, rfl⟩ : ∃ more, turns = more + 1 := ⟨turns - 1, by omega⟩
    rw [List.append_nil] at nonempty ⊢
    rw [observationLoop, if_pos (carries.ended (by omega)), if_neg nonempty, if_pos few]
  | cons register rest ih =>
    obtain ⟨turns, rfl⟩ : ∃ more, turns = more + 1 := ⟨turns - 1, by omega⟩
    obtain ⟨proper, seen⟩ := carries.head (valid register List.mem_cons_self) (by omega)
    rw [observationLoop, if_neg proper]
    by_cases full : found.length = maxTAPs
    · rw [if_pos full, if_neg (by simp; omega), List.take_left' full]
    · have next (inside' : offset + register.bits.length ≤ 32 * (found.length + 1)) :=
        have shorter : maxTAPs < (found ++ [register]).length + turns := by simp; omega
        ih carries.tail (fun other member => valid other (List.mem_cons_of_mem _ member))
          (by simp) (by simp; omega) (by simpa using inside') shorter
      have split : found ++ register :: rest = found ++ [register] ++ rest := List.append_cons ..
      rw [if_neg full, split]
      obtain ⟨bypass, low, length⟩ | ⟨idcode, odd, length⟩ := seen
      · rw [if_pos low, ← bypass, ← length]
        exact next (by omega)
      · rw [if_neg odd, ← idcode, ← length]
        exact next (by omega)

/-! ## Within the buffer -/

/-- `word`, if all of it is inside the buffer. -/
def Buffer.checkedWord (data : Buffer) (offset : Nat) : Option (BitVec 32) :=
  if offset + 32 ≤ 8 * data.length then some (data.word offset) else none

/-- The loop of `observations`, nothing if it reads outside the buffer or does not end within
the turns. -/
def checkedLoop (data : Buffer) (maxTAPs : Nat) :
    Nat → Nat → List ObservedTAP → Option (List ObservedTAP × Option Err)
  | 0, _, _ => none
  | turns + 1, offset, found => do
    let value ← data.checkedWord offset
    if value = BitVec.allOnes 32 then
      if found = [] then some ([], some errNoChain) else some (found, none)
    else if found.length = maxTAPs then some (found, some errDiscoveryLimit)
    else if value &&& 1 = 0 then checkedLoop data maxTAPs turns (offset + 1) (found ++ [⟨0, true⟩])
    else checkedLoop data maxTAPs turns (offset + 32) (found ++ [⟨value, false⟩])

theorem checkedLoop_ends {data : Buffer} {maxTAPs offset turns : Nat} {found : List ObservedTAP}
    (length : data.length = 4 * (maxTAPs + 1)) (few : found.length ≤ maxTAPs)
    (inside : offset ≤ 32 * found.length)
    (enough : maxTAPs < found.length + turns) :
    checkedLoop data maxTAPs turns offset found =
      some (observationLoop data maxTAPs turns offset found) := by
  induction turns generalizing offset found with
  | zero => omega
  | succ turns ih =>
    have fits : data.checkedWord offset = some (data.word offset) := if_pos (by omega)
    rw [checkedLoop, fits, observationLoop, Option.bind_eq_bind, Option.bind_some]
    split
    · split <;> rfl
    split
    · rfl
    case isFalse full =>
      split
      · exact ih (by simp; omega) (by simp; omega) (by simp; omega)
      · exact ih (by simp; omega) (by simp; omega) (by simp; omega)

/-- `observations` reads back the registers that a chain of at most `maxTAPs` TAPs lays out, and
the first `maxTAPs` of a longer one. Whatever the data, it ends within `maxTAPs + 1` turns and
reads nothing outside the buffer. -/
theorem observations_registers (data : Buffer) (maxTAPs : Nat)
    (length : data.length = 4 * (maxTAPs + 1)) :
    (∀ registers : List ObservedTAP, registers ≠ [] → (∀ register ∈ registers, register.Valid) →
      Carries data maxTAPs 0 registers → observations data maxTAPs =
        if registers.length ≤ maxTAPs then (registers, none)
        else (registers.take maxTAPs, some errDiscoveryLimit)) ∧
      checkedLoop data maxTAPs (maxTAPs + 1) 0 [] = some (observations data maxTAPs) := by
  refine ⟨fun registers nonempty valid carries => ?_, ?_⟩
  · exact observationLoop_carries carries valid nonempty (Nat.zero_le _) (Nat.le_refl _) (by simp)
  · exact checkedLoop_ends length (Nat.zero_le _) (Nat.le_refl _) (by simp)

/-- Two TAPs with a bound of two, and with a bound of one. -/
theorem observations_registers_pair :
    observations (Buffer.pack (false :: (List.range 32).map (0x0ba00477 : BitVec 32).getLsbD ++
      List.replicate 63 true)) 2 =
        ([⟨0, true⟩, ⟨0x0ba00477, false⟩], none) ∧
      observations (Buffer.pack (false :: (List.range 32).map (0x0ba00477 : BitVec 32).getLsbD ++
        List.replicate 31 true)) 1 =
        ([⟨0, true⟩], some errDiscoveryLimit) :=
  ⟨(observations_registers _ 2 (by decide +kernel)).1 [⟨0, true⟩, ⟨0x0ba00477, false⟩] (by decide)
    (by decide)
      (by decide +kernel),
    (observations_registers _ 1 (by decide +kernel)).1 [⟨0, true⟩, ⟨0x0ba00477, false⟩] (by decide)
      (by decide)
      (by decide +kernel)⟩

end Ostiole.Jtag
