import Mathlib.Tactic.IntervalCases
import Ostiole.Logic.Lists
import Ostiole.Usb.Described

/-!
# What the parser knows

After some descriptors the parser represents the settings that they describe: its maps are the
questions it asks about them. Each descriptor adds a setting or an endpoint to the last setting,
and the parser refuses exactly those with which the settings would no longer be sound.
-/

namespace Ostiole.Usb

open Ostiole

variable {endpoint : Endpoint} {descriptor : List Byte}

/-! ## One more setting -/

section Append

variable (settings : List Setting) (s : Setting) (number : Byte)

theorem numbersOf_append : numbersOf (settings ++ [s]) =
    if s.number ∈ settings.map (·.number) then numbersOf settings
      else numbersOf settings ++ [s.number] := by
  rw [numbersOf, numbersOf, List.map_append, List.eraseDups_append]
  generalize settings.map (·.number) = numbers
  by_cases known : s.number ∈ numbers
  · have nothing : [s.number].removeAll numbers = [] := by simp [List.removeAll, known]
    rw [List.map_singleton, nothing, if_pos known, List.eraseDups_nil, List.append_nil]
  · have new : [s.number].removeAll numbers = [s.number] := by simp [List.removeAll, known]
    rw [List.map_singleton, new, if_neg known]
    rfl

theorem mem_numbersOf : number ∈ numbersOf settings ↔ number ∈ settings.map (·.number) :=
  List.mem_eraseDups

theorem settingsOf_append : settingsOf (settings ++ [s]) number =
    if s.number = number then settingsOf settings number ++ [s]
      else settingsOf settings number := by
  rw [settingsOf, settingsOf, List.filter_append]
  by_cases same : s.number = number
  · simp [same]
  · simp [same]

theorem nodup_numbersOf : (numbersOf settings).Nodup := by
  induction settings using List.reverseRecOn with
  | nil => exact List.nodup_nil
  | append_singleton settings s ih =>
    rw [numbersOf_append]
    split
    · exact ih
    case isFalse new =>
      refine List.nodup_append.mpr ⟨ih, List.nodup_singleton _, ?_⟩
      rintro number member _ last rfl
      rw [List.mem_singleton] at last
      rw [last, mem_numbersOf] at member
      exact new member

theorem settingsOf_eq_nil (new : number ∉ settings.map (·.number)) :
    settingsOf settings number = [] := by
  rw [settingsOf, List.filter_eq_nil_iff]
  intro other member same
  exact new (List.mem_map.mpr ⟨other, member, by simpa using same⟩)

/-- A setting of an interface that has some, or of a new one. -/
theorem interfacesOf_append : interfacesOf (settings ++ [s]) =
    if s.number ∈ settings.map (·.number) then
      (interfacesOf settings).modify ((numbersOf settings).idxOf s.number) fun iface =>
        { iface with alternates := iface.alternates ++ [s.setting] }
    else interfacesOf settings ++ [⟨s.number, [s.setting]⟩] := by
  rw [interfacesOf, numbersOf_append]
  split
  case isTrue known =>
    rw [interfacesOf, Logic.modify_map_idxOf (nodup_numbersOf settings)
      ((mem_numbersOf _ _).mpr known)]
    apply List.map_congr_left
    intro number _
    rw [settingsOf_append]
    by_cases same : s.number = number
    · rw [if_pos same, if_pos same.symm, List.map_append]
      rfl
    · rw [if_neg same, if_neg (Ne.symm same)]
  case isFalse new =>
    rw [List.map_append, interfacesOf]
    congr 1
    · apply List.map_congr_left
      intro number member
      have apart : s.number ≠ number := by
        rintro rfl
        exact new ((mem_numbersOf _ _).mp member)
      rw [settingsOf_append, if_neg apart]
    · rw [List.map_singleton, settingsOf_append, if_pos rfl,
        settingsOf_eq_nil settings s.number new]
      rfl

/-- The interface of a setting that is there. -/
theorem interfacesOf_getElem (known : number ∈ settings.map (·.number)) :
    (interfacesOf settings)[(numbersOf settings).idxOf number]? =
      some ⟨number, (settingsOf settings number).map Setting.setting⟩ := by
  rw [interfacesOf, List.getElem?_map, List.getElem?_idxOf ((mem_numbersOf _ _).mpr known)]
  rfl

/-- One more endpoint of the last setting. -/
def Setting.add (s : Setting) (endpoint : Endpoint) : Setting :=
  { s with endpoints := s.endpoints ++ [endpoint] }

theorem numbersOf_add (endpoint : Endpoint) :
    numbersOf (settings ++ [s.add endpoint]) = numbersOf (settings ++ [s]) := by
  rw [numbersOf, numbersOf, List.map_append, List.map_append]
  rfl

theorem interfacesOf_add (endpoint : Endpoint) : interfacesOf (settings ++ [s.add endpoint]) =
    (interfacesOf (settings ++ [s])).modify ((numbersOf (settings ++ [s])).idxOf s.number)
      fun iface => { iface with
        alternates := iface.alternates.modify (settingsOf settings s.number).length
          fun alternate =>
            { alternate with endpoints := alternate.endpoints ++ [endpoint] } } := by
  have member : s.number ∈ numbersOf (settings ++ [s]) := by simp [mem_numbersOf]
  rw [interfacesOf, numbersOf_add, interfacesOf, Logic.modify_map_idxOf (nodup_numbersOf _) member]
  apply List.map_congr_left
  intro number _
  rw [settingsOf_append, settingsOf_append]
  by_cases same : s.number = number
  · subst same
    have same : (s.add endpoint).number = s.number := rfl
    rw [if_pos rfl, if_pos rfl, if_pos same, List.map_append, List.map_append]
    have length : (settingsOf settings s.number).length =
        ((settingsOf settings s.number).map Setting.setting).length := by
      rw [List.length_map]
    rw [length, List.map_singleton, List.map_singleton, Logic.modify_at_length]
    rfl
  · have same' : (s.add endpoint).number ≠ number := same
    rw [if_neg same', if_neg same, if_neg (Ne.symm same)]

end Append

/-! ## Soundness, step by step -/

section Sound

variable {settings : List Setting} {s : Setting} {header : SettingHeader}

theorem sound_append_iff : Sound (settings ++ [s]) ↔ Sound settings ∧
    (s.number, s.alternate) ∉ settings.map (fun s => (s.number, s.alternate)) ∧
    s.endpoints.Pairwise (fun first second => ¬first.Clash second) ∧
    ∀ t ∈ settings, t.number ≠ s.number → ∀ other ∈ t.endpoints, ∀ endpoint ∈ s.endpoints,
      ¬other.Clash endpoint := by
  have mem (t : Setting) : t ∈ settings ++ [s] ↔ t ∈ settings ∨ t = s := by simp
  have pairs : ((settings ++ [s]).map fun s => (s.number, s.alternate)).Nodup ↔
      (settings.map fun s => (s.number, s.alternate)).Nodup ∧
        (s.number, s.alternate) ∉ settings.map fun s => (s.number, s.alternate) := by
    rw [← List.concat_eq_append, List.map_concat, List.nodup_concat, and_comm]
  constructor
  · intro sound
    obtain ⟨distinct, new⟩ := pairs.mp sound.pairs
    refine ⟨⟨distinct, fun t member => ?_, fun t member u member' => ?_⟩, new, ?_,
      fun t member => ?_⟩
    · exact sound.within t ((mem t).mpr (.inl member))
    · exact sound.across t ((mem t).mpr (.inl member)) u ((mem u).mpr (.inl member'))
    · exact sound.within s ((mem s).mpr (.inr rfl))
    · exact sound.across t ((mem t).mpr (.inl member)) s ((mem s).mpr (.inr rfl))
  · rintro ⟨sound, new, within, across⟩
    refine ⟨pairs.mpr ⟨sound.pairs, new⟩, fun t member => ?_, fun t member u member' apart => ?_⟩
    · obtain old | rfl := (mem t).mp member
      · exact sound.within t old
      · exact within
    · obtain old | rfl := (mem t).mp member
      · obtain old' | rfl := (mem u).mp member'
        · exact sound.across t old u old' apart
        · exact across t old apart
      · obtain old' | rfl := (mem u).mp member'
        · exact fun first inFirst second inSecond clash =>
            across u old' (Ne.symm apart) second inSecond first inFirst clash.symm
        · exact absurd rfl apart

/-- A setting without endpoints. -/
def SettingHeader.opened (header : SettingHeader) : Setting := { header with endpoints := [] }

theorem sound_opened_iff : Sound (settings ++ [header.opened]) ↔
    Sound settings ∧ (header.number, header.alternate) ∉ settings.map fun s =>
      (s.number, s.alternate) := by
  simp [sound_append_iff, SettingHeader.opened]

/-- An endpoint that the endpoints of the last setting and of the other interfaces leave free. -/
structure Free (done : List Setting) (last : Setting) (endpoint : Endpoint) : Prop where
  here : ∀ other ∈ last.endpoints, ¬other.Clash endpoint
  elsewhere : ∀ t ∈ done, t.number ≠ last.number → ∀ other ∈ t.endpoints, ¬other.Clash endpoint

theorem sound_add_iff (endpoint : Endpoint) :
    Sound (settings ++ [s.add endpoint]) ↔ Sound (settings ++ [s]) ∧ Free settings s endpoint := by
  rw [sound_append_iff, sound_append_iff, Setting.add, List.pairwise_append]
  simp only [List.mem_append, List.mem_singleton, or_imp, forall_and, forall_eq,
    List.pairwise_singleton, true_and]
  constructor
  · rintro ⟨sound, new, ⟨within, here⟩, across, elsewhere⟩
    exact ⟨⟨sound, new, within, across⟩, here, elsewhere⟩
  · rintro ⟨⟨sound, new, within, across⟩, here, elsewhere⟩
    exact ⟨sound, new, ⟨within, here⟩, across, elsewhere⟩

end Sound

/-! ## Steps that may fail -/

/-- A step of the parser either returns something good, or fails and has a reason. -/
def Settles {α : Type} (good : α → Prop) (reason : Prop) : Except Stop α → Prop
  | .ok value => good value
  | .error (.failed _) => reason
  | .error _ => False

/-- A check that passes if something holds and fails if it does not. -/
abbrev Decides (holds : Prop) (check : Except Stop Unit) :
    Prop := Settles (fun _ => holds) (¬holds) check

namespace Settles

variable {α β : Type} {good : α → Prop} {good' : β → Prop} {reason reason' : Prop}

theorem bind {first : Except Stop α} {next : α → Except Stop β}
    (settles : Settles good reason first)
    (refused : reason → reason') (rest : ∀ value, good value → Settles good' reason' (next value)) :
    Settles good' reason' (first >>= next) := by
  match first with
  | .ok value => exact rest value settles
  | .error (.failed _) => exact refused settles

theorem check {condition : Prop} [Decidable condition] {message : String} {rest : Except Stop α}
    (refused : condition → reason) (passed : ¬condition → Settles good reason rest) :
    Settles good reason (if condition then fail message else rest) := by
  split
  case isTrue holds => exact refused holds
  case isFalse fails => exact passed fails

theorem weaken {outcome : Except Stop α} {better : α → Prop} (settles : Settles good reason outcome)
    (refused : reason → reason') (returned : ∀ value, good value → better value) :
    Settles better reason' outcome := by
  match outcome with
  | .ok value => exact returned value settles
  | .error (.failed _) => exact refused settles

end Settles

/-! ## The parser's state -/

def Setting.Complete (s : Setting) : Prop := s.endpoints.length = s.wantEndpoints

/-- Settings of which only the last may lack endpoints. -/
structure Consistent (settings : List Setting) : Prop extends Sound settings where
  complete : ∀ s ∈ settings.dropLast, s.Complete

/-- What the parser knows of the last setting. -/
structure Parser.Current (p : Parser) (done : List Setting) (last : Setting) : Prop where
  alternate : p.alternate =
    some ((numbersOf (done ++ [last])).idxOf last.number, (settingsOf done last.number).length)
  addresses : ∀ address, p.alternateEndpoints address = true ↔ ∃ endpoint ∈ last.endpoints,
    endpoint.address = address
  numbers : ∀ number, p.alternateEndpointNumbers number &&& endpointNumberSeen ≠ 0 ↔
    ∃ endpoint ∈ last.endpoints, endpoint.number = number
  controls : ∀ number, p.alternateEndpointNumbers number &&& controlEndpointSeen ≠ 0 ↔
    ∃ endpoint ∈ last.endpoints, endpoint.number = number ∧ endpoint.transferType = .control
  interfaceNumber : p.interfaceNumber = last.number
  wantEndpoints : p.wantEndpoints = last.wantEndpoints

/-- What the parser of the configuration of some value knows of all settings. -/
structure Parser.Represents (p : Parser) (value : Byte) (settings : List Setting) : Prop where
  value : p.configuration.value = value
  configuration : p.configuration.interfaces = interfacesOf settings
  positions : ∀ number, p.interfaces number =
    if number ∈ settings.map (·.number) then some ((numbersOf settings).idxOf number) else none
  defaults : ∀ number, p.defaultAlternates number = true ↔ ∃ s ∈ settings, s.number = number ∧
    s.alternate = 0
  owners : ∀ address number, p.endpointInterfaces address = some number ↔
    ∃ s ∈ settings, s.number = number ∧ ∃ endpoint ∈ s.endpoints, endpoint.address = address
  numberOwners : ∀ endpointNumber number, number ∈ p.endpointNumberInterfaces endpointNumber ↔
    ∃ s ∈ settings, s.number = number ∧ ∃ endpoint ∈ s.endpoints, endpoint.number = endpointNumber
  controlOwners : ∀ endpointNumber number,
    p.controlEndpointInterfaces endpointNumber = some number ↔
    ∃ s ∈ settings, s.number = number ∧
      ∃ endpoint ∈ s.endpoints, endpoint.number = endpointNumber ∧ endpoint.transferType = .control
  nothing : settings = [] → p.alternate = none
  current : ∀ done last, settings = done ++ [last] → p.Current done last
  consistent : Consistent settings

theorem Parser.new_represents (value : Byte) : (Parser.new value).Represents value [] := by
  refine ⟨rfl, rfl, fun _ =>
    rfl, by simp [Parser.new], by simp [Parser.new], by simp [Parser.new], by simp [Parser.new],
    fun _ => rfl, ?_, ?_⟩
  · intro done last empty
    simp at empty
  · exact ⟨⟨List.nodup_nil, nofun, nofun⟩, nofun⟩

section Represents

variable {p : Parser} {value : Byte} {settings done : List Setting} {last : Setting}

theorem Parser.Represents.current_none (rep : p.Represents value []) : p.current = none := by
  rw [Parser.current, rep.nothing rfl]
  rfl

theorem Parser.Represents.current_some (rep : p.Represents value (done ++ [last])) :
    p.current = some last.setting := by
  have known : last.number ∈ (done ++ [last]).map (·.number) := by simp
  rw [Parser.current, (rep.current done last rfl).alternate, rep.configuration]
  simp only [Option.bind_eq_bind, Option.bind_some]
  rw [interfacesOf_getElem _ _ known, Option.bind_some, settingsOf_append, if_pos rfl,
    List.map_append, List.getElem?_append_right (by simp)]
  simp

/-- `finishAlternate` checks the last setting, and all others were checked before. -/
theorem Parser.Represents.finishAlternate (rep : p.Represents value settings) :
    Decides (∀ s ∈ settings, s.Complete) p.finishAlternate := by
  rcases List.eq_nil_or_concat settings with rfl | ⟨done, last, split⟩
  · rw [Parser.finishAlternate, rep.current_none]
    exact nofun
  · rw [List.concat_eq_append] at split
    subst split
    have want := (rep.current done last rfl).wantEndpoints
    have earlier := rep.consistent.complete
    rw [List.dropLast_concat] at earlier
    rw [Parser.finishAlternate, rep.current_some, want]
    refine .check (fun incomplete all => incomplete (all last (by simp)))
      fun complete s member => ?_
    obtain before | here := List.mem_append.mp member
    · exact earlier s before
    · rw [List.mem_singleton.mp here]
      exact not_not.mp complete

/-- `interfaceFor` before a setting is added: the interface is there, without the new setting. -/
structure Parser.Placed (p : Parser) (settings : List Setting) (s : Setting)
    (found : Parser × Nat) : Prop where
  same : found.1 =
    { p with interfaces := found.1.interfaces, configuration := found.1.configuration }
  value : found.1.configuration.value = p.configuration.value
  positions : ∀ number, found.1.interfaces number =
    if number ∈ (settings ++ [s]).map (·.number) then some
      ((numbersOf (settings ++ [s])).idxOf number) else none
  index : found.2 = (numbersOf (settings ++ [s])).idxOf s.number
  interface : found.1.configuration.interfaces[found.2]? =
    some ⟨s.number, (settingsOf settings s.number).map Setting.setting⟩
  added : found.1.configuration.interfaces.modify found.2
    (fun iface => { iface with alternates := iface.alternates ++ [s.setting] }) =
      interfacesOf (settings ++ [s])

theorem Parser.Represents.interfaceFor (rep : p.Represents value settings) (s : Setting) :
    p.Placed settings s (p.interfaceFor s.number) := by
  rw [Parser.interfaceFor, rep.positions]
  by_cases known : s.number ∈ settings.map (·.number)
  · rw [if_pos known]
    have numbers : numbersOf (settings ++ [s]) = numbersOf settings := by
      rw [numbersOf_append, if_pos known]
    refine ⟨rfl, rfl, fun number => ?_, ?_, ?_, ?_⟩
    · rw [numbers, rep.positions]
      refine if_congr ?_ rfl rfl
      rw [List.map_append, List.mem_append, List.map_singleton, List.mem_singleton]
      exact ⟨.inl, fun either => either.elim id fun same => same ▸ known⟩
    · rw [numbers]
    · rw [rep.configuration]
      exact interfacesOf_getElem settings s.number known
    · rw [rep.configuration, interfacesOf_append, if_pos known]
  · rw [if_neg known]
    have numbers : numbersOf (settings ++ [s]) = numbersOf settings ++ [s.number] := by
      rw [numbersOf_append, if_neg known]
    have new : s.number ∉ numbersOf settings := fun member => known ((mem_numbersOf _ _).mp member)
    have length : (interfacesOf settings).length = (numbersOf settings).length := List.length_map _
    have index : (numbersOf (settings ++ [s])).idxOf s.number = (interfacesOf settings).length := by
      rw [numbers, List.idxOf_append, if_neg new, length]
      simp
    refine ⟨rfl, rfl, fun number => ?_, ?_, ?_, ?_⟩
    · dsimp only
      by_cases same : number = s.number
      · subst same
        rw [Function.update_self, if_pos (by simp), index, rep.configuration]
      · rw [Function.update_of_ne same, rep.positions, numbers]
        by_cases known' : number ∈ settings.map (·.number)
        · rw [if_pos known', if_pos (by simp [List.mem_map.mp known']), List.idxOf_append,
            if_pos ((mem_numbersOf _ _).mpr known')]
        · rw [if_neg known', if_neg (by simpa [same] using known')]
    · rw [index, rep.configuration]
    · rw [settingsOf_eq_nil settings s.number known, List.getElem?_concat_length]
      rfl
    · rw [rep.configuration, Logic.modify_at_length, interfacesOf_append, if_neg known]
      rfl

theorem byteAt_eq {data : List Byte} {index : Nat} (inside : index < data.length) :
    byteAt data index = .ok (data.getD index 0) := by
  rw [byteAt, List.getD_eq_getElem?_getD, List.getElem?_eq_getElem inside]
  rfl

/-- The parser with a setting opened in the interface at a position. -/
def Parser.opened (p : Parser) (index count : Nat) (header : SettingHeader) : Parser where
  configuration := { p.configuration with
    interfaces := p.configuration.interfaces.modify index fun iface =>
      { iface with alternates := iface.alternates ++ [header.opened.setting] } }
  interfaces := p.interfaces
  defaultAlternates :=
    if header.alternate = 0 then Function.update p.defaultAlternates header.number true
      else p.defaultAlternates
  endpointInterfaces := p.endpointInterfaces
  endpointNumberInterfaces := p.endpointNumberInterfaces
  controlEndpointInterfaces := p.controlEndpointInterfaces
  alternate := some (index, count)
  alternateEndpoints _ := false
  alternateEndpointNumbers _ := 0
  interfaceNumber := header.number
  wantEndpoints := header.wantEndpoints

theorem addInterface_eq (position : Nat) (long : 9 ≤ descriptor.length) {header : SettingHeader}
    (described : SettingHeader.ofDescriptor descriptor = header) {iface : Interface}
    (interface : (p.interfaceFor header.number).1.configuration.interfaces[(p.interfaceFor
      header.number).2]? = some iface) :
    p.addInterface descriptor position = (do
      p.finishAlternate
      if iface.alternates.any (·.number == header.alternate) then
        fail s!"usb: duplicate interface {header.number.toNat} alternate {header.alternate.toNat}"
      else .ok ((p.interfaceFor header.number).1.opened (p.interfaceFor header.number).2
        iface.alternates.length header)) := by
  subst described
  have interface : (p.interfaceFor (descriptor.getD 2 0)).1.configuration.interfaces[(p.interfaceFor
    (descriptor.getD 2 0)).2]? = some iface := interface
  rw [Parser.addInterface, if_neg (by omega)]
  simp only [byteAt_eq (show 2 < descriptor.length by omega),
    byteAt_eq (show 3 < descriptor.length by omega),
    byteAt_eq (show 4 < descriptor.length by omega),
      byteAt_eq (show 5 < descriptor.length by omega),
    byteAt_eq (show 6 < descriptor.length by omega),
      byteAt_eq (show 7 < descriptor.length by omega), bind, Except.bind,
    interface]
  rfl

/-- An alternate of the interface is already there. -/
theorem any_alternate_iff (number alternate : Byte) :
    ((settingsOf settings number).map Setting.setting).any (·.number == alternate) = true ↔
      (number, alternate) ∈ settings.map fun s => (s.number, s.alternate) := by
  simp only [List.any_map, List.any_eq_true, settingsOf, List.mem_filter, Function.comp_apply,
    beq_iff_eq, List.mem_map, Prod.mk.injEq, and_assoc]
  rfl

theorem Parser.Placed.opened {header : SettingHeader} {found : Parser × Nat}
    (rep : p.Represents value settings)
    (placed : p.Placed settings header.opened found)
    (consistent : Consistent (settings ++ [header.opened])) :
    (found.1.opened found.2 (settingsOf settings header.number).length header).Represents value
      (settings ++ [header.opened]) := by
  have mem (s : Setting) : s ∈ settings ++ [header.opened] ↔ s ∈ settings ∨ s = header.opened := by
    simp
  have quiet (property : Endpoint → Prop) (number : Byte) :
      (∃ s ∈ settings ++ [header.opened], s.number = number ∧
        ∃ endpoint ∈ s.endpoints, property endpoint) ↔
        ∃ s ∈ settings, s.number = number ∧ ∃ endpoint ∈ s.endpoints, property endpoint := by
    constructor
    · rintro ⟨s, member, same, endpoint, inside, holds⟩
      obtain old | rfl := (mem s).mp member
      · exact ⟨s, old, same, endpoint, inside, holds⟩
      · cases inside
    · rintro ⟨s, member, rest⟩
      exact ⟨s, (mem s).mpr (.inl member), rest⟩
  have defaults : found.1.defaultAlternates = p.defaultAlternates := by rw [placed.same]
  have owners : found.1.endpointInterfaces = p.endpointInterfaces := by rw [placed.same]
  have numberOwners : found.1.endpointNumberInterfaces = p.endpointNumberInterfaces := by
    rw [placed.same]
  have controlOwners : found.1.controlEndpointInterfaces = p.controlEndpointInterfaces := by
    rw [placed.same]
  refine ⟨placed.value.trans rep.value, placed.added, placed.positions, fun number => ?_,
    fun address number => ?_, fun endpointNumber number => ?_,
    fun endpointNumber number => ?_, fun empty => absurd empty (by simp), fun done last split => ?_,
      consistent⟩
  · simp only [Parser.opened, defaults]
    have before := rep.defaults number
    by_cases zero : header.alternate = 0
    · rw [if_pos zero]
      by_cases same : number = header.number
      · subst same
        rw [Function.update_self]
        exact iff_of_true rfl ⟨header.opened, (mem _).mpr (.inr rfl), rfl, zero⟩
      · rw [Function.update_of_ne same, before]
        constructor
        · rintro ⟨s, member, rest⟩
          exact ⟨s, (mem s).mpr (.inl member), rest⟩
        · rintro ⟨s, member, rest⟩
          obtain old | rfl := (mem s).mp member
          · exact ⟨s, old, rest⟩
          · exact absurd rest.1.symm same
    · rw [if_neg zero, before]
      constructor
      · rintro ⟨s, member, rest⟩
        exact ⟨s, (mem s).mpr (.inl member), rest⟩
      · rintro ⟨s, member, rest⟩
        obtain old | rfl := (mem s).mp member
        · exact ⟨s, old, rest⟩
        · exact absurd rest.2 zero
  · rw [quiet, ← rep.owners, ← owners]
    rfl
  · rw [quiet, ← rep.numberOwners, ← numberOwners]
    rfl
  · rw [quiet, ← rep.controlOwners, ← controlOwners]
    rfl
  · obtain ⟨rfl, lasts⟩ := List.append_inj' split rfl
    obtain rfl : header.opened = last := List.singleton_inj.mp lasts
    refine ⟨?_, ?_, ?_, ?_, rfl, rfl⟩
    · simp only [Parser.opened, placed.index]
      rfl
    · simp [Parser.opened, SettingHeader.opened]
    · simp [Parser.opened, SettingHeader.opened]
    · simp [Parser.opened, SettingHeader.opened]

/-- `addInterface` opens a setting, unless the settings would not be consistent with it. -/
theorem Parser.Represents.addInterface (rep : p.Represents value settings) (position : Nat)
    (long : 9 ≤ descriptor.length) :
    Settles (·.Represents value (settings ++ [(SettingHeader.ofDescriptor descriptor).opened]))
      (¬Consistent (settings ++ [(SettingHeader.ofDescriptor descriptor).opened]))
        (p.addInterface descriptor position) := by
  generalize described : SettingHeader.ofDescriptor descriptor = header
  have placed := rep.interfaceFor header.opened
  rw [addInterface_eq position long described placed.interface]
  refine rep.finishAlternate.bind (fun incomplete consistent => incomplete ?_) fun _ complete => ?_
  · have complete := consistent.complete
    rw [List.dropLast_concat] at complete
    exact complete
  refine .check (fun known consistent => ?_) fun new => ?_
  · exact (sound_opened_iff.mp consistent.toSound).2 ((any_alternate_iff _ _).mp known)
  · have sound := sound_opened_iff.mpr ⟨rep.consistent.toSound, fun known =>
      new ((any_alternate_iff _ _).mpr known)⟩
    have consistent : Consistent (settings ++ [header.opened]) := by
      refine ⟨sound, ?_⟩
      rw [List.dropLast_concat]
      exact complete
    have opened := placed.opened rep consistent
    rw [← List.length_map (f := Setting.setting)] at opened
    exact opened

/-! ## Endpoints -/

theorem TransferType.ofAttributes_eq_iff (attributes : Byte) (transferType : TransferType) :
    TransferType.ofAttributes attributes = transferType ↔
      attributes &&& 0x03 = transferType.code := by
  have own : ∀ attributes : Byte, attributes &&& 0x03 =
      (TransferType.ofAttributes attributes).code := by
    decide +kernel
  rw [own]
  constructor
  · rintro rfl
    rfl
  · generalize TransferType.ofAttributes attributes = found
    cases found <;> cases transferType <;> simp [TransferType.code]

/-- A descriptor determines its endpoint. -/
theorem Endpoint.OfDescriptor.unique {first second : Endpoint}
    (one : first.OfDescriptor descriptor) (other : second.OfDescriptor descriptor) :
    first = second := by
  have types : first.transferType = second.transferType :=
    ((TransferType.ofAttributes_eq_iff _ _).mpr one.transferType).symm.trans
      ((TransferType.ofAttributes_eq_iff _ _).mpr other.transferType)
  cases first
  cases second
  rw [Endpoint.mk.injEq]
  exact ⟨one.address.trans other.address.symm, types,
    one.packetSize.1.trans other.packetSize.1.symm⟩

theorem uint16At_eq {data : List Byte} {index : Nat} (inside : index + 1 < data.length) :
    uint16At data index = .ok (wordAt data index) := by
  rw [uint16At, byteAt_eq (show index < data.length by omega), byteAt_eq inside]
  rfl

theorem validEndpointAttributes_iff (attributes : Byte) (transferType : TransferType) :
    validEndpointAttributes attributes transferType = true ↔
      (transferType = .isochronous → attributes &&& 0x30 = 0x10 → attributes &&& 0x0c = 0) := by
  rw [validEndpointAttributes]
  split
  · next other => exact ⟨fun _ same => absurd same other, fun _ => rfl⟩
  · next same => rw [decide_eq_true_eq, imp_iff_right (not_not.mp same), imp_iff_not_or]

theorem validEndpointInterval_iff (interval : Byte) (transferType : TransferType)
    (encoded : BitVec 16) :
    validEndpointInterval interval transferType encoded = true ↔
      ((transferType.Periodic → interval ≠ 0) ∧ (transferType = .isochronous → interval ≤ 16)) ∧
        (encoded &&& 0x1800 = 0 ∨ ¬transferType.Periodic ∨ interval = 1) := by
  rw [validEndpointInterval]
  cases transferType <;> simp [TransferType.Periodic]

theorem transactions_cases (encoded : BitVec 16) :
    encoded &&& 0x1800 = 0 ∨ encoded &&& 0x1800 = 0x0800 ∨ encoded &&& 0x1800 = 0x1000 ∨
      encoded &&& 0x1800 = 0x1800 := by
  have whole : encoded &&& (0x1800 : BitVec 16) = ((encoded >>> 11).setWidth 2).setWidth 16 <<<
      11 := by
    ext i inside
    interval_cases i <;> simp
  rw [whole]
  generalize (encoded >>> 11).setWidth 2 = extra
  revert extra
  decide

theorem endpointMaxPacketSize_iff (transferType : TransferType) (encoded size : BitVec 16) :
    endpointMaxPacketSize encoded transferType = (size, true) ↔
      (size = encoded &&& 0x07ff ∧ size ≤ 1024 ∧ encoded &&& 0xe000 = 0) ∧
        (encoded &&& 0x1800 = 0 ∧ (size = 0 → transferType.Periodic) ∨ transferType.Periodic ∧
          (encoded &&& 0x1800 = 0x0800 ∧ 513 ≤ size ∨ encoded &&& 0x1800 = 0x1000 ∧
            683 ≤ size)) := by
  have kinds := transactions_cases encoded
  simp only [endpointMaxPacketSize, validEndpointTransactions, endpointPacketSizeMinimum]
  generalize encoded &&& 0x1800 = extra at kinds ⊢
  generalize encoded &&& 0x07ff = field
  generalize encoded &&& 0xe000 = reserved
  by_cases zero : reserved = 0#16
  · subst zero
    obtain rfl | rfl | rfl | rfl :=
      kinds <;> cases transferType <;> simp [TransferType.Periodic] <;>
      bv_omega
  · simp [zero]

/-- The checks of the parser, in the order in which it makes them. -/
theorem Endpoint.ofDescriptor_iff (descriptor : List Byte) (endpoint : Endpoint) :
    endpoint.OfDescriptor descriptor ↔ 7 ≤ descriptor.length ∧
      endpoint.address = descriptor.getD 2 0 ∧
        (endpoint.number ≠ 0 ∧ endpoint.address &&& 0x70 = 0) ∧
      .ofAttributes (descriptor.getD 3 0) = endpoint.transferType ∧
      validEndpointAttributes (descriptor.getD 3 0) endpoint.transferType = true ∧
      validEndpointInterval (descriptor.getD 6 0) endpoint.transferType
        (wordAt descriptor 4) = true ∧
      endpointMaxPacketSize (wordAt descriptor 4) endpoint.transferType =
        (endpoint.maxPacketSize, true) := by
  rw [TransferType.ofAttributes_eq_iff, validEndpointAttributes_iff, validEndpointInterval_iff,
    endpointMaxPacketSize_iff]
  constructor
  · intro fields
    refine ⟨fields.long, fields.address, fields.usable, fields.transferType, fields.attributes,
      ⟨fields.interval, ?_⟩, fields.packetSize, ?_⟩
    · exact fields.transactions.imp And.left fun several => .inr several.2.1
    · exact fields.transactions.imp_right fun several => ⟨several.1, several.2.2⟩
  · rintro ⟨long, address, usable, types, attributes, ⟨interval, polled⟩, sized, transactions⟩
    refine ⟨long, address, usable, types, attributes, interval, sized, ?_⟩
    obtain none | ⟨periodic, sizes⟩ := transactions
    · exact .inl none
    · have several : wordAt descriptor 4 &&& 0x1800 ≠ 0 := by
        intro none
        rw [none] at sizes
        exact absurd sizes (by simp)
      exact .inr ⟨periodic, (polled.resolve_left several).resolve_left (not_not.mpr periodic),
        sizes⟩

/-- `endpointFromDescriptor` returns the endpoint of a valid descriptor. -/
theorem endpointFromDescriptor_spec (descriptor : List Byte) (position : Nat) :
    Settles (Endpoint.OfDescriptor descriptor) (∀ endpoint,
      ¬Endpoint.OfDescriptor descriptor endpoint)
      (endpointFromDescriptor descriptor position) := by
  simp only [Endpoint.ofDescriptor_iff]
  refine .check (fun short endpoint fields => absurd fields.1 (by omega)) fun long => ?_
  rw [byteAt_eq (show 2 < descriptor.length by omega),
    byteAt_eq (show 3 < descriptor.length by omega),
    uint16At_eq (show 4 + 1 < descriptor.length by omega),
      byteAt_eq (show 6 < descriptor.length by omega)]
  simp only [bind, Except.bind]
  refine .check (fun unusable endpoint ⟨_, address, usable, _⟩ => ?_) fun usable => ?_
  · rw [Endpoint.number, address] at usable
    exact unusable.elim usable.1 fun reserved => reserved usable.2
  refine .check (fun invalid endpoint ⟨_, _, _, types, valid, _⟩ => ?_) fun attributes => ?_
  · rw [← types] at valid
    exact absurd valid (by simpa using invalid)
  refine .check (fun invalid endpoint ⟨_, _, _, types, _, valid, _⟩ => ?_) fun interval => ?_
  · rw [← types] at valid
    exact absurd valid (by simpa using invalid)
  refine .check (fun invalid endpoint ⟨_, _, _, types, _, _, valid⟩ => ?_) fun packetSize => ?_
  · rw [← types] at valid
    exact absurd (congrArg Prod.snd valid) (by simpa using invalid)
  rw [not_or, not_not] at usable
  refine (Endpoint.ofDescriptor_iff _ _).mpr ⟨by omega, rfl, usable, rfl, by simpa using attributes,
    by simpa using interval, ?_⟩
  exact Prod.ext rfl (by simpa using packetSize)

/-- `validateEndpoint` looks for an endpoint that the new one clashes with. -/
theorem Parser.Represents.validateEndpoint (rep : p.Represents value (done ++ [last]))
    (alternate : AlternateSetting)
    (endpoint : Endpoint) :
    Decides (Free done last endpoint) (p.validateEndpoint alternate endpoint.address
      endpoint.transferType) := by
  have current := rep.current done last rfl
  have taken {s : Setting} {other : Endpoint} (apart : decide (s.number ≠ p.interfaceNumber) = true)
      (member : s ∈ done ++ [last]) (inside : other ∈ s.endpoints) (clash : other.Clash endpoint) :
      ¬Free done last endpoint := by
    intro free
    rw [current.interfaceNumber, decide_eq_true_eq] at apart
    obtain before | here := List.mem_append.mp member
    · exact free.elsewhere s before apart other inside clash
    · exact apart (congrArg (·.number) (List.mem_singleton.mp here))
  refine .check (fun known free => ?_) fun newAddress => .check (fun conflict free => ?_)
    fun noConflict => ?_
  · obtain ⟨other, inside, same⟩ := (current.addresses _).mp known
    exact free.here other inside (.inl same)
  · obtain ⟨control, known⟩ | known := conflict
    · obtain ⟨other, inside, same⟩ := (current.numbers _).mp known
      exact free.here other inside (.inr ⟨same, .inr control⟩)
    · obtain ⟨other, inside, same, control⟩ := (current.controls _).mp known
      exact free.here other inside (.inr ⟨same, .inl control⟩)
  rw [not_or] at noConflict
  split
  case h_1 owner found =>
    obtain ⟨known, apart⟩ := Option.filter_eq_some_iff.mp found
    obtain ⟨s, member, rfl, other, inside, same⟩ := (rep.owners _ _).mp known
    exact taken apart member inside (.inl same)
  case h_2 noOwner =>
  split
  case h_1 owner found =>
    obtain ⟨known, apart⟩ := Option.filter_eq_some_iff.mp found
    obtain ⟨s, member, rfl, other, inside, same, control⟩ := (rep.controlOwners _ _).mp known
    exact taken apart member inside (.inr ⟨same, .inl control⟩)
  case h_2 noControlOwner =>
  split
  case h_1 owner found =>
    split at found
    case isTrue control =>
      obtain ⟨s, member, rfl, other, inside, same⟩ :=
        (rep.numberOwners _ _).mp (List.mem_of_find?_eq_some found)
      have apart := List.find?_some found
      exact taken apart member inside (.inr ⟨same, .inr control⟩)
    case isFalse => cases found
  case h_2 noNumberOwner =>
    refine ⟨fun other inside clash => ?_, fun t member apart other inside clash => ?_⟩
    · obtain same | ⟨same, control | control⟩ := clash
      · exact newAddress ((current.addresses _).mpr ⟨other, inside, same⟩)
      · exact noConflict.2 ((current.controls _).mpr ⟨other, inside, same, control⟩)
      · exact noConflict.1 ⟨control, (current.numbers _).mpr ⟨other, inside, same⟩⟩
    · have member : t ∈ done ++ [last] := List.mem_append_left _ member
      rw [← current.interfaceNumber] at apart
      obtain same | ⟨same, control | control⟩ := clash
      · exact Option.filter_eq_none_iff.mp noOwner t.number
          ((rep.owners _ _).mpr ⟨t, member, rfl, other, inside, same⟩) (by simpa using apart)
      · exact Option.filter_eq_none_iff.mp noControlOwner t.number
          ((rep.controlOwners _ _).mpr ⟨t, member, rfl, other, inside, same, control⟩)
            (by simpa using apart)
      · rw [if_pos control, List.find?_eq_none] at noNumberOwner
        exact noNumberOwner t.number ((rep.numberOwners _ _).mpr ⟨t, member, rfl, other, inside,
          same⟩)
          (by simpa using apart)

/-- What holds of an endpoint once one is added to the last setting. -/
theorem exists_add (property : Endpoint → Prop) (endpoint : Endpoint) (number : Byte) :
    (∃ s ∈ done ++ [last.add endpoint], s.number = number ∧ ∃ other ∈ s.endpoints, property other) ↔
      (∃ s ∈ done ++ [last], s.number = number ∧ ∃ other ∈ s.endpoints, property other) ∨
        last.number = number ∧ property endpoint := by
  constructor
  · rintro ⟨s, member, same, other, inside, holds⟩
    obtain before | here := List.mem_append.mp member
    · exact .inl ⟨s, List.mem_append_left _ before, same, other, inside, holds⟩
    · obtain rfl := List.mem_singleton.mp here
      obtain old | new := List.mem_append.mp inside
      · exact .inl ⟨last, by simp, same, other, old, holds⟩
      · rw [List.mem_singleton.mp new] at holds
        exact .inr ⟨same, holds⟩
  · rintro (⟨s, member, same, other, inside, holds⟩ | ⟨same, holds⟩)
    · obtain before | here := List.mem_append.mp member
      · exact ⟨s, List.mem_append_left _ before, same, other, inside, holds⟩
      · obtain rfl := List.mem_singleton.mp here
        exact ⟨s.add endpoint, by simp, same, other, List.mem_append_left _ inside, holds⟩
    · exact ⟨last.add endpoint, by simp, same, endpoint, by simp [Setting.add], holds⟩

/-- The flags of `alternateEndpointNumbers` as one more endpoint is seen. -/
theorem flags_record (seen : Byte) (control : Bool) :
    ((if control then seen ||| endpointNumberSeen ||| controlEndpointSeen
      else seen ||| endpointNumberSeen) &&&
      endpointNumberSeen ≠ 0) ∧
    ((if control then seen ||| endpointNumberSeen ||| controlEndpointSeen
      else seen ||| endpointNumberSeen) &&&
      controlEndpointSeen ≠ 0 ↔ seen &&& controlEndpointSeen ≠ 0 ∨ control = true) := by
  revert seen control
  decide

/-- The parser with an endpoint added to the current setting. -/
def Parser.added (p : Parser) (endpoint : Endpoint) (interface index : Nat) : Parser :=
  (p.recordEndpoint endpoint.address endpoint.transferType).modifyInterface interface fun iface =>
    { iface with alternates := iface.alternates.modify index fun alternate =>
        { alternate with endpoints := alternate.endpoints ++ [endpoint] } }

theorem Parser.Current.added (current : p.Current done last) (interface index : Nat) :
    (p.added endpoint interface index).Current done (last.add endpoint) := by
  have inside (property : Endpoint → Prop) :
    (∃ other ∈ (last.add endpoint).endpoints, property other) ↔
      (∃ other ∈ last.endpoints, property other) ∨ property endpoint := by
    simp [Setting.add, or_and_right, exists_or]
  have flags (number : Byte) :=
    flags_record (p.alternateEndpointNumbers number) (endpoint.transferType = .control)
  refine ⟨?_, fun address => ?_, fun number => ?_, fun number => ?_, current.interfaceNumber,
    current.wantEndpoints⟩
  · rw [numbersOf_add]
    exact current.alternate
  · rw [inside, ← current.addresses]
    change Function.update p.alternateEndpoints endpoint.address true address = true ↔ _
    by_cases same : address = endpoint.address
    · subst same
      rw [Function.update_self]
      exact iff_of_true rfl (.inr rfl)
    · rw [Function.update_of_ne same, or_iff_left (Ne.symm same)]
  · rw [inside, ← current.numbers]
    change Function.update p.alternateEndpointNumbers endpoint.number _ number &&&
      endpointNumberSeen ≠ 0 ↔ _
    by_cases same : number = endpoint.number
    · subst same
      rw [Function.update_self]
      exact iff_of_true (by simpa [Endpoint.number] using (flags endpoint.number).1) (.inr rfl)
    · rw [Function.update_of_ne same, or_iff_left (Ne.symm same)]
  · rw [inside, ← current.controls]
    change Function.update p.alternateEndpointNumbers endpoint.number _ number &&&
      controlEndpointSeen ≠ 0 ↔ _
    by_cases same : number = endpoint.number
    · subst same
      rw [Function.update_self]
      simpa [Endpoint.number] using (flags endpoint.number).2
    · rw [Function.update_of_ne same, or_iff_left (fun both => same both.1.symm)]

/-- An endpoint of another setting that the new one would clash with is of the same interface. -/
theorem Free.same {other : Endpoint} {s : Setting} (free : Free done last endpoint)
    (member : s ∈ done ++ [last])
    (inside : other ∈ s.endpoints) (clash : other.Clash endpoint) : s.number = last.number := by
  by_contra apart
  obtain before | here := List.mem_append.mp member
  · exact free.elsewhere s before apart other inside clash
  · exact apart (congrArg (·.number) (List.mem_singleton.mp here))

theorem Parser.Represents.added (rep : p.Represents value (done ++ [last]))
    (free : Free done last endpoint) :
    (p.added endpoint ((numbersOf (done ++ [last])).idxOf last.number)
      (settingsOf done last.number).length).Represents
      value (done ++ [last.add endpoint]) := by
  have current := rep.current done last rfl
  have numbers : (done ++ [last.add endpoint]).map (·.number) =
      (done ++ [last]).map (·.number) := by simp [Setting.add]
  refine ⟨rep.value, ?_, fun number => ?_, fun number => ?_, fun address number => ?_,
    fun endpointNumber number => ?_,
    fun endpointNumber number => ?_, fun empty => absurd empty (by simp),
      fun before latest split => ?_,
    ⟨(sound_add_iff endpoint).mpr ⟨rep.consistent.toSound, free⟩, ?_⟩⟩
  · rw [interfacesOf_add, ← rep.configuration]
    rfl
  · rw [numbers, numbersOf_add]
    exact rep.positions number
  · have same := rep.defaults number
    simp only [List.mem_append, List.mem_singleton, or_and_right, exists_or,
      exists_eq_left] at same ⊢
    exact same
  · rw [exists_add, ← rep.owners, ← current.interfaceNumber]
    change Function.update p.endpointInterfaces endpoint.address _ address = some number ↔ _
    by_cases same : address = endpoint.address
    · subst same
      rw [Function.update_self, Option.some_inj, and_iff_left rfl]
      refine (or_iff_right_of_imp fun known => ?_).symm
      obtain ⟨s, member, rfl, other, inside, address⟩ := (rep.owners _ _).mp known
      exact current.interfaceNumber.trans (free.same member inside (.inl address)).symm
    · rw [Function.update_of_ne same, or_iff_left (fun both => same both.2.symm)]
  · rw [exists_add, ← rep.numberOwners, ← current.interfaceNumber]
    change number ∈ Function.update p.endpointNumberInterfaces endpoint.number _ endpointNumber ↔ _
    by_cases same : endpointNumber = endpoint.number
    · subst same
      rw [Function.update_self, List.mem_cons, and_iff_left rfl, or_comm, eq_comm]
      rfl
    · rw [Function.update_of_ne same, or_iff_left (fun both => same both.2.symm)]
  · rw [exists_add, ← rep.controlOwners, ← current.interfaceNumber]
    change (if endpoint.transferType = .control then
      Function.update p.controlEndpointInterfaces endpoint.number (some p.interfaceNumber)
      else p.controlEndpointInterfaces) endpointNumber = some number ↔ _
    by_cases control : endpoint.transferType = .control
    · rw [if_pos control]
      by_cases same : endpointNumber = endpoint.number
      · subst same
        rw [Function.update_self, Option.some_inj, and_iff_left ⟨rfl, control⟩]
        refine (or_iff_right_of_imp fun known => ?_).symm
        obtain ⟨s, member, rfl, other, inside, number, -⟩ := (rep.controlOwners _ _).mp known
        exact current.interfaceNumber.trans (free.same member inside (.inr ⟨number,
          .inr control⟩)).symm
      · rw [Function.update_of_ne same, or_iff_left (fun both => same both.2.1.symm)]
    · rw [if_neg control, or_iff_left (fun both => control both.2.2)]
  · obtain ⟨rfl, lasts⟩ := List.append_inj' split rfl
    obtain rfl := List.singleton_inj.mp lasts
    exact current.added _ _
  · have complete := rep.consistent.complete
    rw [List.dropLast_concat] at complete ⊢
    exact complete

/-- `addEndpoint` adds an endpoint to the last setting, unless the settings would not be
consistent with it. -/
theorem Parser.Represents.addEndpoint (rep : p.Represents value (done ++ [last])) (position : Nat) :
    Settles (fun p' => ∃ endpoint, endpoint.OfDescriptor descriptor ∧
      p'.Represents value (done ++ [last.add endpoint]))
      (∀ endpoint, endpoint.OfDescriptor descriptor → ¬Consistent (done ++ [last.add endpoint]))
      (p.addEndpoint descriptor position) := by
  rw [Parser.addEndpoint, (rep.current done last rfl).alternate, rep.current_some]
  refine (endpointFromDescriptor_spec descriptor position).bind
    (fun invalid endpoint fields => absurd fields (invalid endpoint)) fun endpoint fields => ?_
  refine (rep.validateEndpoint last.setting endpoint).bind
    (fun taken other fields' consistent => taken ?_)
    fun _ free => ⟨endpoint, fields, rep.added free⟩
  rw [fields.unique fields']
  exact ((sound_add_iff other).mp consistent.toSound).2

end Represents

end Ostiole.Usb
