import Gadget.Proofs.Serial.Control
import Gadget.Proofs.Usb.Composing
import Gadget.Proofs.Vendor.Packets

namespace Gadget

namespace Written

open Descriptor (lengthAll)

structure IsHeader (written : Written) : Prop where
  marked : written.interfaceMark = some 4
  inside : written.bytes.length ≤ written.capacity
  bytes : ∃ value name attributes power,
    written.bytes = [9, 2, 0, 0, 0, value, name, attributes, power]

theorem IsHeader.length {header : Written} (only : header.IsHeader) : header.bytes.length = 9 := by
  obtain ⟨value, name, attributes, power, bytes⟩ := only.bytes
  exact congrArg List.length bytes

theorem IsHeader.headed {header : Written} (only : header.IsHeader) : header.Headed :=
  ⟨only.marked, Nat.le_of_eq only.length.symm⟩

theorem IsHeader.count {header : Written} (only : header.IsHeader) : header.count 4 = 0 := by
  obtain ⟨value, name, attributes, power, bytes⟩ := only.bytes
  rw [Written.count, bytes]
  rfl

end Written

/-- All of a configuration, which tells its own length and the number of its interfaces. -/
structure IsComplete (bytes : Bytes) (outline : Outline) : Prop where
  total : (LittleEndian.read16 (bytes.getD 2 0) (bytes.getD 3 0)).toNat = bytes.length
  count : (bytes.getD 4 0).toNat = outline.interfaces.length
  read : ∃ blocks, blocks? bytes = some (bytes.take 9 :: blocks) ∧ outline.ReadFrom blocks

theorem length_finished {bytes : Bytes} (long : 4 ≤ bytes.length) :
    (finished bytes).length = bytes.length := by
  simp only [finished, LittleEndian.word16, List.length_append, List.length_take, List.length_drop,
    List.length_cons, List.length_nil]
  omega

theorem isComplete_finished {header after : Written} {descriptors : List Descriptor}
    {outline : Outline} (only : header.IsHeader) (extended : header.Extends after descriptors)
    (extension : Descriptor.Extension descriptors outline)
    (few : outline.interfaces.length ≤ 255) (short : after.bytes.length < 0x10000) :
    IsComplete (finished after.bytes) outline := by
  obtain ⟨value, name, attributes, power, bytes⟩ := only.bytes
  have whole := extended.bytes_eq extension
  rw [bytes] at whole
  have long : 4 ≤ after.bytes.length := by
    rw [extended.length, only.length]
    omega
  -- The header as it was, but for the total and the number of interfaces.
  let total := UInt16.ofNat after.bytes.length
  let head : Bytes := [9, 2, .ofNat total.toNat, .ofNat (total.toNat / 0x100),
    0 + .ofNat outline.interfaces.length, value, name, attributes, power]
  have joined : finished after.bytes = head ++ Descriptor.encodeAll descriptors := by
    have first : after.bytes.take 2 = [9, 2] := by
      rw [whole]
      rfl
    have rest : after.bytes.drop 4 = head.drop 4 ++ Descriptor.encodeAll descriptors := by
      rw [whole]
      rfl
    rw [finished, first, rest]
    rfl
  have sound : IsBlock head := ⟨List.cons_ne_nil _ _, rfl⟩
  constructor
  · rw [length_finished long, joined]
    change (LittleEndian.read16 (.ofNat total.toNat) (.ofNat (total.toNat / 0x100))).toNat = _
    rw [LittleEndian.read16_word16, UInt16.toNat_ofNat']
    exact Nat.mod_eq_of_lt short
  · rw [joined]
    change ((0 : UInt8) + .ofNat outline.interfaces.length).toNat = _
    rw [UInt8.zero_add, UInt8.toNat_ofNat']
    exact Nat.mod_eq_of_lt (Nat.lt_succ_of_le few)
  · refine ⟨Descriptor.blocks descriptors, ?_, extension.read⟩
    rw [joined, blocks?_append sound, Descriptor.blocks?_encodeAll extension.readable]
    rfl

abbrev FunctionSet := Option Vendor × Option Serial

namespace FunctionSet

def descriptors (functions : FunctionSet) (associations : Bool) : List Descriptor :=
  functions.1.elim [] Vendor.descriptors ++ functions.2.elim [] (Serial.described · associations)

def outline (functions : FunctionSet) : Outline :=
  functions.1.elim .empty Vendor.outline ++ functions.2.elim .empty Serial.outline

def wrote (functions : FunctionSet) : List Record :=
  (functions.1.map fun _ => Vendor.wrote).toList ++ (functions.2.map fun _ => Serial.wrote).toList

def descriptorLength (functions : FunctionSet) (associations : Bool) : Nat :=
  functions.1.elim 0 (fun _ => Vendor.descriptorLength) +
    functions.2.elim 0 fun _ => Serial.descriptorLengthWith associations

theorem lengthAll_descriptors (functions : FunctionSet) (associations : Bool) :
    Descriptor.lengthAll (functions.descriptors associations) =
      functions.descriptorLength associations := by
  obtain ⟨vendor, serial⟩ := functions
  rw [descriptors, Descriptor.lengthAll_append]
  congr 1
  · cases vendor <;> rfl
  · cases serial with
    | none => rfl
    | some serial => exact serial.lengthAll_described associations

theorem contributes {ω : Type} [DescriptorWriter ω] (contract : DescriptorWriter.Contract ω)
    (functions : FunctionSet) (associations : Bool) :
    UsbFunction.Contributes contract functions associations (functions.descriptors associations)
      functions.outline functions.wrote :=
  .prod (.option fun vendor => vendor.contributes contract associations)
    (.option fun serial => serial.contributes contract associations)

theorem descriptorLength_le (functions : FunctionSet) (associations : Bool) :
    9 + functions.descriptorLength associations ≤ 128 := by
  have fits : 9 + (Vendor.descriptorLength + Serial.descriptorLength) ≤ 128 := by decide
  have serial : Serial.descriptorLengthWith associations ≤ Serial.descriptorLength := by
    cases associations <;> decide
  refine Nat.le_trans (Nat.add_le_add_left (Nat.add_le_add ?_ ?_) _) fits
  · cases functions.1 with
    | none => exact Nat.zero_le _
    | some vendor => exact Nat.le_refl _
  · cases functions.2 with
    | none => exact Nat.zero_le _
    | some port => exact serial

theorem length_outline (functions : FunctionSet) : functions.outline.interfaces.length ≤ 3 := by
  obtain ⟨_ | vendor, _ | serial⟩ := functions
  all_goals
    exact Nat.le_of_ble_eq_true rfl

end FunctionSet

namespace UsbFunction

open DescriptorWriter (Contract)

variable {κ ω : Type} [UsbFunction κ] [DescriptorWriter ω] {contract : Contract ω}

/-- A device with these functions answers a request for its configuration, which takes `length` bytes
beside its own descriptor: with all of it, or not at all. -/
structure AnswersConfiguration (contract : Contract ω) (functions : κ) (header : ω) (length : Nat)
    (outline : Outline) (wrote : List Record) : Prop where
  declines : ∀ (request : Request) (accept : Bytes → Except UsbError Unit),
    request.kind = .standard → controlIn request accept functions = ⟨(none, functions), []⟩
  complete : 9 + length ≤ (contract.written header).capacity → ∃ bytes,
    contract.answer (describe functions header).value = some bytes ∧ bytes.length = 9 + length ∧
      IsComplete bytes outline ∧ (describe functions header).records = wrote
  refused : (contract.written header).capacity < 9 + length →
    contract.answer (describe functions header).value = none

theorem Contributes.answers {functions : κ} {header : ω} {descriptors : List Descriptor}
    {outline : Outline} {wrote : List Record}
    (contributes : Contributes contract functions (contract.written header).associations
      descriptors outline wrote)
    (only : (contract.written header).IsHeader) (few : outline.interfaces.length ≤ 255)
    (short : 9 + Descriptor.lengthAll descriptors ≤ (contract.written header).capacity →
      9 + Descriptor.lengthAll descriptors < 0x10000) :
    AnswersConfiguration contract functions header (Descriptor.lengthAll descriptors) outline
      wrote := by
  have count : (contract.written header).count 4 + outline.interfaces.length ≤ 255 := by
    rw [only.count, Nat.zero_add]
    exact few
  have writes := contributes.writes header rfl only.headed count
  have free : (contract.written header).free = (contract.written header).capacity - 9 := by
    rw [Written.free, only.length]
  have inside := only.length ▸ only.inside
  have answered := contract.answered (describe functions header).value.2
  have stalled := contract.stalled .bufferOverflow (describe functions header).value.2
  constructor
  · exact contributes.declines
  · intro room
    have fits : Descriptor.lengthAll descriptors ≤ (contract.written header).free := by omega
    have ok := writes.answer.trans (if_pos fits)
    have added := writes.adds fits
    have length := added.length
    rw [only.length] at length
    rw [← ok] at answered
    refine ⟨_, answered, ?_, ?_, writes.records fits⟩
    · rw [length_finished (by omega), length]
    · exact isComplete_finished only added contributes.extension few (length ▸ short room)
  · intro full
    have failed : (describe functions header).value.1 = .error .bufferOverflow :=
      writes.answer.trans (if_neg (by omega))
    rw [← failed] at stalled
    exact stalled

end UsbFunction

/-- A function's part of a configuration is there to the last byte, with all its numbers in order, or
the configuration fails. A device has room for its functions, and with others before them still sends
all of its configuration or none. -/
theorem configuration_whole_or_refused {ω : Type} [DescriptorWriter ω]
    (contract : DescriptorWriter.Contract ω) (before : ω)
    (headed : (contract.written before).Headed) (few : (contract.written before).count 4 ≤ 250)
    (vendor : Vendor) (serial : Serial) :
    let associations := (contract.written before).associations
    UsbFunction.Describes contract vendor before Vendor.descriptorLength vendor.outline
        Vendor.wrote ∧
      UsbFunction.Describes contract serial before (Serial.descriptorLengthWith associations)
        serial.outline Serial.wrote ∧
      ∀ header : ω, (contract.written header).IsHeader →
        let associations := (contract.written header).associations
        (∀ functions : FunctionSet,
          let size := functions.descriptorLength associations
          9 + size ≤ 128 ∧ UsbFunction.AnswersConfiguration contract functions header size
            functions.outline functions.wrote) ∧
        ∀ {κ : Type} [UsbFunction κ] (others : κ) (functions : FunctionSet)
          (first : List Descriptor) (outline : Outline) (wrote : List Record),
          UsbFunction.Contributes contract others associations first outline wrote →
            outline.interfaces.length ≤ 250 → (contract.written header).capacity < 0x10000 →
              UsbFunction.AnswersConfiguration contract (others, functions) header
                (Descriptor.lengthAll first + functions.descriptorLength associations)
                (outline ++ functions.outline) (wrote ++ functions.wrote) := by
  intro associations
  refine ⟨?_, ?_, fun header only => ⟨fun functions => ⟨?_, ?_⟩, ?_⟩⟩
  · rw [← vendor.lengthAll_descriptors]
    exact UsbFunction.describes_of_noting (vendor.describe_eq before) vendor.extension
      (by decide : 4 ≤ 256) (vendor.admits _) headed
      (Nat.le_trans (Nat.add_le_add_right few 1) (by decide))
  · rw [← serial.lengthAll_described]
    exact UsbFunction.describes_of_noting (serial.describe_eq contract before) (serial.extension _)
      (serial.length_described _) (serial.admits _) headed
      (Nat.le_trans (Nat.add_le_add_right few 2) (by decide))
  · exact functions.descriptorLength_le _
  · have small := functions.descriptorLength_le (contract.written header).associations
    rw [← FunctionSet.lengthAll_descriptors] at small ⊢
    exact (functions.contributes contract _).answers only
      (Nat.le_trans functions.length_outline (by decide))
      fun _ => Nat.lt_of_le_of_lt small (by decide)
  · intro κ _ others functions first outline wrote contributes most capacity
    have three := functions.length_outline
    rw [← FunctionSet.lengthAll_descriptors, ← Descriptor.lengthAll_append]
    refine (contributes.prod (functions.contributes contract _)).answers only ?_
      fun room => Nat.lt_of_le_of_lt room capacity
    show (outline.interfaces ++ functions.outline.interfaces).length ≤ 255
    rw [List.length_append]
    omega

/-- The same descriptors after those of the vendor interface, with room for the last byte and without
it; and beside a function that takes too much. -/
theorem last_byte_decides :
    let vendor := Vendor.initial 0 4 5
    let serial := Serial.initial 1 2 6
    let contract := Bench.DescriptorBuffer.contract
    let header := (Bench.DescriptorBuffer.empty 128 true).header.2
    let before (capacity : Nat) : Bench.DescriptorBuffer :=
      (UsbFunction.describe vendor (Bench.DescriptorBuffer.empty capacity true).header.2).value.2
    let filler : Option Bench.Filler := some ⟨24⟩
    (contract.written (before 105)).count 4 = 1 ∧
      (UsbFunction.describe serial (before 105)).value.1 = .ok () ∧
      (UsbFunction.describe serial (before 104)).value.1 ≠ .ok () ∧
      contract.answer (UsbFunction.describe (filler, some vendor, some serial) header).value =
        none := by
  intro vendor serial contract header before filler
  have headed (capacity : Nat) (known : capacity = 104 ∨ capacity = 105) :
      (contract.written (before capacity)).Headed := by
    obtain rfl | rfl := known <;> exact ⟨rfl, by decide⟩
  obtain ⟨-, enough, crowded⟩ := configuration_whole_or_refused contract (before 105)
    (headed _ (.inr rfl)) (by decide) vendor serial
  obtain ⟨-, short, -⟩ := configuration_whole_or_refused contract (before 104)
    (headed _ (.inl rfl)) (by decide) vendor serial
  have filled : UsbFunction.Contributes contract filler true _ _ _ :=
    .some (Bench.Filler.contributes contract (by decide : 24 < 0x100) true)
  have only : (contract.written header).IsHeader := ⟨rfl, by decide, _, _, _, _, rfl⟩
  refine ⟨by decide, enough.succeeds.mpr (by decide), ?_, ?_⟩
  · rw [Ne, short.succeeds]
    decide
  · exact ((crowded header only).2 filler (some vendor, some serial) _ _ _ filled (by decide)
      (by decide)).refused (by decide)

end Gadget
