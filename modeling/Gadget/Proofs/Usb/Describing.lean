import Gadget.Proofs.Usb.Writing
import Gadget.Serial.Basic
import Gadget.Vendor

namespace Gadget

namespace LittleEndian

theorem read16_word16 (w : UInt16) :
    read16 (.ofNat w.toNat) (.ofNat (w.toNat / 0x100)) = w := by
  have bound := w.toNat_lt
  simp only [read16, ← UInt16.toNat_inj, UInt8.toNat_ofNat', UInt16.toNat_ofNat']
  omega

end LittleEndian

structure Outline where
  interfaces : List UInt8
  unions : List (UInt8 × UInt8)

namespace Outline

def empty : Outline := ⟨[], []⟩

instance : Append Outline where
  append first rest := ⟨first.interfaces ++ rest.interfaces, first.unions ++ rest.unions⟩

def functionalFields (subtype : UInt8) (blocks : List Bytes) : List Bytes :=
  (blocks.filter (Block.isFunctional subtype)).map (List.drop 3)

theorem functionalFields_append (subtype : UInt8) (blocks others : List Bytes) :
    functionalFields subtype (blocks ++ others) =
      functionalFields subtype blocks ++ functionalFields subtype others := by
  simp [functionalFields]

/-- A host finds the interfaces, each with its endpoints counted, and their unions: with one that names
both interfaces and, for the management of calls, one that names the interface for data. -/
structure ReadFrom (outline : Outline) (blocks : List Bytes) : Prop where
  interfaces : (blocks.filter Block.isInterface).map Block.interfaceNumber = outline.interfaces
  unions : functionalFields 0x06 blocks = outline.unions.map fun union => [union.1, union.2]
  callManagement : (functionalFields 0x01 blocks).map (List.drop 1) =
    outline.unions.map fun union => [union.2]
  endpoints : EndpointsCounted blocks

theorem ReadFrom.append {outline more : Outline} {blocks others : List Bytes}
    (first : outline.ReadFrom blocks) (rest : more.ReadFrom others)
    (opens : endpointsAhead others = 0) : (outline ++ more).ReadFrom (blocks ++ others) where
  interfaces := by
    rw [List.filter_append, List.map_append, first.interfaces, rest.interfaces]
    rfl
  unions := by
    rw [functionalFields_append, first.unions, rest.unions]
    exact List.map_append.symm
  callManagement := by
    rw [functionalFields_append, List.map_append, first.callManagement, rest.callManagement]
    exact List.map_append.symm
  endpoints := first.endpoints.append rest.endpoints opens

end Outline

namespace Descriptor

structure Extension (descriptors : List Descriptor) (outline : Outline) : Prop where
  opens : countEndpoints descriptors = 0
  readable : ∀ descriptor ∈ descriptors, descriptor.IsReadable
  interfaces : descriptors.countP isInterface = outline.interfaces.length
  read : outline.ReadFrom (blocks descriptors)

namespace Extension

theorem nil : Extension [] .empty :=
  ⟨rfl, by simp, rfl, ⟨rfl, rfl, rfl, endpointsCounted_nil⟩⟩

theorem append {first rest : List Descriptor} {outline more : Outline}
    (extension : Extension first outline) (others : Extension rest more) :
    Extension (first ++ rest) (outline ++ more) where
  opens := by rw [countEndpoints_append first others.opens, extension.opens]
  readable := List.forall_mem_append.mpr ⟨extension.readable, others.readable⟩
  interfaces := by
    rw [List.countP_append, extension.interfaces, others.interfaces]
    exact List.length_append.symm
  read := by
    have opens := endpointsAhead_blocks others.readable
    rw [others.opens] at opens
    rw [blocks_append first others.opens]
    exact extension.read.append others.read opens

end Extension

end Descriptor

namespace Written

open Descriptor (Extension lengthAll)

structure Headed (written : Written) : Prop where
  marked : written.interfaceMark = some 4
  headed : 9 ≤ written.bytes.length

/-- What a configuration gains that is written to the end: as many bytes as were asked for, in which a
host finds what it should. The bytes before stay, but for the count of interfaces. -/
structure Completes (before after : Written) (length : Nat) (outline : Outline) : Prop where
  position : after.bytes.length = before.bytes.length + length
  kept : after.bytes.take before.bytes.length = raise 4 outline.interfaces.length before.bytes
  count : after.count 4 = before.count 4 + outline.interfaces.length
  read : ∃ blocks, blocks? (after.bytes.drop before.bytes.length) = some blocks ∧
    Block.lengthAll blocks = length ∧ outline.ReadFrom blocks

variable {before after : Written} {descriptors : List Descriptor} {outline : Outline}

theorem Extends.bytes_eq (extended : before.Extends after descriptors)
    (extension : Extension descriptors outline) :
    after.bytes =
      raise 4 outline.interfaces.length before.bytes ++ Descriptor.encodeAll descriptors := by
  rw [extended.bytes, grown_of_opens extension.opens, extension.interfaces]

theorem Extends.completes (extended : before.Extends after descriptors)
    (extension : Extension descriptors outline) (headed : before.Headed)
    (few : before.count 4 + outline.interfaces.length ≤ 255) :
    before.Completes after (lengthAll descriptors) outline := by
  have bytes := extended.bytes_eq extension
  have inside : 4 < before.bytes.length := Nat.lt_of_lt_of_le (by decide) headed.headed
  have old : (raise 4 outline.interfaces.length before.bytes).length = before.bytes.length :=
    length_raise
  have read := Descriptor.blocks?_encodeAll extension.readable
  constructor
  · rw [bytes, List.length_append, old, Descriptor.length_encodeAll]
  · rw [bytes, ← old, List.take_left]
  · rw [count, bytes, List.getD_append _ _ _ _ (old ▸ inside), toNat_getD_raise inside few, count]
  · refine ⟨_, ?_, ?_, extension.read⟩
    · rw [bytes, ← old, List.drop_left]
      exact read
    · rw [lengthAll_of_blocks? read, Descriptor.length_encodeAll]

end Written

theorem Written.room_eq_ok {written : Written} {length : Nat} :
    written.room length = .ok () ↔ length ≤ written.free := by
  unfold room
  split <;> simp [*]

theorem Written.eq_of_room_eq_error {written : Written} {length : Nat} {error : UsbError}
    (refused : written.room length = .error error) : error = .bufferOverflow := by
  unfold room at refused
  split at refused
  · cases refused
  · exact (Except.error.inj refused).symm

namespace UsbFunction

open Descriptor (Extension lengthAll putAll)
open DescriptorWriter (Contract)

def noting {ω : Type} (wrote : Record) (put : Except UsbError Unit × ω) :
    Logged (Except UsbError Unit × ω) :=
  match put with
  | (.ok _, after) => ⟨(.ok (), after), [wrote]⟩
  | (.error error, after) => ⟨(.error error, after), []⟩

theorem value_noting {ω : Type} (wrote : Record) (put : Except UsbError Unit × ω) :
    (noting wrote put).value = put := by
  obtain ⟨_ | _, after⟩ := put <;> rfl

theorem records_noting {ω : Type} (wrote : Record) (put : Except UsbError Unit × ω) :
    (noting wrote put).records = if put.1 = .ok () then [wrote] else [] := by
  obtain ⟨_ | _, after⟩ := put <;> rfl

variable {κ ω : Type} [UsbFunction κ] [DescriptorWriter ω]

/-- A function takes `length` bytes for its descriptors or, without so much room, makes the
configuration fail. It records that it wrote them exactly if it did. -/
structure Describes (contract : Contract ω) (function : κ) (before : ω) (length : Nat)
    (outline : Outline) (wrote : Record) : Prop where
  succeeds : (describe function before).value.1 = .ok () ↔ length ≤ (contract.written before).free
  refused : ∀ error, (describe function before).value.1 = .error error → error = .bufferOverflow
  completes : length ≤ (contract.written before).free →
    (contract.written before).Completes (contract.written (describe function before).value.2)
      length outline
  recorded : (describe function before).records =
    if length ≤ (contract.written before).free then [wrote] else []

structure Writes (contract : Contract ω) (functions : κ) (before : ω)
    (descriptors : List Descriptor) (wrote : List Record) : Prop where
  answer : (describe functions before).value.1 =
    (contract.written before).room (lengthAll descriptors)
  adds : lengthAll descriptors ≤ (contract.written before).free →
    (contract.written before).Extends (contract.written (describe functions before).value.2)
      descriptors
  records : lengthAll descriptors ≤ (contract.written before).free →
    (describe functions before).records = wrote

variable {contract : Contract ω} {function : κ} {before : ω} {descriptors : List Descriptor}
  {outline : Outline} {wrote : Record}

theorem writes_of_noting
    (notes : describe function before = noting wrote (putAll descriptors before))
    (extension : Extension descriptors outline) (small : descriptors.length ≤ 256)
    (admits : ∀ descriptor ∈ descriptors, (contract.written before).Admits descriptor)
    (headed : (contract.written before).Headed)
    (few : (contract.written before).count 4 + outline.interfaces.length ≤ 255) :
    Writes contract function before descriptors [wrote] := by
  have takes : (contract.written before).Takes descriptors :=
    .of_headed headed.marked headed.headed extension.opens (extension.interfaces ▸ few)
  obtain ⟨answer, adds⟩ := contract.putAll_eq small extension.readable admits takes
  constructor
  · rw [notes, value_noting, answer]
  · intro fits
    rw [notes, value_noting]
    exact adds fits
  · intro fits
    rw [notes, records_noting, answer, if_pos (Written.room_eq_ok.mpr fits)]

theorem describes_of_noting
    (notes : describe function before = noting wrote (putAll descriptors before))
    (extension : Extension descriptors outline) (small : descriptors.length ≤ 256)
    (admits : ∀ descriptor ∈ descriptors, (contract.written before).Admits descriptor)
    (headed : (contract.written before).Headed)
    (few : (contract.written before).count 4 + outline.interfaces.length ≤ 255) :
    Describes contract function before (lengthAll descriptors) outline wrote := by
  have writes := writes_of_noting notes extension small admits headed few
  constructor
  · rw [writes.answer]
    exact Written.room_eq_ok
  · intro error refused
    rw [writes.answer] at refused
    exact Written.eq_of_room_eq_error refused
  · exact fun fits => (writes.adds fits).completes extension headed few
  · have answer := writes.answer
    rw [notes, value_noting] at answer
    rw [notes, records_noting, answer, if_congr Written.room_eq_ok rfl rfl]

end UsbFunction

namespace Vendor

variable {ω : Type} [DescriptorWriter ω]

def outline (vendor : Vendor) : Outline := ⟨[vendor.interface], []⟩

def wrote : Record := ⟨.trace, target, .ofString "wrote vendor interface descriptor"⟩

theorem lengthAll_descriptors (vendor : Vendor) :
    Descriptor.lengthAll vendor.descriptors = descriptorLength := rfl

theorem readable (vendor : Vendor) :
    ∀ descriptor ∈ vendor.descriptors, descriptor.IsReadable := by
  simp [descriptors, endpoints, Descriptor.IsReadable]

theorem extension (vendor : Vendor) : Descriptor.Extension vendor.descriptors vendor.outline :=
  ⟨rfl, vendor.readable, rfl, rfl, rfl, rfl,
    Descriptor.endpointsCounted_blocks vendor.readable (by decide : 4 ≤ 0x100)⟩

theorem describe_eq (vendor : Vendor) (before : ω) :
    UsbFunction.describe vendor before =
      UsbFunction.noting wrote (Descriptor.putAll vendor.descriptors before) := by
  simp only [UsbFunction.describe]
  generalize Descriptor.putAll vendor.descriptors before = put
  obtain ⟨_ | _, after⟩ := put <;> rfl

theorem admits (vendor : Vendor) (written : Written) :
    ∀ descriptor ∈ vendor.descriptors, written.Admits descriptor := by
  simp [descriptors, endpoints, Written.Admits]

end Vendor

namespace Serial

variable {ω : Type} [DescriptorWriter ω]

def outline (serial : Serial) : Outline :=
  ⟨[serial.controlInterface, serial.dataInterface],
    [(serial.controlInterface, serial.dataInterface)]⟩

def wrote : Record := ⟨.trace, target, .ofString "wrote serial port descriptors"⟩

/-- The association is left out of a device without any. -/
def described (serial : Serial) (associations : Bool) : List Descriptor :=
  if associations then serial.descriptors else serial.descriptors.tail

def descriptorLengthWith (associations : Bool) : Nat :=
  if associations then descriptorLength else descriptorLength - Descriptor.associationLength

theorem lengthAll_described (serial : Serial) (associations : Bool) :
    Descriptor.lengthAll (serial.described associations) = descriptorLengthWith associations := by
  cases associations <;> rfl

theorem readable (serial : Serial) :
    ∀ descriptor ∈ serial.descriptors, descriptor.IsReadable := by
  simp [descriptors, functional, Descriptor.IsReadable, LittleEndian.word16]

theorem extension (serial : Serial) (associations : Bool) :
    Descriptor.Extension (serial.described associations) serial.outline := by
  cases associations with
  | false =>
    have readable : ∀ descriptor ∈ serial.descriptors.tail, descriptor.IsReadable :=
      fun descriptor member => serial.readable descriptor (List.mem_of_mem_tail member)
    exact ⟨rfl, readable, rfl, rfl, rfl, rfl,
      Descriptor.endpointsCounted_blocks readable (by decide : 9 ≤ 0x100)⟩
  | true =>
    exact ⟨rfl, serial.readable, rfl, rfl, rfl, rfl,
      Descriptor.endpointsCounted_blocks serial.readable (by decide : 10 ≤ 0x100)⟩

theorem admits (serial : Serial) (written : Written) :
    ∀ descriptor ∈ serial.described written.associations, written.Admits descriptor := by
  cases associations : written.associations <;>
    simp [described, descriptors, functional, Written.Admits, associations]

theorem putAll_descriptors (contract : DescriptorWriter.Contract ω) (serial : Serial) (before : ω) :
    Descriptor.putAll serial.descriptors before =
      Descriptor.putAll (serial.described (contract.written before).associations) before := by
  cases associations : (contract.written before).associations with
  | true => rfl
  | false =>
    have skipped : Descriptor.put
        (.association serial.controlInterface 2 Identity.serialClass) before = (.ok (), before) := by
      rw [Descriptor.put, contract.association_eq, associations]
      rfl
    have rest : Descriptor.putAll serial.descriptors before =
        Descriptor.putAll serial.descriptors.tail (Descriptor.put _ before).2 :=
      Descriptor.putAll_of_ok (congrArg Prod.fst skipped)
    rw [skipped] at rest
    exact rest

theorem describe_eq (contract : DescriptorWriter.Contract ω) (serial : Serial) (before : ω) :
    UsbFunction.describe serial before = UsbFunction.noting wrote
      (Descriptor.putAll (serial.described (contract.written before).associations) before) := by
  rw [← serial.putAll_descriptors contract]
  simp only [UsbFunction.describe]
  generalize Descriptor.putAll serial.descriptors before = put
  obtain ⟨_ | _, after⟩ := put <;> rfl

end Serial

end Gadget
