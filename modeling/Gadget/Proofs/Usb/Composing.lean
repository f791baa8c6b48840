import Gadget.Bench.Device
import Gadget.Proofs.Usb.Describing

namespace Gadget

namespace Descriptor

theorem encodeAll_append (first : List Descriptor) {rest : List Descriptor}
    (opens : countEndpoints rest = 0) :
    encodeAll (first ++ rest) = encodeAll first ++ encodeAll rest := by
  simp only [encodeAll_eq_flatten, blocks_append _ opens, List.flatten_append]

end Descriptor

namespace Written

open Descriptor (Extension countEndpoints lengthAll)

variable {before after last : Written} {descriptors more : List Descriptor} {outline : Outline}

theorem Extends.length (extended : before.Extends after descriptors) :
    after.bytes.length = before.bytes.length + lengthAll descriptors := by
  rw [extended.bytes, grown, List.length_append, length_raise, length_counted,
    Descriptor.length_encodeAll]

theorem Extends.free (extended : before.Extends after descriptors) :
    after.free = before.free - lengthAll descriptors := by
  rw [Written.free, extended.capacity, extended.length, Nat.sub_add_eq, Written.free]

theorem Extends.headed (extended : before.Extends after descriptors) (headed : before.Headed) :
    after.Headed where
  marked := extended.interfaceMark.trans headed.marked
  headed := by
    rw [extended.length]
    exact Nat.le_add_right_of_le headed.headed

theorem Extends.trans (first : before.Extends after descriptors)
    (second : ({ after with endpointMark := none }).Extends last more) (headed : before.Headed)
    (opens : countEndpoints descriptors = 0) (others : countEndpoints more = 0) :
    before.Extends last (descriptors ++ more) where
  capacity := second.capacity.trans first.capacity
  associations := second.associations.trans first.associations
  interfaceMark := second.interfaceMark.trans first.interfaceMark
  bytes := by
    have inside : 4 < (raise 4 (descriptors.countP Descriptor.isInterface) before.bytes).length := by
      rw [length_raise]
      exact Nat.lt_of_lt_of_le (by decide) headed.headed
    have both : countEndpoints (descriptors ++ more) = 0 := by
      rw [Descriptor.countEndpoints_append _ others, opens]
    rw [second.bytes, grown_of_opens others, first.bytes, grown_of_opens opens,
      raise_append_left inside, raise_raise, grown_of_opens both, List.countP_append,
      Descriptor.encodeAll_append _ others, List.append_assoc]

end Written

theorem Logged.bind_silent {α β : Type} (value : α) (next : α → Logged β) :
    ((⟨value, []⟩ : Logged α) >>= next) = next value := rfl

namespace UsbFunction

open Descriptor (lengthAll)
open DescriptorWriter (Contract)

variable {κ κ₁ κ₂ ω : Type} [UsbFunction κ] [UsbFunction κ₁] [UsbFunction κ₂] [DescriptorWriter ω]
  {contract : Contract ω}

structure Contributes (contract : Contract ω) (functions : κ) (associations : Bool)
    (descriptors : List Descriptor) (outline : Outline) (wrote : List Record) : Prop where
  declines : ∀ (request : Request) (accept : Bytes → Except UsbError Unit),
    request.kind = .standard → controlIn request accept functions = ⟨(none, functions), []⟩
  extension : Descriptor.Extension descriptors outline
  writes : ∀ before : ω, (contract.written before).associations = associations →
    (contract.written before).Headed →
      (contract.written before).count 4 + outline.interfaces.length ≤ 255 →
        Writes contract functions before descriptors wrote

section Pair

variable {first : κ₁} {second : κ₂} {before : ω} {descriptors more : List Descriptor}
  {wrote later : List Record}

theorem describe_prod : describe (first, second) before =
    (describe first before >>= fun described => match described with
      | (.ok _, after) => describe second (DescriptorWriter.endFunction after)
      | (.error error, after) => pure (.error error, after)) := rfl

theorem describe_prod_of_ok (ok : (describe first before).value.1 = .ok ()) :
    describe (first, second) before =
      let next := describe second (DescriptorWriter.endFunction (describe first before).value.2)
      ⟨next.value, (describe first before).records ++ next.records⟩ := by
  rw [describe_prod]
  generalize describe first before = described at ok ⊢
  obtain ⟨⟨answer, after⟩, records⟩ := described
  cases ok
  rfl

theorem describe_prod_of_error {error : UsbError}
    (refused : (describe first before).value.1 = .error error) :
    (describe (first, second) before).value.1 = .error error := by
  rw [describe_prod]
  generalize describe first before = described at refused ⊢
  obtain ⟨⟨answer, after⟩, records⟩ := described
  cases refused
  rfl

theorem Writes.prod (writes : Writes contract first before descriptors wrote)
    (rest : lengthAll descriptors ≤ (contract.written before).free →
      Writes contract second (DescriptorWriter.endFunction (describe first before).value.2) more
        later)
    (headed : (contract.written before).Headed)
    (opens : Descriptor.countEndpoints descriptors = 0)
    (others : Descriptor.countEndpoints more = 0) :
    Writes contract (first, second) before (descriptors ++ more) (wrote ++ later) := by
  -- Either the first has no room, or the second has what the first leaves.
  by_cases room : lengthAll descriptors ≤ (contract.written before).free
  · have ok : (describe first before).value.1 = .ok () := writes.answer.trans (if_pos room)
    have next := rest room
    have ended := contract.endFunction_written (describe first before).value.2
    have left : (contract.written
        (DescriptorWriter.endFunction (describe first before).value.2)).free =
          (contract.written before).free - lengthAll descriptors := by
      rw [ended]
      exact (writes.adds room).free
    have fits : lengthAll more ≤ (contract.written before).free - lengthAll descriptors ↔
        lengthAll (descriptors ++ more) ≤ (contract.written before).free := by
      rw [Descriptor.lengthAll_append]
      omega
    constructor
    · rw [describe_prod_of_ok ok]
      show (describe second _).value.1 = _
      rw [next.answer, Written.room, left, if_congr fits rfl rfl, Written.room]
    · intro whole
      rw [describe_prod_of_ok ok]
      have added := next.adds (left ▸ fits.mpr whole)
      rw [ended] at added
      exact (writes.adds room).trans added headed opens others
    · intro whole
      rw [describe_prod_of_ok ok]
      show (describe first before).records ++ (describe second _).records = _
      rw [writes.records room, next.records (left ▸ fits.mpr whole)]
  · have refused : (describe first before).value.1 = .error .bufferOverflow :=
      writes.answer.trans (if_neg room)
    have short : ¬lengthAll (descriptors ++ more) ≤ (contract.written before).free := by
      rw [Descriptor.lengthAll_append]
      omega
    constructor
    · rw [describe_prod_of_error refused, Written.room, if_neg short]
    · exact fun whole => absurd whole short
    · exact fun whole => absurd whole short

end Pair

namespace Contributes

variable {associations : Bool} {descriptors more : List Descriptor} {outline others : Outline}
  {wrote later : List Record}

theorem none : Contributes contract (none : Option κ) associations [] .empty [] where
  declines _ _ _ := rfl
  extension := .nil
  writes _ _ _ _ := ⟨(if_pos (Nat.zero_le _)).symm, fun _ => .nil, fun _ => rfl⟩

theorem some {function : κ}
    (contributes : Contributes contract function associations descriptors outline wrote) :
    Contributes contract (some function) associations descriptors outline wrote where
  declines request accept standard := by
    show (controlIn request accept function >>= fun answered =>
      pure (answered.1, Option.some answered.2)) = _
    rw [contributes.declines request accept standard]
    rfl
  extension := contributes.extension
  writes before same headed few := by
    obtain ⟨answer, adds, records⟩ := contributes.writes before same headed few
    exact ⟨answer, adds, records⟩

theorem option {function : Option κ} {descriptors : κ → List Descriptor} {outline : κ → Outline}
    {record : Record}
    (each : ∀ one : κ,
      Contributes contract one associations (descriptors one) (outline one) [record]) :
    Contributes contract function associations (function.elim [] descriptors)
      (function.elim .empty outline) (function.map fun _ => record).toList := by
  cases function with
  | none => exact .none
  | some one => exact .some (each one)

theorem prod {first : κ₁} {second : κ₂}
    (contributes : Contributes contract first associations descriptors outline wrote)
    (rest : Contributes contract second associations more others later) :
    Contributes contract (first, second) associations (descriptors ++ more) (outline ++ others)
      (wrote ++ later) where
  declines request accept standard := by
    show (controlIn request accept first >>= fun answered => _) = _
    rw [contributes.declines request accept standard, Logged.bind_silent]
    show (controlIn request accept second >>= fun answered => _) = _
    rw [rest.declines request accept standard]
    rfl
  extension := contributes.extension.append rest.extension
  writes before same headed few := by
    have total : (outline ++ others).interfaces.length =
        outline.interfaces.length + others.interfaces.length := List.length_append
    rw [total] at few
    have writes := contributes.writes before same headed (by omega)
    refine writes.prod (fun room => ?_) headed contributes.extension.opens rest.extension.opens
    have added := writes.adds room
    have count := (added.completes contributes.extension headed (by omega)).count
    have ended := contract.endFunction_written (describe first before).value.2
    apply rest.writes
    · rw [ended]
      exact added.associations.trans same
    · rw [ended]
      exact ⟨(added.headed headed).marked, (added.headed headed).headed⟩
    · rw [ended]
      show (contract.written (describe first before).value.2).count 4 + _ ≤ 255
      omega

end Contributes

end UsbFunction

namespace Vendor

variable {ω : Type} [DescriptorWriter ω]

theorem contributes (contract : DescriptorWriter.Contract ω) (vendor : Vendor)
    (associations : Bool) :
    UsbFunction.Contributes contract vendor associations vendor.descriptors vendor.outline
      [wrote] where
  declines request accept standard := by
    obtain ⟨direction, kind, recipient, code, value, index, length⟩ := request
    cases standard
    rfl
  extension := vendor.extension
  writes before _ headed few :=
    UsbFunction.writes_of_noting (vendor.describe_eq before) vendor.extension
      (by decide : 4 ≤ 256) (vendor.admits _) headed few

end Vendor

namespace Serial

variable {ω : Type} [DescriptorWriter ω]

theorem length_described (serial : Serial) (associations : Bool) :
    (serial.described associations).length ≤ 256 := by
  cases associations
  · exact (by decide : 9 ≤ 256)
  · exact (by decide : 10 ≤ 256)

theorem contributes (contract : DescriptorWriter.Contract ω) (serial : Serial)
    (associations : Bool) :
    UsbFunction.Contributes contract serial associations (serial.described associations)
      serial.outline [wrote] where
  declines request accept standard := by
    obtain ⟨direction, kind, recipient, code, value, index, length⟩ := request
    cases standard
    rfl
  extension := serial.extension associations
  writes before same headed few := by
    subst same
    exact UsbFunction.writes_of_noting (serial.describe_eq contract before) (serial.extension _)
      (serial.length_described _) (serial.admits _) headed few

end Serial

namespace Bench.Filler

variable {ω : Type} [DescriptorWriter ω]

theorem contributes (contract : DescriptorWriter.Contract ω) {filler : Filler}
    (small : filler.size < 0x100) (associations : Bool) :
    UsbFunction.Contributes contract filler associations [filler.descriptor] .empty [] := by
  have short : filler.size - 2 + 2 ≤ 255 := by omega
  have readable : ∀ descriptor ∈ [filler.descriptor], descriptor.IsReadable := by
    rw [List.forall_mem_singleton]
    refine ⟨by decide, by decide, ?_⟩
    rw [List.length_replicate]
    exact short
  constructor
  · exact fun _ _ _ => rfl
  · exact ⟨rfl, readable, rfl, rfl, rfl, rfl,
      Descriptor.endpointsCounted_blocks readable (by decide : 1 ≤ 0x100)⟩
  · intro before _ headed few
    have takes : (contract.written before).Takes [filler.descriptor] :=
      .of_headed headed.marked headed.headed rfl few
    obtain ⟨answer, adds⟩ := contract.put_eq takes (readable _ List.mem_cons_self) trivial
    constructor
    · exact answer
    · intro fits
      show (contract.written before).Extends (contract.written (filler.descriptor.put before).2) _
      rw [adds fits]
      exact .cons (takes.add (Nat.zero_le _)).2 .nil
    · exact fun _ => rfl

end Bench.Filler

end Gadget
