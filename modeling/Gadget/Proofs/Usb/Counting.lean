import Gadget.Proofs.Usb.Blocks
import Mathlib.Data.List.GetD

namespace Gadget

def raise (position count : Nat) (bytes : Bytes) : Bytes := bytes.modify position (· + .ofNat count)

section Raise

variable {position other first second count : Nat} {bytes more : Bytes}

theorem length_raise : (raise position count bytes).length = bytes.length :=
  List.length_modify _ _ _

theorem raise_zero : raise position 0 bytes = bytes := by
  have same : (fun byte : UInt8 => byte + .ofNat 0) = id := funext UInt8.add_zero
  rw [raise, same, List.modify_id]

theorem raise_raise :
    raise position second (raise position first bytes) = raise position (first + second) bytes := by
  have both : (fun byte : UInt8 => byte + .ofNat second) ∘ (fun byte => byte + .ofNat first) =
      fun byte => byte + .ofNat (first + second) := by
    funext byte
    rw [Function.comp_apply, UInt8.add_assoc, UInt8.ofNat_add]
  rw [raise, raise, List.modify_modify_eq, both, raise]

theorem raise_append_left (inside : position < bytes.length) :
    raise position count (bytes ++ more) = raise position count bytes ++ more := by
  induction bytes generalizing position with
  | nil => exact absurd inside (Nat.not_lt_zero _)
  | cons byte rest ih =>
    cases position with
    | zero => rfl
    | succ position => exact congrArg _ (ih (Nat.lt_of_succ_lt_succ inside))

theorem raise_append_right :
    raise (bytes.length + position) count (bytes ++ more) = bytes ++ raise position count more := by
  induction bytes with
  | nil => rw [List.length_nil, Nat.zero_add, List.nil_append, List.nil_append]
  | cons byte rest ih =>
    rw [List.length_cons, Nat.add_right_comm]
    exact congrArg _ ih

theorem toNat_getD_raise (inside : position < bytes.length)
    (small : (bytes.getD position 0).toNat + count ≤ 255) :
    ((raise position count bytes).getD position 0).toNat =
      (bytes.getD position 0).toNat + count := by
  have written : position < (raise position count bytes).length := by rwa [length_raise]
  rw [List.getD_eq_getElem _ _ inside] at small ⊢
  rw [List.getD_eq_getElem _ _ written]
  simp only [raise, List.getElem_modify_eq]
  rw [UInt8.toNat_add, UInt8.toNat_ofNat', Nat.add_mod_mod]
  exact Nat.mod_eq_of_lt (Nat.lt_succ_of_le small)

theorem getD_raise_ne (apart : position ≠ other) :
    (raise position count bytes).getD other 0 = bytes.getD other 0 := by
  rw [List.getD_eq_getElem?_getD, raise, List.getElem?_modify, List.getD_eq_getElem?_getD]
  simp [apart]

end Raise

structure HasCount (bytes : Bytes) (position more : Nat) : Prop where
  inside : position < bytes.length
  small : (bytes.getD position 0).toNat + more ≤ 255

namespace HasCount

variable {bytes more : Bytes} {position other count later : Nat}

theorem mono (has : HasCount bytes position count) (fewer : later ≤ count) :
    HasCount bytes position later :=
  ⟨has.inside, Nat.le_trans (Nat.add_le_add_left fewer _) has.small⟩

theorem append (has : HasCount bytes position count) : HasCount (bytes ++ more) position count where
  inside := by
    rw [List.length_append]
    exact Nat.lt_add_right _ has.inside
  small := by
    rw [List.getD_append _ _ _ _ has.inside]
    exact has.small

theorem raise_self (has : HasCount bytes position (count + later)) :
    HasCount (raise position count bytes) position later where
  inside := length_raise.symm ▸ has.inside
  small := by
    have small := has.small
    rw [toNat_getD_raise has.inside (by omega)]
    omega

theorem raise_ne (has : HasCount bytes position count) (apart : other ≠ position) :
    HasCount (raise other later bytes) position count where
  inside := length_raise.symm ▸ has.inside
  small := by
    rw [getD_raise_ne apart]
    exact has.small

end HasCount

/-- What a writer has written, and where it counts interfaces and the endpoints of the last one. -/
structure Written where
  capacity : Nat
  associations : Bool
  bytes : Bytes
  interfaceMark : Option Nat
  endpointMark : Option Nat

namespace Written

open Descriptor (countEndpoints encodeAll isInterface lengthAll)

def count (written : Written) (position : Nat) : Nat := (written.bytes.getD position 0).toNat

def free (written : Written) : Nat := written.capacity - written.bytes.length

def room (written : Written) (length : Nat) : Except UsbError Unit :=
  if length ≤ written.free then .ok () else .error .bufferOverflow

/-- A descriptor is written after the others. An interface has no endpoints at first, and what is
counted is counted in the bytes before. -/
def add (written : Written) (descriptor : Descriptor) : Written :=
  match descriptor with
  | .interface .. | .interfaceAlt .. =>
    { written with
      bytes := written.interfaceMark.elim written.bytes (raise · 1 written.bytes) ++
        descriptor.encode 0
      endpointMark := some (written.bytes.length + 4) }
  | .endpoint _ =>
    { written with
      bytes := written.endpointMark.elim written.bytes (raise · 1 written.bytes) ++
        descriptor.encode 0 }
  | .association .. | .other .. =>
    { written with bytes := written.bytes ++ descriptor.encode 0 }

def Admits (written : Written) : Descriptor → Prop
  | .association .. => written.associations = true
  | .interface .. | .interfaceAlt .. | .endpoint _ | .other .. => True

/-- Enough is left of each count for these descriptors. -/
structure Takes (written : Written) (descriptors : List Descriptor) : Prop where
  marked : written.interfaceMark = some 4
  headed : 9 ≤ written.bytes.length
  interfaces : HasCount written.bytes 4 (descriptors.countP isInterface)
  endpoints : 0 < countEndpoints descriptors → ∃ position, written.endpointMark = some position ∧
    9 ≤ position ∧ HasCount written.bytes position (countEndpoints descriptors)

def counted (written : Written) (endpoints : Nat) : Bytes :=
  written.endpointMark.elim written.bytes (raise · endpoints written.bytes)

def grown (written : Written) (descriptors : List Descriptor) : Bytes :=
  raise 4 (descriptors.countP isInterface) (written.counted (countEndpoints descriptors)) ++
    encodeAll descriptors

variable {written : Written} {descriptor : Descriptor} {descriptors rest : List Descriptor}

theorem counted_zero : written.counted 0 = written.bytes := by
  unfold counted
  cases written.endpointMark with
  | none => rfl
  | some position => exact raise_zero

theorem length_counted {endpoints : Nat} :
    (written.counted endpoints).length = written.bytes.length := by
  unfold counted
  cases written.endpointMark with
  | none => rfl
  | some position => exact length_raise

theorem grown_of_opens (opens : countEndpoints descriptors = 0) :
    written.grown descriptors =
      raise 4 (descriptors.countP isInterface) written.bytes ++ encodeAll descriptors := by
  rw [grown, opens, counted_zero]

theorem capacity_add : (written.add descriptor).capacity = written.capacity := by
  cases descriptor <;> rfl

theorem associations_add : (written.add descriptor).associations = written.associations := by
  cases descriptor <;> rfl

theorem interfaceMark_add : (written.add descriptor).interfaceMark = written.interfaceMark := by
  cases descriptor <;> rfl

theorem length_add : (written.add descriptor).bytes.length =
    written.bytes.length + descriptor.length := by
  have raised (mark : Option Nat) :
      (mark.elim written.bytes (raise · 1 written.bytes)).length = written.bytes.length :=
    ({ written with endpointMark := mark }).length_counted
  cases descriptor
  all_goals
    simp only [add, List.length_append, Descriptor.length_encode, raised]

theorem free_add : (written.add descriptor).free = written.free - descriptor.length := by
  rw [free, capacity_add, length_add, Nat.sub_add_eq, free]

theorem Takes.of_headed (marked : written.interfaceMark = some 4)
    (headed : 9 ≤ written.bytes.length) (opens : countEndpoints descriptors = 0)
    (few : written.count 4 + descriptors.countP isInterface ≤ 255) : written.Takes descriptors where
  marked := marked
  headed := headed
  interfaces := ⟨by omega, few⟩
  endpoints some := absurd opens (Nat.ne_of_gt some)

theorem raise_encode (interface : isInterface descriptor = true) (endpoints : Nat) :
    raise 4 endpoints (descriptor.encode 0) = descriptor.encode endpoints := by
  have fresh : (0 : UInt8) + .ofNat endpoints = .ofNat endpoints := UInt8.zero_add _
  cases descriptor with
  | interface | interfaceAlt =>
    unfold Descriptor.encode
    rw [← fresh]
    rfl
  | association | endpoint | other => cases interface

theorem add_of_isInterface {position : Nat} (interface : isInterface descriptor = true)
    (marked : written.interfaceMark = some position) :
    written.add descriptor = { written with
      bytes := raise position 1 written.bytes ++ descriptor.encode 0
      endpointMark := some (written.bytes.length + 4) } := by
  cases descriptor with
  | interface | interfaceAlt =>
    rw [add, marked]
    rfl
  | association | endpoint | other => cases interface

theorem add_endpoint {endpoint : Endpoint} {position : Nat}
    (marked : written.endpointMark = some position) :
    written.add (.endpoint endpoint) = { written with
      bytes := raise position 1 written.bytes ++ Descriptor.encode 0 (.endpoint endpoint) } := by
  rw [add, marked]
  rfl

theorem countEndpoints_of_isInterface (interface : isInterface descriptor = true) :
    countEndpoints (descriptor :: rest) = 0 := by
  cases descriptor with
  | interface | interfaceAlt => rfl
  | association | endpoint | other => cases interface

theorem Takes.append (takes : written.Takes rest) (block : Bytes) :
    ({ written with bytes := written.bytes ++ block }).Takes rest where
  marked := takes.marked
  headed := by
    rw [List.length_append]
    exact Nat.le_add_right_of_le takes.headed
  interfaces := takes.interfaces.append
  endpoints some := by
    obtain ⟨position, marked, later, has⟩ := takes.endpoints some
    exact ⟨position, marked, later, has.append⟩

theorem Takes.add_interface (takes : written.Takes (descriptor :: rest))
    (interface : isInterface descriptor = true) (few : rest.length ≤ 255) :
    (written.add descriptor).Takes rest := by
  have nine : (descriptor.encode 0).length = 9 ∧ (descriptor.encode 0).getD 4 0 = 0 := by
    cases descriptor with
    | interface | interfaceAlt => exact ⟨rfl, rfl⟩
    | association | endpoint | other => cases interface
  have counted := takes.interfaces
  have bound := Descriptor.countEndpoints_le_length rest
  rw [List.countP_cons_of_pos interface, Nat.add_comm] at counted
  rw [add_of_isInterface interface takes.marked]
  constructor
  · exact takes.marked
  · rw [List.length_append, length_raise]
    exact Nat.le_add_right_of_le takes.headed
  · exact counted.raise_self.append
  · intro _
    refine ⟨_, rfl, Nat.le_add_right_of_le takes.headed, ?_, ?_⟩
    · rw [List.length_append, length_raise, nine.1]
      omega
    · rw [List.getD_append_right _ _ _ _ (by rw [length_raise]; omega), length_raise,
        Nat.add_sub_cancel_left, nine.2, UInt8.toNat_zero, Nat.zero_add]
      exact Nat.le_trans bound few

theorem Takes.raised {endpoint : Endpoint} {position : Nat}
    (takes : written.Takes (.endpoint endpoint :: rest))
    (marked : written.endpointMark = some position) :
    ({ written with bytes := raise position 1 written.bytes }).Takes rest := by
  obtain ⟨other, known, later, has⟩ := takes.endpoints (Nat.zero_lt_succ _)
  obtain rfl := Option.some.inj (marked.symm.trans known)
  rw [countEndpoints, Nat.add_comm] at has
  constructor
  · exact takes.marked
  · exact length_raise.symm ▸ takes.headed
  · exact takes.interfaces.raise_ne (by omega)
  · exact fun _ => ⟨position, marked, later, has.raise_self⟩

theorem counted_append (takes : written.Takes rest) (block : Bytes) :
    ({ written with bytes := written.bytes ++ block }).counted (countEndpoints rest) =
      written.counted (countEndpoints rest) ++ block := by
  by_cases none : countEndpoints rest = 0
  · rw [none, counted_zero, counted_zero]
  · obtain ⟨position, marked, -, has⟩ := takes.endpoints (Nat.pos_of_ne_zero none)
    simp only [counted, marked, Option.elim_some]
    exact raise_append_left has.inside

theorem grown_append (takes : written.Takes rest) (block : Bytes) :
    ({ written with bytes := written.bytes ++ block }).grown rest =
      raise 4 (rest.countP isInterface) (written.counted (countEndpoints rest)) ++
        (block ++ encodeAll rest) := by
  have inside : 4 < (written.counted (countEndpoints rest)).length := by
    rw [length_counted]
    exact takes.interfaces.inside
  rw [grown, counted_append takes, raise_append_left inside, List.append_assoc]

theorem grown_interface (takes : written.Takes (descriptor :: rest))
    (interface : isInterface descriptor = true) :
    (written.add descriptor).grown rest = written.grown (descriptor :: rest) := by
  have inside : 4 < (raise 4 1 written.bytes).length := by
    rw [length_raise]
    exact takes.interfaces.inside
  have counted : (written.add descriptor).counted (countEndpoints rest) =
      raise 4 1 written.bytes ++ descriptor.encode (countEndpoints rest) := by
    -- Its own count is the fifth byte behind those written before.
    have same : (raise 4 1 written.bytes).length = written.bytes.length := length_raise
    rw [add_of_isInterface interface takes.marked, counted, Option.elim_some, ← same,
      raise_append_right, raise_encode interface]
  rw [grown, counted, raise_append_left inside, raise_raise, List.append_assoc,
    grown_of_opens (countEndpoints_of_isInterface interface), List.countP_cons_of_pos interface,
    Nat.add_comm, encodeAll]

/-- What is counted later in bytes written by now comes to the same as if it were there from the
first. -/
theorem Takes.add (takes : written.Takes (descriptor :: rest)) (few : rest.length ≤ 255) :
    (written.add descriptor).Takes rest ∧
      (written.add descriptor).grown rest = written.grown (descriptor :: rest) := by
  cases descriptor with
  | association | other =>
    have same : written.Takes rest :=
      ⟨takes.marked, takes.headed, takes.interfaces, takes.endpoints⟩
    -- All counts are in the bytes written before, which stay where they are.
    exact ⟨same.append _, grown_append same _⟩
  | interface | interfaceAlt => exact ⟨takes.add_interface rfl few, grown_interface takes rfl⟩
  | endpoint endpoint =>
    obtain ⟨position, marked, -⟩ := takes.endpoints (Nat.zero_lt_succ _)
    have raised := takes.raised marked
    have counted : ({ written with bytes := raise position 1 written.bytes }).counted
        (countEndpoints rest) = written.counted (countEndpoints (.endpoint endpoint :: rest)) := by
      simp only [counted, marked, Option.elim_some, raise_raise, countEndpoints]
      rw [Nat.add_comm]
    rw [add_endpoint marked]
    refine ⟨raised.append _, ?_⟩
    rw [grown_append raised, counted]
    rfl

end Written

end Gadget
