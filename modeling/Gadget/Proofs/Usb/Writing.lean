import Gadget.Bench.DescriptorBuffer
import Gadget.Proofs.Usb.Counting

namespace Gadget

def finished (bytes : Bytes) : Bytes :=
  bytes.take 2 ++ LittleEndian.word16 (.ofNat bytes.length) ++ bytes.drop 4

/-- What is relied on of a writer: what it has `written`, what a call adds to that or, where there is
no room, refuses, and what a device answers to its host at the end. -/
structure DescriptorWriter.Contract (ω : Type) [DescriptorWriter ω] where
  written : ω → Written
  write_answer (kind : UInt8) {payload : Bytes} (short : payload.length + 2 ≤ 255) (writer : ω) :
    (write kind payload writer).1 = (written writer).room (payload.length + 2)
  write_adds (kind : UInt8) {payload : Bytes} (short : payload.length + 2 ≤ 255) {writer : ω}
    (fits : payload.length + 2 ≤ (written writer).free) :
    written (write kind payload writer).2 = (written writer).add (.other kind payload)
  association_eq (first count : UInt8) (function : ClassCode) (writer : ω) :
    association first count function writer =
      if (written writer).associations then
        write 0x0b [first, count, function.base, function.sub, function.protocol, 0] writer
      else (.ok (), writer)
  interface_eq (number : UInt8) (function : ClassCode) (writer : ω) :
    interface number function writer = interfaceAlt number 0 function none writer
  /-- An interface is counted where the configuration has its count of them, and its own endpoints
  are counted in it. -/
  interface_answer (number : UInt8) (function : ClassCode) (name : Option UInt8) {writer : ω}
    {position : Nat} (marked : (written writer).interfaceMark = some position)
    (counts : HasCount (written writer).bytes position 1) :
    (interfaceAlt number 0 function name writer).1 = (written writer).room 9
  interface_adds (number : UInt8) (function : ClassCode) (name : Option UInt8) {writer : ω}
    {position : Nat} (marked : (written writer).interfaceMark = some position)
    (counts : HasCount (written writer).bytes position 1) (fits : 9 ≤ (written writer).free) :
    written (interfaceAlt number 0 function name writer).2 =
      (written writer).add (.interfaceAlt number 0 function name)
  endpoint_answer (e : Endpoint) {writer : ω} {position : Nat}
    (marked : (written writer).endpointMark = some position)
    (counts : HasCount (written writer).bytes position 1) :
    (endpoint e writer).1 = (written writer).room 7
  endpoint_adds (e : Endpoint) {writer : ω} {position : Nat}
    (marked : (written writer).endpointMark = some position)
    (counts : HasCount (written writer).bytes position 1) (fits : 7 ≤ (written writer).free) :
    written (endpoint e writer).2 = (written writer).add (.endpoint e)
  endFunction_written (writer : ω) :
    written (endFunction writer) = { written writer with endpointMark := none }
  /-- The configuration as the functions described it, or none if one of them failed. -/
  answer : Except UsbError Unit × ω → Option Bytes
  answered (writer : ω) : answer (.ok (), writer) = some (finished (written writer).bytes)
  stalled (error : UsbError) (writer : ω) : answer (.error error, writer) = none

structure Written.Extends (before after : Written) (descriptors : List Descriptor) : Prop where
  capacity : after.capacity = before.capacity
  associations : after.associations = before.associations
  interfaceMark : after.interfaceMark = before.interfaceMark
  bytes : after.bytes = before.grown descriptors

namespace Written

variable {before after : Written} {descriptor : Descriptor} {rest : List Descriptor}

theorem Extends.nil : before.Extends before [] where
  capacity := rfl
  associations := rfl
  interfaceMark := rfl
  bytes := by
    rw [grown_of_opens rfl, List.countP_nil, raise_zero, Descriptor.encodeAll, List.append_nil]

theorem Extends.cons
    (grown : (before.add descriptor).grown rest = before.grown (descriptor :: rest))
    (extended : (before.add descriptor).Extends after rest) :
    before.Extends after (descriptor :: rest) where
  capacity := extended.capacity.trans capacity_add
  associations := extended.associations.trans associations_add
  interfaceMark := extended.interfaceMark.trans interfaceMark_add
  bytes := extended.bytes.trans grown

theorem Admits.add {other : Descriptor} (admits : before.Admits other) :
    (before.add descriptor).Admits other := by
  cases other with
  | association => exact associations_add.trans admits
  | interface | interfaceAlt | endpoint | other => trivial

theorem room_add {more : Nat} (fits : descriptor.length ≤ before.free) :
    (before.add descriptor).room more = before.room (descriptor.length + more) := by
  have same : more ≤ before.free - descriptor.length ↔ descriptor.length + more ≤ before.free := by
    omega
  rw [room, free_add, room, if_congr same rfl rfl]

end Written

namespace Descriptor

variable {ω : Type} [DescriptorWriter ω] {writer : ω} {descriptor : Descriptor}
  {rest : List Descriptor}

theorem putAll_of_ok (ok : (descriptor.put writer).1 = .ok ()) :
    putAll (descriptor :: rest) writer = putAll rest (descriptor.put writer).2 := by
  rw [putAll]
  generalize descriptor.put writer = result at ok ⊢
  obtain ⟨answer, after⟩ := result
  cases ok
  rfl

theorem putAll_of_error {error : UsbError} (refused : (descriptor.put writer).1 = .error error) :
    (putAll (descriptor :: rest) writer).1 = .error error := by
  rw [putAll]
  generalize descriptor.put writer = result at refused ⊢
  obtain ⟨answer, after⟩ := result
  cases refused
  rfl

end Descriptor

namespace DescriptorWriter.Contract

open Descriptor (lengthAll putAll)

variable {ω : Type} [DescriptorWriter ω] (contract : Contract ω) {writer : ω}
  {descriptor : Descriptor} {rest descriptors : List Descriptor}

theorem put_eq (takes : (contract.written writer).Takes (descriptor :: rest))
    (readable : descriptor.IsReadable) (admits : (contract.written writer).Admits descriptor) :
    (descriptor.put writer).1 = (contract.written writer).room descriptor.length ∧
      (descriptor.length ≤ (contract.written writer).free →
        contract.written (descriptor.put writer).2 = (contract.written writer).add descriptor) := by
  have own (interface : descriptor.isInterface = true) :
      HasCount (contract.written writer).bytes 4 1 := by
    have counts := takes.interfaces
    rw [List.countP_cons_of_pos interface] at counts
    exact counts.mono (Nat.le_add_left _ _)
  cases descriptor with
  | association first count function =>
    have associations : (contract.written writer).associations = true := admits
    have short : [first, count, function.base, function.sub, function.protocol, 0].length + 2 ≤ 255 :=
      Nat.le_of_ble_eq_true rfl
    rw [Descriptor.put, contract.association_eq, if_pos associations]
    exact ⟨contract.write_answer _ short _, contract.write_adds _ short⟩
  | interface number function =>
    have counts := own rfl
    rw [Descriptor.put, contract.interface_eq]
    exact ⟨contract.interface_answer _ _ _ takes.marked counts,
      contract.interface_adds _ _ _ takes.marked counts⟩
  | interfaceAlt number alternate function name =>
    have counts := own rfl
    obtain rfl : alternate = 0 := readable
    exact ⟨contract.interface_answer _ _ _ takes.marked counts,
      contract.interface_adds _ _ _ takes.marked counts⟩
  | endpoint endpoint =>
    obtain ⟨position, marked, -, counts⟩ := takes.endpoints (Nat.zero_lt_succ _)
    have one := counts.mono (Nat.succ_le_succ (Nat.zero_le _))
    exact ⟨contract.endpoint_answer _ marked one, contract.endpoint_adds _ marked one⟩
  | other kind payload =>
    exact ⟨contract.write_answer _ readable.2.2 _, contract.write_adds _ readable.2.2⟩

theorem putAll_eq (few : descriptors.length ≤ 256)
    (readable : ∀ descriptor ∈ descriptors, descriptor.IsReadable)
    (admits : ∀ descriptor ∈ descriptors, (contract.written writer).Admits descriptor)
    (takes : (contract.written writer).Takes descriptors) :
    (putAll descriptors writer).1 = (contract.written writer).room (lengthAll descriptors) ∧
      (lengthAll descriptors ≤ (contract.written writer).free →
        (contract.written writer).Extends (contract.written (putAll descriptors writer).2)
          descriptors) := by
  -- With the writer general, as every descriptor that goes in leaves less room.
  induction descriptors generalizing writer with
  | nil => exact ⟨(if_pos (Nat.zero_le _)).symm, fun _ => .nil⟩
  | cons descriptor rest ih =>
    obtain ⟨first, others⟩ := List.forall_mem_cons.mp readable
    obtain ⟨own, later⟩ := List.forall_mem_cons.mp admits
    obtain ⟨answer, adds⟩ := contract.put_eq takes first own
    by_cases room : descriptor.length ≤ (contract.written writer).free
    · have ok : (descriptor.put writer).1 = .ok () := answer.trans (if_pos room)
      have added := adds room
      obtain ⟨left, grown⟩ := takes.add (Nat.le_of_succ_le_succ few)
      obtain ⟨rest_answer, rest_extends⟩ := @ih (descriptor.put writer).2
        (by rw [List.length_cons] at few; omega) others
        (by rw [added]; exact fun other member => (later other member).add)
        (by rw [added]; exact left)
      rw [added] at rest_answer rest_extends
      rw [Descriptor.putAll_of_ok ok, lengthAll]
      refine ⟨?_, fun fits => ?_⟩
      · rw [rest_answer, Written.room_add room]
      · refine .cons grown (rest_extends ?_)
        rw [Written.free_add]
        omega
    · have refused : (descriptor.put writer).1 = .error .bufferOverflow := answer.trans (if_neg room)
      have short : ¬lengthAll (descriptor :: rest) ≤ (contract.written writer).free :=
        fun fits => room (Nat.le_of_add_right_le fits)
      rw [Descriptor.putAll_of_error refused, Written.room, if_neg short]
      exact ⟨rfl, fun fits => absurd fits short⟩

end DescriptorWriter.Contract

namespace Bench.DescriptorBuffer

def written (buffer : DescriptorBuffer) : Written where
  capacity := buffer.capacity
  associations := buffer.associations
  bytes := buffer.bytes
  interfaceMark := buffer.interfaceMark
  endpointMark := buffer.endpointMark

theorem write_eq (kind : UInt8) {payload : Bytes} (short : payload.length + 2 ≤ 255)
    (buffer : DescriptorBuffer) :
    buffer.write kind payload =
      if payload.length + 2 ≤ buffer.written.free then
        (.ok (), { buffer with
          bytes := buffer.bytes ++ .ofNat (payload.length + 2) :: kind :: payload })
      else (.error .bufferOverflow, buffer) := by
  have fits : (buffer.capacity < buffer.bytes.length + 2 + payload.length ∨
      255 < payload.length + 2) ↔ ¬payload.length + 2 ≤ buffer.written.free := by
    simp only [Written.free, written]
    omega
  rw [write, if_congr fits rfl rfl, ite_not]

theorem write_answer (kind : UInt8) {payload : Bytes} (short : payload.length + 2 ≤ 255)
    (buffer : DescriptorBuffer) :
    (buffer.write kind payload).1 = buffer.written.room (payload.length + 2) := by
  rw [write_eq kind short, Written.room]
  split <;> rfl

theorem write_adds (kind : UInt8) {payload : Bytes} (short : payload.length + 2 ≤ 255)
    {buffer : DescriptorBuffer} (fits : payload.length + 2 ≤ buffer.written.free) :
    (buffer.write kind payload).2.written = buffer.written.add (.other kind payload) := by
  rw [write_eq kind short, if_pos fits]
  rfl

def counting (buffer : DescriptorBuffer) (position : Nat) (mark : Option Nat) : DescriptorBuffer :=
  { buffer with bytes := buffer.bytes.modify position (· + 1), endpointMark := mark }

theorem free_counting {buffer : DescriptorBuffer} {position : Nat} {mark : Option Nat} :
    (buffer.counting position mark).written.free = buffer.written.free := by
  simp only [Written.free, written, counting, List.length_modify]

theorem room_counting {buffer : DescriptorBuffer} {position length : Nat} {mark : Option Nat} :
    (buffer.counting position mark).written.room length = buffer.written.room length := by
  rw [Written.room, free_counting, Written.room]

theorem interfaceAlt_eq (number : UInt8) (function : ClassCode) (name : Option UInt8)
    {buffer : DescriptorBuffer} {position : Nat}
    (marked : buffer.written.interfaceMark = some position) :
    interfaceAlt number 0 function name buffer =
      write 4 [number, 0, 0, function.base, function.sub, function.protocol, name.getD 0]
        (buffer.counting position (some (buffer.bytes.length + 4))) := by
  have mark : buffer.interfaceMark = some position := marked
  simp only [interfaceAlt, if_true, mark, raise, counting, List.length_modify]

theorem endpoint_eq (e : Endpoint) {buffer : DescriptorBuffer} {position : Nat}
    (marked : buffer.written.endpointMark = some position) :
    endpoint e buffer =
      write 5 ([e.address.code, e.transfer.code] ++ LittleEndian.word16 e.packetSize ++ [e.interval])
        (buffer.counting position buffer.endpointMark) := by
  have mark : buffer.endpointMark = some position := marked
  simp only [endpoint, mark, raise, counting]

def answer : Except UsbError Unit × DescriptorBuffer → Option Bytes
  | (.ok _, buffer) => some buffer.finish
  | (.error _, _) => none

def contract : DescriptorWriter.Contract DescriptorBuffer where
  written := written
  write_answer := write_answer
  write_adds := write_adds
  association_eq _ _ _ _ := rfl
  interface_eq _ _ _ := rfl
  interface_answer number function name writer position marked _ := by
    show (interfaceAlt number 0 function name writer).1 = _
    rw [interfaceAlt_eq _ _ _ marked]
    exact (write_answer _ (Nat.le_of_ble_eq_true rfl) _).trans room_counting
  interface_adds number function name writer position marked _ fits := by
    show (interfaceAlt number 0 function name writer).2.written = _
    rw [interfaceAlt_eq _ _ _ marked, Written.add_of_isInterface rfl marked]
    apply write_adds
    · exact Nat.le_of_ble_eq_true rfl
    · exact Nat.le_trans fits (Nat.le_of_eq free_counting.symm)
  endpoint_answer e writer position marked _ := by
    show (endpoint e writer).1 = _
    rw [endpoint_eq e marked]
    exact (write_answer _ (Nat.le_of_ble_eq_true rfl) _).trans room_counting
  endpoint_adds e writer position marked _ fits := by
    show (endpoint e writer).2.written = _
    rw [endpoint_eq e marked, Written.add_endpoint marked]
    apply write_adds
    · exact Nat.le_of_ble_eq_true rfl
    · exact Nat.le_trans fits (Nat.le_of_eq free_counting.symm)
  endFunction_written _ := rfl
  answer := answer
  answered _ := rfl
  stalled _ _ := rfl

end Bench.DescriptorBuffer

end Gadget
