import Gadget.Usb.Descriptor
import Mathlib.Data.List.TakeWhile

namespace Gadget

/-- Begins with its length, which counts itself and the byte for the kind too. -/
def IsBlock : Bytes → Prop
  | [] => False
  | length :: rest => rest ≠ [] ∧ length.toNat = rest.length + 1

/-- Cuts bytes into blocks, unless a length is too small or goes beyond the end. -/
def blocks? : Bytes → Option (List Bytes)
  | [] => some []
  | length :: rest =>
    if 2 ≤ length.toNat ∧ length.toNat ≤ rest.length + 1 then
      (blocks? (rest.drop (length.toNat - 1))).map ((length :: rest.take (length.toNat - 1)) :: ·)
    else none
termination_by bytes => bytes.length
decreasing_by
  rw [List.length_drop, List.length_cons]
  omega

theorem blocks?_append {block : Bytes} (sound : IsBlock block) (rest : Bytes) :
    blocks? (block ++ rest) = (blocks? rest).map (block :: ·) := by
  cases block with
  | nil => cases sound
  | cons length more =>
    obtain ⟨some, exact⟩ := sound
    have least := List.length_pos_iff.mpr some
    have fits : 2 ≤ length.toNat ∧ length.toNat ≤ (more ++ rest).length + 1 := by
      rw [List.length_append]
      omega
    rw [List.cons_append, blocks?, if_pos fits, exact, Nat.add_sub_cancel, List.drop_left,
      List.take_left]

theorem blocks?_flatten {blocks : List Bytes} (sound : ∀ block ∈ blocks, IsBlock block) :
    blocks? blocks.flatten = some blocks := by
  induction blocks with
  | nil => exact blocks?.eq_1
  | cons block rest ih =>
    have later := ih fun other member => sound other (List.mem_cons_of_mem _ member)
    rw [List.flatten_cons, blocks?_append (sound block List.mem_cons_self), later, Option.map_some]

theorem flatten_of_blocks? {bytes : Bytes} {blocks : List Bytes} (read : blocks? bytes = some blocks) :
    blocks.flatten = bytes ∧ ∀ block ∈ blocks, IsBlock block := by
  fun_induction blocks? bytes generalizing blocks with
  | case1 =>
    cases read
    exact ⟨rfl, by simp⟩
  | case2 length rest fits ih =>
    obtain ⟨more, later, rfl⟩ := Option.map_eq_some_iff.mp read
    obtain ⟨joined, sound⟩ := ih later
    refine ⟨?_, List.forall_mem_cons.mpr ⟨⟨?_, ?_⟩, sound⟩⟩
    · rw [List.flatten_cons, joined, List.cons_append, List.take_append_drop]
    · rw [← List.length_pos_iff, List.length_take]
      omega
    · rw [List.length_take]
      omega
  | case3 length rest bad => cases read

namespace Block

def length (block : Bytes) : Nat := (block.getD 0 0).toNat

def kind (block : Bytes) : UInt8 := block.getD 1 0

def isInterface (block : Bytes) : Bool := kind block = 4

def isEndpoint (block : Bytes) : Bool := kind block = 5

def isFunctional (subtype : UInt8) (block : Bytes) : Bool :=
  kind block = 0x24 && block.getD 2 0 = subtype

def interfaceNumber (block : Bytes) : UInt8 := block.getD 2 0

def endpointCount (block : Bytes) : Nat := (block.getD 4 0).toNat

end Block

theorem length_of_isBlock {block : Bytes} (sound : IsBlock block) :
    Block.length block = List.length block := by
  cases block with
  | nil => cases sound
  | cons length rest => exact sound.2

def Block.lengthAll : List Bytes → Nat
  | [] => 0
  | block :: rest => Block.length block + lengthAll rest

theorem lengthAll_of_isBlock {blocks : List Bytes} (sound : ∀ block ∈ blocks, IsBlock block) :
    Block.lengthAll blocks = blocks.flatten.length := by
  induction blocks with
  | nil => rfl
  | cons block rest ih =>
    obtain ⟨first, others⟩ := List.forall_mem_cons.mp sound
    rw [Block.lengthAll, length_of_isBlock first, ih others, List.flatten_cons, List.length_append]

theorem lengthAll_of_blocks? {bytes : Bytes} {blocks : List Bytes}
    (read : blocks? bytes = some blocks) : Block.lengthAll blocks = bytes.length := by
  obtain ⟨rfl, sound⟩ := flatten_of_blocks? read
  exact lengthAll_of_isBlock sound

def endpointsAhead (blocks : List Bytes) : Nat :=
  (blocks.takeWhile fun block => !Block.isInterface block).countP Block.isEndpoint

theorem endpointsAhead_cons (block : Bytes) (rest : List Bytes) :
    endpointsAhead (block :: rest) =
      if Block.isInterface block then 0
      else endpointsAhead rest + if Block.isEndpoint block then 1 else 0 := by
  unfold endpointsAhead
  rw [List.takeWhile_cons]
  cases Block.isInterface block
  · exact List.countP_cons
  · rfl

/-- Each interface tells how many endpoints come before the next one. -/
def EndpointsCounted (blocks : List Bytes) : Prop :=
  ∀ earlier block later, blocks = earlier ++ block :: later → Block.isInterface block = true →
    Block.endpointCount block = endpointsAhead later

theorem endpointsCounted_nil : EndpointsCounted [] := by
  intro earlier block later split
  simp at split

theorem endpointsCounted_cons {block : Bytes} {rest : List Bytes} :
    EndpointsCounted (block :: rest) ↔
      (Block.isInterface block = true → Block.endpointCount block = endpointsAhead rest) ∧
        EndpointsCounted rest := by
  constructor
  · intro counted
    refine ⟨counted [] block rest rfl, ?_⟩
    rintro earlier other later rfl
    exact counted (block :: earlier) other later rfl
  · rintro ⟨first, counted⟩ earlier other later split
    cases earlier with
    | nil =>
      obtain ⟨rfl, rfl⟩ := List.cons.inj split
      exact first
    | cons one more => exact counted more other later (List.cons.inj split).2

/-- Endpoints that no interface of their own precedes would count for an earlier one. -/
theorem endpointsAhead_append (first : List Bytes) {rest : List Bytes}
    (opens : endpointsAhead rest = 0) : endpointsAhead (first ++ rest) = endpointsAhead first := by
  induction first with
  | nil => exact opens
  | cons block more ih =>
    rw [List.cons_append, endpointsAhead_cons, endpointsAhead_cons, ih]

theorem EndpointsCounted.append {first rest : List Bytes} (counted : EndpointsCounted first)
    (others : EndpointsCounted rest) (opens : endpointsAhead rest = 0) :
    EndpointsCounted (first ++ rest) := by
  induction first with
  | nil => exact others
  | cons block more ih =>
    obtain ⟨own, later⟩ := endpointsCounted_cons.mp counted
    rw [List.cons_append, endpointsCounted_cons, endpointsAhead_append more opens]
    exact ⟨own, ih later⟩

namespace Descriptor

def length : Descriptor → Nat
  | association .. => associationLength
  | interface .. | interfaceAlt .. => interfaceLength
  | endpoint _ => endpointLength
  | other _ payload => payload.length + 2

def encode (endpoints : Nat) : Descriptor → Bytes
  | association first count function =>
    [8, 0x0b, first, count, function.base, function.sub, function.protocol, 0]
  | interface number function =>
    [9, 4, number, 0, .ofNat endpoints, function.base, function.sub, function.protocol, 0]
  | interfaceAlt number alternate function name =>
    [9, 4, number, alternate, .ofNat endpoints, function.base, function.sub, function.protocol,
      name.getD 0]
  | endpoint e =>
    [7, 5, e.address.code, e.transfer.code] ++ LittleEndian.word16 e.packetSize ++ [e.interval]
  | other kind payload => .ofNat (payload.length + 2) :: kind :: payload

theorem length_encode (descriptor : Descriptor) (endpoints : Nat) :
    (descriptor.encode endpoints).length = descriptor.length := by
  cases descriptor <;> rfl

def countEndpoints : List Descriptor → Nat
  | [] => 0
  | interface .. :: _ | interfaceAlt .. :: _ => 0
  | endpoint _ :: rest => countEndpoints rest + 1
  | association .. :: rest | other .. :: rest => countEndpoints rest

def isInterface : Descriptor → Bool
  | interface .. | interfaceAlt .. => true
  | association .. | endpoint _ | other .. => false

def encodeAll : List Descriptor → Bytes
  | [] => []
  | descriptor :: rest => descriptor.encode (countEndpoints rest) ++ encodeAll rest

def lengthAll : List Descriptor → Nat
  | [] => 0
  | descriptor :: rest => descriptor.length + lengthAll rest

theorem length_encodeAll (descriptors : List Descriptor) :
    (encodeAll descriptors).length = lengthAll descriptors := by
  induction descriptors with
  | nil => rfl
  | cons descriptor rest ih => rw [encodeAll, lengthAll, List.length_append, length_encode, ih]

def blocks : List Descriptor → List Bytes
  | [] => []
  | descriptor :: rest => descriptor.encode (countEndpoints rest) :: blocks rest

theorem encodeAll_eq_flatten (descriptors : List Descriptor) :
    encodeAll descriptors = (blocks descriptors).flatten := by
  induction descriptors with
  | nil => rfl
  | cons descriptor rest ih => rw [encodeAll, ih, blocks, List.flatten_cons]

/-- A host neither takes it for an interface or an endpoint nor is misled by its length, and finds
each interface once. -/
def IsReadable : Descriptor → Prop
  | interfaceAlt _ alternate _ _ => alternate = 0
  | other kind payload => kind ≠ 4 ∧ kind ≠ 5 ∧ payload.length + 2 ≤ 255
  | association .. | interface .. | endpoint _ => True

theorem isBlock_encode {descriptor : Descriptor} (readable : descriptor.IsReadable)
    (endpoints : Nat) : IsBlock (descriptor.encode endpoints) := by
  cases descriptor with
  | other kind payload =>
    have exact : (UInt8.ofNat (payload.length + 2)).toNat = payload.length + 2 := by
      rw [UInt8.toNat_ofNat']
      exact Nat.mod_eq_of_lt (Nat.lt_succ_of_le readable.2.2)
    refine ⟨List.cons_ne_nil _ _, ?_⟩
    rw [exact, List.length_cons]
  | association | interface | interfaceAlt | endpoint => exact ⟨List.cons_ne_nil _ _, rfl⟩

theorem blocks?_encodeAll {descriptors : List Descriptor}
    (readable : ∀ descriptor ∈ descriptors, descriptor.IsReadable) :
    blocks? (encodeAll descriptors) = some (blocks descriptors) := by
  rw [encodeAll_eq_flatten]
  apply blocks?_flatten
  induction descriptors with
  | nil => simp [blocks]
  | cons descriptor rest ih =>
    obtain ⟨first, others⟩ := List.forall_mem_cons.mp readable
    exact List.forall_mem_cons.mpr ⟨isBlock_encode first _, ih others⟩

theorem countEndpoints_le_length (descriptors : List Descriptor) :
    countEndpoints descriptors ≤ descriptors.length := by
  induction descriptors with
  | nil => exact Nat.le_refl _
  | cons descriptor rest ih =>
    cases descriptor
    all_goals
      simp only [countEndpoints, List.length_cons]
      omega

theorem endpointsAhead_blocks {descriptors : List Descriptor}
    (readable : ∀ descriptor ∈ descriptors, descriptor.IsReadable) :
    endpointsAhead (blocks descriptors) = countEndpoints descriptors := by
  induction descriptors with
  | nil => rfl
  | cons descriptor rest ih =>
    obtain ⟨first, others⟩ := List.forall_mem_cons.mp readable
    rw [blocks, endpointsAhead_cons, ih others]
    cases descriptor with
    | association | interface | interfaceAlt | endpoint => rfl
    | other kind payload =>
      have interface : Block.isInterface ((other kind payload).encode (countEndpoints rest)) = false :=
        decide_eq_false first.1
      have endpoint : Block.isEndpoint ((other kind payload).encode (countEndpoints rest)) = false :=
        decide_eq_false first.2.1
      rw [interface, endpoint]
      rfl

theorem endpointsCounted_blocks {descriptors : List Descriptor}
    (readable : ∀ descriptor ∈ descriptors, descriptor.IsReadable)
    (few : descriptors.length ≤ 0x100) : EndpointsCounted (blocks descriptors) := by
  induction descriptors with
  | nil => exact endpointsCounted_nil
  | cons descriptor rest ih =>
    obtain ⟨first, others⟩ := List.forall_mem_cons.mp readable
    rw [List.length_cons] at few
    rw [blocks, endpointsCounted_cons, endpointsAhead_blocks others]
    refine ⟨?_, ih others (by omega)⟩
    intro interface
    cases descriptor with
    | interface | interfaceAlt =>
      -- The count goes into one byte.
      have bound := countEndpoints_le_length rest
      change (UInt8.ofNat (countEndpoints rest)).toNat = countEndpoints rest
      rw [UInt8.toNat_ofNat']
      exact Nat.mod_eq_of_lt (by omega)
    | other kind payload =>
      exact absurd (of_decide_eq_true interface) first.1
    | association | endpoint => cases interface

theorem countEndpoints_append (first : List Descriptor) {rest : List Descriptor}
    (opens : countEndpoints rest = 0) :
    countEndpoints (first ++ rest) = countEndpoints first := by
  induction first with
  | nil => exact opens
  | cons descriptor more ih => cases descriptor <;> simp [countEndpoints, ih]

theorem blocks_append (first : List Descriptor) {rest : List Descriptor}
    (opens : countEndpoints rest = 0) : blocks (first ++ rest) = blocks first ++ blocks rest := by
  induction first with
  | nil => rfl
  | cons descriptor more ih =>
    rw [List.cons_append, blocks, countEndpoints_append more opens, ih, blocks, List.cons_append]

theorem lengthAll_append (first rest : List Descriptor) :
    lengthAll (first ++ rest) = lengthAll first + lengthAll rest := by
  induction first with
  | nil => exact (Nat.zero_add _).symm
  | cons descriptor more ih => rw [List.cons_append, lengthAll, lengthAll, ih, Nat.add_assoc]

end Descriptor

end Gadget
