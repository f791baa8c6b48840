import Gadget.Bench.PacketBus

namespace Gadget

/-- A bus that keeps the packets of its endpoints apart. -/
structure UsbBus.Apart (β : Type) [UsbBus β] (ν : Type) where
  waiting : EndpointAddress → β → ν
  read_own {bus other : β} (address : EndpointAddress) (capacity : Nat)
    (same : waiting address bus = waiting address other) :
    (UsbBus.read address capacity bus).1 = (UsbBus.read address capacity other).1 ∧
      waiting address (UsbBus.read address capacity bus).2 =
        waiting address (UsbBus.read address capacity other).2
  read_other {address endpoint : EndpointAddress} (other : endpoint.index ≠ address.index)
    (capacity : Nat) (bus : β) :
    waiting endpoint (UsbBus.read address capacity bus).2 = waiting endpoint bus
  write (endpoint address : EndpointAddress) (data : Bytes) (bus : β) :
    waiting endpoint (UsbBus.write address data bus).2 = waiting endpoint bus

/-- Something that happens on the bus from outside, at each endpoint by itself. -/
structure UsbBus.Apart.Change {β ν : Type} [UsbBus β] (apart : UsbBus.Apart β ν) where
  run : β → β
  waiting_run {endpoint : EndpointAddress} {bus other : β}
    (same : apart.waiting endpoint bus = apart.waiting endpoint other) :
    apart.waiting endpoint (run bus) = apart.waiting endpoint (run other)

namespace Bench.PacketBus

def waiting (address : EndpointAddress) (bus : PacketBus) : Option Bytes × Option Bytes :=
  (if address.index = EndpointAddress.controlIndex then bus.setup else none,
    bus.toDevice.get address.index)

def answer (capacity : Nat) : Option Bytes × Option Bytes → Except UsbError Bytes
  | (some packet, _) | (none, some packet) => deliver packet capacity
  | (none, none) => .error .wouldBlock

def rest : Option Bytes × Option Bytes → Option Bytes × Option Bytes
  | (some _, packet) => (none, packet)
  | (none, _) => (none, none)

theorem read_own (address : EndpointAddress) (capacity : Nat) (bus : PacketBus) :
    (read address capacity bus).1 = answer capacity (waiting address bus) ∧
      waiting address (read address capacity bus).2 = rest (waiting address bus) := by
  have packet : bus.toDevice[address.index] = bus.toDevice.get address.index := rfl
  rw [read, packet, waiting]
  split
  case h_1 setup waits =>
    rw [waits]
    exact ⟨rfl, congrArg (·, bus.toDevice.get address.index) (ite_self none)⟩
  case h_2 waits =>
    rw [waits]
    split
    case h_1 packet waits' =>
      rw [waits']
      have cleared : (bus.toDevice.set address.index none).get address.index = none :=
        Vector.getElem_set_self address.index.isLt
      rw [waiting, waits, cleared]
      exact ⟨rfl, rfl⟩
    case h_2 waits' =>
      rw [waits', waiting, waits, waits']
      exact ⟨rfl, rfl⟩

theorem read_other {address endpoint : EndpointAddress} (other : endpoint.index ≠ address.index)
    (capacity : Nat) (bus : PacketBus) :
    waiting endpoint (read address capacity bus).2 = waiting endpoint bus := by
  rw [read]
  split
  case h_1 setup waits =>
    have control : address.index = EndpointAddress.controlIndex :=
      (Option.mem_ite_none_right.mp waits).1
    have elsewhere : endpoint.index ≠ EndpointAddress.controlIndex := control ▸ other
    rw [waiting, waiting, if_neg elsewhere, if_neg elsewhere]
    rfl
  case h_2 waits =>
    split
    case h_1 packet waits' =>
      have kept : (bus.toDevice.set address.index none).get endpoint.index =
          bus.toDevice.get endpoint.index :=
        Vector.getElem_set_ne _ _ (Fin.val_ne_iff.mpr other.symm)
      exact congrArg (Prod.mk _) kept
    case h_2 => rfl

theorem write_kept (endpoint address : EndpointAddress) (data : Bytes) (bus : PacketBus) :
    waiting endpoint (write address data bus).2 = waiting endpoint bus := by
  rw [write]
  split
  · rfl
  · split <;> rfl

def apart : UsbBus.Apart PacketBus (Option Bytes × Option Bytes) where
  waiting := waiting
  read_own {bus other} address capacity same := by
    obtain ⟨result, left⟩ := read_own address capacity bus
    obtain ⟨result', left'⟩ := read_own address capacity other
    have result : (read address capacity bus).1 = (read address capacity other).1 := by
      rw [result, result', same]
    have left : waiting address (read address capacity bus).2 =
        waiting address (read address capacity other).2 := by
      rw [left, left', same]
    exact ⟨result, left⟩
  read_other := read_other
  write := write_kept

def arrive (index : Fin 16) :
    HostStep → Option Bytes × Option Bytes → Option Bytes × Option Bytes
  | .setup packet, (setup, other) =>
    if index = EndpointAddress.controlIndex then (setup.or (some packet), other)
    else (setup, other)
  | .send target packet, (setup, other) =>
    if index = target then (setup, other.or (some packet)) else (setup, other)
  | _, waits => waits

theorem waiting_host (endpoint : EndpointAddress) (bus : PacketBus) (step : HostStep) :
    waiting endpoint (bus.host step).2 = arrive endpoint.index step (waiting endpoint bus) := by
  cases step with
  | setup packet =>
    rw [host]
    split
    case isTrue held =>
      obtain ⟨earlier, held⟩ := Option.isSome_iff_exists.mp held
      by_cases control : endpoint.index = EndpointAddress.controlIndex <;>
        simp [waiting, arrive, control, held]
    case isFalse free =>
      have free : bus.setup = none := Option.not_isSome_iff_eq_none.mp free
      by_cases control : endpoint.index = EndpointAddress.controlIndex <;>
        simp [waiting, arrive, control, free]
  | send target packet =>
    have waits : bus.toDevice[target] = bus.toDevice.get target := rfl
    rw [host, waits]
    split
    case isTrue held =>
      obtain ⟨earlier, held⟩ := Option.isSome_iff_exists.mp held
      by_cases own : endpoint.index = target <;> simp [waiting, arrive, own, held]
    case isFalse free =>
      have free : bus.toDevice.get target = none := Option.not_isSome_iff_eq_none.mp free
      by_cases own : endpoint.index = target
      · have stored : (bus.toDevice.set target (some packet)).get target = some packet :=
          Vector.getElem_set_self target.isLt
        simp [waiting, arrive, own, free, stored]
      · have kept : (bus.toDevice.set target (some packet)).get endpoint.index =
            bus.toDevice.get endpoint.index :=
          Vector.getElem_set_ne _ _ (Fin.val_ne_iff.mpr (Ne.symm own))
        simp [waiting, arrive, own, kept]
  | fetch index =>
    rw [host]
    split <;> rfl
  | reset | suspend | resume | spurious => rfl

def hostChange (step : HostStep) : apart.Change where
  run bus := (bus.host step).2
  waiting_run {endpoint bus other} same := by
    show waiting endpoint (bus.host step).2 = waiting endpoint (other.host step).2
    have same : waiting endpoint bus = waiting endpoint other := same
    rw [waiting_host, waiting_host, same]

end Bench.PacketBus

end Gadget
