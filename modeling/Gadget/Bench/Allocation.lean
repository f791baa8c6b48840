import Gadget.Bench.Console
import Gadget.Bench.PacketBus
import Gadget.Serial.Basic
import Gadget.Vendor

namespace Gadget.Bench

/-- Counts what it hands out. The first string indices belong to the device itself. -/
structure Allocator (β : Type) where
  bus : β
  interfaces : Nat
  strings : Nat
deriving DecidableEq

namespace Allocator

variable {β : Type}

def ofBus (bus : β) : Allocator β := ⟨bus, 0, 0⟩

def interface (allocator : Allocator β) : UInt8 × Allocator β :=
  (.ofNat allocator.interfaces, { allocator with interfaces := allocator.interfaces + 1 })

def string (allocator : Allocator β) : UInt8 × Allocator β :=
  (.ofNat (4 + allocator.strings), { allocator with strings := allocator.strings + 1 })

def endpoint [UsbBus β] (endpoint : Endpoint) (allocator : Allocator β) :
    Except UsbError Unit × Allocator β :=
  match UsbBus.allocate endpoint allocator.bus with
  | .ok bus => (.ok (), { allocator with bus })
  | .error error => (.error error, allocator)

instance [UsbBus β] : UsbAllocator (Allocator β) β where
  ofBus := ofBus
  bus := bus
  interface := interface
  string := string
  endpoint := endpoint

end Allocator

inductive Allocation
  | interface
  | string
  | vendor
  | serial

inductive AllocationAnswer
  | number (n : UInt8)
  | vendor (result : Except UsbError Vendor)
  | serial (result : Except UsbError Serial)

structure AllocationBench where
  allocator : Allocator PacketBus
  vendor : Option Vendor
  serial : Option Serial
  threshold : Threshold
  console : Option ConsoleBench

namespace AllocationBench

def route (records : List Record) (bench : AllocationBench) : AllocationBench :=
  { bench with console := bench.console.map (·.record records) }

def step (bench : AllocationBench) : Allocation → Report AllocationAnswer × AllocationBench
  | .interface =>
    let (number, allocator) := bench.allocator.interface
    (⟨.number number, [], []⟩, { bench with allocator })
  | .string =>
    let (number, allocator) := bench.allocator.string
    (⟨.number number, [], []⟩, { bench with allocator })
  | .vendor =>
    let allocated := Vendor.allocate bench.allocator
    let (result, allocator) := allocated.value
    let records := allocated.kept bench.threshold
    let vendor := result.toOption.or bench.vendor
    (⟨.vendor result, records, []⟩, { bench with allocator, vendor }.route records)
  | .serial =>
    let allocated := Serial.allocate bench.allocator
    let (result, allocator) := allocated.value
    let records := allocated.kept bench.threshold
    let serial := result.toOption.or bench.serial
    (⟨.serial result, records, []⟩, { bench with allocator, serial }.route records)

end AllocationBench

end Gadget.Bench
