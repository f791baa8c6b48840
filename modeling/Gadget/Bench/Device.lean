import Gadget.Bench.Allocation
import Gadget.Bench.Transfer

namespace Gadget.Bench

/-- A function that only takes up room in the configuration. -/
structure Filler where
  size : Nat

def Filler.descriptor (filler : Filler) : Descriptor :=
  .other 0xff (List.replicate (filler.size - 2) 0xee)

instance : UsbFunction Filler where
  reset filler := pure filler
  controlIn _ _ filler := pure (none, filler)
  controlOut _ _ filler := pure (none, filler)
  packetReceived _ filler bus := pure (filler, bus)
  packetSent _ filler := filler
  describe filler writer := pure (filler.descriptor.put writer)
  string? _ _ := none

abbrev Functions := Option Filler × Option Vendor × Option Serial

structure DeviceBench where
  stack : Stack Functions PacketBus
  threshold : Threshold
  console : Option ConsoleBench

inductive DeviceStep
  | host (step : HostStep)
  | selfPowered (on : Bool)
  | poll
  | transfer (setup data : Bytes)
  | writeSamples (data : Bytes)
  | writeResponse (data : Bytes)
  | takeCommand
  | sentCount (address : EndpointAddress)
  | serialWrite (data : Bytes)
  | serialRead (capacity : Nat)
  | console (step : ConsoleStep)

inductive DeviceAnswer
  | none
  | host (answer : HostAnswer)
  | polled (brought : Bool)
  | transferred (answer : TransferAnswer)
  | missing
  | written (result : Except UsbError Nat)
  | read (result : Except UsbError Bytes)
  | command (packet : Option Bytes)
  | count (n : UInt32)
  | console (answer : ConsoleAnswer)

namespace DeviceBench

def bus (bench : DeviceBench) : PacketBus := bench.stack.bus

def vendor (bench : DeviceBench) : Option Vendor := bench.stack.functions.2.1

def serial (bench : DeviceBench) : Option Serial := bench.stack.functions.2.2

def withBus (bus : PacketBus) (bench : DeviceBench) : DeviceBench :=
  { bench with stack := { bench.stack with bus } }

def ofAllocation (profile : DeviceProfile) (packetSize : Nat) (filler : Option Filler)
    (allocation : AllocationBench) : DeviceBench where
  stack :=
    .build profile packetSize (filler, allocation.vendor, allocation.serial) allocation.allocator.bus
  threshold := allocation.threshold
  console := allocation.console

def settle (bench : DeviceBench) (logged : Logged (DeviceAnswer × HostedStack Functions)) :
    Report DeviceAnswer × DeviceBench :=
  let records := logged.kept bench.threshold
  (⟨logged.value.1, records, []⟩,
    { bench with
      stack := logged.value.2
      console := bench.console.map (·.record records) })

def ofBus (bench : DeviceBench) (answer : DeviceAnswer) (bus : PacketBus) :
    Report DeviceAnswer × DeviceBench :=
  (⟨answer, [], []⟩, bench.withBus bus)

def step (bench : DeviceBench) : DeviceStep → Report DeviceAnswer × DeviceBench
  | .host step =>
    let (answer, stack) := HostedStack.act bench.stack step
    (⟨.host answer, [], []⟩, { bench with stack })
  | .selfPowered on =>
    (⟨.none, [], []⟩,
      { bench with
        stack := { bench.stack with device := { bench.stack.device with selfPowered := on } } })
  | .poll =>
    bench.settle do
      let (brought, stack) ← bench.stack.poll
      pure (.polled brought, stack)
  | .transfer setup data =>
    bench.settle do
      let (answer, stack) ← HostedStack.transfer setup data bench.stack
      pure (.transferred answer, stack)
  | .writeSamples data =>
    match bench.vendor with
    | none => (⟨.missing, [], []⟩, bench)
    | some vendor =>
      let (result, bus) := vendor.writeSamples data bench.bus
      bench.ofBus (.written result) bus
  | .writeResponse data =>
    match bench.vendor with
    | none => (⟨.missing, [], []⟩, bench)
    | some vendor =>
      let (result, bus) := vendor.writeResponse data bench.bus
      bench.ofBus (.written result) bus
  | .takeCommand =>
    match bench.stack.functions with
    | (filler, some vendor, serial) =>
      let (command, vendor) := vendor.takeCommand
      (⟨.command command, [], []⟩,
        { bench with stack := { bench.stack with functions := (filler, some vendor, serial) } })
    | (_, none, _) => (⟨.missing, [], []⟩, bench)
  | .sentCount address =>
    match bench.vendor with
    | none => (⟨.missing, [], []⟩, bench)
    | some vendor => (⟨.count (vendor.sentCount address), [], []⟩, bench)
  | .serialWrite data =>
    match bench.serial with
    | none => (⟨.missing, [], []⟩, bench)
    | some serial =>
      let (result, bus) := serial.write data bench.bus
      bench.ofBus (.written result) bus
  | .serialRead capacity =>
    match bench.serial with
    | none => (⟨.missing, [], []⟩, bench)
    | some serial =>
      let (result, bus) := serial.read capacity bench.bus
      bench.ofBus (.read result) bus
  | .console step =>
    match bench.console with
    | none => (⟨.missing, [], []⟩, bench)
    | some console =>
      let (report, console) := console.step bench.threshold step
      (⟨.console report.answer, report.records, report.attempts⟩,
        { bench with console := some console })

end DeviceBench

end Gadget.Bench
