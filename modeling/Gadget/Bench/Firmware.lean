import Gadget.Bench.Allocation
import Gadget.Bench.Stack
import Gadget.Firmware

namespace Gadget.Bench

inductive FirmwareStep
  | turn
  | host (step : HostStep)
  | adjust (change : Wire → Wire)

namespace FirmwareBench

abbrev Board := Firmware Wire Device PacketBus

def boot (clock : Option UInt32) (wire : Wire) (bus : PacketBus) :
    Firmware.Boot Wire Device PacketBus :=
  Firmware.boot (Allocator PacketBus) (wire.passes Console.defaultCapacity.size) clock wire bus

def step (board : Board) : FirmwareStep → Report HostAnswer × Board
  | .turn =>
    let turned := board.turn
    (⟨.none, turned.records, turned.value.1⟩, turned.value.2)
  | .host step =>
    let (answer, bus) := board.bus.host step
    (⟨answer, [], []⟩, { board with bus })
  | .adjust change =>
    (⟨.none, [], []⟩,
      { board with console := { board.console with
          port := board.console.port.map (·.mapPeripheral change) } })

end FirmwareBench

end Gadget.Bench
