import Gadget.Bench.Wire

namespace Gadget.Bench

inductive UartStep
  | enable (baud : UInt32)
  | write (byte : UInt8)
  | flush
  | route (pin : UInt8)
  | adjust (change : Wire → Wire)

inductive UartAnswer
  | none
  | enabled (result : Except UartError UInt32)
  | done (result : Except (Refusal UartError) Unit)

namespace UartBench

def reaches (uart : Uart Wire) : Bool :=
  match uart.state with
  | .enabled _ => true
  | _ => false

def step (uart : Uart Wire) : UartStep → Report UartAnswer × Uart Wire
  | .enable baud =>
    let (result, next) := uart.enable baud
    (⟨.enabled result, [], []⟩, next)
  | .write byte =>
    let (result, next) := uart.write byte
    (⟨.done result, [], if reaches uart then [⟨byte, result.toBool⟩] else []⟩, next)
  | .flush => (⟨.done uart.flush, [], []⟩, uart)
  | .route pin =>
    let routed := uart.route pin
    (⟨.none, routed.records, []⟩, routed.value)
  | .adjust change => (⟨.none, [], []⟩, uart.mapPeripheral change)

end UartBench

end Gadget.Bench
