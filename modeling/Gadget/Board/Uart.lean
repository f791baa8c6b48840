import Gadget.Console.Port

namespace Gadget

/-- A transmitter as the chip provides it. -/
class Peripheral (κ : Type) where
  /-- Enables the peripheral at a rate, given the frequency of its clock. It may refuse. -/
  configure : (clock baud : UInt32) → κ → Option κ
  push : UInt8 → κ → Bool × κ
  isDrained : κ → Bool

inductive UartError
  | disabled
  | badSettings
deriving DecidableEq

namespace UartError

def name : UartError → String
  | disabled => "Disabled"
  | badSettings => "Config"

def message : UartError → String
  | disabled => ""
  | badSettings => "BadArgument"

end UartError

/-- The peripheral is handed over to be configured; one that refuses does not come back. -/
inductive UartState (κ : Type)
  | disabled (peripheral : κ)
  | enabled (peripheral : κ)
  | lost
deriving DecidableEq

structure Uart (κ : Type) where
  state : UartState κ
  clock : UInt32
deriving DecidableEq

namespace Uart

variable {κ : Type}

def target : String := "test_device::uart"

def txPin : UInt8 := 0

def ofPeripheral (peripheral : κ) (clock : UInt32) : Uart κ := ⟨.disabled peripheral, clock⟩

def enable [Peripheral κ] (baud : UInt32) (uart : Uart κ) : Except UartError UInt32 × Uart κ :=
  match uart.state with
  | .lost => (.error .disabled, uart)
  | .disabled peripheral | .enabled peripheral =>
    match Peripheral.configure uart.clock baud peripheral with
    | some peripheral => (.ok baud, { uart with state := .enabled peripheral })
    | none => (.error .badSettings, { uart with state := .lost })

def write [Peripheral κ] (byte : UInt8) (uart : Uart κ) :
    Except (Refusal UartError) Unit × Uart κ :=
  match uart.state with
  | .enabled peripheral =>
    let (taken, peripheral) := Peripheral.push byte peripheral
    (if taken then .ok () else .error .wouldBlock, { uart with state := .enabled peripheral })
  | _ => (.error (.fault .disabled), uart)

def flush [Peripheral κ] (uart : Uart κ) : Except (Refusal UartError) Unit :=
  match uart.state with
  | .enabled peripheral =>
    if Peripheral.isDrained peripheral then .ok () else .error .wouldBlock
  | _ => .error (.fault .disabled)

/-- The pin is fixed by the wiring, so another one only draws a warning. -/
def route (pin : UInt8) (uart : Uart κ) : Logged (Uart κ) := do
  if pin != txPin then
    .log .warn target <|
      "UART0 transmits on GPIO " ++ Text.decimal txPin.toNat ++ ", not GPIO " ++
        Text.decimal pin.toNat
  pure uart

instance [Peripheral κ] : SerialPort (Uart κ) UartError where
  route := route
  enable := enable
  offer := write

def mapPeripheral (change : κ → κ) (uart : Uart κ) : Uart κ :=
  match uart.state with
  | .disabled peripheral => { uart with state := .disabled (change peripheral) }
  | .enabled peripheral => { uart with state := .enabled (change peripheral) }
  | .lost => uart

end Uart

end Gadget
