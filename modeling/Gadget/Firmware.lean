import Gadget.Board.Uart
import Gadget.Console.Bind
import Gadget.Console.Task
import Gadget.Serial.Basic
import Gadget.Vendor

namespace Gadget

abbrev BoardConsole (κ : Type) := Console Console.defaultCapacity (Uart κ)

/-- The test device on a chip, beside its console. -/
structure Firmware (κ δ β : Type) where
  console : BoardConsole κ
  device : δ
  functions : Vendor × Serial
  bus : β

namespace Firmware

variable {κ δ β : Type}

def target : String := "test_device"

def threshold : Threshold := some .debug

def settings : PortSettings := .transmitOnly 115200 0

/-- The outcome of a start. A halt carries what the last flush did, `none` if that never ends. -/
inductive Boot (κ δ β : Type)
  | running (firmware : Firmware κ δ β)
  | halted (flushed : Option (List Attempt × BoardConsole κ))

def location : String := "<location>"

/-- Stops for good: a last record, then everything still queued goes out. -/
def halt [Peripheral κ] (passes : Nat) (console : BoardConsole κ) (reason : String) :
    Boot κ δ β :=
  let record : Record :=
    ⟨.error, "test_device::panic", .ofString ("panicked at " ++ location ++ ":\n" ++ reason)⟩
  .halted ((console.log record).flush passes)

def start (α : Type) [Peripheral κ] [UsbBus β] [UsbAllocator α β] [UsbDevice δ] (passes : Nat)
    (console : BoardConsole κ) (bus : β) : Boot κ δ β :=
  let allocated := Vendor.allocate (UsbAllocator.ofBus bus : α)
  let console := console.logAll (allocated.kept threshold)
  match allocated.value with
  | (.error error, _) => halt passes console ("Failed to allocate vendor interface: " ++ error.name)
  | (.ok vendor, allocator) =>
    let allocated := Serial.allocate allocator
    let console := console.logAll (allocated.kept threshold)
    match allocated.value with
    | (.error error, _) => halt passes console ("Failed to allocate serial port: " ++ error.name)
    | (.ok serial, allocator) =>
      let (device, bus) :=
        UsbDevice.build Identity.profile Identity.controlPacketSize (UsbAllocator.bus allocator)
      .running ⟨console, device, (vendor, serial), bus⟩

def bindFailure : BindError UartError → String
  | .receiveUnsupported => "ReceiveUnsupported"
  | .alreadyBound => "AlreadyBound"
  | .port .disabled => "Uart(Disabled)"
  | .port .badSettings => "Uart(Config(BadArgument))"

/-- Starts on a chip whose clocks came up at the given frequency, or did not. Without clocks there is
no console to speak on. -/
def boot (α : Type) [Peripheral κ] [UsbBus β] [UsbAllocator α β] [UsbDevice δ] (passes : Nat)
    (clock : Option UInt32) (peripheral : κ) (bus : β) : Boot κ δ β :=
  match clock with
  | none => .halted (some ([], .empty))
  | some clock =>
    let bound := (Console.empty : BoardConsole κ).bind (.ofPeripheral peripheral clock) settings
    let (result, console, _) := bound.value
    let console := console.logAll (bound.kept threshold)
    match result with
    | .error error => halt passes console ("Failed to start stdio uart: " ++ bindFailure error)
    | .ok baud =>
      let greeting : Record :=
        ⟨.info, target, .ofString ("Starting up... " ++ Text.decimal baud.toNat ++ " baud")⟩
      start α passes (console.log greeting) bus

def hexList (data : Bytes) : String :=
  "[" ++ String.intercalate ", " (data.map fun byte => Text.upperHex byte.toNat) ++ "]"

def serveCommand (vendor : Vendor) : Logged Vendor := do
  let (command, vendor) := vendor.takeCommand
  if let some command := command then
    .log .debug target ("Command " ++ hexList command)
  pure vendor

def serveSerial [UsbBus β] (serial : Serial) (bus : β) : Logged β := do
  let (result, bus) := serial.read Identity.serialOut.packetSize.toNat bus
  match result with
  | .error .wouldBlock | .ok [] => pure ()
  | .ok data =>
    .log .debug target ("Serial port received " ++ Text.decimal data.length ++ " bytes")
  | .error error => .log .warn target ("Failed to read serial port: " ++ error.name)
  pure bus

def serve [UsbBus β] (polled : Polled δ (Vendor × Serial) β) :
    Logged (Polled δ (Vendor × Serial) β) := do
  if polled.brought then
    let vendor ← serveCommand polled.functions.1
    let bus ← serveSerial polled.functions.2 polled.bus
    pure { polled with functions := (vendor, polled.functions.2), bus }
  else pure polled

/-- One turn of the main loop, with the records it made and what it offered to the port. -/
def turn [Peripheral κ] [UsbBus β] [UsbDevice δ] (firmware : Firmware κ δ β) :
    Logged (List Attempt × Firmware κ δ β) :=
  let served := UsbDevice.poll firmware.device firmware.functions firmware.bus >>= serve
  let (attempts, console) := (firmware.console.logAll (served.kept threshold)).task
  let next := ⟨console, served.value.device, served.value.functions, served.value.bus⟩
  ⟨(attempts, next), served.kept threshold⟩

end Firmware

end Gadget
