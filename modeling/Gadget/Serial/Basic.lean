import Gadget.Identity
import Gadget.Serial.LineCoding

namespace Gadget

structure Serial where
  controlInterface : UInt8
  dataInterface : UInt8
  name : UInt8
  lineCoding : LineCoding
  dtr : Bool
  rts : Bool
deriving DecidableEq

namespace Serial

variable {α β : Type}

def target : String := "usb_test_device::cdc"

def endpoints : List Endpoint :=
  [Identity.serialNotification, Identity.serialOut, Identity.serialIn]

/-- Allocates both interfaces, the port's name and its endpoints. It has to follow the vendor
interface, so that the host finds it where it looks for it. -/
def allocate [UsbAllocator α β] (allocator : α) : Logged (Except UsbError Serial × α) :=
  let (controlInterface, allocator) := UsbAllocator.interface allocator
  let (dataInterface, allocator) := UsbAllocator.interface allocator
  let (name, allocator) := UsbAllocator.string allocator
  if controlInterface = Identity.serialControlInterface ∧
      dataInterface = Identity.serialDataInterface ∧ name = Identity.portNameIndex then
    match UsbAllocator.endpoints endpoints allocator with
    | (.error error, allocator) => pure (.error error, allocator)
    | (.ok _, allocator) =>
      pure (.ok ⟨controlInterface, dataInterface, name, .standard, false, false⟩, allocator)
  else do
    .log .warn target <|
      "Serial port must follow the vendor interface, got interface " ++
        Text.decimal controlInterface.toNat ++ " string " ++ Text.decimal name.toNat
    pure (.error .unsupported, allocator)

variable [UsbBus β]

def read (_ : Serial) (capacity : Nat) (bus : β) : Except UsbError Bytes × β :=
  UsbBus.read Identity.serialOut.address capacity bus

def write (_ : Serial) (data : Bytes) (bus : β) : Except UsbError Nat × β :=
  UsbBus.write Identity.serialIn.address data bus

def isAddressed (serial : Serial) (request : Request) : Bool :=
  request.kind = .ofClass ∧ request.recipient = .interface ∧
    request.index = serial.controlInterface.toUInt16

namespace Code

def setLineCoding : UInt8 := 0x20

def getLineCoding : UInt8 := 0x21

def setControlLines : UInt8 := 0x22

def sendBreak : UInt8 := 0x23

end Code

def reject (name : String) (request : Request) : Logged (Option Reply) := do
  .log .trace target <|
    "Rejected serial " ++ name ++ " request: " ++ Text.upperHex request.code.toNat ++
      ", value: " ++ Text.upperHex request.value.toNat ++
      ", length: " ++ Text.upperHex request.length.toNat
  pure (some .reject)

def sendLineCoding (accept : Bytes → Except UsbError Unit) (serial : Serial) :
    Logged (Option Reply × Serial) := do
  match accept serial.lineCoding.encode with
  | .ok _ => .log .trace target ("Sent line coding " ++ serial.lineCoding.text)
  | .error error => .log .warn target ("Failed to send line coding: " ++ error.name)
  pure (some (.accept serial.lineCoding.encode), serial)

def controlIn (request : Request) (accept : Bytes → Except UsbError Unit) (serial : Serial) :
    Logged (Option Reply × Serial) := do
  if !serial.isAddressed request then pure (none, serial)
  else if request.code = Code.getLineCoding then serial.sendLineCoding accept
  else
    let reply ← reject "ctrl_in" request
    pure (reply, serial)

def flag (set : Bool) : String := if set then "true" else "false"

def setLineCoding (data : Bytes) (serial : Serial) : Logged (Option Reply × Serial) :=
  match LineCoding.decode? data with
  | some lineCoding => do
    .log .info target <|
      "Line coding " ++ Text.decimal lineCoding.rate.toNat ++ " baud, " ++
        Text.decimal lineCoding.dataBits.toNat ++ " data bits"
    pure (some (.accept []), { serial with lineCoding })
  | none => do
    .log .warn target ("Short line coding, " ++ Text.decimal data.length ++ " bytes")
    pure (some .reject, serial)

def setControlLines (value : UInt16) (serial : Serial) : Logged (Option Reply × Serial) := do
  let dtr := value &&& 1 != 0
  let rts := value &&& 2 != 0
  .log .trace target ("Control line state dtr: " ++ flag dtr ++ ", rts: " ++ flag rts)
  pure (some (.accept []), { serial with dtr, rts })

def controlOut (request : Request) (data : Bytes) (serial : Serial) :
    Logged (Option Reply × Serial) := do
  if !serial.isAddressed request then pure (none, serial)
  else if request.code = Code.setLineCoding then serial.setLineCoding data
  else if request.code = Code.setControlLines then serial.setControlLines request.value
  else if request.code = Code.sendBreak then
    .log .trace target ("Break for " ++ Text.decimal request.value.toNat ++ " ms")
    pure (some (.accept []), serial)
  else
    let reply ← reject "ctrl_out" request
    pure (reply, serial)

/-- Descriptors of the communication class: release 1.20, no call management over the data
interface, line settings understood, and the union of both interfaces. -/
def functional (serial : Serial) : List Descriptor :=
  [.other 0x24 (0x00 :: LittleEndian.word16 0x0120),
    .other 0x24 [0x01, 0x00, serial.dataInterface],
    .other 0x24 [0x02, 0x02],
    .other 0x24 [0x06, serial.controlInterface, serial.dataInterface]]

def descriptors (serial : Serial) : List Descriptor :=
  [.association serial.controlInterface 2 Identity.serialClass,
    .interfaceAlt serial.controlInterface 0 Identity.serialClass (some serial.name)] ++
  serial.functional ++
  [.endpoint Identity.serialNotification,
    .interface serial.dataInterface Identity.serialDataClass,
    .endpoint Identity.serialOut,
    .endpoint Identity.serialIn]

def descriptorLength : Nat :=
  Descriptor.associationLength + 2 * Descriptor.interfaceLength + (5 + 5 + 4 + 5) +
    3 * Descriptor.endpointLength

instance : UsbFunction Serial where
  reset serial := pure { serial with lineCoding := .standard, dtr := false, rts := false }
  controlIn := controlIn
  controlOut := controlOut
  packetReceived _ serial bus := pure (serial, bus)
  packetSent _ serial := serial
  describe serial writer := do
    match Descriptor.putAll serial.descriptors writer with
    | (.ok _, writer) =>
      .log .trace target "wrote serial port descriptors"
      pure (.ok (), writer)
    | (.error error, writer) => pure (.error error, writer)
  string? serial index := if index = serial.name then Identity.string? index else none

end Serial

end Gadget
