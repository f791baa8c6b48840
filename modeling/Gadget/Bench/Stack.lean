import Gadget.Bench.ControlPipe
import Gadget.Bench.DescriptorBuffer
import Gadget.Identity

namespace Gadget

namespace Text

def utf16Units (c : Char) : List UInt16 :=
  if c.toNat < 0x10000 then [.ofNat c.toNat]
  else
    [.ofNat (0xD800 + (c.toNat - 0x10000) / 0x400), .ofNat (0xDC00 + (c.toNat - 0x10000) % 0x400)]

def utf16 (text : String) : Bytes :=
  (text.toList.flatMap utf16Units).flatMap LittleEndian.word16

end Text

namespace Bench

inductive StandardCode
  | getStatus
  | clearFeature
  | setFeature
  | setAddress
  | getDescriptor
  | getConfiguration
  | setConfiguration
  | getInterface
  | setInterface
deriving DecidableEq

def StandardCode.ofRequest? (request : Request) : Option StandardCode :=
  match request.kind, request.code.toNat with
  | .standard, 0 => some getStatus
  | .standard, 1 => some clearFeature
  | .standard, 3 => some setFeature
  | .standard, 5 => some setAddress
  | .standard, 6 => some getDescriptor
  | .standard, 8 => some getConfiguration
  | .standard, 9 => some setConfiguration
  | .standard, 10 => some getInterface
  | .standard, 11 => some setInterface
  | _, _ => none

inductive DeviceState
  | default
  | addressed
  | configured
deriving DecidableEq

structure Device where
  profile : DeviceProfile
  pipe : ControlPipe
  state : DeviceState
  isSuspended : Bool
  /-- Takes effect when the status stage is over, 0 if there is none. -/
  pendingAddress : UInt8
  remoteWakeup : Bool
  selfPowered : Bool
deriving DecidableEq

def Device.ofProfile (profile : DeviceProfile) (packetSize : Nat) : Device where
  profile
  pipe := ⟨packetSize, .idle⟩
  state := .default
  isSuspended := false
  pendingAddress := 0
  remoteWakeup := false
  selfPowered := false

structure Stack (κ : Type) (β : Type) where
  device : Device
  functions : κ
  bus : β

namespace Stack

variable {κ β : Type} [UsbFunction κ] [UsbBus β]

def build (profile : DeviceProfile) (packetSize : Nat) (functions : κ) (bus : β) : Stack κ β :=
  ⟨.ofProfile profile packetSize, functions, UsbBus.openControl packetSize bus⟩

def withPipe (stack : Stack κ β) (pipe : ControlPipe × β) : Stack κ β :=
  { stack with device := { stack.device with pipe := pipe.1 }, bus := pipe.2 }

def answer (stack : Stack κ β) (request : Request) (reply : Reply) : Stack κ β :=
  stack.withPipe (stack.device.pipe.answer request reply stack.bus)

def stringIndex (name : Option String) (index : UInt8) : UInt8 := if name.isSome then index else 0

def deviceDescriptor (stack : Stack κ β) : Bytes :=
  let profile := stack.device.profile
  [0x12, 1, 0x10, 2, profile.function.base, profile.function.sub, profile.function.protocol,
      .ofNat stack.device.pipe.packetSize] ++
    LittleEndian.word16 profile.vendor ++ LittleEndian.word16 profile.product ++
    LittleEndian.word16 profile.release ++
    [stringIndex profile.manufacturerName Identity.manufacturerIndex,
      stringIndex profile.productName Identity.productIndex,
      stringIndex profile.serialNumber Identity.serialNumberIndex, 1]

def configuration (stack : Stack κ β) : Logged (Option Bytes) := do
  let buffer := DescriptorBuffer.empty ControlPipe.capacity stack.device.profile.associations
  match buffer.header with
  | (.error _, _) => pure none
  | (.ok _, buffer) =>
    match ← UsbFunction.describe stack.functions buffer with
    | (.ok _, buffer) => pure (some buffer.finish)
    | (.error _, _) => pure none

def stringDescriptor (text : String) : Bytes :=
  .ofNat (2 + (Text.utf16 text).length) :: 3 :: Text.utf16 text

def stringDescriptor? (stack : Stack κ β) (index : UInt8) : Option Bytes :=
  if index = 0 then some ([4, 3] ++ LittleEndian.word16 Identity.languageId)
  else
    let text :=
      if index = Identity.manufacturerIndex then stack.device.profile.manufacturerName
      else if index = Identity.productIndex then stack.device.profile.productName
      else if index = Identity.serialNumberIndex then stack.device.profile.serialNumber
      else UsbFunction.string? stack.functions index
    text.map stringDescriptor

def capabilities : Bytes := [5, 0x0f, 0x0c, 0, 1, 7, 0x10, 2, 0, 0, 0, 0]

def descriptor? (stack : Stack κ β) (kind index : Nat) : Logged (Option Bytes) :=
  match kind with
  | 1 => pure (some stack.deviceDescriptor)
  | 2 => stack.configuration
  | 3 => pure (stack.stringDescriptor? (.ofNat index))
  | 15 => pure (some capabilities)
  | _ => pure none

def endpointOf (request : Request) : EndpointAddress := ⟨request.index.toUInt8 &&& 0x8f⟩

def standardIn (stack : Stack κ β) (request : Request) : Logged (Option Bytes) :=
  match request.recipient, StandardCode.ofRequest? request with
  | .device, some .getStatus =>
    let status : UInt8 := (if stack.device.selfPowered then 1 else 0) +
      (if stack.device.remoteWakeup then 2 else 0)
    pure (some [status, 0])
  | .interface, some .getStatus => pure (some [0, 0])
  | .endpoint, some .getStatus =>
    pure (some [if UsbBus.isStalled (endpointOf request) stack.bus then 1 else 0, 0])
  | .device, some .getDescriptor =>
    stack.descriptor? (request.value.toNat / 0x100) (request.value.toNat % 0x100)
  | .device, some .getConfiguration =>
    pure (some [if stack.device.state = .configured then 1 else 0])
  | .interface, some .getInterface => pure (some [0])
  | _, _ => pure none

/-- The effect of a standard request, if it is one that is carried out. The device's feature 1 is
remote wakeup, an endpoint's feature 0 is its stall. -/
def standardOut (stack : Stack κ β) (request : Request) : Option (Stack κ β) :=
  match request.recipient, StandardCode.ofRequest? request, request.value.toNat with
  | .device, some .clearFeature, 1 =>
    some { stack with device := { stack.device with remoteWakeup := false } }
  | .device, some .setFeature, 1 =>
    some { stack with device := { stack.device with remoteWakeup := true } }
  | .endpoint, some .clearFeature, 0 =>
    some { stack with bus := UsbBus.setStalled (endpointOf request) false stack.bus }
  | .endpoint, some .setFeature, 0 =>
    some { stack with bus := UsbBus.setStalled (endpointOf request) true stack.bus }
  | .device, some .setAddress, address =>
    if 1 ≤ address ∧ address ≤ 127 then
      some { stack with device := { stack.device with pendingAddress := .ofNat address } }
    else none
  | .device, some .setConfiguration, 1 =>
    some { stack with device := { stack.device with state := .configured } }
  | .device, some .setConfiguration, 0 =>
    if stack.device.state = .default then none
    else some { stack with device := { stack.device with state := .addressed } }
  | .interface, some .setInterface, 0 => some stack
  | _, _, _ => none

def dispatchIn (stack : Stack κ β) (request : Request) : Logged (Stack κ β) := do
  let (reply, functions) ←
    UsbFunction.controlIn request (stack.device.pipe.accepts request stack.bus) stack.functions
  let stack := { stack with functions }
  match reply with
  | some reply => pure (stack.answer request reply)
  | none =>
    let payload ← stack.standardIn request
    pure (stack.answer request (payload.elim .reject .accept))

def dispatchOut (stack : Stack κ β) (request : Request) (data : Bytes) : Logged (Stack κ β) := do
  let (reply, functions) ← UsbFunction.controlOut request data stack.functions
  let stack := { stack with functions }
  match reply with
  | some reply => pure (stack.answer request reply)
  | none =>
    match stack.standardOut request with
    | some changed => pure (changed.answer request (.accept []))
    | none => pure (stack.answer request .reject)

def dispatch (stack : Stack κ β) : Option Arrival → Logged (Stack κ β)
  | none => pure stack
  | some arrival =>
    match arrival.request.direction with
    | .toHost => stack.dispatchIn arrival.request
    | .toDevice => stack.dispatchOut arrival.request arrival.data

def settleAddress (stack : Stack κ β) : Stack κ β :=
  if stack.device.pendingAddress = 0 then stack
  else
    { stack with
      device := { stack.device with pendingAddress := 0, state := .addressed }
      bus := UsbBus.setAddress stack.device.pendingAddress stack.bus }

def controlSent (stack : Stack κ β) (sent : Bool) : Stack κ β :=
  if sent then
    let (ended, pipe) := stack.device.pipe.packetSent stack.bus
    let stack := stack.withPipe pipe
    if ended then stack.settleAddress else stack
  else stack

def controlArrival (stack : Stack κ β) (received setup : Bool) :
    Option Arrival × ControlPipe × β :=
  if setup then stack.device.pipe.receiveSetup stack.bus
  else if received then stack.device.pipe.receiveData stack.bus
  else (none, stack.device.pipe, stack.bus)

def control (stack : Stack κ β) (received sent setup : Bool) : Logged (Stack κ β) :=
  let stack := stack.controlSent sent
  let (arrival, pipe) := stack.controlArrival received setup
  (stack.withPipe pipe).dispatch arrival

/-- Setup packets to other endpoints are no concern of the functions. -/
def receivePacket (received setup : Vector Bool 16) (stack : Stack κ β) (index : Fin 16) :
    Logged (Stack κ β) :=
  if received.get index && !setup.get index then do
    let (functions, bus) ←
      UsbFunction.packetReceived (EndpointAddress.output index) stack.functions stack.bus
    pure { stack with functions, bus }
  else pure stack

def countPacket (sent : Vector Bool 16) (stack : Stack κ β) (index : Fin 16) : Stack κ β :=
  if sent.get index then
    { stack with functions := UsbFunction.packetSent (.input index) stack.functions }
  else stack

def endpointEvents (received sent setup : Vector Bool 16) (stack : Stack κ β) (index : Fin 16) :
    Logged (Stack κ β) := do
  let stack ← stack.receivePacket received setup index
  pure (stack.countPacket sent index)

def dataEndpoints : List (Fin 16) := (List.finRange 16).tail

def data (stack : Stack κ β) (received sent setup : Vector Bool 16) : Logged (Stack κ β) := do
  let own := EndpointAddress.controlIndex
  let stack ← stack.control (received.get own) (sent.get own) (setup.get own)
  dataEndpoints.foldlM (endpointEvents received sent setup) stack

def reset (stack : Stack κ β) : Logged (Stack κ β) := do
  let functions ← UsbFunction.reset stack.functions
  pure {
    device := { stack.device with
      pipe := { stack.device.pipe with stage := .idle }
      state := .default
      pendingAddress := 0
      remoteWakeup := false }
    functions
    bus := UsbBus.reset stack.bus }

def handle (stack : Stack κ β) : BusEvent → Logged (Bool × Stack κ β)
  | .none | .resume => pure (false, stack)
  | .suspend =>
    pure (false, { stack with device := { stack.device with isSuspended := true } })
  | .reset => do
    let stack ← stack.reset
    pure (false, stack)
  | .data received sent setup => do
    let stack ← stack.data received sent setup
    pure (true, stack)

def sleepsOn (stack : Stack κ β) (event : BusEvent) : Bool :=
  stack.device.isSuspended && (event = .none || event = .suspend)

def poll (stack : Stack κ β) : Logged (Bool × Stack κ β) :=
  let (event, bus) := UsbBus.poll stack.bus
  let stack := { stack with bus }
  if stack.sleepsOn event then pure (false, stack)
  else Stack.handle { stack with device := { stack.device with isSuspended := false } } event

end Stack

instance : UsbDevice Device where
  build profile packetSize bus :=
    (.ofProfile profile packetSize, UsbBus.openControl packetSize bus)
  poll device functions bus := do
    let (brought, stack) ← Stack.poll ⟨device, functions, bus⟩
    pure ⟨brought, stack.device, stack.functions, stack.bus⟩

end Bench

end Gadget
