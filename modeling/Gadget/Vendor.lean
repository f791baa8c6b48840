import Gadget.Identity

namespace Gadget

structure Vendor where
  interface : UInt8
  name : UInt8
  nativeName : UInt8
  /-- The last command packet, until it is taken. -/
  command : Option Bytes
  /-- Completed packets since the last reset. -/
  samplesSent : UInt32
  responsesSent : UInt32
deriving DecidableEq

namespace Vendor

variable {α β : Type}

def target : String := "usb_test_device::vendor"

def endpoints : List Endpoint := [Identity.samples, Identity.commandOut, Identity.commandIn]

/-- Allocates the interface, its two strings and its endpoints. It has to come first, so that the
host finds it where it looks for it. -/
def allocate [UsbAllocator α β] (allocator : α) : Logged (Except UsbError Vendor × α) :=
  let (interface, allocator) := UsbAllocator.interface allocator
  let (name, allocator) := UsbAllocator.string allocator
  let (nativeName, allocator) := UsbAllocator.string allocator
  if interface = Identity.vendorInterface ∧ name = Identity.vendorNameIndex ∧
      nativeName = Identity.nativeNameIndex then
    match UsbAllocator.endpoints endpoints allocator with
    | (.error error, allocator) => pure (.error error, allocator)
    | (.ok _, allocator) =>
      pure (.ok ⟨interface, name, nativeName, none, 0, 0⟩, allocator)
  else do
    .log .warn target <|
      "Vendor interface must be allocated first, got interface " ++ Text.decimal interface.toNat ++
        " string " ++ Text.decimal name.toNat
    pure (.error .unsupported, allocator)

variable [UsbBus β]

def takeCommand (vendor : Vendor) : Option Bytes × Vendor :=
  (vendor.command, { vendor with command := none })

def writeSamples (_ : Vendor) (packet : Bytes) (bus : β) : Except UsbError Nat × β :=
  UsbBus.write Identity.samples.address packet bus

def writeResponse (_ : Vendor) (data : Bytes) (bus : β) : Except UsbError Nat × β :=
  UsbBus.write Identity.commandIn.address data bus

/-- Completed packets on an endpoint since the last reset, 0 for endpoints of other functions. -/
def sentCount (vendor : Vendor) (address : EndpointAddress) : UInt32 :=
  if address = Identity.samples.address then vendor.samplesSent
  else if address = Identity.commandIn.address then vendor.responsesSent
  else 0

def isAddressed (vendor : Vendor) (request : Request) : Bool :=
  request.kind = .ofVendor ∧ request.recipient = .interface ∧
    request.index = vendor.interface.toUInt16

/-- Notes a request that is meant for the interface, which declines them all. -/
def decline (vendor : Vendor) (name : String) (request : Request) : Logged Unit :=
  if vendor.isAddressed request then
    .log .trace target <|
      "Declined vendor " ++ name ++ " request: " ++ Text.upperHex request.code.toNat ++
        ", value: " ++ Text.upperHex request.value.toNat ++
        ", length: " ++ Text.upperHex request.length.toNat
  else pure ()

def receiveCommand (vendor : Vendor) (bus : β) : Logged (Vendor × β) :=
  match UsbBus.read Identity.commandOut.address Identity.commandOut.packetSize.toNat bus with
  | (.ok packet, bus) => do
    if vendor.command.isSome then
      .log .warn target "Unread command packet overwritten"
    .log .trace target <|
      "Received command packet, " ++ Text.upperHex packet.length ++ " bytes"
    pure ({ vendor with command := some packet }, bus)
  | (.error .wouldBlock, bus) => pure (vendor, bus)
  | (.error error, bus) => do
    .log .warn target ("Failed to read command packet - " ++ error.name)
    pure (vendor, bus)

def descriptors (vendor : Vendor) : List Descriptor :=
  .interfaceAlt vendor.interface 0 Identity.vendorClass (some vendor.name) ::
    endpoints.map .endpoint

def descriptorLength : Nat := Descriptor.interfaceLength + 3 * Descriptor.endpointLength

instance : UsbFunction Vendor where
  reset vendor := do
    .log .info target "Reset"
    pure { vendor with command := none, samplesSent := 0, responsesSent := 0 }
  controlIn request _ vendor := do
    vendor.decline "ctrl_in" request
    pure (none, vendor)
  controlOut request _ vendor := do
    vendor.decline "ctrl_out" request
    pure (none, vendor)
  packetReceived address vendor bus :=
    if address = Identity.commandOut.address then vendor.receiveCommand bus
    else pure (vendor, bus)
  packetSent address vendor :=
    if address = Identity.samples.address then
      { vendor with samplesSent := vendor.samplesSent + 1 }
    else if address = Identity.commandIn.address then
      { vendor with responsesSent := vendor.responsesSent + 1 }
    else vendor
  describe vendor writer := do
    match Descriptor.putAll vendor.descriptors writer with
    | (.ok _, writer) =>
      .log .trace target "wrote vendor interface descriptor"
      pure (.ok (), writer)
    | (.error error, writer) => pure (.error error, writer)
  string? vendor index :=
    if index = vendor.name ∨ index = vendor.nativeName then Identity.string? index else none

end Vendor

end Gadget
