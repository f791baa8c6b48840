import Gadget.Bytes
import Gadget.Usb.Endpoint

namespace Gadget

inductive UsbError
  | wouldBlock
  | parseError
  | bufferOverflow
  | endpointOverflow
  | endpointMemoryOverflow
  | invalidEndpoint
  | unsupported
  | invalidState
deriving DecidableEq

def UsbError.name : UsbError → String
  | wouldBlock => "WouldBlock"
  | parseError => "ParseError"
  | bufferOverflow => "BufferOverflow"
  | endpointOverflow => "EndpointOverflow"
  | endpointMemoryOverflow => "EndpointMemoryOverflow"
  | invalidEndpoint => "InvalidEndpoint"
  | unsupported => "Unsupported"
  | invalidState => "InvalidState"

/-- What happened on the bus. For data events, three flags for each endpoint index. -/
inductive BusEvent
  | none
  | reset
  | suspend
  | resume
  | data (received sent setup : Vector Bool 16)
deriving DecidableEq

class UsbBus (β : Type) where
  allocate : Endpoint → β → Except UsbError β
  openControl : (packetSize : Nat) → β → β
  /-- Hands over one packet for the host, with its length as the answer. -/
  write : EndpointAddress → Bytes → β → Except UsbError Nat × β
  /-- Takes one packet of at most `capacity` bytes from the host. -/
  read : EndpointAddress → (capacity : Nat) → β → Except UsbError Bytes × β
  setStalled : EndpointAddress → Bool → β → β
  isStalled : EndpointAddress → β → Bool
  setAddress : UInt8 → β → β
  reset : β → β
  poll : β → BusEvent × β

/-- Hands out interface numbers, string indices and the endpoints of a bus to the functions of a
device. -/
class UsbAllocator (α : Type) (β : outParam Type) where
  ofBus : β → α
  bus : α → β
  interface : α → UInt8 × α
  string : α → UInt8 × α
  endpoint : Endpoint → α → Except UsbError Unit × α

def UsbAllocator.endpoints {α β : Type} [UsbAllocator α β] :
    List Endpoint → α → Except UsbError Unit × α
  | [], allocator => (.ok (), allocator)
  | next :: rest, allocator =>
    match endpoint next allocator with
    | (.ok _, allocator) => endpoints rest allocator
    | (.error error, allocator) => (.error error, allocator)

end Gadget
