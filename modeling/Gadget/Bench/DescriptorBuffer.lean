import Gadget.Usb.Descriptor

namespace Gadget.Bench

/-- The bytes written so far into a space of `capacity` bytes, with the places of the counts that
later descriptors raise. -/
structure DescriptorBuffer where
  capacity : Nat
  associations : Bool
  bytes : Bytes
  interfaceMark : Option Nat
  endpointMark : Option Nat
deriving DecidableEq

namespace DescriptorBuffer

def empty (capacity : Nat) (associations : Bool) : DescriptorBuffer :=
  ⟨capacity, associations, [], none, none⟩

def write (kind : UInt8) (payload : Bytes) (buffer : DescriptorBuffer) :
    Except UsbError Unit × DescriptorBuffer :=
  if buffer.capacity < buffer.bytes.length + 2 + payload.length ∨ 255 < payload.length + 2 then
    (.error .bufferOverflow, buffer)
  else
    let descriptor := .ofNat (payload.length + 2) :: kind :: payload
    (.ok (), { buffer with bytes := buffer.bytes ++ descriptor })

def raise (mark : Option Nat) (buffer : DescriptorBuffer) :
    Except UsbError DescriptorBuffer :=
  match mark with
  | none => .error .invalidState
  | some position => .ok { buffer with bytes := buffer.bytes.modify position (· + 1) }

def header (buffer : DescriptorBuffer) : Except UsbError Unit × DescriptorBuffer :=
  write 2 [0, 0, 0, 1, 0, 0x80, 0x32]
    { buffer with interfaceMark := some (buffer.bytes.length + 4) }

def interfaceAlt (number alternate : UInt8) (function : ClassCode) (name : Option UInt8)
    (buffer : DescriptorBuffer) : Except UsbError Unit × DescriptorBuffer :=
  let payload :=
    [number, alternate, 0, function.base, function.sub, function.protocol, name.getD 0]
  let raised := if alternate = 0 then buffer.raise buffer.interfaceMark else .ok buffer
  match raised with
  | .error error => (.error error, buffer)
  | .ok buffer => write 4 payload { buffer with endpointMark := some (buffer.bytes.length + 4) }

def endpoint (endpoint : Endpoint) (buffer : DescriptorBuffer) :
    Except UsbError Unit × DescriptorBuffer :=
  match buffer.raise buffer.endpointMark with
  | .error error => (.error error, buffer)
  | .ok buffer =>
    let size := LittleEndian.word16 endpoint.packetSize
    write 5 ([endpoint.address.code, endpoint.transfer.code] ++ size ++ [endpoint.interval]) buffer

instance : DescriptorWriter DescriptorBuffer where
  association first count function buffer :=
    if buffer.associations then
      write 0x0b [first, count, function.base, function.sub, function.protocol, 0] buffer
    else (.ok (), buffer)
  interface number function := interfaceAlt number 0 function none
  interfaceAlt := interfaceAlt
  endpoint := endpoint
  write := write
  endFunction buffer := { buffer with endpointMark := none }

def finish (buffer : DescriptorBuffer) : Bytes :=
  buffer.bytes.take 2 ++ LittleEndian.word16 (.ofNat buffer.bytes.length) ++ buffer.bytes.drop 4

end DescriptorBuffer

end Gadget.Bench
