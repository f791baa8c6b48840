import Gadget.Usb.Bus

namespace Gadget

structure ClassCode where
  base : UInt8
  sub : UInt8
  protocol : UInt8
deriving DecidableEq

/-- A descriptor as a function asks for it. -/
inductive Descriptor
  | association (first count : UInt8) (function : ClassCode)
  | interface (number : UInt8) (function : ClassCode)
  | interfaceAlt (number alternate : UInt8) (function : ClassCode) (name : Option UInt8)
  | endpoint (endpoint : Endpoint)
  | other (kind : UInt8) (payload : Bytes)
deriving DecidableEq

/-- Writes the configuration of a device, descriptor by descriptor and function by function. -/
class DescriptorWriter (ω : Type) where
  association : (first count : UInt8) → ClassCode → ω → Except UsbError Unit × ω
  interface : (number : UInt8) → ClassCode → ω → Except UsbError Unit × ω
  interfaceAlt : (number alternate : UInt8) → ClassCode → (name : Option UInt8) → ω →
    Except UsbError Unit × ω
  endpoint : Endpoint → ω → Except UsbError Unit × ω
  write : (kind : UInt8) → (payload : Bytes) → ω → Except UsbError Unit × ω
  endFunction : ω → ω

namespace Descriptor

variable {ω : Type} [DescriptorWriter ω]

def associationLength : Nat := 8

def interfaceLength : Nat := 9

def endpointLength : Nat := 7

def put : Descriptor → ω → Except UsbError Unit × ω
  | association first count function => DescriptorWriter.association first count function
  | interface number function => DescriptorWriter.interface number function
  | interfaceAlt number alternate function name =>
    DescriptorWriter.interfaceAlt number alternate function name
  | endpoint e => DescriptorWriter.endpoint e
  | other kind payload => DescriptorWriter.write kind payload

def putAll : List Descriptor → ω → Except UsbError Unit × ω
  | [], writer => (.ok (), writer)
  | descriptor :: rest, writer =>
    match descriptor.put writer with
    | (.ok _, writer) => putAll rest writer
    | (.error error, writer) => (.error error, writer)

end Descriptor

end Gadget
