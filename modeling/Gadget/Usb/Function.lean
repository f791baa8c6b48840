import Gadget.Log.Record
import Gadget.Usb.Descriptor
import Gadget.Usb.Request

namespace Gadget

/-- A function of a device. It is told of every event and answers what is meant for it. -/
class UsbFunction (κ : Type) where
  reset : κ → Logged κ
  /-- With what the control pipe says to a payload. -/
  controlIn : Request → (accept : Bytes → Except UsbError Unit) → κ → Logged (Option Reply × κ)
  controlOut : Request → Bytes → κ → Logged (Option Reply × κ)
  packetReceived : {β : Type} → [UsbBus β] → EndpointAddress → κ → β → Logged (κ × β)
  packetSent : EndpointAddress → κ → κ
  describe : {ω : Type} → [DescriptorWriter ω] → κ → ω → Logged (Except UsbError Unit × ω)
  string? : κ → UInt8 → Option String

namespace UsbFunction

variable {κ₁ κ₂ : Type}

/-- Two functions of one device. A request goes to the second if the first leaves it, all else goes to
both. -/
instance [UsbFunction κ₁] [UsbFunction κ₂] : UsbFunction (κ₁ × κ₂) where
  reset functions := do
    let first ← reset functions.1
    let second ← reset functions.2
    pure (first, second)
  controlIn request accept functions := do
    let (reply, first) ← controlIn request accept functions.1
    if reply.isSome then pure (reply, first, functions.2)
    else
      let (reply, second) ← controlIn request accept functions.2
      pure (reply, first, second)
  controlOut request data functions := do
    let (reply, first) ← controlOut request data functions.1
    if reply.isSome then pure (reply, first, functions.2)
    else
      let (reply, second) ← controlOut request data functions.2
      pure (reply, first, second)
  packetReceived address functions bus := do
    let (first, bus) ← packetReceived address functions.1 bus
    let (second, bus) ← packetReceived address functions.2 bus
    pure ((first, second), bus)
  packetSent address functions := (packetSent address functions.1, packetSent address functions.2)
  describe functions writer := do
    match ← describe functions.1 writer with
    | (.ok _, writer) => describe functions.2 (DescriptorWriter.endFunction writer)
    | (.error error, writer) => pure (.error error, writer)
  string? functions index := (string? functions.1 index).or (string? functions.2 index)

instance [UsbFunction κ₁] : UsbFunction (Option κ₁) where
  reset
    | none => pure none
    | some function => some <$> reset function
  controlIn request accept
    | none => pure (none, none)
    | some function => do
      let (reply, function) ← controlIn request accept function
      pure (reply, some function)
  controlOut request data
    | none => pure (none, none)
    | some function => do
      let (reply, function) ← controlOut request data function
      pure (reply, some function)
  packetReceived address
    | none, bus => pure (none, bus)
    | some function, bus => do
      let (function, bus) ← packetReceived address function bus
      pure (some function, bus)
  packetSent address := Option.map (packetSent address)
  describe
    | none, writer => pure (.ok (), writer)
    | some function, writer => describe function writer
  string? functions index := functions.bind (string? · index)

end UsbFunction

end Gadget
