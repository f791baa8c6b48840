import Gadget.Proofs.Usb.Callback
import Gadget.Serial.Basic
import Gadget.Vendor

namespace Gadget

structure BusRead where
  address : EndpointAddress
  capacity : Nat
  result : Except UsbError Bytes

def BusRead.received (address : EndpointAddress) (reads : List BusRead) : List Bytes :=
  reads.filterMap fun read => if read.address = address then read.result.toOption else none

theorem BusRead.received_singleton (address : EndpointAddress) (capacity : Nat)
    (result : Except UsbError Bytes) :
    received address [⟨address, capacity, result⟩] = result.toOption.toList := by
  rw [received, List.filterMap_cons, if_pos rfl]
  cases result <;> rfl

theorem BusRead.received_append (address : EndpointAddress) (reads more : List BusRead) :
    received address (reads ++ more) = received address reads ++ received address more :=
  List.filterMap_append

structure Tapped (β : Type) where
  bus : β
  reads : List BusRead

namespace Tapped

variable {β : Type} [UsbBus β]

instance : UsbBus (Tapped β) where
  allocate endpoint tapped :=
    (UsbBus.allocate endpoint tapped.bus).map fun bus => { tapped with bus }
  openControl packetSize tapped :=
    { tapped with bus := UsbBus.openControl packetSize tapped.bus }
  write address data tapped :=
    ((UsbBus.write address data tapped.bus).1,
      { tapped with bus := (UsbBus.write address data tapped.bus).2 })
  read address capacity tapped :=
    ((UsbBus.read address capacity tapped.bus).1,
      { bus := (UsbBus.read address capacity tapped.bus).2
        reads := tapped.reads ++
          [⟨address, capacity, (UsbBus.read address capacity tapped.bus).1⟩] })
  setStalled address stall tapped :=
    { tapped with bus := UsbBus.setStalled address stall tapped.bus }
  isStalled address tapped := UsbBus.isStalled address tapped.bus
  setAddress address tapped := { tapped with bus := UsbBus.setAddress address tapped.bus }
  reset tapped := { tapped with bus := UsbBus.reset tapped.bus }
  poll tapped := ((UsbBus.poll tapped.bus).1, { tapped with bus := (UsbBus.poll tapped.bus).2 })

end Tapped

namespace UsbFunction

variable {κ β : Type} [UsbFunction κ] [UsbBus β]

def readsIn (function : κ) : Callback β → List BusRead
  | .packetReceived address bus =>
    (packetReceived address function (⟨bus, []⟩ : Tapped β)).value.2.reads
  | _ => []

def reads (function : κ) : List (Callback β) → List BusRead
  | [] => []
  | callback :: rest =>
    readsIn function callback ++ reads (handle function callback).value.2 rest

end UsbFunction

namespace Vendor

variable {β : Type} [UsbBus β]

def commandRead (bus : β) : BusRead := ⟨⟨0x04⟩, 32, (UsbBus.read ⟨0x04⟩ 32 bus).1⟩

def keep (vendor : Vendor) : Except UsbError Bytes → Vendor
  | .ok packet => { vendor with command := some packet }
  | .error _ => vendor

theorem value_receiveCommand (vendor : Vendor) (bus : β) :
    (vendor.receiveCommand bus).value =
      (vendor.keep (UsbBus.read ⟨0x04⟩ 32 bus).1, (UsbBus.read ⟨0x04⟩ 32 bus).2) := by
  have read : UsbBus.read Identity.commandOut.address Identity.commandOut.packetSize.toNat bus =
      UsbBus.read ⟨0x04⟩ 32 bus := rfl
  unfold receiveCommand
  rw [read]
  rcases UsbBus.read ⟨0x04⟩ 32 bus with ⟨result, next⟩
  cases result with
  | ok packet => cases vendor.command <;> rfl
  | error error => cases error <;> rfl

theorem receiveCommand_tapped (vendor : Vendor) (tapped : Tapped β) :
    vendor.receiveCommand tapped =
      ⟨((vendor.receiveCommand tapped.bus).value.1,
        { bus := (vendor.receiveCommand tapped.bus).value.2
          reads := tapped.reads ++ [commandRead tapped.bus] }),
        (vendor.receiveCommand tapped.bus).records⟩ := by
  have tap : UsbBus.read Identity.commandOut.address Identity.commandOut.packetSize.toNat tapped =
      ((UsbBus.read ⟨0x04⟩ 32 tapped.bus).1,
        ⟨(UsbBus.read ⟨0x04⟩ 32 tapped.bus).2, tapped.reads ++ [commandRead tapped.bus]⟩) := rfl
  have plain : UsbBus.read Identity.commandOut.address Identity.commandOut.packetSize.toNat
      tapped.bus = UsbBus.read ⟨0x04⟩ 32 tapped.bus := rfl
  unfold receiveCommand
  rw [tap, plain]
  generalize commandRead tapped.bus = made
  rcases UsbBus.read ⟨0x04⟩ 32 tapped.bus with ⟨result, next⟩
  cases result with
  | ok packet => cases vendor.command <;> rfl
  | error error => cases error <;> rfl

theorem packetReceived_own (vendor : Vendor) (bus : β) :
    UsbFunction.packetReceived ⟨0x04⟩ vendor bus = vendor.receiveCommand bus :=
  if_pos rfl

theorem packetReceived_foreign {address : EndpointAddress} (foreign : address ≠ ⟨0x04⟩)
    (vendor : Vendor) (bus : β) :
    UsbFunction.packetReceived address vendor bus = pure (vendor, bus) :=
  if_neg foreign

theorem packetReceived_tapped (address : EndpointAddress) (vendor : Vendor) (tapped : Tapped β) :
    UsbFunction.packetReceived address vendor tapped =
      ⟨((UsbFunction.packetReceived address vendor tapped.bus).value.1,
        { bus := (UsbFunction.packetReceived address vendor tapped.bus).value.2
          reads := tapped.reads ++ if address = ⟨0x04⟩ then [commandRead tapped.bus] else [] }),
        (UsbFunction.packetReceived address vendor tapped.bus).records⟩ := by
  by_cases own : address = ⟨0x04⟩
  · subst own
    rw [packetReceived_own, packetReceived_own, receiveCommand_tapped, if_pos rfl]
  · rw [packetReceived_foreign own, packetReceived_foreign own, if_neg own, List.append_nil]
    rfl

end Vendor

end Gadget
