import Gadget.Usb.Function

namespace Gadget

structure DeviceProfile where
  vendor : UInt16
  product : UInt16
  release : UInt16
  function : ClassCode
  associations : Bool
  manufacturerName : Option String
  productName : Option String
  serialNumber : Option String
deriving DecidableEq

structure Polled (δ κ β : Type) where
  brought : Bool
  device : δ
  functions : κ
  bus : β

/-- A device follows the events of a bus and tells its functions of them. -/
class UsbDevice (δ : Type) where
  build : {β : Type} → [UsbBus β] → DeviceProfile → (packetSize : Nat) → β → δ × β
  poll : {κ β : Type} → [UsbFunction κ] → [UsbBus β] → δ → κ → β → Logged (Polled δ κ β)

end Gadget
