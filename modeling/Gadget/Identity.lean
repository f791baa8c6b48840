import Gadget.Usb.Device

namespace Gadget.Identity

def vendorId : UInt16 := 0xCAFE

def productId : UInt16 := 0x0007

def release : UInt16 := 0x0100

def controlPacketSize : Nat := 64

def vendorClass : ClassCode := ⟨0xFF, 0, 0⟩

def serialClass : ClassCode := ⟨0x02, 0x02, 0x00⟩

def serialDataClass : ClassCode := ⟨0x0A, 0, 0⟩

def vendorInterface : UInt8 := 0

def serialControlInterface : UInt8 := 1

def serialDataInterface : UInt8 := 2

def serialNotification : Endpoint := ⟨⟨0x81⟩, .interrupt, 8, 16⟩

def serialOut : Endpoint := ⟨⟨0x02⟩, .bulk, 64, 0⟩

def serialIn : Endpoint := ⟨⟨0x82⟩, .bulk, 64, 0⟩

def samples : Endpoint := ⟨⟨0x83⟩, .interrupt, 5, 1⟩

def commandOut : Endpoint := ⟨⟨0x04⟩, .bulk, 32, 0⟩

def commandIn : Endpoint := ⟨⟨0x84⟩, .bulk, 32, 0⟩

def languageId : UInt16 := 0x0409

def manufacturer : String := "Pololu Corporation"

def product : String := "USB Test Device A"

def serialNumber : String := "123456"

def vendorName : String := "USB Test Device A Interface 0"

def nativeName : String := "USB Test Device A Interface 1"

def portName : String := "USB Test Device A Port"

def manufacturerIndex : UInt8 := 1

def productIndex : UInt8 := 2

def serialNumberIndex : UInt8 := 3

def vendorNameIndex : UInt8 := 4

def nativeNameIndex : UInt8 := 5

def portNameIndex : UInt8 := 6

/-- The string table. Index 0 is the list of languages and has no text. -/
def strings : List (Option String) :=
  [none, some manufacturer, some product, some serialNumber, some vendorName, some nativeName,
    some portName]

def string? (index : UInt8) : Option String := strings[index.toNat]?.join

def profile : DeviceProfile where
  vendor := vendorId
  product := productId
  release := release
  function := ⟨0xEF, 0x02, 0x01⟩
  associations := true
  manufacturerName := some manufacturer
  productName := some product
  serialNumber := some serialNumber

def bareProfile : DeviceProfile where
  vendor := vendorId
  product := productId
  release := 0x0010
  function := ⟨0, 0, 0⟩
  associations := false
  manufacturerName := none
  productName := none
  serialNumber := none

end Gadget.Identity
