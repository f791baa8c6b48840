namespace Gadget

/-- Bit 7 is set for packets to the host, the low four bits are the endpoint's index. -/
structure EndpointAddress where
  code : UInt8
deriving DecidableEq

namespace EndpointAddress

def index (address : EndpointAddress) : Fin 16 := .ofNat 16 address.code.toNat

def output (index : Fin 16) : EndpointAddress := ⟨.ofNat index⟩

def input (index : Fin 16) : EndpointAddress := ⟨.ofNat (0x80 + index)⟩

def controlIndex : Fin 16 := 0

def controlOut : EndpointAddress := output controlIndex

def controlIn : EndpointAddress := input controlIndex

end EndpointAddress

inductive TransferType
  | bulk
  | interrupt
deriving DecidableEq

def TransferType.code : TransferType → UInt8
  | bulk => 2
  | interrupt => 3

structure Endpoint where
  address : EndpointAddress
  transfer : TransferType
  packetSize : UInt16
  interval : UInt8
deriving DecidableEq

end Gadget
