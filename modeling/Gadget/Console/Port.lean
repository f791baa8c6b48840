import Gadget.Bytes
import Gadget.Log.Record

namespace Gadget

inductive Refusal (ε : Type)
  | wouldBlock
  | fault (cause : ε)
deriving DecidableEq

class SerialPort (π : Type) (ε : outParam Type) where
  route : UInt8 → π → Logged π
  /-- Configures the port, with the rate in effect as the answer. -/
  enable : UInt32 → π → Except ε UInt32 × π
  offer : UInt8 → π → Except (Refusal ε) Unit × π

structure PortSettings where
  baud : UInt32
  txPin : Option UInt8
  rxPin : Option UInt8
deriving DecidableEq

def PortSettings.transmitOnly (baud : UInt32) (pin : UInt8) : PortSettings := ⟨baud, some pin, none⟩

structure Attempt where
  byte : UInt8
  taken : Bool
deriving DecidableEq

def wireBytes (attempts : List Attempt) : Bytes :=
  (attempts.filter Attempt.taken).map Attempt.byte

@[simp] theorem wireBytes_append (left right : List Attempt) :
    wireBytes (left ++ right) = wireBytes left ++ wireBytes right := by
  simp [wireBytes]

end Gadget
