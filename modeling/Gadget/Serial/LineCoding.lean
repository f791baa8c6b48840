import Gadget.Bytes
import Gadget.Log.Record

namespace Gadget

structure LineCoding where
  rate : UInt32
  /-- Zero for one stop bit, 1 for one and a half, 2 for two. -/
  stopBits : UInt8
  /-- Zero for none, 1 for odd, 2 for even, 3 for mark, 4 for space. -/
  parity : UInt8
  dataBits : UInt8
deriving DecidableEq

namespace LineCoding

def standard : LineCoding := ⟨115200, 0, 0, 8⟩

def encode (coding : LineCoding) : Bytes :=
  LittleEndian.word32 coding.rate ++ [coding.stopBits, coding.parity, coding.dataBits]

def decode? : Bytes → Option LineCoding
  | b0 :: b1 :: b2 :: b3 :: stopBits :: parity :: dataBits :: _ =>
    some ⟨LittleEndian.read32 b0 b1 b2 b3, stopBits, parity, dataBits⟩
  | _ => none

def text (coding : LineCoding) : String :=
  "LineCoding \x7b data_rate: " ++ Text.decimal coding.rate.toNat ++
    ", stop_bits: " ++ Text.decimal coding.stopBits.toNat ++
    ", parity: " ++ Text.decimal coding.parity.toNat ++
    ", data_bits: " ++ Text.decimal coding.dataBits.toNat ++ " \x7d"

theorem encode_of_decode? {data : Bytes} {coding : LineCoding} (read : decode? data = some coding) :
    coding.encode = data.take 7 := by
  unfold decode? at read
  split at read
  · cases read
    simp [encode, LittleEndian.word32_read32]
  · cases read

theorem decode?_encode (coding : LineCoding) (rest : Bytes) :
    decode? (coding.encode ++ rest) = some coding := by
  simp only [encode, LittleEndian.word32, List.cons_append, List.nil_append, decode?,
    LittleEndian.read32_word32]

end LineCoding

end Gadget
