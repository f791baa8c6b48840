namespace Gadget

abbrev Bytes := List UInt8

namespace LittleEndian

def word16 (w : UInt16) : Bytes := [.ofNat w.toNat, .ofNat (w.toNat / 0x100)]

def word32 (w : UInt32) : Bytes :=
  [.ofNat w.toNat, .ofNat (w.toNat / 0x100), .ofNat (w.toNat / 0x10000),
    .ofNat (w.toNat / 0x1000000)]

def read16 (b0 b1 : UInt8) : UInt16 := .ofNat (b0.toNat + 0x100 * b1.toNat)

def read32 (b0 b1 b2 b3 : UInt8) : UInt32 :=
  .ofNat (b0.toNat + 0x100 * b1.toNat + 0x10000 * b2.toNat + 0x1000000 * b3.toNat)

theorem word32_read32 (b0 b1 b2 b3 : UInt8) :
    word32 (read32 b0 b1 b2 b3) = [b0, b1, b2, b3] := by
  have h0 := b0.toNat_lt
  have h1 := b1.toNat_lt
  have h2 := b2.toNat_lt
  have h3 := b3.toNat_lt
  simp only [word32, read32, List.cons.injEq, and_true, ← UInt8.toNat_inj, UInt8.toNat_ofNat',
    UInt32.toNat_ofNat']
  omega

theorem read32_word32 (w : UInt32) :
    read32 (.ofNat w.toNat) (.ofNat (w.toNat / 0x100)) (.ofNat (w.toNat / 0x10000))
      (.ofNat (w.toNat / 0x1000000)) = w := by
  have bound := w.toNat_lt
  simp only [read32, ← UInt32.toNat_inj, UInt8.toNat_ofNat', UInt32.toNat_ofNat']
  omega

end LittleEndian

end Gadget
