import Gadget.Log.Record
import Gadget.Text.Bounded

namespace Gadget

/-- Counters of bytes, which run free and wrap. -/
structure Loss where
  dropped : UInt64
  announced : UInt64
deriving DecidableEq

namespace Loss

def fresh : Loss := ⟨0, 0⟩

def pending (loss : Loss) : UInt64 := loss.dropped - loss.announced

def isPending (loss : Loss) : Bool := loss.dropped != loss.announced

def record (loss : Loss) (count : UInt64) : Loss := { loss with dropped := loss.dropped + count }

def announce (loss : Loss) (count : UInt64) : Loss :=
  { loss with announced := loss.announced + count }

theorem isPending_iff (loss : Loss) : loss.isPending = true ↔ loss.pending ≠ 0 := by
  rw [isPending, bne_iff_ne, pending]
  constructor
  · intro differ same
    exact differ (by grind)
  · intro nonzero same
    exact nonzero (by rw [same]; grind)

theorem isPending_eq_false {loss : Loss} (calm : loss.pending = 0) : loss.isPending = false := by
  rw [← Bool.not_eq_true, isPending_iff, calm]
  exact fun differ => differ rfl

theorem pending_ne_zero_iff (loss : Loss) : loss.pending ≠ 0 ↔ 0 < loss.pending.toNat := by
  rw [ne_eq, ← UInt64.toNat_inj, UInt64.toNat_zero, Nat.pos_iff_ne_zero]

@[simp] theorem record_zero (loss : Loss) : loss.record 0 = loss := by
  simp [record]

theorem pending_record (loss : Loss) (count : UInt64) :
    (loss.record count).pending = loss.pending + count := by
  simp only [pending, record]
  grind

theorem pending_announce (loss : Loss) (count : UInt64) :
    (loss.announce count).pending = loss.pending - count := by
  simp only [pending, announce]
  grind

end Loss

namespace Notice

/-- Room for the longest notice: a 64-bit count has at most 20 digits. -/
def capacity : Nat := 40

def pieces (count : UInt64) : List (List Char) :=
  ["[...".toList, (Text.decimal count.toNat).toList, " bytes...]".toList, "\n".toList]

def text (count : UInt64) : BoundedText capacity := BoundedText.empty.pushAll (pieces count)

end Notice

end Gadget
