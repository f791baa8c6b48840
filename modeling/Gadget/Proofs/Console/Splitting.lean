import Gadget.Proofs.Console.Logging
import Gadget.Proofs.Ring.Splitting

namespace Gadget

namespace Loss

theorem record_add (loss : Loss) (first rest : Nat) :
    loss.record (.ofNat (first + rest)) = (loss.record (.ofNat first)).record (.ofNat rest) := by
  simp only [record, UInt64.ofNat_add, UInt64.add_assoc]

theorem toNat_pending_record {loss : Loss} {count : Nat}
    (small : loss.pending.toNat + count < UInt64.size) :
    (loss.record (.ofNat count)).pending.toNat = loss.pending.toNat + count := by
  rw [pending_record, UInt64.toNat_add, UInt64.toNat_ofNat', Nat.add_mod_mod]
  exact Nat.mod_eq_of_lt small

end Loss

namespace Console

variable {capacity : Capacity} {π : Type}

def enter (console : Console capacity π) (data : Bytes) : Nat × Ring capacity :=
  if console.loss.pending = 0 then console.ring.write data false else (0, console.ring)

theorem emit_eq (console : Console capacity π) (data : Bytes) :
    console.emit data =
      ((console.enter data).1,
        { console with
          ring := (console.enter data).2
          loss := console.loss.record (.ofNat (data.length - (console.enter data).1)) }) := by
  unfold emit enter
  by_cases calm : console.loss.pending = 0
  · rw [Loss.isPending_eq_false calm, if_pos calm, if_neg Bool.false_ne_true]
  · rw [(Loss.isPending_iff _).mpr calm, if_pos rfl, if_neg calm, Nat.sub_zero]

theorem emit_nil (console : Console capacity π) : console.emit [] = (0, console) := by
  have nothing : console.enter [] = (0, console.ring) := by
    unfold enter
    split
    · exact console.ring.write_nil false
    · rfl
  have same : console.loss.record (.ofNat (([] : Bytes).length - 0)) = console.loss :=
    Loss.record_zero _
  rw [emit_eq, nothing, same]

def unreported (console : Console capacity π) (data : Bytes) : Nat :=
  console.loss.pending.toNat + (data.length - console.kept data)

theorem fst_enter (console : Console capacity π) (data : Bytes) :
    (console.enter data).1 = console.kept data := by
  rw [← emit_fst, emit_eq]

theorem kept_le_length (console : Console capacity π) (data : Bytes) :
    console.kept data ≤ data.length := by
  unfold kept
  split
  · exact Nat.min_le_left _ _
  · exact Nat.zero_le _

theorem unreported_append_le (console : Console capacity π) (first rest : Bytes) :
    console.unreported first ≤ console.unreported (first ++ rest) := by
  unfold unreported kept
  rw [List.length_append]
  split <;> omega

theorem toNat_pending_emit {console : Console capacity π} {data : Bytes}
    (small : console.unreported data < UInt64.size) :
    (console.emit data).2.loss.pending.toNat = console.unreported data := by
  rw [emit_eq, fst_enter]
  exact Loss.toNat_pending_record small

theorem enter_append {console : Console capacity π} {first : Bytes}
    (small : console.unreported first < UInt64.size) (rest : Bytes) :
    console.enter (first ++ rest) =
      ((console.enter first).1 + ((console.emit first).2.enter rest).1,
        ((console.emit first).2.enter rest).2) := by
  have pending := toNat_pending_emit small
  have ring : (console.emit first).2.ring = (console.enter first).2 := by rw [emit_eq]
  by_cases calm : console.loss.pending = 0
  · have begins : console.enter first = console.ring.write first false := if_pos calm
    have ends : (console.emit first).2.enter rest =
        (console.ring.write first false).2.write rest false := by
      rw [enter, ring, begins]
      by_cases settled : (console.emit first).2.loss.pending = 0
      · exact if_pos settled
      · -- The first piece left a loss, so it filled the ring: the rest would not fit either.
        have lossy := (Loss.pending_ne_zero_iff _).mp settled
        have full : (console.ring.write first false).2.available = 0 := by
          rw [pending, unreported, calm, UInt64.toNat_zero, kept, if_pos calm] at lossy
          rw [Ring.available_write, Ring.accepted_false]
          omega
        rw [if_neg settled, Ring.write_of_full full]
    rw [begins, ends, enter, if_pos calm, Ring.write_append]
  · have begins : console.enter first = (0, console.ring) := if_neg calm
    have still : (console.emit first).2.loss.pending ≠ 0 := by
      have lossy := (Loss.pending_ne_zero_iff _).mp calm
      rw [Loss.pending_ne_zero_iff, pending, unreported]
      omega
    have ends : (console.emit first).2.enter rest = (0, console.ring) := by
      rw [enter, if_neg still, ring, begins]
    rw [begins, ends]
    exact if_neg calm

theorem emit_append {console : Console capacity π} {first rest : Bytes}
    (small : console.unreported (first ++ rest) < UInt64.size) :
    (console.emit first).2.unreported rest < UInt64.size ∧
      console.emit (first ++ rest) =
        ((console.emit first).1 + ((console.emit first).2.emit rest).1,
          ((console.emit first).2.emit rest).2) := by
  have begins : console.unreported first < UInt64.size :=
    Nat.lt_of_le_of_lt (console.unreported_append_le first rest) small
  have cut := enter_append begins rest
  have count : console.kept (first ++ rest) =
      console.kept first + (console.emit first).2.kept rest := by
    rw [← fst_enter, cut, fst_enter, fst_enter]
  have most := console.kept_le_length first
  have more := (console.emit first).2.kept_le_length rest
  have lost : (first ++ rest).length - console.kept (first ++ rest) =
      first.length - console.kept first +
        (rest.length - (console.emit first).2.kept rest) := by
    rw [List.length_append, count]
    omega
  constructor
  · rw [unreported, toNat_pending_emit begins, unreported, Nat.add_assoc, ← lost]
    exact small
  · apply Prod.ext
    · rw [emit_fst, emit_fst, emit_fst]
      exact count
    · have loss : (console.emit first).2.loss =
          console.loss.record (.ofNat (first.length - console.kept first)) := by
        rw [emit_eq, fst_enter]
      have port : (console.emit first).2.port = console.port := by rw [emit_eq]
      rw [emit_eq console, emit_eq _ rest, fst_enter, fst_enter, lost, Loss.record_add, cut, loss,
        port]

theorem write_append (console : Console capacity π) (first rest : Bytes) :
    console.write (first ++ rest) =
      ((console.write first).1 + ((console.write first).2.write rest).1,
        ((console.write first).2.write rest).2) := by
  simp only [Console.write, console.ring.write_append first rest]

/-- Any data in any pieces, one after the other: they leave the console that the whole data leaves,
its cells and all its counters included, and as much of them is accepted in all. For emitted data the
loss without a notice has to stay below the range of its counters; plain writes and those on a bare
ring do not look at it. -/
theorem same_in_pieces (console : Console capacity π) (pieces : List Bytes) :
    (console.unreported pieces.flatten < UInt64.size →
        inPieces emit console pieces = console.emit pieces.flatten) ∧
      inPieces Console.write console pieces = console.write pieces.flatten ∧
      inPieces (Ring.write · · false) console.ring pieces =
        console.ring.write pieces.flatten false := by
  refine ⟨?_, ?_, ?_⟩
  · exact inPieces_eq (unreported · · < UInt64.size) emit_nil emit_append console pieces
  · have nothing (console : Console capacity π) : console.write [] = (0, console) := by
      rw [Console.write, Ring.write_nil]
    exact inPieces_eq (fun _ _ => True) nothing (fun _ => ⟨trivial, write_append ..⟩) console
      pieces trivial
  · exact inPieces_eq (fun _ _ => True) (fun ring => ring.write_nil false)
      (fun _ => ⟨trivial, Ring.write_append ..⟩) console.ring pieces trivial

/-- The ring starts at its last cell, the fourth piece is cut, and the fifth is kept out. -/
theorem straddling_pieces :
    let console : Console ⟨2, by decide⟩ Bench.Port :=
      (onFreeWire.run [.write (.plain [97, 98, 99]), .drain]).2
    let pieces := [[48], [], [49, 50], [51, 52, 53], [54]]
    console.unreported pieces.flatten < UInt64.size ∧
      inPieces emit console pieces = console.emit pieces.flatten ∧
      (inPieces emit console pieces).1 = 4 ∧
      (inPieces emit console pieces).2.loss.pending = 3 := by
  have small : unreported (onFreeWire.run [.write (.plain [97, 98, 99]), .drain] :
      _ × Console ⟨2, by decide⟩ Bench.Port).2 [48, 49, 50, 51, 52, 53, 54] < UInt64.size := by
    decide +kernel
  exact ⟨small, (same_in_pieces _ [[48], [], [49, 50], [51, 52, 53], [54]]).1 small,
    by decide +kernel, by decide +kernel⟩

end Console

end Gadget
