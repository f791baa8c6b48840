import Gadget.Bytes
import Gadget.Ring.Capacity

namespace Gadget

namespace Ring

def overwrite {n : Nat} (cells : Vector UInt8 n) (start : Nat) :
    (run : Bytes) → start + run.length ≤ n → Vector UInt8 n
  | [], _ => cells
  | byte :: rest, fits =>
    overwrite (cells.set start byte (by simp only [List.length_cons] at fits; omega)) (start + 1)
      rest (by simp only [List.length_cons] at fits; omega)

end Ring

structure Ring (capacity : Capacity) where
  cells : Vector UInt8 capacity.size
  queued : UInt64
  sent : UInt64
  length_le : (queued - sent).toNat ≤ capacity.size
deriving DecidableEq

namespace Ring

variable {capacity : Capacity}

def ofStart (start : UInt64) : Ring capacity where
  cells := Vector.replicate capacity.size 0
  queued := start
  sent := start
  length_le := by simp

def empty : Ring capacity := ofStart 0

def length (ring : Ring capacity) : Nat := (ring.queued - ring.sent).toNat

def isEmpty (ring : Ring capacity) : Bool := ring.queued == ring.sent

def available (ring : Ring capacity) : Nat := capacity.size - ring.length

def cell (ring : Ring capacity) (position : Nat) : UInt8 :=
  have _ := Nat.mod_lt position capacity.size_pos
  ring.cells[position % capacity.size]

def toList (ring : Ring capacity) : Bytes :=
  (List.range ring.length).map fun i => ring.cell (ring.sent.toNat + i)

theorem length_add_available (ring : Ring capacity) :
    ring.length + ring.available = capacity.size := by
  have := ring.length_le
  simp only [available, length]
  omega

@[simp] theorem length_toList (ring : Ring capacity) : ring.toList.length = ring.length := by
  simp [toList]

theorem isEmpty_iff (ring : Ring capacity) : ring.isEmpty = true ↔ ring.length = 0 := by
  rw [isEmpty, beq_iff_eq, length]
  constructor
  · rintro same
    rw [same]
    simp
  · intro none
    have : ring.queued - ring.sent = 0 := by
      rw [← UInt64.toNat_inj]
      simpa using none
    grind

theorem toList_eq_nil_iff (ring : Ring capacity) : ring.toList = [] ↔ ring.length = 0 := by
  rw [← length_toList, List.length_eq_zero_iff]

theorem isEmpty_iff_toList_eq_nil (ring : Ring capacity) :
    ring.isEmpty = true ↔ ring.toList = [] := by
  rw [isEmpty_iff, toList_eq_nil_iff]

theorem available_of_toList_eq_nil {ring : Ring capacity} (empty : ring.toList = []) :
    ring.available = capacity.size := by
  rw [available, ring.toList_eq_nil_iff.mp empty, Nat.sub_zero]

/-- Where a write of `count` bytes meets the physical end of the cells. -/
def headRun (ring : Ring capacity) (count : Nat) : Nat :=
  min count (capacity.size - ring.queued.toNat % capacity.size)

def enqueue (ring : Ring capacity) (data : Bytes) (fits : data.length ≤ ring.available) :
    Ring capacity where
  cells :=
    let head := ring.headRun data.length
    overwrite
      (overwrite ring.cells (ring.queued.toNat % capacity.size) (data.take head) (by
        have := Nat.mod_lt ring.queued.toNat capacity.size_pos
        simp only [List.length_take, head, headRun]
        omega))
      0 (data.drop head) (by
        have := ring.length_add_available
        simp only [List.length_drop, Nat.zero_add]
        omega)
  queued := ring.queued + UInt64.ofNat data.length
  sent := ring.sent
  length_le := by
    have shift : ring.queued + UInt64.ofNat data.length - ring.sent =
        ring.queued - ring.sent + UInt64.ofNat data.length := by grind
    have total := ring.length_add_available
    have small : capacity.size < 2 ^ 64 := capacity.size_lt
    simp only [length] at total
    rw [shift, UInt64.toNat_add, UInt64.toNat_ofNat']
    omega

/-- How many bytes of `data` a write takes: what fits, or with `whole` everything or nothing. -/
def accepted (ring : Ring capacity) (data : Bytes) (whole : Bool) : Nat :=
  if data.length ≤ ring.available then data.length
  else if whole then 0 else ring.available

theorem accepted_le_available (ring : Ring capacity) (data : Bytes) (whole : Bool) :
    ring.accepted data whole ≤ ring.available := by
  unfold accepted
  repeat' split
  all_goals omega

theorem accepted_le_length (ring : Ring capacity) (data : Bytes) (whole : Bool) :
    ring.accepted data whole ≤ data.length := by
  unfold accepted
  repeat' split
  all_goals omega

def write (ring : Ring capacity) (data : Bytes) (whole : Bool) : Nat × Ring capacity :=
  (ring.accepted data whole,
    ring.enqueue (data.take (ring.accepted data whole)) (by
      have := ring.accepted_le_available data whole
      rw [List.length_take]
      omega))

theorem length_enqueue (ring : Ring capacity) (data : Bytes) (fits : data.length ≤ ring.available) :
    (ring.enqueue data fits).length = ring.length + data.length := by
  have shift : ring.queued + UInt64.ofNat data.length - ring.sent =
      ring.queued - ring.sent + UInt64.ofNat data.length := by grind
  have total := ring.length_add_available
  have small : capacity.size < 2 ^ 64 := capacity.size_lt
  simp only [length, enqueue] at total ⊢
  rw [shift, UInt64.toNat_add, UInt64.toNat_ofNat']
  omega

theorem length_write (ring : Ring capacity) (data : Bytes) (whole : Bool) :
    (ring.write data whole).2.length = ring.length + ring.accepted data whole := by
  have := ring.accepted_le_length data whole
  simp only [write, length_enqueue, List.length_take]
  omega

theorem available_enqueue (ring : Ring capacity) (data : Bytes)
    (fits : data.length ≤ ring.available) :
    (ring.enqueue data fits).available = ring.available - data.length := by
  simp only [available, length_enqueue]
  omega

theorem available_write (ring : Ring capacity) (data : Bytes) (whole : Bool) :
    (ring.write data whole).2.available = ring.available - ring.accepted data whole := by
  simp only [available, length_write]
  omega

def front? (ring : Ring capacity) : Option UInt8 :=
  if ring.isEmpty then none else some (ring.cell ring.sent.toNat)

theorem length_advance (ring : Ring capacity) (waiting : ring.isEmpty = false) :
    (ring.queued - (ring.sent + 1)).toNat = ring.length - 1 := by
  have nonzero : ring.length ≠ 0 := by
    intro none
    rw [ring.isEmpty_iff.mpr none] at waiting
    cases waiting
  have shift : ring.queued - (ring.sent + 1) = ring.queued - ring.sent - 1 := by grind
  have bound := (ring.queued - ring.sent).toNat_lt
  simp only [length] at nonzero ⊢
  rw [shift, UInt64.toNat_sub]
  simp only [UInt64.toNat_one]
  omega

def consume (ring : Ring capacity) : Ring capacity :=
  if waiting : ring.isEmpty = false then
    { ring with
      sent := ring.sent + 1
      length_le := by
        have := ring.length_le
        rw [ring.length_advance waiting]
        simp only [length]
        omega }
  else ring

theorem length_consume (ring : Ring capacity) : ring.consume.length = ring.length - 1 := by
  unfold consume
  split
  · rename_i waiting
    exact ring.length_advance waiting
  · rename_i waiting
    rw [ring.isEmpty_iff.mp (by simpa using waiting)]

theorem length_pos_of_front? {ring : Ring capacity} {byte : UInt8}
    (oldest : ring.front? = some byte) : 0 < ring.length := by
  unfold front? at oldest
  split at oldest
  · cases oldest
  · rename_i waiting
    rw [ring.isEmpty_iff] at waiting
    omega

theorem length_consume_lt {ring : Ring capacity} {byte : UInt8} (oldest : ring.front? = some byte) :
    ring.consume.length < ring.length := by
  have := length_pos_of_front? oldest
  rw [length_consume]
  omega

def drain : Nat → Ring capacity → Bytes × Ring capacity
  | 0, ring => ([], ring)
  | count + 1, ring =>
    match ring.front? with
    | none => ([], ring)
    | some byte =>
      let (bytes, rest) := drain count ring.consume
      (byte :: bytes, rest)

end Ring

end Gadget
