import Gadget.Ring.Contents

namespace Gadget

namespace Ring

def difference? (a b : Nat) : Option Nat := if b ≤ a then some (a - b) else none

def slice? (data : Bytes) (first last : Nat) : Option Bytes :=
  if first ≤ last ∧ last ≤ data.length then some ((data.take last).drop first) else none

def copy? {n : Nat} (cells : Vector UInt8 n) (first last : Nat) (run : Bytes) :
    Option (Vector UInt8 n) :=
  if fits : first ≤ last ∧ last ≤ n ∧ run.length = last - first then
    some (overwrite cells first run (by omega))
  else none

variable {capacity : Capacity}

def writeChecked (ring : Ring capacity) (data : Bytes) (whole : Bool) :
    Option (Nat × Vector UInt8 capacity.size × UInt64) := do
  let available ← difference? capacity.size ring.length
  if available < data.length ∧ whole then
    pure (0, ring.cells, ring.queued)
  else
    let count := if available < data.length then available else data.length
    let start := ring.queued.toNat % capacity.size
    let head := min count (← difference? capacity.size start)
    let cells ← copy? ring.cells start (start + head) (← slice? data 0 head)
    let cells ← copy? cells 0 (← difference? count head) (← slice? data head count)
    pure (count, cells, ring.queued + .ofNat count)

def frontChecked (ring : Ring capacity) : Option (Option UInt8) :=
  if ring.isEmpty then some none
  else (ring.cells[ring.sent.toNat % capacity.size]?).map some

theorem difference?_of_le {a b : Nat} (ordered : b ≤ a) : difference? a b = some (a - b) :=
  if_pos ordered

theorem slice?_of_le {data : Bytes} {first last : Nat} (ordered : first ≤ last)
    (inside : last ≤ data.length) : slice? data first last = some ((data.take last).drop first) :=
  if_pos ⟨ordered, inside⟩

theorem copy?_of_fits {n : Nat} (cells : Vector UInt8 n) {first last : Nat} {run : Bytes}
    (ordered : first ≤ last) (inside : last ≤ n) (same : run.length = last - first) :
    copy? cells first last run = some (overwrite cells first run (by omega)) :=
  dif_pos ⟨ordered, inside, same⟩

theorem enqueue_nil (ring : Ring capacity) (fits : ([] : Bytes).length ≤ ring.available) :
    ring.enqueue [] fits = ring := by
  cases ring
  simp [enqueue, headRun, overwrite]

theorem accepted_whole {ring : Ring capacity} {data : Bytes}
    (exceeds : ring.available < data.length) : ring.accepted data true = 0 := by
  rw [accepted, if_neg (by omega), if_pos rfl]

theorem accepted_partial {ring : Ring capacity} {data : Bytes} {whole : Bool}
    (taken : ¬(ring.available < data.length ∧ whole)) :
    ring.accepted data whole =
      if ring.available < data.length then ring.available else data.length := by
  unfold accepted
  by_cases exceeds : ring.available < data.length
  · have plain : whole = false := by
      cases whole
      · rfl
      · exact absurd ⟨exceeds, rfl⟩ taken
    rw [if_neg (by omega), if_pos exceeds, plain]
    rfl
  · rw [if_pos (by omega), if_neg exceeds]

theorem writeChecked_eq (ring : Ring capacity) (data : Bytes) (whole : Bool) :
    ring.writeChecked data whole = some ((ring.write data whole).1,
      (ring.write data whole).2.cells, (ring.write data whole).2.queued) := by
  have room : difference? capacity.size ring.length = some ring.available :=
    difference?_of_le ring.length_le
  have within := Nat.mod_lt ring.queued.toNat capacity.size_pos
  have total := ring.length_add_available
  simp only [writeChecked, room, Option.bind_eq_bind, Option.bind_some]
  by_cases refused : ring.available < data.length ∧ whole
  · obtain ⟨exceeds, rfl⟩ := refused
    rw [if_pos ⟨exceeds, rfl⟩]
    simp only [write, accepted_whole exceeds, List.take_zero, enqueue_nil, Option.pure_def]
  · rw [if_neg refused, ← accepted_partial refused]
    have fits := ring.accepted_le_available data whole
    have inside := ring.accepted_le_length data whole
    generalize counted : ring.accepted data whole = count at fits inside ⊢
    have head : min count (capacity.size - ring.queued.toNat % capacity.size) =
        ring.headRun count := rfl
    have headLe : ring.headRun count ≤ count := Nat.min_le_left ..
    have headFits : ring.headRun count ≤ capacity.size - ring.queued.toNat % capacity.size :=
      Nat.min_le_right ..
    have length : (data.take count).length = count := by
      rw [List.length_take]
      omega
    -- Both copies fit: the first one ends at the end of the buffer at the latest, and the second
    -- one, around the end, is no longer than the buffer.
    rw [difference?_of_le (Nat.le_of_lt within), Option.bind_some, head,
      slice?_of_le (Nat.zero_le _) (by omega), Option.bind_some,
      copy?_of_fits _ (by omega) (by omega) (by
        simp only [List.drop_zero, List.length_take]
        omega),
      Option.bind_some, difference?_of_le headLe, Option.bind_some,
      slice?_of_le headLe inside, Option.bind_some,
      copy?_of_fits _ (Nat.zero_le _) (by omega) (by
        simp only [List.length_drop, length]
        omega),
      Option.bind_some]
    simp only [write, counted, enqueue, length, List.drop_zero, List.take_take,
      Nat.min_eq_left headLe, Option.pure_def]

theorem frontChecked_eq (ring : Ring capacity) : ring.frontChecked = some ring.front? := by
  have within := Nat.mod_lt ring.sent.toNat capacity.size_pos
  unfold frontChecked front?
  split
  · rfl
  · rw [Vector.getElem?_eq_getElem within]
    rfl

end Ring

end Gadget
