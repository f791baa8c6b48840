import Gadget.Ring.Basic

namespace Gadget

namespace Ring

theorem getElem_overwrite {n : Nat} (cells : Vector UInt8 n) (start : Nat) (run : Bytes)
    (fits : start + run.length ≤ n) (i : Nat) (inside : i < n) :
    (overwrite cells start run fits)[i] =
      if start ≤ i then run[i - start]?.getD cells[i] else cells[i] := by
  induction run generalizing cells start with
  | nil => simp [overwrite]
  | cons byte rest ih =>
    rw [overwrite, ih, Vector.getElem_set]
    rcases Nat.lt_trichotomy i start with before | rfl | after
    · rw [if_neg (by omega), if_neg (by omega), if_neg (by omega)]
    · rw [if_neg (by omega), if_pos rfl, if_pos (Nat.le_refl _), Nat.sub_self]
      rfl
    · rw [if_pos (by omega), if_neg (by omega), if_pos (by omega)]
      have step : i - start = i - (start + 1) + 1 := by omega
      rw [step, List.getElem?_cons_succ]

theorem getElem_overwrite_around {n : Nat} (cells : Vector UInt8 n) (start head : Nat) (data : Bytes)
    (split : head = min data.length (n - start)) (within : start < n) (whole : data.length ≤ n)
    (first : start + (data.take head).length ≤ n) (second : 0 + (data.drop head).length ≤ n)
    (i : Nat) (inside : i < n) :
    (overwrite (overwrite cells start (data.take head) first) 0 (data.drop head) second)[i] =
      data[if start ≤ i then i - start else i + n - start]?.getD cells[i] := by
  rw [getElem_overwrite, if_pos (Nat.zero_le _), getElem_overwrite, List.getElem?_drop,
    List.getElem?_take]
  rcases Nat.lt_or_ge i start with before | after
  · rw [if_neg (by omega), if_neg (by omega)]
    rcases Nat.lt_or_ge (i + n - start) data.length with reached | beyond
    · have same : head + (i - 0) = i + n - start := by omega
      rw [same]
    · rw [List.getElem?_eq_none (by omega), List.getElem?_eq_none (by omega)]
  · rw [if_pos after, if_pos after, List.getElem?_eq_none (by omega), Option.getD_none]
    split
    · rfl
    · rw [List.getElem?_eq_none (by omega)]

variable {capacity : Capacity}

theorem add_mod_size (position offset n : Nat) (inside : offset < n) :
    (position + offset) % n =
      if position % n + offset < n then position % n + offset else position % n + offset - n := by
  have small := Nat.mod_lt position (by omega : n > 0)
  rw [Nat.add_mod, Nat.mod_eq_of_lt inside]
  split
  · rename_i low
    exact Nat.mod_eq_of_lt low
  · rw [Nat.mod_eq_sub_mod (by omega), Nat.mod_eq_of_lt (by omega)]

/-- Where a write starts: the counters wrap at a multiple of the size. -/
theorem queued_mod_size (ring : Ring capacity) :
    ring.queued.toNat % capacity.size = (ring.sent.toNat + ring.length) % capacity.size := by
  have total : ring.queued = ring.sent + (ring.queued - ring.sent) := by grind
  have wrapped := congrArg UInt64.toNat total
  rw [UInt64.toNat_add] at wrapped
  rw [wrapped, Nat.mod_mod_of_dvd _ capacity.size_dvd]
  rfl

theorem cell_enqueue (ring : Ring capacity) (data : Bytes) (fits : data.length ≤ ring.available)
    (i : Nat) (inside : i < ring.length + data.length) :
    (ring.enqueue data fits).cell (ring.sent.toNat + i) =
      if i < ring.length then ring.cell (ring.sent.toNat + i) else data.getD (i - ring.length) 0 := by
  have total := ring.length_add_available
  have start := ring.queued_mod_size
  have place := add_mod_size ring.sent.toNat i capacity.size (by omega)
  have low := Nat.mod_lt ring.sent.toNat capacity.size_pos
  have within := Nat.mod_lt ring.queued.toNat capacity.size_pos
  have around := getElem_overwrite_around ring.cells (ring.queued.toNat % capacity.size)
    (ring.headRun data.length) data rfl within (by omega)
  refine (around _ _ _ (Nat.mod_lt _ capacity.size_pos)).trans ?_
  rcases Nat.lt_or_ge i ring.length with old | new
  · rw [if_pos old, List.getElem?_eq_none, Option.getD_none]
    · rfl
    · rcases Nat.lt_or_ge ring.length capacity.size with room | full
      · rw [add_mod_size _ _ _ room] at start
        split at start <;> split at place <;> split <;> omega
      · omega
  · rw [add_mod_size _ _ _ (by omega)] at start
    have index : (if ring.queued.toNat % capacity.size ≤ (ring.sent.toNat + i) % capacity.size
        then (ring.sent.toNat + i) % capacity.size - ring.queued.toNat % capacity.size
        else (ring.sent.toNat + i) % capacity.size + capacity.size -
          ring.queued.toNat % capacity.size) = i - ring.length := by
      split at start <;> split at place <;> split <;> omega
    have found : i - ring.length < data.length := by omega
    rw [index, if_neg (by omega), List.getD_eq_getElem?_getD, List.getElem?_eq_getElem found]
    rfl

theorem cell_of_sent_add (ring : Ring capacity) (i : Nat) :
    ring.cell ((ring.sent + 1).toNat + i) = ring.cell (ring.sent.toNat + (i + 1)) := by
  have wrapped : ((ring.sent + 1).toNat + i) % capacity.size =
      (ring.sent.toNat + (i + 1)) % capacity.size := by
    rw [UInt64.toNat_add, Nat.add_mod, Nat.mod_mod_of_dvd _ capacity.size_dvd, ← Nat.add_mod]
    congr 1
    simp only [UInt64.toNat_one]
    omega
  simp only [cell, wrapped]

@[simp] theorem toList_ofStart (start : UInt64) : (ofStart start : Ring capacity).toList = [] := by
  simp [toList, ofStart, length]

theorem toList_enqueue (ring : Ring capacity) (data : Bytes) (fits : data.length ≤ ring.available) :
    (ring.enqueue data fits).toList = ring.toList ++ data := by
  apply List.ext_getElem
  · simp [length_enqueue]
  · intro i left right
    simp only [length_toList, length_enqueue] at left
    have content := ring.cell_enqueue data fits i left
    simp only [toList, List.getElem_map, List.getElem_range, List.getElem_append, List.length_map,
      List.length_range]
    refine content.trans ?_
    split
    · rfl
    · rw [List.getD_eq_getElem?_getD, List.getElem?_eq_getElem (by omega)]
      rfl

theorem toList_write (ring : Ring capacity) (data : Bytes) (whole : Bool) :
    (ring.write data whole).2.toList = ring.toList ++ data.take (ring.accepted data whole) := by
  simp only [write, toList_enqueue]

theorem front?_eq_head? (ring : Ring capacity) : ring.front? = ring.toList.head? := by
  unfold front? toList
  cases empty : ring.isEmpty with
  | true => simp [ring.isEmpty_iff.mp empty]
  | false =>
    have waiting : ring.length ≠ 0 := by
      intro none
      rw [ring.isEmpty_iff.mpr none] at empty
      cases empty
    obtain ⟨rest, more⟩ := Nat.exists_eq_succ_of_ne_zero waiting
    simp [more, List.range_succ_eq_map]

theorem toList_consume (ring : Ring capacity) : ring.consume.toList = ring.toList.tail := by
  cases empty : ring.isEmpty with
  | true => simp [consume, empty, toList, ring.isEmpty_iff.mp empty]
  | false =>
    have waiting : ring.length ≠ 0 := by
      intro none
      rw [ring.isEmpty_iff.mpr none] at empty
      cases empty
    obtain ⟨rest, more⟩ := Nat.exists_eq_succ_of_ne_zero waiting
    have shorter : ring.consume.length = rest := by rw [length_consume, more, Nat.succ_sub_one]
    have next : ring.consume.sent = ring.sent + 1 := by simp [consume, empty]
    have same : ring.consume.cell = ring.cell := by
      funext position
      simp [cell, consume, empty]
    simp only [toList, shorter, next, same, more, List.range_succ_eq_map, List.map_cons,
      List.tail_cons, List.map_map]
    exact List.map_congr_left fun i _ => ring.cell_of_sent_add i

end Ring

end Gadget
