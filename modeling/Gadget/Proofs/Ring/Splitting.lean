import Gadget.Proofs.Ring.Checked

namespace Gadget

def inPieces {σ : Type} (call : σ → Bytes → Nat × σ) : σ → List Bytes → Nat × σ
  | state, [] => (0, state)
  | state, piece :: rest =>
    let later := inPieces call (call state piece).2 rest
    ((call state piece).1 + later.1, later.2)

/-- One cut makes no difference, so none do. What makes it safe to cut may depend on the data that is
still to come. -/
theorem inPieces_eq {σ : Type} {call : σ → Bytes → Nat × σ} (Safe : σ → Bytes → Prop)
    (nothing : ∀ state, call state [] = (0, state))
    (cut : ∀ {state first rest}, Safe state (first ++ rest) →
      Safe (call state first).2 rest ∧
        call state (first ++ rest) =
          ((call state first).1 + (call (call state first).2 rest).1,
            (call (call state first).2 rest).2))
    (state : σ) (pieces : List Bytes) (safe : Safe state pieces.flatten) :
    inPieces call state pieces = call state pieces.flatten := by
  induction pieces generalizing state with
  | nil => exact (nothing state).symm
  | cons piece rest ih =>
    obtain ⟨later, same⟩ := cut safe
    rw [List.flatten_cons, same, inPieces, ih _ later]

attribute [ext] Ring

namespace Ring

variable {capacity : Capacity}

/-- How far cell `i` is from cell `start`, around the physical end of `n` cells. -/
def distance (n start i : Nat) : Nat := if start ≤ i then i - start else i + n - start

theorem distance_add_mod {n start offset i : Nat} (within : start < n) (short : offset ≤ n)
    (inside : i < n) :
    distance n ((start + offset) % n) i = distance n offset (distance n start i) := by
  have moved : (start + offset) % n = if start + offset < n then start + offset
      else start + offset - n := by
    rcases Nat.lt_or_eq_of_le short with less | rfl
    · rw [add_mod_size _ _ _ less, Nat.mod_eq_of_lt within]
    · rw [Nat.add_mod_right, Nat.mod_eq_of_lt within, if_neg (by omega), Nat.add_sub_cancel]
  rw [moved]
  unfold distance
  repeat' split
  all_goals omega

theorem getElem_cells_enqueue (ring : Ring capacity) (data : Bytes)
    (fits : data.length ≤ ring.available) (i : Nat) (inside : i < capacity.size) :
    (ring.enqueue data fits).cells[i] =
      data[distance capacity.size (ring.queued.toNat % capacity.size) i]?.getD ring.cells[i] := by
  have total := ring.length_add_available
  have within := Nat.mod_lt ring.queued.toNat capacity.size_pos
  exact getElem_overwrite_around ring.cells _ (ring.headRun data.length) data rfl within (by omega)
    _ _ i inside

theorem queued_enqueue_mod_size (ring : Ring capacity) (data : Bytes)
    (fits : data.length ≤ ring.available) :
    (ring.enqueue data fits).queued.toNat % capacity.size =
      (ring.queued.toNat % capacity.size + data.length) % capacity.size := by
  change (ring.queued + .ofNat data.length).toNat % capacity.size = _
  rw [UInt64.toNat_add, Nat.mod_mod_of_dvd _ capacity.size_dvd, Nat.add_mod, UInt64.toNat_ofNat',
    Nat.mod_mod_of_dvd _ capacity.size_dvd, Nat.mod_add_mod, Nat.add_mod_mod, Nat.mod_add_mod]

theorem enqueue_append (ring : Ring capacity) (first rest : Bytes)
    (fits : (first ++ rest).length ≤ ring.available) (begins : first.length ≤ ring.available)
    (ends : rest.length ≤ (ring.enqueue first begins).available) :
    ring.enqueue (first ++ rest) fits = (ring.enqueue first begins).enqueue rest ends := by
  have total := ring.length_add_available
  have within := Nat.mod_lt ring.queued.toNat capacity.size_pos
  have room : first.length + rest.length ≤ ring.available := by simpa using fits
  apply Ring.ext
  · ext i inside
    rw [getElem_cells_enqueue, getElem_cells_enqueue, getElem_cells_enqueue,
      queued_enqueue_mod_size, distance_add_mod within (by omega) inside]
    -- A cell short of the cut is beyond the end of the rest, and the other way round.
    generalize distance capacity.size (ring.queued.toNat % capacity.size) i = away
    rcases Nat.lt_or_ge away first.length with short | beyond
    · have further : rest.length ≤ distance capacity.size first.length away := by
        unfold distance
        rw [if_neg (by omega)]
        omega
      rw [List.getElem?_append_left short, List.getElem?_eq_none further, Option.getD_none]
    · have none : first[away]? = none := List.getElem?_eq_none beyond
      rw [List.getElem?_append_right beyond, none, distance, if_pos beyond, Option.getD_none]
  · change ring.queued + .ofNat (first ++ rest).length =
      ring.queued + .ofNat first.length + .ofNat rest.length
    rw [List.length_append, UInt64.ofNat_add, UInt64.add_assoc]
  · rfl

theorem write_nil (ring : Ring capacity) (whole : Bool) : ring.write [] whole = (0, ring) := by
  have none : ring.accepted [] whole = 0 := if_pos (Nat.zero_le _)
  simp only [write, List.take_nil, enqueue_nil, none]

theorem accepted_false (ring : Ring capacity) (data : Bytes) :
    ring.accepted data false = min data.length ring.available := by
  simp only [accepted, Bool.false_eq_true, if_false]
  split <;> omega

theorem write_of_full {ring : Ring capacity} (full : ring.available = 0) (data : Bytes) :
    ring.write data false = (0, ring) := by
  have none : ring.accepted data false = 0 := by rw [accepted_false, full, Nat.min_zero]
  simp only [write, none, List.take_zero, enqueue_nil]

theorem write_append (ring : Ring capacity) (first rest : Bytes) :
    ring.write (first ++ rest) false =
      ((ring.write first false).1 + ((ring.write first false).2.write rest false).1,
        ((ring.write first false).2.write rest false).2) := by
  have room := ring.available_write first false
  have whole := ring.accepted_false (first ++ rest)
  have begins := ring.accepted_false first
  have ends := (ring.write first false).2.accepted_false rest
  rw [List.length_append] at whole
  have count : ring.accepted (first ++ rest) false =
      ring.accepted first false + (ring.write first false).2.accepted rest false := by omega
  have taken : (first ++ rest).take (ring.accepted (first ++ rest) false) =
      first.take (ring.accepted first false) ++
        rest.take ((ring.write first false).2.accepted rest false) := by
    rw [List.take_append]
    congr 1
    all_goals
      rw [List.take_eq_take_iff]
      omega
  apply Prod.ext
  · exact count
  · simp only [write, taken]
    exact ring.enqueue_append _ _ _ _ _

end Ring

end Gadget
