import Gadget.Proofs.Console.Calls
import Gadget.Proofs.Console.NoticeOrder
import Gadget.Proofs.Console.Pass

namespace Gadget

namespace Effect

theorem settle_of_quiet {effect : Effect} (quiet : effect.notice? = none) (loss : Loss) :
    effect.settle loss = loss.record (.ofNat effect.dropped.length) := by
  rcases effect with ⟨write, count⟩ | ⟨_ | count⟩ | attempts | succeeded
  case announced.some => cases quiet
  case accepted => rfl
  all_goals exact (Loss.record_zero loss).symm

end Effect

namespace Console

variable {capacity : Capacity} {π ε : Type}

def afterTasks [SerialPort π ε] : Nat → Console capacity π → Console capacity π
  | 0, console => console
  | passes + 1, console => afterTasks passes console.task.2

theorem toList_afterTasks [SerialPort π ε] {console : Console capacity π}
    (flowing : console.Flowing) (passes : Nat) :
    (afterTasks (passes + 1) console).ring.toList = [] := by
  induction passes generalizing console with
  | zero =>
    obtain ⟨_, nothing, _, _⟩ := task_of_flowing flowing
    exact nothing
  | succ passes ih =>
    obtain ⟨_, _, _, next⟩ := task_of_flowing flowing
    exact ih next

theorem pending_afterTasks_of_calm [SerialPort π ε] {console : Console capacity π}
    (flowing : console.Flowing) (calm : console.loss.pending = 0) (passes : Nat) :
    (afterTasks passes console).loss.pending = 0 := by
  induction passes generalizing console with
  | zero => exact calm
  | succ passes ih =>
    obtain ⟨_, _, pending, next⟩ := task_of_flowing flowing
    apply ih next
    rw [pending, calm, ite_self]

theorem pending_afterTasks_of_exceeding [SerialPort π ε] {console : Console capacity π}
    (flowing : console.Flowing)
    (exceeds : capacity.size < 15 + Text.digitCount console.loss.pending.toNat) (passes : Nat) :
    (afterTasks passes console).loss.pending = console.loss.pending := by
  induction passes generalizing console with
  | zero => rfl
  | succ passes ih =>
    obtain ⟨_, _, pending, next⟩ := task_of_flowing flowing
    have waits : ¬ console.Announceable := by
      intro fits
      have room := fits.2
      have total := console.ring.length_add_available
      omega
    rw [if_neg waits] at pending
    rw [← pending] at exceeds ⊢
    exact ih next exceeds

theorem pending_task_task [SerialPort π ε] {console : Console capacity π}
    (flowing : console.Flowing)
    (fits : 15 + Text.digitCount console.loss.pending.toNat ≤ capacity.size) :
    console.task.2.task.2.loss.pending = 0 := by
  obtain ⟨_, empty, pending, next⟩ := task_of_flowing flowing
  obtain ⟨_, _, settled, _⟩ := task_of_flowing next
  rw [settled]
  split
  · rfl
  -- The first pass has made room where there was none.
  · rename_i waits
    rw [Announceable, Ring.available_of_toList_eq_nil empty] at waits
    by_cases announceable : console.Announceable
    · rw [pending, if_pos announceable]
    · rw [pending, if_neg announceable] at waits ⊢
      by_contra some
      exact waits ⟨some, fits⟩

/-- Nothing waits and no loss is pending, so that what fits the ring is accepted whole. -/
structure Recovered (console : Console capacity π) : Prop where
  drained : console.ring.toList = []
  settled : console.loss.pending = 0
  accepts : ∀ data : Bytes, data.length ≤ capacity.size → (console.emit data).1 = data.length

theorem Recovered.of_settled {console : Console capacity π} (drained : console.ring.toList = [])
    (settled : console.loss.pending = 0) : console.Recovered := by
  refine ⟨drained, settled, ?_⟩
  intro data fits
  have calm := Loss.isPending_eq_false settled
  rw [← Ring.available_of_toList_eq_nil drained] at fits
  simp only [emit, calm, Bool.false_eq_true, if_false, Ring.write]
  exact if_pos fits

/-- With a port that takes every byte, passes lead back to an empty ring with nothing pending
exactly if the notice fits the empty ring; two are enough, and more than two are no help. So it is
for every loss if the ring has room for the longest notice. -/
theorem recovered_iff [SerialPort π ε] (console : Console capacity π) (flowing : console.Flowing)
    (passes : Nat) :
    (afterTasks (passes + 1) console).ring.toList = [] ∧
      ((afterTasks (passes + 2) console).Recovered ↔
        console.loss.pending = 0 ∨
          15 + Text.digitCount console.loss.pending.toNat ≤ capacity.size) ∧
      (35 ≤ capacity.size → (afterTasks (passes + 2) console).Recovered) := by
  have drained := toList_afterTasks flowing (passes + 1)
  have recovers : console.loss.pending = 0 ∨
      15 + Text.digitCount console.loss.pending.toNat ≤ capacity.size →
      (afterTasks (passes + 2) console).Recovered := by
    intro small
    apply Recovered.of_settled drained
    rcases small with calm | fits
    · exact pending_afterTasks_of_calm flowing calm (passes + 2)
    · obtain ⟨_, _, _, next⟩ := task_of_flowing flowing
      obtain ⟨_, _, _, later⟩ := task_of_flowing next
      exact pending_afterTasks_of_calm later (pending_task_task flowing fits) passes
  refine ⟨toList_afterTasks flowing passes, ⟨?_, recovers⟩, ?_⟩
  · intro recovered
    by_cases fits : 15 + Text.digitCount console.loss.pending.toNat ≤ capacity.size
    · exact .inr fits
    · have stays := pending_afterTasks_of_exceeding flowing (Nat.lt_of_not_le fits) (passes + 2)
      exact .inl (stays.symm.trans recovered.settled)
  · intro roomy
    have digits := Text.digitCount_word_le console.loss.pending
    exact recovers (.inr (by omega))

def overrun (count : Nat) : Console ⟨4, by decide⟩ Bench.Port :=
  (onFreeWire.run [.write (.emitted (List.replicate count 46))]).2

theorem flowing_overrun (count : Nat) : (overrun count).Flowing := flowing_onFreeWire.run _

theorem recovered_after_nine_lost :
    (overrun 25).Flowing ∧ (overrun 25).loss.pending = 9 ∧
      (afterTasks 2 (overrun 25)).Recovered :=
  ⟨flowing_overrun 25, by decide +kernel,
    (recovered_iff _ (flowing_overrun 25) 0).2.1.mpr (.inr (by decide +kernel))⟩

theorem ten_lost_never_recovered :
    (overrun 26).Flowing ∧ (overrun 26).loss.pending = 10 ∧
      ∀ passes, ¬ (afterTasks passes (overrun 26)).Recovered := by
  have lost : (overrun 26).loss.pending = 10 := by decide +kernel
  refine ⟨flowing_overrun 26, lost, ?_⟩
  intro passes recovered
  have stays := pending_afterTasks_of_exceeding (flowing_overrun 26) (by rw [lost]; decide) passes
  rw [recovered.settled, lost] at stays
  cases stays

structure Mute (console : Console capacity π) : Prop where
  pending : console.loss.pending ≠ 0
  exceeds : capacity.size < 15 + Text.digitCount console.loss.pending.toNat

/-- No section queues a notice that exceeds the ring, so the loss can only grow, and its notice with
it. -/
theorem Step.mute [SerialPort π ε] {console next : Console capacity π} {effect : Effect}
    (step : Step console effect next) (mute : console.Mute)
    (bounded : console.loss.pending.toNat + effect.dropped.length < UInt64.size) :
    next.Mute ∧ effect.notice? = none ∧
      (∀ data count, effect = .accepted (.emitted data) count → count = 0) ∧
      next.loss.pending.toNat = console.loss.pending.toNat + effect.dropped.length := by
  have quiet : effect.notice? = none := by
    cases notice : effect.notice? with
    | none => rfl
    | some count =>
      obtain ⟨rfl, _⟩ := Effect.carry_of_notice notice []
      have content := congrArg List.length step.content
      have room := next.ring.length_add_available
      have exceeds := mute.exceeds
      rw [step.notice count rfl] at content
      simp only [Effect.attempts, Effect.queued, wireBytes, List.filter_nil, List.map_nil,
        List.nil_append, List.length_append, Ring.length_toList, Notice.length_bytes_text] at content
      omega
  have grows : next.loss.pending.toNat =
      console.loss.pending.toNat + effect.dropped.length := by
    rw [step.loss, Effect.settle_of_quiet quiet, Loss.pending_record, UInt64.toNat_add,
      UInt64.toNat_ofNat', Nat.add_mod_mod]
    exact Nat.mod_eq_of_lt bounded
  have some := (Loss.pending_ne_zero_iff _).mp mute.pending
  refine ⟨⟨?_, ?_⟩, quiet, ?_, grows⟩
  · rw [Loss.pending_ne_zero_iff]
    omega
  · have wider := Text.digitCount_mono (Nat.le.intro grows.symm)
    have exceeds := mute.exceeds
    omega
  · intro data count same
    exact step.suppressed data count same ((Loss.isPending_iff _).mpr mute.pending)

theorem run_mute [SerialPort π ε] (console : Console capacity π) (mute : console.Mute)
    (sections : List (Section π))
    (bounded : console.loss.pending.toNat +
      ((console.run sections).1.flatMap Effect.dropped).length < UInt64.size) :
    (∀ effect ∈ (console.run sections).1, effect.notice? = none) ∧
      (∀ data count, .accepted (.emitted data) count ∈ (console.run sections).1 → count = 0) ∧
      (console.run sections).2.loss.pending.toNat =
        console.loss.pending.toNat +
          ((console.run sections).1.flatMap Effect.dropped).length := by
  induction sections generalizing console with
  | nil => exact ⟨by simp [run], by simp [run], rfl⟩
  | cons part rest ih =>
    rw [run_cons, List.flatMap_cons, List.length_append] at bounded ⊢
    obtain ⟨next, quiet, refused, grows⟩ :=
      (console.step_perform part).mute mute (by omega)
    obtain ⟨silent, none, total⟩ := ih _ next (by omega)
    refine ⟨?_, ?_, ?_⟩
    · intro effect member
      rcases List.mem_cons.mp member with rfl | member
      · exact quiet
      · exact silent effect member
    · intro data count member
      rcases List.mem_cons.mp member with same | member
      · exact refused data count same.symm
      · exact none data count member
    · rw [total, grows, Nat.add_assoc]

/-- A pending loss is announced within two passes if its notice fits the ring and the port takes
every byte. If it exceeds the ring, then over any run of sections, as calls from any contexts make
them, no notice is queued, the loss never shrinks and nothing emitted is accepted. -/
theorem announced_iff_fits [SerialPort π ε] (console : Console capacity π)
    (pending : console.loss.pending ≠ 0) :
    (15 + Text.digitCount console.loss.pending.toNat ≤ capacity.size → console.Flowing →
      let first := console.task
      let second := first.2.task
      wireBytes (first.1 ++ second.1) =
          console.ring.toList ++ (Notice.text console.loss.pending).bytes ∧
        second.2.ring.toList = [] ∧ second.2.loss.pending = 0) ∧
    (capacity.size < 15 + Text.digitCount console.loss.pending.toNat →
      ∀ sections : List (Section π),
        console.loss.pending.toNat +
          ((console.run sections).1.flatMap Effect.dropped).length < UInt64.size →
        (∀ effect ∈ (console.run sections).1, effect.notice? = none) ∧
          (∀ data count, .accepted (.emitted data) count ∈ (console.run sections).1 → count = 0) ∧
          ∀ earlier, earlier <+: sections →
            (console.run earlier).2.loss.pending ≤ (console.run sections).2.loss.pending) := by
  constructor
  · intro fits flowing
    obtain ⟨offered, empty, left, next⟩ := task_of_flowing flowing
    obtain ⟨more, nothing, _, _⟩ := task_of_flowing next
    refine ⟨?_, nothing, pending_task_task flowing fits⟩
    rw [wireBytes_append, offered, more, wireBytes_taken, wireBytes_taken, empty, List.nil_append]
    -- The notice goes out with the first pass if there is room for it at once.
    by_cases announceable : console.Announceable
    · rw [if_pos announceable] at left
      have settled : ¬ console.task.2.Announceable := fun again => again.1 left
      rw [due, due, if_pos announceable, if_neg settled, List.append_nil]
    · rw [if_neg announceable] at left
      have room : console.task.2.Announceable := by
        rw [Announceable, left, Ring.available_of_toList_eq_nil empty]
        exact ⟨pending, fits⟩
      rw [due, due, if_neg announceable, if_pos room, left, List.append_nil]
  · intro exceeds sections bounded
    have mute : console.Mute := ⟨pending, exceeds⟩
    obtain ⟨silent, refused, total⟩ := run_mute console mute sections bounded
    refine ⟨silent, refused, ?_⟩
    rintro earlier ⟨rest, rfl⟩
    rw [run_append, List.flatMap_append, List.length_append] at bounded total
    obtain ⟨_, _, before⟩ := run_mute console mute earlier (by omega)
    rw [UInt64.le_iff_toNat_le, run_append]
    omega

/-- Nine lost bytes are announced. Ten stay pending through two passes between which more is
written, and grow by the byte emitted then. -/
theorem nine_announced_ten_kept :
    ((overrun 25).loss.pending ≠ 0 ∧
      15 + Text.digitCount (overrun 25).loss.pending.toNat ≤ 16 ∧ (overrun 25).Flowing ∧
      wireBytes ((overrun 25).task.1 ++ (overrun 25).task.2.task.1) =
        (overrun 25).ring.toList ++ (Notice.text (overrun 25).loss.pending).bytes) ∧
    ((overrun 26).loss.pending ≠ 0 ∧
      16 < 15 + Text.digitCount (overrun 26).loss.pending.toNat ∧
      let later : List (Section Bench.Port) :=
        [.announce, .drain, .write (.plain [66]), .write (.emitted [65]), .announce, .drain]
      (overrun 26).loss.pending.toNat +
          (((overrun 26).run later).1.flatMap Effect.dropped).length < UInt64.size ∧
        ∀ effect ∈ ((overrun 26).run later).1, effect.notice? = none) := by
  have nine : (overrun 25).loss.pending = 9 := by decide +kernel
  have ten : (overrun 26).loss.pending = 10 := by decide +kernel
  have some : (overrun 25).loss.pending ≠ 0 := by rw [nine]; decide
  have more : (overrun 26).loss.pending ≠ 0 := by rw [ten]; decide
  have fits : 15 + Text.digitCount (overrun 25).loss.pending.toNat ≤ 16 := by rw [nine]; decide
  have exceeds : 16 < 15 + Text.digitCount (overrun 26).loss.pending.toNat := by rw [ten]; decide
  have announced := (announced_iff_fits (overrun 25) some).1 fits (flowing_overrun 25)
  have small : (overrun 26).loss.pending.toNat + (((overrun 26).run
      [.announce, .drain, .write (.plain [66]), .write (.emitted [65]), .announce,
        .drain]).1.flatMap Effect.dropped).length < UInt64.size := by decide +kernel
  exact ⟨⟨some, fits, flowing_overrun 25, announced.1⟩, more, exceeds, small,
    ((announced_iff_fits (overrun 26) more).2 exceeds _ small).1⟩

end Console

end Gadget
