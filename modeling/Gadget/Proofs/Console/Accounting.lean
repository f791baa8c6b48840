import Gadget.Bench.Wire
import Gadget.Proofs.Console.History
import Gadget.Proofs.Console.Wire

namespace Gadget

def Section.emits {π : Type} (part : Section π) : Bytes :=
  match part.call? with
  | some (.emitted data) => data
  | _ => []

namespace Console

variable {capacity : Capacity} {π ε : Type}

/-- The invariant of a run: `given` is what was emitted so far. -/
structure Accounts (history : History) (given : Bytes) (console : Console capacity π) : Prop where
  exact : ∀ piece ∈ history.pieces, piece.Exact
  pending : console.loss.pending = .ofNat history.missing.length
  restored : history.restored ++ history.missing = given

theorem Accounts.missing {history : History} {given : Bytes} {console : Console capacity π}
    (accounts : Accounts history given console) (bounded : history.missing.length < UInt64.size) :
    history.missing.length = console.loss.pending.toNat := by
  rw [accounts.pending, UInt64.toNat_ofNat', Nat.mod_eq_of_lt bounded]

theorem Accounts.nothing_missing {history : History} {given : Bytes} {console : Console capacity π}
    (accounts : Accounts history given console) (bounded : history.missing.length < UInt64.size)
    (calm : console.loss.isPending = false) : history.missing = [] := by
  have zero : ¬ console.loss.pending ≠ 0 := by
    rw [← Loss.isPending_iff, calm]
    exact Bool.false_ne_true
  apply List.eq_nil_of_length_eq_zero
  rw [accounts.missing bounded, Decidable.not_not.mp zero]
  rfl

theorem Accounts.extend [SerialPort π ε] {history : History} {given : Bytes}
    {console : Console capacity π} (accounts : Accounts history given console)
    (bounded : history.missing.length < UInt64.size) (part : Section π) :
    Accounts (history.extend (console.perform part).1) (given ++ part.emits)
      (console.perform part).2 := by
  have step := console.step_perform part
  have missing := accounts.missing bounded
  have call := console.call?_perform part
  refine ⟨?_, step.pending accounts.pending, ?_⟩
  · intro piece member
    rcases List.mem_append.mp member with earlier | added
    · exact accounts.exact piece earlier
    · refine Effect.exact_pieces ?_ piece added
      intro count queued
      rw [missing, step.notice count queued]
  · rw [← accounts.restored, Section.emits, ← call]
    have suppressed := step.suppressed
    generalize (console.perform part).1 = effect at suppressed ⊢
    by_cases emitted : ∃ data count, effect = .accepted (.emitted data) count
    · obtain ⟨data, count, rfl⟩ := emitted
      apply History.restored_extend_emitted
      cases waits : console.loss.isPending with
      | true => exact .inl (suppressed data count rfl waits)
      | false => exact .inr (accounts.nothing_missing bounded waits)
    · have other : ∀ data, effect.call? ≠ some (.emitted data) := by
        intro data same
        rcases effect with ⟨write, count⟩ | notice | attempts | succeeded
        case accepted =>
          cases same
          exact emitted ⟨data, count, rfl⟩
        all_goals cases same
      rw [History.restored_extend_other _ other]
      split
      · rename_i data same
        exact absurd same (other data)
      · exact (List.append_nil _).symm

theorem Accounts.run [SerialPort π ε] {history : History} {given : Bytes}
    {console : Console capacity π} (accounts : Accounts history given console)
    (sections : List (Section π))
    (bounded : (history.extendAll (console.run sections).1).Bounded) :
    Accounts (history.extendAll (console.run sections).1)
      (given ++ sections.flatMap Section.emits) (console.run sections).2 := by
  induction sections generalizing history given console with
  | nil => simpa [Console.run, History.extendAll] using accounts
  | cons part rest ih =>
    have small := (History.bounded_of_extendAll bounded).2
    rw [List.flatMap_cons, ← List.append_assoc]
    exact ih (accounts.extend small part) bounded

structure Accounted (history : History) (emitted wire : Bytes) (console : Console capacity π) :
    Prop where
  stream : history.stream = wire ++ console.ring.toList
  notices : ∀ piece ∈ history.pieces, piece.Exact
  pending : history.missing.length = console.loss.pending.toNat
  restored : history.restored ++ history.missing = emitted

/-- Over any run of sections from the empty console in which fewer than 2 ^ 64 bytes are given up
between notices: each notice stands where as many bytes are missing as it states, and with these
bytes put back the stream is what was emitted. -/
theorem losses_accounted_in_place [SerialPort π ε] (sections : List (Section π))
    (bounded : (History.of ((Console.empty : Console capacity π).run sections).1).Bounded) :
    let done := (Console.empty : Console capacity π).run sections
    Accounted (History.of done.1) (sections.flatMap Section.emits)
      (wireBytes (done.1.flatMap Effect.attempts)) done.2 := by
  have fresh : Accounts History.empty [] (Console.empty : Console capacity π) :=
    ⟨by simp [History.empty], pending_empty, rfl⟩
  have accounts := fresh.run sections bounded
  refine ⟨?_, accounts.exact, accounts.missing bounded.2, accounts.restored⟩
  exact (History.stream_extendAll _ _).trans (run_content_empty sections).symm

/-- A run in which a loss is announced, late because a raw write takes its room, and another one is
still pending at the end. -/
def crowded : List (Section Bench.Port) :=
  [.write (.emitted [101, 97, 114, 108, 121]),
    .bind ⟨none, none, none, false, .free⟩ (.transmitOnly 115200 0),
    .write (.emitted [48, 49, 50, 51, 52, 53, 54, 55, 56, 57, 65, 66, 67, 68, 69]),
    .write (.whole [122, 122]), .drain, .write (.plain [114]), .write (.emitted [88]), .announce,
    .drain, .announce, .write (.emitted [89]), .drain]

theorem losses_accounted_crowded :
    (History.of ((Console.empty : Console ⟨4, by decide⟩ Bench.Port).run crowded).1).Bounded ∧
      let done := (Console.empty : Console ⟨4, by decide⟩ Bench.Port).run crowded
      Accounted (History.of done.1) (crowded.flatMap Section.emits)
        (wireBytes (done.1.flatMap Effect.attempts)) done.2 :=
  ⟨by decide +kernel, losses_accounted_in_place crowded (by decide +kernel)⟩

end Console

end Gadget
