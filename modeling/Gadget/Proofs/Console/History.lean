import Gadget.Proofs.Console.Step

namespace Gadget

inductive Piece
  | raw (bytes : Bytes)
  | output (bytes : Bytes)
  /-- A notice, with the bytes given up since the one before it. -/
  | notice (count : UInt64) (missing : Bytes)
deriving DecidableEq

namespace Piece

def bytes : Piece → Bytes
  | raw bytes | output bytes => bytes
  | notice count _ => (Notice.text count).bytes

def restored : Piece → Bytes
  | raw _ => []
  | output bytes => bytes
  | notice _ missing => missing

def missing : Piece → Bytes
  | raw _ | output _ => []
  | notice _ missing => missing

def Exact : Piece → Prop
  | raw _ | output _ => True
  | notice count missing => missing.length = count.toNat

end Piece

namespace Effect

def pieces (missing : Bytes) : Effect → List Piece
  | accepted (.emitted data) count => [.output (data.take count)]
  | accepted write count => [.raw (write.data.take count)]
  | announced (some count) => [.notice count missing]
  | _ => []

def carry (missing : Bytes) : Effect → Bytes
  | announced (some _) => []
  | effect => missing ++ effect.dropped

theorem bytes_pieces (missing : Bytes) (effect : Effect) :
    (effect.pieces missing).flatMap Piece.bytes = effect.queued := by
  rcases effect with ⟨write, count⟩ | ⟨_ | count⟩ | attempts | succeeded
  · cases write <;> exact List.append_nil _
  · rfl
  · exact List.append_nil _
  · rfl
  · rfl

theorem exact_pieces {effect : Effect} {missing : Bytes}
    (counted : ∀ count, effect = announced (some count) → missing.length = count.toNat) :
    ∀ piece ∈ effect.pieces missing, piece.Exact := by
  intro piece member
  rcases effect with ⟨write, count⟩ | ⟨_ | count⟩ | attempts | succeeded
  case accepted =>
    cases write <;> cases List.mem_singleton.mp member <;> exact True.intro
  case announced.some =>
    cases List.mem_singleton.mp member
    exact counted count rfl
  all_goals cases member

end Effect

structure History where
  pieces : List Piece
  missing : Bytes
deriving DecidableEq

namespace History

def empty : History := ⟨[], []⟩

def extend (history : History) (effect : Effect) : History where
  pieces := history.pieces ++ effect.pieces history.missing
  missing := effect.carry history.missing

def extendAll (history : History) (effects : List Effect) : History := effects.foldl extend history

def of (effects : List Effect) : History := empty.extendAll effects

def stream (history : History) : Bytes := history.pieces.flatMap Piece.bytes

def restored (history : History) : Bytes := history.pieces.flatMap Piece.restored

/-- Fewer than 2 ^ 64 bytes were given up between two notices, before the first one and since the
last one. -/
def Bounded (history : History) : Prop :=
  (∀ piece ∈ history.pieces, piece.missing.length < UInt64.size) ∧
    history.missing.length < UInt64.size

instance (history : History) : Decidable history.Bounded := inferInstanceAs (Decidable (_ ∧ _))

theorem stream_extendAll (history : History) (effects : List Effect) :
    (history.extendAll effects).stream = history.stream ++ effects.flatMap Effect.queued := by
  induction effects generalizing history with
  | nil => exact (List.append_nil _).symm
  | cons effect rest ih =>
    change ((history.extend effect).extendAll rest).stream = _
    rw [ih, List.flatMap_cons, ← List.append_assoc, stream, extend, List.flatMap_append,
      Effect.bytes_pieces]
    rfl

/-- Nothing is accepted past missing bytes, so what is restored stays in place. -/
theorem restored_extend_emitted (history : History) (data : Bytes) {count : Nat}
    (inPlace : count = 0 ∨ history.missing = []) :
    (history.extend (.accepted (.emitted data) count)).restored ++
        (history.extend (.accepted (.emitted data) count)).missing =
      history.restored ++ history.missing ++ data := by
  have restored : (history.extend (.accepted (.emitted data) count)).restored =
      history.restored ++ data.take count := by
    rw [History.restored, History.restored, extend, List.flatMap_append]
    simp only [Effect.pieces, List.flatMap_cons, List.flatMap_nil, List.append_nil, Piece.restored]
  have missing : (history.extend (.accepted (.emitted data) count)).missing =
      history.missing ++ data.drop count := rfl
  rw [restored, missing]
  rcases inPlace with rfl | nothing
  · rw [List.take_zero, List.append_nil, List.drop_zero, List.append_assoc]
  · rw [nothing, List.nil_append, List.append_nil, List.append_assoc, List.take_append_drop]

theorem restored_extend_other (history : History) {effect : Effect}
    (other : ∀ data, effect.call? ≠ some (.emitted data)) :
    (history.extend effect).restored ++ (history.extend effect).missing =
      history.restored ++ history.missing := by
  rcases effect with ⟨⟨data⟩ | ⟨data⟩ | ⟨data⟩, count⟩ | ⟨_ | count⟩ | attempts | succeeded
  case accepted.emitted => exact absurd rfl (other data)
  all_goals
    simp [extend, History.restored, Effect.pieces, Effect.carry, Effect.dropped, Piece.restored]

theorem bounded_of_extend {history : History} {effect : Effect}
    (bounded : (history.extend effect).Bounded) : history.Bounded := by
  obtain ⟨before, since⟩ := bounded
  refine ⟨fun piece member => before piece (List.mem_append_left _ member), ?_⟩
  rcases effect with ⟨write, count⟩ | ⟨_ | count⟩ | attempts | succeeded
  case announced.some =>
    exact before (.notice count history.missing) (List.mem_append_right _ List.mem_cons_self)
  all_goals
    simp only [extend, Effect.carry, List.length_append] at since
    omega

theorem bounded_of_extendAll {history : History} {effects : List Effect}
    (bounded : (history.extendAll effects).Bounded) : history.Bounded := by
  induction effects generalizing history with
  | nil => exact bounded
  | cons effect rest ih => exact bounded_of_extend (ih bounded)

end History

namespace Console

variable {capacity : Capacity} {π ε : Type}

theorem Step.pending [SerialPort π ε] {console next : Console capacity π} {effect : Effect}
    (step : Step console effect next) {history : History}
    (pending : console.loss.pending = .ofNat history.missing.length) :
    next.loss.pending = .ofNat (history.extend effect).missing.length := by
  have loss := step.loss
  have notice := step.notice
  rcases effect with ⟨write, count⟩ | ⟨_ | count⟩ | attempts | succeeded
  case accepted =>
    rw [loss, Effect.settle, Loss.pending_record, pending, ← UInt64.ofNat_add,
      ← List.length_append]
    rfl
  case announced.some =>
    rw [loss, Effect.settle, Loss.pending_announce, notice count rfl, UInt64.sub_self]
    rfl
  all_goals
    refine ((congrArg Loss.pending loss).trans pending).trans ?_
    simp [History.extend, Effect.carry, Effect.dropped]

theorem pending_empty : (Console.empty : Console capacity π).loss.pending =
    .ofNat History.empty.missing.length := UInt64.sub_self 0

theorem run_pending [SerialPort π ε] (console : Console capacity π) (sections : List (Section π))
    {history : History} (pending : console.loss.pending = .ofNat history.missing.length) :
    (console.run sections).2.loss.pending =
      .ofNat (history.extendAll (console.run sections).1).missing.length := by
  induction sections generalizing console history with
  | nil => exact pending
  | cons part rest ih => exact ih _ ((console.step_perform part).pending pending)

end Console

end Gadget
