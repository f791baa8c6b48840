import Gadget.Proofs.Ring.Checked

namespace Gadget

/-- A queue of at most `limit` bytes that knows how many bytes ever entered and left it. -/
structure Queue (limit : Nat) where
  waiting : Bytes
  entered : Nat
  left : Nat
  length_le : waiting.length ≤ limit

inductive QueueCall
  | write (data : Bytes) (whole : Bool)
  | front
  | consume

inductive QueueAnswer
  | accepted (count : Nat)
  | oldest (byte : Option UInt8)
  | consumed
deriving DecidableEq

def QueueCall.runAll {σ : Type} (perform : σ → QueueCall → QueueAnswer × σ) :
    σ → List QueueCall → List QueueAnswer × σ
  | state, [] => ([], state)
  | state, call :: rest =>
    let (answer, next) := perform state call
    let (answers, last) := runAll perform next rest
    (answer :: answers, last)

namespace Queue

variable {limit : Nat}

def empty : Queue limit := ⟨[], 0, 0, Nat.zero_le _⟩

def room (queue : Queue limit) : Nat := limit - queue.waiting.length

def accepted (queue : Queue limit) (data : Bytes) : Bool → Nat
  | false => min data.length queue.room
  | true => if data.length ≤ queue.room then data.length else 0

theorem accepted_le_room (queue : Queue limit) (data : Bytes) (whole : Bool) :
    queue.accepted data whole ≤ queue.room := by
  cases whole
  · exact Nat.min_le_right ..
  · simp only [accepted]
    split <;> omega

def write (queue : Queue limit) (data : Bytes) (whole : Bool) : Queue limit where
  waiting := queue.waiting ++ data.take (queue.accepted data whole)
  entered := queue.entered + queue.accepted data whole
  left := queue.left
  length_le := by
    have := queue.length_le
    have := queue.accepted_le_room data whole
    simp only [room, List.length_append, List.length_take] at *
    omega

def consume (queue : Queue limit) : Queue limit where
  waiting := queue.waiting.tail
  entered := queue.entered
  left := if queue.waiting = [] then queue.left else queue.left + 1
  length_le := by
    have := queue.length_le
    rw [List.length_tail]
    omega

def perform (queue : Queue limit) : QueueCall → QueueAnswer × Queue limit
  | .write data whole => (.accepted (queue.accepted data whole), queue.write data whole)
  | .front => (.oldest queue.waiting.head?, queue)
  | .consume => (.consumed, queue.consume)

end Queue

namespace Ring

variable {capacity : Capacity}

def perform (ring : Ring capacity) : QueueCall → QueueAnswer × Ring capacity
  | .write data whole =>
    let (count, next) := ring.write data whole
    (.accepted count, next)
  | .front => (.oldest ring.front?, ring)
  | .consume => (.consumed, ring.consume)

/-- The ring holds what the queue holds, and its counters tell the same history from `start` on. -/
structure StandsFor (start : UInt64) (ring : Ring capacity) (queue : Queue capacity.size) :
    Prop where
  waiting : ring.toList = queue.waiting
  queued : ring.queued = start + .ofNat queue.entered
  sent : ring.sent = start + .ofNat queue.left

variable {start : UInt64} {ring : Ring capacity} {queue : Queue capacity.size}

theorem standsFor_ofStart (start : UInt64) :
    StandsFor start (ofStart start : Ring capacity) Queue.empty where
  waiting := toList_ofStart start
  queued := (UInt64.add_zero start).symm
  sent := (UInt64.add_zero start).symm

theorem StandsFor.length (same : StandsFor start ring queue) :
    ring.length = queue.waiting.length := by
  rw [← same.waiting, length_toList]

theorem StandsFor.accepted (same : StandsFor start ring queue) (data : Bytes) (whole : Bool) :
    ring.accepted data whole = queue.accepted data whole := by
  have room : ring.available = queue.room := by rw [available, Queue.room, same.length]
  rw [Ring.accepted, room]
  cases whole
  · simp only [Queue.accepted, Bool.false_eq_true, if_false]
    split <;> omega
  · simp only [Queue.accepted, if_true]

theorem StandsFor.write (same : StandsFor start ring queue) (data : Bytes) (whole : Bool) :
    StandsFor start (ring.write data whole).2 (queue.write data whole) := by
  have count := same.accepted data whole
  have shorter := ring.accepted_le_length data whole
  constructor
  · rw [toList_write, same.waiting, count]
    rfl
  · have length : (data.take (ring.accepted data whole)).length = ring.accepted data whole := by
      rw [List.length_take]
      omega
    change ring.queued + .ofNat (data.take (ring.accepted data whole)).length = _
    rw [length, same.queued, count, UInt64.add_assoc, ← UInt64.ofNat_add]
    rfl
  · exact same.sent

theorem StandsFor.consume (same : StandsFor start ring queue) :
    StandsFor start ring.consume queue.consume := by
  have tail : ring.consume.toList = queue.consume.waiting := by
    rw [toList_consume, same.waiting]
    rfl
  have nothing : ring.isEmpty = true ↔ queue.waiting = [] := by
    rw [isEmpty_iff, same.length, List.length_eq_zero_iff]
  cases empty : ring.isEmpty with
  | true =>
    have stays : ring.consume = ring := by simp [Ring.consume, empty]
    refine ⟨tail, ?_, ?_⟩
    · rw [stays, same.queued]
      rfl
    · rw [stays, same.sent, Queue.consume, if_pos (nothing.mp empty)]
  | false =>
    have waits : queue.waiting ≠ [] := fun none => by simp [nothing.mpr none] at empty
    refine ⟨tail, ?_, ?_⟩
    · simpa [Ring.consume, Queue.consume, empty] using same.queued
    · simp only [Ring.consume, empty, dif_pos, Queue.consume, if_neg waits, same.sent,
        UInt64.ofNat_add, UInt64.add_assoc]
      rfl

theorem StandsFor.perform (same : StandsFor start ring queue) (call : QueueCall) :
    (ring.perform call).1 = (queue.perform call).1 ∧
      StandsFor start (ring.perform call).2 (queue.perform call).2 := by
  cases call with
  | write data whole =>
    exact ⟨congrArg QueueAnswer.accepted (same.accepted data whole), same.write data whole⟩
  | front =>
    refine ⟨?_, same⟩
    simp only [Ring.perform, Queue.perform, front?_eq_head?, same.waiting]
  | consume => exact ⟨rfl, same.consume⟩

theorem StandsFor.runAll (same : StandsFor start ring queue) (calls : List QueueCall) :
    (QueueCall.runAll Ring.perform ring calls).1 =
        (QueueCall.runAll Queue.perform queue calls).1 ∧
      StandsFor start (QueueCall.runAll Ring.perform ring calls).2
        (QueueCall.runAll Queue.perform queue calls).2 := by
  induction calls generalizing ring queue with
  | nil => exact ⟨rfl, same⟩
  | cons call rest ih =>
    obtain ⟨answer, next⟩ := same.perform call
    obtain ⟨answers, last⟩ := ih next
    refine ⟨?_, last⟩
    simp only [QueueCall.runAll, answer, answers]

structure Shows (start : UInt64) (ring : Ring capacity) (queue : Queue capacity.size) : Prop where
  waiting : ring.toList = queue.waiting
  length : ring.length = queue.waiting.length
  length_le : ring.length ≤ capacity.size
  available : ring.available + ring.length = capacity.size
  isEmpty : ring.isEmpty = true ↔ ring.length = 0
  queued : ring.queued.toNat = (start.toNat + queue.entered) % UInt64.size
  sent : ring.sent.toNat = (start.toNat + queue.left) % UInt64.size
  write : ∀ data whole, ring.writeChecked data whole = some ((ring.write data whole).1,
    (ring.write data whole).2.cells, (ring.write data whole).2.queued)
  front : ring.frontChecked = some ring.front?

theorem StandsFor.shows (same : StandsFor start ring queue) : Shows start ring queue where
  waiting := same.waiting
  length := same.length
  length_le := ring.length_le
  available := by
    have := ring.length_add_available
    omega
  isEmpty := ring.isEmpty_iff
  queued := by
    rw [same.queued, UInt64.toNat_add, UInt64.toNat_ofNat', Nat.add_mod_mod]
  sent := by
    rw [same.sent, UInt64.toNat_add, UInt64.toNat_ofNat', Nat.add_mod_mod]
  write := ring.writeChecked_eq
  front := ring.frontChecked_eq

/-- Of any list of calls on a ring whose counters start anywhere, the answers are those of the
bounded queue, and after the last call, so after each, the ring shows the state of the queue. -/
theorem answers_as_bounded_queue (start : UInt64) (calls : List QueueCall) :
    let done := QueueCall.runAll Ring.perform (ofStart start : Ring capacity) calls
    let expected := QueueCall.runAll Queue.perform Queue.empty calls
    done.1 = expected.1 ∧ Shows start done.2 expected.2 := by
  have fresh : StandsFor start (ofStart start : Ring capacity) Queue.empty :=
    standsFor_ofStart start
  obtain ⟨answers, last⟩ := fresh.runAll calls
  exact ⟨answers, last.shows⟩

example :
    (QueueCall.runAll Ring.perform (ofStart (-3) : Ring ⟨3, by decide⟩)
      [.write [97, 98, 99, 100, 101, 102] false, .front, .consume, .write [103, 104, 105, 106] true,
        .write [107, 108] true]).1 =
      [.accepted 6, .oldest (some 97), .consumed, .accepted 0, .accepted 2] := by
  decide +kernel

end Ring

end Gadget
