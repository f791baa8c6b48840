import Gadget.Console.Section
import Gadget.Ring.Contents

namespace Gadget

def Write.data : Write → Bytes
  | .plain data | .whole data | .emitted data => data

def Section.call? {π : Type} : Section π → Option Write
  | .write call => some call
  | _ => none

namespace Effect

def call? : Effect → Option Write
  | .accepted call _ => some call
  | _ => none

def attempts : Effect → List Attempt
  | .drained attempts => attempts
  | _ => []

def queued : Effect → Bytes
  | .accepted write count => write.data.take count
  | .announced (some count) => (Notice.text count).bytes
  | _ => []

def dropped : Effect → Bytes
  | .accepted (.emitted data) count => data.drop count
  | _ => []

end Effect

def Effect.settle (loss : Loss) : Effect → Loss
  | .accepted write count => loss.record (.ofNat (Effect.accepted write count).dropped.length)
  | .announced (some count) => loss.announce count
  | _ => loss

def SerialPort.offerAll {π ε : Type} [SerialPort π ε] : π → Bytes → List Attempt × π
  | port, [] => ([], port)
  | port, byte :: rest =>
    let (answer, next) := SerialPort.offer byte port
    let (attempts, last) := offerAll next rest
    (⟨byte, answer.toBool⟩ :: attempts, last)

theorem SerialPort.offerAll_append {π ε : Type} [SerialPort π ε] (port : π) (first rest : Bytes) :
    SerialPort.offerAll port (first ++ rest) =
      ((SerialPort.offerAll port first).1 ++
          (SerialPort.offerAll (SerialPort.offerAll port first).2 rest).1,
        (SerialPort.offerAll (SerialPort.offerAll port first).2 rest).2) := by
  induction first generalizing port with
  | nil => rfl
  | cons byte more ih => simp only [List.cons_append, SerialPort.offerAll, ih]

theorem Ring.accepted_all {capacity : Capacity} {ring : Ring capacity} {data : Bytes}
    (taken : ring.accepted data true ≠ 0) : ring.accepted data true = data.length := by
  unfold Ring.accepted at taken ⊢
  split
  · rfl
  · rename_i exceeds
    rw [if_neg exceeds, if_pos rfl] at taken
    exact absurd rfl taken

namespace Console

variable {capacity : Capacity} {π ε : Type}

theorem accept_spec (console : Console capacity π) (write : Write) :
    let (count, next) := console.accept write
    next.ring.toList = console.ring.toList ++ write.data.take count ∧
      next.ring.sent = console.ring.sent ∧ next.port = console.port ∧
      next.loss =
        console.loss.record (.ofNat (Effect.accepted write count).dropped.length) := by
  cases write with
  | plain data =>
    exact ⟨console.ring.toList_write data false, rfl, rfl, (Loss.record_zero _).symm⟩
  | whole data =>
    exact ⟨console.ring.toList_write data true, rfl, rfl, (Loss.record_zero _).symm⟩
  | emitted data =>
    simp only [accept, emit]
    split
    · exact ⟨(List.append_nil _).symm, rfl, rfl, rfl⟩
    · refine ⟨console.ring.toList_write data false, rfl, rfl, ?_⟩
      simp only [Effect.dropped, List.length_drop]

theorem accept_emitted_of_isPending {console : Console capacity π}
    (pending : console.loss.isPending = true) (data : Bytes) :
    (console.accept (.emitted data)).1 = 0 := by
  simp only [accept, emit, pending, if_true]

theorem call?_perform [SerialPort π ε] (console : Console capacity π) (part : Section π) :
    (console.perform part).1.call? = part.call? := by
  cases part <;> rfl

theorem announce_cases (console : Console capacity π) :
    console.announce = (false, console) ∨
      ∃ ring, console.announce =
          (true, ⟨ring, console.loss.announce console.loss.pending, console.port⟩) ∧
        ring.toList = console.ring.toList ++ (Notice.text console.loss.pending).bytes ∧
        ring.sent = console.ring.sent := by
  unfold announce
  generalize (Notice.text console.loss.pending).bytes = text
  split
  · dsimp only
    split
    · exact .inl rfl
    -- A notice is written whole, so it is complete as soon as any of it is in the ring.
    · rename_i taken
      refine .inr ⟨_, rfl, ?_, rfl⟩
      rw [Ring.toList_write, Ring.accepted_all taken, List.take_length]
  · exact .inl rfl

end Console

end Gadget
