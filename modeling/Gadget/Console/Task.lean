import Gadget.Console.Basic
import Gadget.Log.Logger

namespace Gadget

inductive Write
  | plain (data : Bytes)
  | whole (data : Bytes)
  | emitted (data : Bytes)
deriving DecidableEq

namespace Console

variable {capacity : Capacity} {π ε : Type}

def accept (console : Console capacity π) : Write → Nat × Console capacity π
  | .plain data => console.write data
  | .whole data => console.writeWhole data
  | .emitted data => console.emit data

def acceptAll (console : Console capacity π) (writes : List Write) : Console capacity π :=
  writes.foldl (fun console write => (console.accept write).2) console

theorem available_accept_le (console : Console capacity π) (write : Write) :
    (console.accept write).2.ring.available ≤ console.ring.available := by
  cases write with
  | plain data => simp [accept, Console.write, Ring.available_write]
  | whole data => simp [accept, writeWhole, Ring.available_write]
  | emitted data =>
    simp only [accept, emit]
    split <;> simp [Ring.available_write]

theorem available_acceptAll_le (console : Console capacity π) (writes : List Write) :
    (console.acceptAll writes).ring.available ≤ console.ring.available := by
  induction writes generalizing console with
  | nil => exact Nat.le_refl _
  | cons write rest ih => exact Nat.le_trans (ih _) (console.available_accept_le write)

theorem available_announce_lt {console next : Console capacity π}
    (queued : console.announce = (true, next)) : next.ring.available < console.ring.available := by
  unfold announce at queued
  have room := console.ring.accepted_le_available (Notice.text console.loss.pending).bytes true
  split at queued
  · dsimp only at queued
    split at queued
    · exact absurd (congrArg Prod.fst queued) (by simp)
    · rename_i taken
      have same := congrArg Prod.snd queued
      dsimp only [Ring.write] at same taken
      rw [← same]
      dsimp only
      rw [Ring.available_enqueue, List.length_take]
      have := console.ring.accepted_le_length (Notice.text console.loss.pending).bytes true
      omega
  · exact absurd (congrArg Prod.fst queued) (by simp)

/-- Queues notices as long as one is called for and fits. `interrupts turn` is what other contexts
write after the section with that number. -/
def announceAllFrom (interrupts : Nat → List Write) (turn : Nat) (console : Console capacity π) :
    Nat × Console capacity π :=
  match queued : console.announce with
  | (false, next) => (turn, next.acceptAll (interrupts turn))
  | (true, next) => announceAllFrom interrupts (turn + 1) (next.acceptAll (interrupts turn))
termination_by console.ring.available
decreasing_by
  exact Nat.lt_of_le_of_lt (available_acceptAll_le ..) (available_announce_lt queued)

def announceAll (interrupts : Nat → List Write) (console : Console capacity π) :
    Nat × Console capacity π :=
  announceAllFrom interrupts 0 console

/-- One pass amid writes of other contexts: notices first, then the port is offered what waits. -/
def taskAmid [SerialPort π ε] (interrupts : Nat → List Write) (console : Console capacity π) :
    List Attempt × Console capacity π :=
  (console.announceAll interrupts).2.drain

def task [SerialPort π ε] (console : Console capacity π) : List Attempt × Console capacity π :=
  console.taskAmid fun _ => []

/-- Repeats `task` until the ring is empty, `none` if that takes more than `passes` of them. Without
a port there is nothing to do. -/
def flush [SerialPort π ε] (passes : Nat) (console : Console capacity π) :
    Option (List Attempt × Console capacity π) :=
  if !console.isBound || console.ring.isEmpty then some ([], console)
  else
    match passes with
    | 0 => none
    | passes + 1 =>
      let (attempts, next) := console.task
      (flush passes next).map fun (more, last) => (attempts ++ more, last)

def log (console : Console capacity π) (record : Record) : Console capacity π :=
  (console.emit (Line.render record).bytes).2

def logAll (console : Console capacity π) (records : List Record) : Console capacity π :=
  records.foldl log console

def logger [SerialPort π ε] (passes : Nat) :
    Logger (Console capacity π) (Option (List Attempt × Console capacity π)) where
  emit data console := console.emit data
  hook := flush passes

theorem logger_log [SerialPort π ε] (passes : Nat) (console : Console capacity π)
    (record : Record) : (logger passes).log record console = console.log record := rfl

end Console

end Gadget
