import Gadget.Console.Loss
import Gadget.Console.Port
import Gadget.Ring.Basic

namespace Gadget

structure Console (capacity : Capacity) (π : Type) where
  ring : Ring capacity
  loss : Loss
  port : Option π
deriving DecidableEq

namespace Console

variable {capacity : Capacity} {π ε : Type}

def defaultCapacity : Capacity := ⟨10, by decide⟩

def empty : Console capacity π := ⟨Ring.empty, Loss.fresh, none⟩

def isBound (console : Console capacity π) : Bool := console.port.isSome

/-- Queues what fits of `data`. The rest is dropped without being counted. -/
def write (console : Console capacity π) (data : Bytes) : Nat × Console capacity π :=
  let written := console.ring.write data false
  (written.1, { console with ring := written.2 })

def writeWhole (console : Console capacity π) (data : Bytes) : Nat × Console capacity π :=
  let written := console.ring.write data true
  (written.1, { console with ring := written.2 })

/-- Queues what fits of `data` and counts the rest as lost. While an earlier loss waits for its
notice nothing is queued, so that no output emitted after a loss stands before its notice. -/
def emit (console : Console capacity π) (data : Bytes) : Nat × Console capacity π :=
  if console.loss.isPending then
    (0, { console with loss := console.loss.record (.ofNat data.length) })
  else
    let written := console.ring.write data false
    (written.1,
      { console with
        ring := written.2
        loss := console.loss.record (.ofNat (data.length - written.1)) })

/-- Queues a notice for the pending loss. False if there is none or the notice does not fit. -/
def announce (console : Console capacity π) : Bool × Console capacity π :=
  if console.loss.isPending then
    let written := console.ring.write (Notice.text console.loss.pending).bytes true
    if written.1 = 0 then (false, console)
    else
      (true,
        { console with
          ring := written.2
          loss := console.loss.announce console.loss.pending })
  else (false, console)

/-- Offers the waiting bytes to a port in order, up to its first refusal. A refused byte stays. -/
def drainTo [SerialPort π ε] (port : π) (ring : Ring capacity) :
    List Attempt × π × Ring capacity :=
  match oldest : ring.front? with
  | none => ([], port, ring)
  | some byte =>
    have _ := Ring.length_consume_lt oldest
    match SerialPort.offer byte port with
    | (.error _, port) => ([⟨byte, false⟩], port, ring)
    | (.ok _, port) =>
      let (attempts, rest) := drainTo port ring.consume
      (⟨byte, true⟩ :: attempts, rest)
termination_by ring.length

def drain [SerialPort π ε] (console : Console capacity π) :
    List Attempt × Console capacity π :=
  match console.port with
  | none => ([], console)
  | some port =>
    let (attempts, port, ring) := drainTo port console.ring
    (attempts, { console with ring, port := some port })

end Console

end Gadget
