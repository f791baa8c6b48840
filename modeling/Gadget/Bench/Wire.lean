import Gadget.Board.Uart
import Gadget.Console.Port

namespace Gadget.Bench

structure Report (α : Type) where
  answer : α
  records : List Record
  attempts : List Attempt

/-- Says of each byte whether it is taken. A byte counts as an attempt however it is answered. -/
structure Wire where
  /-- How many bytes are still taken, `none` for any number. -/
  credit : Option Nat
  fault : Nat
  busy : Nat
  /-- Of every so many attempts the last finds the wire busy, 0 for none of them. -/
  busyEvery : Nat
  attempts : Nat
deriving DecidableEq

namespace Wire

def free : Wire := ⟨none, 0, 0, 0, 0⟩

def offer (wire : Wire) : Except (Refusal Unit) Unit × Wire :=
  let wire := { wire with attempts := wire.attempts + 1 }
  if 0 < wire.fault then (.error (.fault ()), { wire with fault := wire.fault - 1 })
  else if 0 < wire.busy then (.error .wouldBlock, { wire with busy := wire.busy - 1 })
  else if 0 < wire.busyEvery ∧ wire.attempts % wire.busyEvery = 0 then (.error .wouldBlock, wire)
  else
    match wire.credit with
    | none => (.ok (), wire)
    | some 0 => (.error .wouldBlock, wire)
    | some (left + 1) => (.ok (), { wire with credit := some left })

def isLive (wire : Wire) : Bool := wire.credit.isNone && wire.busyEvery != 1

/-- Enough passes for a live wire to take `count` bytes: a pass ends in a refusal, of which at most
`fault + busy` come from these counters and at most one between two taken bytes from `busyEvery`. -/
def passes (wire : Wire) (count : Nat) : Nat := wire.fault + wire.busy + 2 * count + 2

def withBusyEvery (wire : Wire) (period : Nat) : Wire :=
  { wire with busyEvery := period, attempts := 0 }

/-- As the peripheral of a chip. Its divider needs a rate, and eight times its clock must fit a
word. -/
instance : Peripheral Wire where
  configure clock baud wire :=
    if baud = 0 ∨ UInt32.size ≤ clock.toNat * 8 then none else some wire
  push _ wire :=
    let (result, wire) := wire.offer
    (result.toBool, wire)
  isDrained wire := wire.busy = 0

end Wire

inductive PortError
  | badBaudRate
  | hardware
deriving DecidableEq

def PortError.name : PortError → String
  | badBaudRate => "BadBaudRate"
  | hardware => "Hardware"

structure Port where
  pin : Option UInt8
  baud : Option UInt32
  achieved : Option UInt32
  refuses : Bool
  wire : Wire

instance : SerialPort Port PortError where
  route pin port := pure { port with pin := some pin }
  enable baud port :=
    if baud = 0 ∨ port.refuses then (.error .badBaudRate, port)
    else (.ok (port.achieved.getD baud), { port with baud := some baud })
  offer _ port :=
    let (result, wire) := port.wire.offer
    let port := { port with wire }
    match result with
    | .ok _ => (.ok (), port)
    | .error .wouldBlock => (.error .wouldBlock, port)
    | .error (.fault _) => (.error (.fault .hardware), port)

end Gadget.Bench
