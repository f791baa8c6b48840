import Gadget.Console.Bind
import Gadget.Console.Task

namespace Gadget

inductive Section (π : Type)
  | write (write : Write)
  | announce
  | drain
  | bind (port : π) (settings : PortSettings)

inductive Effect
  | accepted (write : Write) (count : Nat)
  | announced (notice : Option UInt64)
  | drained (attempts : List Attempt)
  | bound (succeeded : Bool)
deriving DecidableEq

namespace Console

variable {capacity : Capacity} {π ε : Type}

def perform [SerialPort π ε] (console : Console capacity π) :
    Section π → Effect × Console capacity π
  | .write write =>
    let (count, next) := console.accept write
    (.accepted write count, next)
  | .announce =>
    let (queued, next) := console.announce
    (.announced (if queued then some console.loss.pending else none), next)
  | .drain =>
    let (attempts, next) := console.drain
    (.drained attempts, next)
  | .bind port settings =>
    let (result, next, _) := (console.bind port settings).value
    (.bound result.toBool, next)

def run [SerialPort π ε] (console : Console capacity π) :
    List (Section π) → List Effect × Console capacity π
  | [] => ([], console)
  | first :: rest =>
    let (effect, next) := console.perform first
    let (effects, last) := run next rest
    (effect :: effects, last)

end Console

end Gadget
