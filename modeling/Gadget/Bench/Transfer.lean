import Gadget.Bench.PacketBus
import Gadget.Bench.Stack

namespace Gadget.Bench

def chunks (size : Nat) (data : Bytes) : List Bytes :=
  if size = 0 ∨ data = [] then []
  else data.take size :: chunks size (data.drop size)
termination_by data.length
decreasing_by
  rename_i some
  have := List.length_pos_iff.mpr fun empty => some (.inr empty)
  rw [List.length_drop]
  omega

abbrev HostedStack (κ : Type) := Stack κ PacketBus

inductive TransferAnswer
  | busy
  | done (packets : List Bytes) (stalled : Bool)

namespace HostedStack

variable {κ : Type} [UsbFunction κ]

def act (stack : HostedStack κ) (step : HostStep) : HostAnswer × HostedStack κ :=
  let (answer, bus) := stack.bus.host step
  (answer, { stack with bus })

def pollOnce (stack : HostedStack κ) : Logged (HostedStack κ) := do
  let (_, stack) ← stack.poll
  pure stack

def isControlStalled (stack : HostedStack κ) : Bool := UsbBus.isStalled .controlIn stack.bus

def fetchAll : (limit : Nat) → HostedStack κ → Logged (List Bytes × HostedStack κ)
  | 0, stack => pure ([], stack)
  | limit + 1, stack =>
    match act stack (.fetch EndpointAddress.controlIndex) with
    | (.fetched (some packet), stack) => do
      let stack ← pollOnce stack
      let (packets, stack) ← fetchAll limit stack
      pure (packet :: packets, stack)
    | (_, stack) => pure ([], stack)

def sendAll : List Bytes → HostedStack κ → Logged (HostedStack κ)
  | [], stack => pure stack
  | packet :: rest, stack =>
    if isControlStalled stack then pure stack
    else do
      let stack ← pollOnce (act stack (.send EndpointAddress.controlIndex packet)).2
      sendAll rest stack

def transfer (setup data : Bytes) (stack : HostedStack κ) :
    Logged (TransferAnswer × HostedStack κ) :=
  match act stack (.setup setup) with
  | (.sent true, stack) => do
    let stack ← pollOnce stack
    if setup.head?.any (0x80 ≤ ·) then
      let (packets, stack) ← fetchAll 64 stack
      let stack ←
        if isControlStalled stack then pure stack
        else pollOnce (act stack (.send EndpointAddress.controlIndex [])).2
      pure (.done packets (isControlStalled stack), stack)
    else
      let stack ← sendAll (chunks stack.device.pipe.packetSize data) stack
      let (packets, stack) ← fetchAll 1 stack
      pure (.done packets (isControlStalled stack), stack)
  | (_, stack) => pure (.busy, stack)

end HostedStack

end Gadget.Bench
