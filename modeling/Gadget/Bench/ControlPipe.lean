import Gadget.Usb.Bus
import Gadget.Usb.Request

namespace Gadget.Bench

def requestKind : Nat → RequestKind
  | 0 => .standard
  | 1 => .ofClass
  | 2 => .ofVendor
  | _ => .reserved

def recipient : Nat → Recipient
  | 0 => .device
  | 1 => .interface
  | 2 => .endpoint
  | 3 => .other
  | _ => .reserved

def request? : Bytes → Option Request
  | [form, code, value0, value1, index0, index1, length0, length1] =>
    some {
      direction := if form.toNat / 0x80 = 1 then .toHost else .toDevice
      kind := requestKind (form.toNat / 0x20 % 4)
      recipient := recipient (form.toNat % 0x20)
      code
      value := LittleEndian.read16 value0 value1
      index := LittleEndian.read16 index0 index1
      length := LittleEndian.read16 length0 length1 }
  | _ => none

inductive Stage
  | idle
  | dataOut (request : Request) (received : Bytes)
  | dataIn (rest : Bytes)
  /-- The answer ended in a full packet, so an empty one follows. -/
  | dataInEmpty
  | dataInLast
  | statusOut
  | statusIn
  | error
deriving DecidableEq

structure ControlPipe where
  packetSize : Nat
  stage : Stage
deriving DecidableEq

structure Arrival where
  request : Request
  data : Bytes
deriving DecidableEq

namespace ControlPipe

variable {β : Type} [UsbBus β]

def capacity : Nat := 128

def fail (pipe : ControlPipe) (bus : β) : ControlPipe × β :=
  ({ pipe with stage := .error },
    UsbBus.setStalled .controlIn true (UsbBus.setStalled .controlOut true bus))

def receiveSetup (pipe : ControlPipe) (bus : β) : Option Arrival × ControlPipe × β :=
  match UsbBus.read .controlOut capacity bus with
  | (.error .wouldBlock, bus) => (none, pipe, bus)
  | (.error _, bus) => (none, pipe.fail bus)
  | (.ok packet, bus) =>
    match request? packet with
    | none => (none, pipe.fail bus)
    | some request =>
      let bus := UsbBus.setStalled .controlOut false bus
      if request.direction = .toHost ∨ request.length = 0 then (some ⟨request, []⟩, pipe, bus)
      else if capacity < request.length.toNat then (none, pipe.fail bus)
      else (none, { pipe with stage := .dataOut request [] }, bus)

/-- Takes a packet of a data stage. Elsewhere a packet only ends the exchange. -/
def receiveData (pipe : ControlPipe) (bus : β) : Option Arrival × ControlPipe × β :=
  match pipe.stage with
  | .dataOut request received =>
    match UsbBus.read .controlOut (capacity - received.length) bus with
    | (.error .wouldBlock, bus) => (none, pipe, bus)
    | (.error _, bus) => (none, pipe.fail bus)
    | (.ok packet, bus) =>
      let received := received ++ packet
      let pipe := { pipe with stage := .dataOut request received }
      if received.length < request.length.toNat then (none, pipe, bus)
      else (some ⟨request, received.take request.length.toNat⟩, pipe, bus)
  | .dataIn _ | .dataInEmpty | .dataInLast | .statusOut =>
    (none, { pipe with stage := .idle }, (UsbBus.read .controlOut 0 bus).2)
  | .idle | .statusIn | .error => (none, pipe.fail (UsbBus.read .controlOut 0 bus).2)

def sendNext (pipe : ControlPipe) (rest : Bytes) (bus : β) : ControlPipe × β :=
  match UsbBus.write .controlIn (rest.take pipe.packetSize) bus with
  | (.error _, bus) => ({ pipe with stage := .dataIn rest }, bus)
  | (.ok count, bus) =>
    let later := rest.drop count
    let stage :=
      if !later.isEmpty then .dataIn later
      else if count = pipe.packetSize then .dataInEmpty
      else .dataInLast
    ({ pipe with stage }, bus)

def packetSent (pipe : ControlPipe) (bus : β) : Bool × ControlPipe × β :=
  match pipe.stage with
  | .dataIn rest => (false, pipe.sendNext rest bus)
  | .dataInEmpty =>
    match UsbBus.write .controlIn [] bus with
    | (.ok _, bus) => (false, { pipe with stage := .dataInLast }, bus)
    | (.error _, bus) => (false, pipe, bus)
  | .dataInLast =>
    (false, { pipe with stage := .statusOut }, UsbBus.setStalled .controlOut false bus)
  | .statusIn => (true, { pipe with stage := .idle }, bus)
  | .idle | .dataOut .. | .statusOut | .error => (false, pipe.fail bus)

/-- What the pipe says to the payload of an answer. One that waits for the bus is accepted. -/
def accepts (pipe : ControlPipe) (request : Request) (bus : β) (payload : Bytes) :
    Except UsbError Unit :=
  if capacity < payload.length then .error .bufferOverflow
  else
    let packet := (payload.take request.length.toNat).take pipe.packetSize
    match (UsbBus.write .controlIn packet bus).1 with
    | .ok _ | .error .wouldBlock => .ok ()
    | .error error => .error error

/-- An answer to the host is cut to the length it asked for, one from it has no data. -/
def answer (pipe : ControlPipe) (request : Request) (reply : Reply) (bus : β) : ControlPipe × β :=
  match reply, request.direction with
  | .reject, _ => pipe.fail bus
  | .accept _, .toDevice =>
    ({ pipe with stage := .statusIn }, (UsbBus.write .controlIn [] bus).2)
  | .accept payload, .toHost => pipe.sendNext (payload.take request.length.toNat) bus

end ControlPipe

end Gadget.Bench
