import Gadget.Usb.Bus

namespace Gadget.Bench

structure PacketBus where
  setup : Option Bytes
  toDevice : Vector (Option Bytes) 16
  toHost : Vector (Option Bytes) 16
  fetched : Vector Bool 16
  /-- The next data event reports a packet whether there is one or not. -/
  spurious : Vector Bool 16
  stalled : List EndpointAddress
  address : UInt8
  resets : Bool
  suspends : Bool
  resumes : Bool
  taken : List EndpointAddress
  /-- How many endpoints can still be reserved, `none` for any number. -/
  room : Option Nat
  packetSizes : List (EndpointAddress × Nat)

namespace PacketBus

def fresh (taken : List EndpointAddress) (room : Option Nat) : PacketBus where
  setup := none
  toDevice := .replicate 16 none
  toHost := .replicate 16 none
  fetched := .replicate 16 false
  spurious := .replicate 16 false
  stalled := []
  address := 0
  resets := false
  suspends := false
  resumes := false
  taken
  room
  packetSizes := []

def stalledCodes (bus : PacketBus) : List Nat :=
  (List.range 0x100).filter fun code => bus.stalled.any (·.code.toNat == code)

def allocate (endpoint : Endpoint) (bus : PacketBus) : Except UsbError PacketBus :=
  if endpoint.address ∈ bus.taken then .error .invalidEndpoint
  else if bus.room = some 0 then .error .endpointOverflow
  else
    .ok { bus with
      room := bus.room.map (· - 1)
      packetSizes := (endpoint.address, endpoint.packetSize.toNat) :: bus.packetSizes }

def write (address : EndpointAddress) (data : Bytes) (bus : PacketBus) :
    Except UsbError Nat × PacketBus :=
  if bus.toHost[address.index].isSome then (.error .wouldBlock, bus)
  else if (bus.packetSizes.lookup address).getD 0 < data.length then (.error .bufferOverflow, bus)
  else (.ok data.length, { bus with toHost := bus.toHost.set address.index (some data) })

def deliver (packet : Bytes) (capacity : Nat) : Except UsbError Bytes :=
  if packet.length ≤ capacity then .ok packet else .error .bufferOverflow

def setStalled (address : EndpointAddress) (stall : Bool) (bus : PacketBus) : PacketBus :=
  { bus with
    stalled :=
      if stall then address :: bus.stalled.filter (· ≠ address)
      else bus.stalled.filter (· ≠ address) }

/-- A setup packet comes first. It ends a stall of the control endpoint and an answer that waits
there. -/
def read (address : EndpointAddress) (capacity : Nat) (bus : PacketBus) :
    Except UsbError Bytes × PacketBus :=
  match if address.index = EndpointAddress.controlIndex then bus.setup else none with
  | some packet =>
    let bus := setStalled .controlOut false (setStalled .controlIn false bus)
    (deliver packet capacity,
      { bus with setup := none, toHost := bus.toHost.set EndpointAddress.controlIndex none })
  | none =>
    match bus.toDevice[address.index] with
    | some packet =>
      (deliver packet capacity, { bus with toDevice := bus.toDevice.set address.index none })
    | none => (.error .wouldBlock, bus)

def reset (bus : PacketBus) : PacketBus :=
  { fresh bus.taken bus.room with
    resets := bus.resets
    suspends := bus.suspends
    resumes := bus.resumes
    packetSizes := bus.packetSizes }

def poll (bus : PacketBus) : BusEvent × PacketBus :=
  if bus.resets then (.reset, { bus with resets := false })
  else if bus.suspends then (.suspend, { bus with suspends := false })
  else if bus.resumes then (.resume, { bus with resumes := false })
  else
    let received := Vector.ofFn fun i : Fin 16 => bus.spurious[i] || bus.toDevice[i].isSome
    let quiet := { bus with fetched := .replicate 16 false, spurious := .replicate 16 false }
    if received.any id || bus.fetched.any id || bus.setup.isSome then
      let setup := Vector.ofFn fun i : Fin 16 =>
        decide (i = EndpointAddress.controlIndex) && bus.setup.isSome
      (.data received bus.fetched setup, quiet)
    else (.none, quiet)

instance : UsbBus PacketBus where
  allocate := allocate
  openControl packetSize bus :=
    { bus with
      packetSizes :=
        (.controlOut, packetSize) :: (.controlIn, packetSize) :: bus.packetSizes }
  write := write
  read := read
  setStalled := setStalled
  isStalled address bus := decide (address ∈ bus.stalled)
  setAddress address bus := { bus with address }
  reset := reset
  poll := poll

end PacketBus

inductive HostStep
  | setup (packet : Bytes)
  | send (index : Fin 16) (packet : Bytes)
  | fetch (index : Fin 16)
  | reset
  | suspend
  | resume
  | spurious (index : Fin 16)

inductive HostAnswer
  | none
  | sent (accepted : Bool)
  | fetched (packet : Option Bytes)

namespace PacketBus

def host (bus : PacketBus) : HostStep → HostAnswer × PacketBus
  | .setup packet =>
    if bus.setup.isSome then (.sent false, bus)
    else (.sent true, { bus with setup := some packet })
  | .send index packet =>
    if bus.toDevice[index].isSome then (.sent false, bus)
    else (.sent true, { bus with toDevice := bus.toDevice.set index (some packet) })
  | .fetch index =>
    match bus.toHost[index] with
    | none => (.fetched none, bus)
    | some packet =>
      (.fetched (some packet),
        { bus with toHost := bus.toHost.set index none, fetched := bus.fetched.set index true })
  | .reset => (.none, { bus with resets := true })
  | .suspend => (.none, { bus with suspends := true })
  | .resume => (.none, { bus with resumes := true })
  | .spurious index => (.none, { bus with spurious := bus.spurious.set index true })

end PacketBus

end Gadget.Bench
