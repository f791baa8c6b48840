import Gadget.Proofs.Serial.Control
import Gadget.Proofs.Usb.Apart
import Gadget.Proofs.Usb.Tap

namespace Gadget

namespace Serial

theorem controlIn_foreign (serial : Serial) {request : Request}
    (accept : Bytes → Except UsbError Unit)
    (foreign : ¬request.IsForClass serial.controlInterface) :
    (serial.controlIn request accept).value = (none, serial) := by
  rw [value_controlIn, if_neg foreign]

theorem controlOut_foreign (serial : Serial) {request : Request} (data : Bytes)
    (foreign : ¬request.IsForClass serial.controlInterface) :
    (serial.controlOut request data).value = (none, serial) := by
  have serves := serial.servesOut request data
  generalize (serial.controlOut request data).value = outcome at serves ⊢
  cases serves with
  | foreign => rfl
  | lineCoding own | controlLines own | sendBreak own | refused own => exact absurd own foreign

theorem controlInterface_controlOut (serial : Serial) (request : Request) (data : Bytes) :
    (serial.controlOut request data).value.2.controlInterface = serial.controlInterface := by
  have serves := serial.servesOut request data
  generalize (serial.controlOut request data).value = outcome at serves ⊢
  cases serves <;> rfl

end Serial

namespace Composite

section Unwinding

variable {σ ε ω ν : Type}

def sights (step : σ → ε → σ) (sees : σ → ε → List ω) (state : σ) : List ε → List ω
  | [] => []
  | event :: rest => sees state event ++ sights step sees (step state event) rest

/-- What is seen depends on a view of the state. Events that are of concern keep equal views equal,
all others leave the view as it is and show nothing. -/
structure Unwinds (step : σ → ε → σ) (sees : σ → ε → List ω) (view : σ → ν) (valid : ν → Prop)
    (concerns : ε → Bool) : Prop where
  kept {state : σ} (event : ε) (before : valid (view state)) : valid (view (step state event))
  concerned {state other : σ} {event : ε} (concern : concerns event = true)
    (same : view state = view other) :
    sees state event = sees other event ∧ view (step state event) = view (step other event)
  unconcerned {state : σ} {event : ε} (foreign : concerns event = false)
    (before : valid (view state)) :
    sees state event = [] ∧ view (step state event) = view state

theorem Unwinds.sights_filter {step : σ → ε → σ} {sees : σ → ε → List ω} {view : σ → ν}
    {valid : ν → Prop} {concerns : ε → Bool} (unwinds : Unwinds step sees view valid concerns)
    {state other : σ} (before : valid (view state)) (same : view state = view other)
    (events : List ε) :
    sights step sees state events = sights step sees other (events.filter concerns) := by
  induction events generalizing state other with
  | nil => rfl
  | cons event rest ih =>
    have after := unwinds.kept event before
    cases concern : concerns event with
    | true =>
      obtain ⟨seen, next⟩ := unwinds.concerned concern same
      rw [List.filter_cons_of_pos concern, sights, sights, seen, ih after next]
    | false =>
      obtain ⟨nothing, next⟩ := unwinds.unconcerned concern before
      rw [List.filter_cons_of_neg (by rw [concern]; exact Bool.false_ne_true), sights, nothing,
        List.nil_append, ih after (next.trans same)]

end Unwinding

end Composite

structure Composite (β : Type) where
  vendor : Vendor
  serial : Serial
  bus : β

namespace Composite

open UsbBus (Apart)

variable {β ν : Type} [UsbBus β]

/-- A callback to both functions, a call of the program to one of them, or a change of the bus. -/
inductive Event (apart : Apart β ν)
  | reset
  | controlIn (request : Request) (accept : Bytes → Except UsbError Unit)
  | controlOut (request : Request) (data : Bytes)
  | packetReceived (address : EndpointAddress)
  | packetSent (address : EndpointAddress)
  | takeCommand
  | sentCount (address : EndpointAddress)
  | writeSamples (packet : Bytes)
  | writeResponse (data : Bytes)
  | readPacket (capacity : Nat)
  | writePacket (data : Bytes)
  | lineCoding
  | controlLines
  | changed (change : apart.Change)

variable {apart : Apart β ν}

namespace Event

def concernsVendor : Event apart → Bool
  | packetReceived address => address = ⟨0x04⟩
  | packetSent address => address = ⟨0x83⟩ ∨ address = ⟨0x84⟩
  | reset | takeCommand | sentCount _ | writeSamples _ | writeResponse _ | changed _ => true
  | _ => false

def concernsSerial (interface : UInt8) : Event apart → Bool
  | controlIn request _ | controlOut request _ => request.IsForClass interface
  | reset | readPacket _ | writePacket _ | lineCoding | controlLines | changed _ => true
  | _ => false

def source? : Event apart → Option EndpointAddress
  | packetReceived address => if address = ⟨0x04⟩ then some ⟨0x04⟩ else none
  | readPacket _ => some ⟨0x02⟩
  | _ => none

def isChange : Event apart → Bool
  | changed _ => true
  | _ => false

end Event

def functions (device : Composite β) : Vendor × Serial := (device.vendor, device.serial)

def withFunctions (device : Composite β) (functions : Vendor × Serial) : Composite β :=
  { device with vendor := functions.1, serial := functions.2 }

def next (device : Composite β) : Event apart → Composite β
  | .reset => device.withFunctions (UsbFunction.reset device.functions).value
  | .controlIn request accept =>
    device.withFunctions (UsbFunction.controlIn request accept device.functions).value.2
  | .controlOut request data =>
    device.withFunctions (UsbFunction.controlOut request data device.functions).value.2
  | .packetReceived address =>
    let (functions, bus) := (UsbFunction.packetReceived address device.functions device.bus).value
    { device.withFunctions functions with bus }
  | .packetSent address =>
    device.withFunctions (UsbFunction.packetSent address device.functions)
  | .takeCommand => { device with vendor := device.vendor.takeCommand.2 }
  | .writeSamples packet => { device with bus := (device.vendor.writeSamples packet device.bus).2 }
  | .writeResponse data => { device with bus := (device.vendor.writeResponse data device.bus).2 }
  | .readPacket capacity => { device with bus := (device.serial.read capacity device.bus).2 }
  | .writePacket data => { device with bus := (device.serial.write data device.bus).2 }
  | .sentCount _ | .lineCoding | .controlLines => device
  | .changed change => { device with bus := change.run device.bus }

inductive VendorSight
  | took (command : Option Bytes)
  | counted (address : EndpointAddress) (sent : UInt32)
  | read (made : BusRead)

inductive SerialSight
  | answered (request : Request) (reply : Reply)
  | read (result : Except UsbError Bytes)
  | lineCoding (coding : LineCoding)
  | controlLines (dtr rts : Bool)

def seesVendor (device : Composite β) : Event apart → List VendorSight
  | .takeCommand => [.took device.vendor.takeCommand.1]
  | .sentCount address => [.counted address (device.vendor.sentCount address)]
  | .packetReceived address =>
    let tapped : Tapped β := ⟨device.bus, []⟩
    (UsbFunction.packetReceived address device.vendor tapped).value.2.reads.map .read
  | _ => []

def seesSerial (device : Composite β) : Event apart → List SerialSight
  | .controlIn request accept =>
    ((UsbFunction.controlIn request accept device.functions).value.1.map
      (.answered request)).toList
  | .controlOut request data =>
    ((UsbFunction.controlOut request data device.functions).value.1.map (.answered request)).toList
  | .readPacket capacity => [.read (device.serial.read capacity device.bus).1]
  | .lineCoding => [.lineCoding device.serial.lineCoding]
  | .controlLines => [.controlLines device.serial.dtr device.serial.rts]
  | _ => []

def vendorView (apart : Apart β ν) (device : Composite β) : Vendor × ν :=
  (device.vendor, apart.waiting ⟨0x04⟩ device.bus)

def serialView (apart : Apart β ν) (device : Composite β) : Serial × ν :=
  (device.serial, apart.waiting ⟨0x02⟩ device.bus)

theorem next_packetReceived_own (device : Composite β) :
    device.next (.packetReceived ⟨0x04⟩ : Event apart) =
      { device with
        vendor := device.vendor.keep (UsbBus.read ⟨0x04⟩ 32 device.bus).1
        bus := (UsbBus.read ⟨0x04⟩ 32 device.bus).2 } :=
  congrArg (fun received : Vendor × β => { device with vendor := received.1, bus := received.2 })
    (Vendor.value_receiveCommand device.vendor device.bus)

theorem next_packetReceived_foreign (device : Composite β) {address : EndpointAddress}
    (foreign : address ≠ ⟨0x04⟩) : device.next (.packetReceived address : Event apart) = device :=
  congrArg (fun received : Logged (Vendor × β) =>
    { device with vendor := received.value.1, bus := received.value.2 })
    (Vendor.packetReceived_foreign foreign device.vendor device.bus)

theorem seesVendor_packetReceived (device : Composite β) (address : EndpointAddress) :
    device.seesVendor (.packetReceived address : Event apart) =
      if address = ⟨0x04⟩ then [.read (Vendor.commandRead device.bus)] else [] := by
  show (UsbFunction.packetReceived address device.vendor
    (⟨device.bus, []⟩ : Tapped β)).value.2.reads.map _ = _
  rw [Vendor.packetReceived_tapped]
  by_cases own : address = ⟨0x04⟩
  · rw [if_pos own, if_pos own]
    rfl
  · rw [if_neg own, if_neg own]
    rfl

/-- Apart from changes of the bus, only the reads of the functions take what waits at an endpoint. -/
theorem waiting_next (device : Composite β) (event : Event apart) {endpoint : EndpointAddress}
    (inside : event.isChange = false)
    (elsewhere : ∀ source ∈ event.source?, endpoint.index ≠ source.index) :
    apart.waiting endpoint (device.next event).bus = apart.waiting endpoint device.bus := by
  cases event with
  | packetReceived address =>
    by_cases own : address = ⟨0x04⟩
    · subst own
      rw [next_packetReceived_own]
      exact apart.read_other (elsewhere ⟨0x04⟩ rfl) 32 device.bus
    · rw [next_packetReceived_foreign device own]
  | readPacket capacity => exact apart.read_other (elsewhere ⟨0x02⟩ rfl) capacity device.bus
  | writeSamples packet => exact apart.write endpoint _ packet device.bus
  | writeResponse data => exact apart.write endpoint _ data device.bus
  | writePacket data => exact apart.write endpoint _ data device.bus
  | changed change => cases inside
  | _ => rfl

theorem waiting_next_congr {device other : Composite β} {endpoint : EndpointAddress}
    (same : apart.waiting endpoint device.bus = apart.waiting endpoint other.bus) (event : Event apart)
    (elsewhere : ∀ source ∈ event.source?, endpoint.index ≠ source.index) :
    apart.waiting endpoint (device.next event).bus = apart.waiting endpoint (other.next event).bus := by
  by_cases inside : event.isChange = false
  · rw [waiting_next device event inside elsewhere, waiting_next other event inside elsewhere, same]
  · cases event with
    | changed change => exact change.waiting_run same
    | _ => exact absurd rfl inside

theorem vendor_unwinds :
    Unwinds (ε := Event apart) next seesVendor (vendorView apart) (fun _ => True)
      Event.concernsVendor where
  kept _ _ := True.intro
  concerned := by
    intro device other event concern same
    obtain ⟨vendor, waiting⟩ : device.vendor = other.vendor ∧
      apart.waiting ⟨0x04⟩ device.bus = apart.waiting ⟨0x04⟩ other.bus := Prod.mk.inj same
    have elsewhere := waiting_next_congr waiting event
    cases event with
    | packetReceived address =>
      obtain rfl : address = ⟨0x04⟩ := of_decide_eq_true concern
      obtain ⟨result, rest⟩ := apart.read_own ⟨0x04⟩ 32 waiting
      rw [seesVendor_packetReceived, seesVendor_packetReceived, Vendor.commandRead,
        Vendor.commandRead, result, vendorView, vendorView, next_packetReceived_own,
        next_packetReceived_own, result, rest, vendor]
      exact ⟨rfl, rfl⟩
    | reset | packetSent | takeCommand | sentCount | writeSamples | writeResponse | changed =>
      obtain ⟨vendor', serial', bus'⟩ := other
      subst vendor
      exact ⟨rfl, congrArg (Prod.mk _) (elsewhere nofun)⟩
    | controlIn | controlOut | readPacket | writePacket | lineCoding | controlLines => cases concern
  unconcerned := by
    intro device event foreign _
    cases event with
    | packetReceived address =>
      have other : address ≠ ⟨0x04⟩ := of_decide_eq_false foreign
      rw [seesVendor_packetReceived, if_neg other, next_packetReceived_foreign device other]
      exact ⟨rfl, rfl⟩
    | packetSent address =>
      obtain ⟨samples, responses⟩ := not_or.mp (of_decide_eq_false foreign)
      have uncounted : UsbFunction.packetSent address device.vendor = device.vendor :=
        (if_neg samples).trans (if_neg responses)
      exact ⟨rfl, congrArg (Prod.mk · (apart.waiting ⟨0x04⟩ device.bus)) uncounted⟩
    | readPacket capacity =>
      have elsewhere : ∀ source ∈ (Event.readPacket capacity : Event apart).source?,
          EndpointAddress.index ⟨0x04⟩ ≠ source.index := by
        rintro _ ⟨⟩
        decide
      exact ⟨rfl, congrArg (Prod.mk device.vendor) (waiting_next device _ rfl elsewhere)⟩
    | controlIn | controlOut | writePacket | lineCoding | controlLines =>
      exact ⟨rfl, congrArg (Prod.mk device.vendor) (waiting_next device _ rfl nofun)⟩
    | _ => cases foreign

theorem serial_unwinds (interface : UInt8) :
    Unwinds (ε := Event apart) next seesSerial (serialView apart)
      (fun view => view.1.controlInterface = interface) (Event.concernsSerial interface) where
  kept := by
    intro device event before
    cases event with
    | controlIn request accept =>
      show (device.serial.controlIn request accept).value.2.controlInterface = interface
      rw [Serial.value_controlIn]
      exact before
    | controlOut request data =>
      exact (device.serial.controlInterface_controlOut request data).trans before
    | _ => exact before
  concerned := by
    intro device other event concern same
    obtain ⟨serial, waiting⟩ : device.serial = other.serial ∧
      apart.waiting ⟨0x02⟩ device.bus = apart.waiting ⟨0x02⟩ other.bus := Prod.mk.inj same
    have elsewhere := waiting_next_congr waiting event
    obtain ⟨vendor', serial', bus'⟩ := other
    subst serial
    cases event with
    | readPacket capacity =>
      obtain ⟨result, rest⟩ := apart.read_own ⟨0x02⟩ capacity waiting
      exact ⟨congrArg ([SerialSight.read ·]) result, congrArg (Prod.mk device.serial) rest⟩
    | reset | controlIn | controlOut | writePacket | lineCoding | controlLines | changed =>
      exact ⟨rfl, congrArg (Prod.mk _) (elsewhere nofun)⟩
    | packetReceived | packetSent | takeCommand | sentCount | writeSamples | writeResponse =>
      cases concern
  unconcerned := by
    intro device event foreign (before : device.serial.controlInterface = interface)
    cases event with
    | controlIn request accept =>
      have other : ¬request.IsForClass device.serial.controlInterface := by
        rw [before]
        exact of_decide_eq_false foreign
      show ((device.serial.controlIn request accept).value.1.map _).toList = [] ∧
        ((device.serial.controlIn request accept).value.2, _) = _
      rw [device.serial.controlIn_foreign accept other]
      exact ⟨rfl, rfl⟩
    | controlOut request data =>
      have other : ¬request.IsForClass device.serial.controlInterface := by
        rw [before]
        exact of_decide_eq_false foreign
      show ((device.serial.controlOut request data).value.1.map _).toList = [] ∧
        ((device.serial.controlOut request data).value.2, _) = _
      rw [device.serial.controlOut_foreign data other]
      exact ⟨rfl, rfl⟩
    | packetReceived address =>
      have elsewhere : ∀ source ∈ (Event.packetReceived address : Event apart).source?,
          EndpointAddress.index ⟨0x02⟩ ≠ source.index := by
        intro source member
        obtain ⟨-, ⟨⟩⟩ := Option.mem_ite_none_right.mp member
        decide
      exact ⟨rfl, congrArg (Prod.mk device.serial) (waiting_next device _ rfl elsewhere)⟩
    | packetSent | takeCommand | sentCount | writeSamples | writeResponse =>
      exact ⟨rfl, congrArg (Prod.mk device.serial) (waiting_next device _ rfl nofun)⟩
    | _ => cases foreign

/-- Whatever happens, in any order: the program gets the same from the vendor interface, and the
interface reads the same on the bus, without all callbacks and calls that are not its own; and the host
and the program get the same from the serial port without all that are not its own. Each takes packets
from its own endpoint only. -/
theorem functions_kept_apart (apart : Apart β ν) (device : Composite β)
    (events : List (Event apart)) :
    sights next seesVendor device events =
        sights next seesVendor device (events.filter Event.concernsVendor) ∧
      sights next seesSerial device events =
        sights next seesSerial device
          (events.filter (Event.concernsSerial device.serial.controlInterface)) ∧
      (∀ (event : Event apart) (endpoint : EndpointAddress), event.isChange = false →
        (∀ source ∈ event.source?, endpoint.index ≠ source.index) →
          apart.waiting endpoint (device.next event).bus = apart.waiting endpoint device.bus) ∧
      ∀ (address : EndpointAddress) (bus : β),
        UsbFunction.packetReceived address device.serial bus = pure (device.serial, bus) :=
  ⟨vendor_unwinds.sights_filter True.intro rfl events,
    (serial_unwinds device.serial.controlInterface).sights_filter rfl rfl events,
    fun event _ inside elsewhere => waiting_next device event inside elsewhere,
    fun _ _ => rfl⟩

def crossed : List (Event Bench.PacketBus.apart) :=
  let lines : Request := ⟨.toDevice, .ofClass, .interface, 0x22, 3, 1, 0⟩
  [.changed (Bench.PacketBus.hostChange (.send (EndpointAddress.index ⟨0x04⟩) [0xC0, 0x01])),
    .changed (Bench.PacketBus.hostChange (.send (EndpointAddress.index ⟨0x02⟩) [0x41])),
    .packetReceived ⟨0x02⟩, .packetReceived ⟨0x04⟩,
    .controlOut lines [], .controlOut { lines with kind := .ofVendor, index := 0 } [],
    .packetSent ⟨0x82⟩, .packetSent ⟨0x83⟩, .writePacket [0x42], .readPacket 64,
    .writeResponse [0x43], .controlLines, .takeCommand, .sentCount ⟨0x83⟩]

theorem crossed_kept_apart :
    let device : Composite Bench.PacketBus :=
      ⟨⟨0, 4, 5, none, 0, 0⟩, ⟨1, 2, 6, .standard, false, false⟩, .fresh [] none⟩
    let lines : Request := ⟨.toDevice, .ofClass, .interface, 0x22, 3, 1, 0⟩
    sights next seesVendor device crossed =
        [.read ⟨⟨0x04⟩, 32, .ok [0xC0, 0x01]⟩, .took (some [0xC0, 0x01]), .counted ⟨0x83⟩ 1] ∧
      sights next seesSerial device crossed =
        [.answered lines (.accept []), .read (.ok [0x41]), .controlLines true true] ∧
      (crossed.filter Event.concernsVendor).length = 7 ∧
      (crossed.filter (Event.concernsSerial 1)).length = 6 := by
  intro device lines
  obtain ⟨vendor, serial, -⟩ := functions_kept_apart Bench.PacketBus.apart device crossed
  exact ⟨vendor.trans rfl, serial.trans rfl, rfl, rfl⟩

end Composite

end Gadget
