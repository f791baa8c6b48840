import Gadget.Bench.PacketBus
import Gadget.Proofs.Usb.Callback
import Gadget.Vendor

namespace Gadget.Vendor

/-- What the device tells the interface, and the program's calls for the packet it holds. -/
inductive Event (β : Type)
  | told (callback : Callback β)
  | taken

inductive Outcome
  | replied (reply : Option Reply)
  | took (command : Option Bytes)

def Outcome.packet? : Outcome → Option Bytes
  | replied _ => none
  | took command => command

variable {β : Type} [UsbBus β]

def initial (interface name nativeName : UInt8) : Vendor :=
  ⟨interface, name, nativeName, none, 0, 0⟩

def overwritten : Record := ⟨.warn, target, .ofString "Unread command packet overwritten"⟩

def step (vendor : Vendor) : Event β → Logged (Outcome × Vendor)
  | .told callback => do
    let (reply, next) ← UsbFunction.handle vendor callback
    pure (.replied reply, next)
  | .taken => pure (.took vendor.takeCommand.1, vendor.takeCommand.2)

def after (vendor : Vendor) (events : List (Event β)) : Vendor :=
  events.foldl (fun vendor event => (vendor.step event).value.2) vendor

theorem after_append_singleton (vendor : Vendor) (events : List (Event β)) (event : Event β) :
    vendor.after (events ++ [event]) = ((vendor.after events).step event).value.2 :=
  List.foldl_append

namespace Event

def packet? : Event β → Option Bytes
  | told (.packetReceived address bus) =>
    if address = ⟨0x04⟩ then (UsbBus.read ⟨0x04⟩ 32 bus).1.toOption else none
  | _ => none

def isReset : Event β → Bool
  | told callback => callback.isReset
  | taken => false

def empties : Event β → Bool
  | told callback => callback.isReset
  | taken => true

def isSent (address : EndpointAddress) : Event β → Bool
  | told (.packetSent sent) => sent = address
  | _ => false

/-- Failed reads, traffic of other functions, and every control request. -/
def IsIdle : Event β → Prop
  | told .reset | taken => False
  | told (.controlIn _ _) | told (.controlOut _ _) => True
  | told (.packetReceived address bus) =>
    address = ⟨0x04⟩ → ∃ error, (UsbBus.read ⟨0x04⟩ 32 bus).1 = .error error
  | told (.packetSent address) => address ≠ ⟨0x83⟩ ∧ address ≠ ⟨0x84⟩

end Event

omit [UsbBus β] in
theorem eq_initial_of_allocate {α : Type} [UsbAllocator α β] {allocator next : α} {vendor : Vendor}
    (allocated : (allocate allocator).value = (.ok vendor, next)) :
    vendor = initial Identity.vendorInterface Identity.vendorNameIndex
      Identity.nativeNameIndex := by
  unfold allocate at allocated
  dsimp only at allocated
  split at allocated
  case isTrue place =>
    obtain ⟨interface, name, nativeName⟩ := place
    split at allocated
    · cases allocated
    · cases allocated
      rw [interface, name, nativeName]
      rfl
  case isFalse => cases allocated

theorem count_overwritten_trace (text : String) :
    [(⟨.trace, target, .ofString text⟩ : Record)].count overwritten = 0 := by
  apply List.count_eq_zero.mpr
  intro member
  have same := congrArg Record.level (List.mem_singleton.mp member)
  cases same

theorem receiveCommand_of_ok (vendor : Vendor) {bus next : β} {packet : Bytes}
    (read : UsbBus.read ⟨0x04⟩ 32 bus = (.ok packet, next)) :
    (vendor.receiveCommand bus).value.1 = { vendor with command := some packet } ∧
      (vendor.receiveCommand bus).records.count overwritten = vendor.command.isSome.toNat := by
  have received : UsbBus.read Identity.commandOut.address Identity.commandOut.packetSize.toNat bus =
      (.ok packet, next) := read
  unfold receiveCommand
  rw [received]
  cases vendor.command with
  | none => exact ⟨rfl, count_overwritten_trace _⟩
  | some unread =>
    have warned := congrArg Nat.succ (count_overwritten_trace
      ("Received command packet, " ++ Text.upperHex packet.length ++ " bytes"))
    exact ⟨rfl, List.count_cons_self.trans warned⟩

theorem receiveCommand_of_error (vendor : Vendor) {bus next : β} {error : UsbError}
    (read : UsbBus.read ⟨0x04⟩ 32 bus = (.error error, next)) :
    (vendor.receiveCommand bus).value.1 = vendor ∧
      (vendor.receiveCommand bus).records.count overwritten = 0 := by
  have received : UsbBus.read Identity.commandOut.address Identity.commandOut.packetSize.toNat bus =
      (.error error, next) := read
  have failed : [(⟨.warn, target,
      .ofString ("Failed to read command packet - " ++ error.name)⟩ : Record)].count overwritten =
        0 := by
    cases error <;> decide +kernel
  unfold receiveCommand
  rw [received]
  cases error with
  | wouldBlock => exact ⟨rfl, rfl⟩
  | _ => exact ⟨rfl, failed⟩

/-- All that an event can come to. -/
inductive Moves (vendor : Vendor) : Event β → Logged (Outcome × Vendor) → Prop
  | taken : Moves vendor .taken ⟨(.took vendor.command, { vendor with command := none }), []⟩
  | reset (record : Record) (other : [record].count overwritten = 0) :
      Moves vendor (.told .reset) ⟨(.replied none,
        { vendor with command := none, samplesSent := 0, responsesSent := 0 }), [record]⟩
  | received {address : EndpointAddress} {bus : β} {packet : Bytes} {records : List Record}
      (read : (Event.told (.packetReceived address bus)).packet? = some packet)
      (warned : records.count overwritten = vendor.command.isSome.toNat) :
      Moves vendor (.told (.packetReceived address bus))
        ⟨(.replied none, { vendor with command := some packet }), records⟩
  | samplesSent : Moves vendor (.told (.packetSent ⟨0x83⟩))
      ⟨(.replied none, { vendor with samplesSent := vendor.samplesSent + 1 }), []⟩
  | responsesSent : Moves vendor (.told (.packetSent ⟨0x84⟩))
      ⟨(.replied none, { vendor with responsesSent := vendor.responsesSent + 1 }), []⟩
  | idle {callback : Callback β} {records : List Record} (idle : (Event.told callback).IsIdle)
      (silent : records.count overwritten = 0) :
      Moves vendor (.told callback) ⟨(.replied none, vendor), records⟩

theorem count_overwritten_decline (vendor : Vendor) (name : String) (request : Request) :
    (vendor.decline name request).records.count overwritten = 0 := by
  unfold decline
  split
  · exact count_overwritten_trace _
  · rfl

theorem step_told (vendor : Vendor) (callback : Callback β) :
    vendor.step (.told callback) =
      ⟨(.replied (UsbFunction.handle vendor callback).value.1,
        (UsbFunction.handle vendor callback).value.2),
      (UsbFunction.handle vendor callback).records⟩ :=
  congrArg (Logged.mk _) (List.append_nil _)

theorem moves_declined (vendor : Vendor) (name : String) (request : Request)
    {callback : Callback β} (idle : (Event.told callback).IsIdle) :
    Moves vendor (.told callback)
      ⟨(.replied none, vendor), (vendor.decline name request).records ++ []⟩ := by
  apply Moves.idle idle
  rw [List.append_nil]
  exact count_overwritten_decline vendor name request

theorem moves_packetReceived (vendor : Vendor) (address : EndpointAddress) (bus : β) :
    Moves vendor (.told (.packetReceived address bus))
      (vendor.step (.told (.packetReceived address bus))) := by
  have handled : UsbFunction.handle vendor (.packetReceived address bus) =
      ⟨(none, (UsbFunction.packetReceived address vendor bus).value.1),
        (UsbFunction.packetReceived address vendor bus).records⟩ :=
    congrArg (Logged.mk _) (List.append_nil _)
  rw [step_told, handled]
  by_cases own : address = ⟨0x04⟩
  · have received : UsbFunction.packetReceived address vendor bus = vendor.receiveCommand bus :=
      if_pos own
    rw [received]
    rcases read : UsbBus.read ⟨0x04⟩ 32 bus with ⟨result, next⟩
    cases result with
    | ok packet =>
      obtain ⟨value, warned⟩ := receiveCommand_of_ok vendor read
      rw [value]
      refine .received ?_ warned
      rw [Event.packet?, if_pos own, read]
      rfl
    | error error =>
      obtain ⟨value, silent⟩ := receiveCommand_of_error vendor read
      rw [value]
      exact .idle (fun _ => ⟨error, congrArg Prod.fst read⟩) silent
  · have foreign : UsbFunction.packetReceived address vendor bus = pure (vendor, bus) := if_neg own
    rw [foreign]
    exact .idle (fun command => absurd command own) rfl

theorem moves_packetSent (vendor : Vendor) (address : EndpointAddress) :
    Moves vendor (.told (.packetSent address : Callback β))
      (vendor.step (.told (.packetSent address : Callback β))) := by
  have handled : UsbFunction.handle vendor (.packetSent address : Callback β) =
      ⟨(none, UsbFunction.packetSent address vendor), []⟩ := rfl
  rw [step_told, handled]
  by_cases samples : address = ⟨0x83⟩
  · subst samples
    exact .samplesSent
  by_cases responses : address = ⟨0x84⟩
  · subst responses
    exact .responsesSent
  have foreign : UsbFunction.packetSent address vendor = vendor :=
    (if_neg samples).trans (if_neg responses)
  rw [foreign]
  exact .idle ⟨samples, responses⟩ rfl

theorem moves (vendor : Vendor) (event : Event β) : Moves vendor event (vendor.step event) := by
  cases event with
  | taken => exact .taken
  | told callback =>
    cases callback with
    | reset => exact .reset _ (by decide +kernel)
    | controlIn request accept =>
      rw [step_told]
      exact moves_declined vendor "ctrl_in" request True.intro
    | controlOut request data =>
      rw [step_told]
      exact moves_declined vendor "ctrl_out" request True.intro
    | packetReceived address bus => exact moves_packetReceived vendor address bus
    | packetSent address => exact moves_packetSent vendor address

namespace Event

variable {callback : Callback β}

theorem packet?_of_idle (idle : (told callback).IsIdle) : (told callback).packet? = none := by
  cases callback with
  | packetReceived address bus =>
    by_cases own : address = ⟨0x04⟩
    · obtain ⟨error, failed⟩ := idle own
      rw [packet?, if_pos own, failed]
      rfl
    · exact if_neg own
  | _ => rfl

theorem isReset_of_idle (idle : (told callback).IsIdle) : callback.isReset = false := by
  cases callback with
  | reset => exact idle.elim
  | _ => rfl

theorem isSent_of_idle (idle : (told callback).IsIdle) {address : EndpointAddress}
    (own : address = ⟨0x83⟩ ∨ address = ⟨0x84⟩) : (told callback).isSent address = false := by
  cases callback with
  | packetSent sent =>
    apply decide_eq_false
    rintro rfl
    exact own.elim idle.1 idle.2
  | _ => rfl

end Event

namespace Moves

variable {vendor : Vendor} {event : Event β} {done : Logged (Outcome × Vendor)}

theorem command (moves : Moves vendor event done) :
    done.value.2.command = if event.empties then none else event.packet?.or vendor.command := by
  cases moves with
  | received read => rw [read]; rfl
  | idle idle =>
    have running : Event.empties (.told _) = false := Event.isReset_of_idle idle
    rw [running, Event.packet?_of_idle idle]
    rfl
  | _ => rfl

theorem sentCount (moves : Moves vendor event done) {address : EndpointAddress}
    (own : address = ⟨0x83⟩ ∨ address = ⟨0x84⟩) :
    done.value.2.sentCount address =
      if event.isReset then 0
      else vendor.sentCount address + UInt32.ofNat (event.isSent address).toNat := by
  cases moves with
  | idle idle =>
    have running : Event.isReset (.told _) = false := Event.isReset_of_idle idle
    rw [running, Event.isSent_of_idle idle own]
    exact (UInt32.add_zero _).symm
  | reset => rcases own with rfl | rfl <;> rfl
  | samplesSent =>
    rcases own with rfl | rfl
    · rfl
    · exact (UInt32.add_zero _).symm
  | responsesSent =>
    rcases own with rfl | rfl
    · exact (UInt32.add_zero _).symm
    · rfl
  | _ => rcases own with rfl | rfl <;> exact (UInt32.add_zero _).symm

theorem balance (moves : Moves vendor event done) :
    event.packet?.isSome.toNat + vendor.command.isSome.toNat =
      done.value.1.packet?.isSome.toNat + done.records.count overwritten +
        (event.isReset && vendor.command.isSome).toNat + done.value.2.command.isSome.toNat := by
  cases moves with
  | taken => exact Nat.add_comm _ _
  | reset record other =>
    rw [other]
    simp [Event.packet?, Outcome.packet?, Event.isReset, Callback.isReset]
  | received read warned =>
    rw [warned, read]
    simp [Outcome.packet?, Event.isReset, Callback.isReset, Nat.add_comm]
  | idle idle silent =>
    have running : Event.isReset (.told _) = false := Event.isReset_of_idle idle
    rw [silent, running, Event.packet?_of_idle idle]
    simp [Outcome.packet?]
  | samplesSent => simp [Event.packet?, Outcome.packet?, Event.isReset, Callback.isReset]
  | responsesSent => simp [Event.packet?, Outcome.packet?, Event.isReset, Callback.isReset]

theorem unanswered {callback : Callback β} (moves : Moves vendor (.told callback) done) :
    done.value.1 = .replied none := by
  cases moves <;> rfl

theorem unchanged {callback : Callback β} (moves : Moves vendor (.told callback) done)
    (idle : (Event.told callback).IsIdle) : done.value.2 = vendor := by
  cases moves with
  | reset => exact idle.elim
  | received read =>
    rw [Event.packet?_of_idle idle] at read
    cases read
  | samplesSent => exact absurd rfl idle.1
  | responsesSent => exact absurd rfl idle.2
  | idle => rfl

end Moves

structure Turn (β : Type) where
  found : Vendor
  event : Event β

namespace Turn

def done (turn : Turn β) : Logged (Outcome × Vendor) := turn.found.step turn.event

def takes (turn : Turn β) : Bool := turn.done.value.1.packet?.isSome

def clears (turn : Turn β) : Bool := turn.event.isReset && turn.found.command.isSome

end Turn

def turns (vendor : Vendor) : List (Event β) → List (Turn β)
  | [] => []
  | event :: events => ⟨vendor, event⟩ :: turns (vendor.step event).value.2 events

def records (vendor : Vendor) (events : List (Event β)) : List Record :=
  (vendor.turns events).flatMap fun turn => turn.done.records

theorem countP_cons_toNat {α : Type} (counts : α → Bool) (a : α) (rest : List α) :
    (a :: rest).countP counts = rest.countP counts + (counts a).toNat := by
  rw [List.countP_cons]
  cases counts a <;> rfl

theorem run_balance (vendor : Vendor) (events : List (Event β)) :
    events.countP (·.packet?.isSome) + vendor.command.isSome.toNat =
      (vendor.turns events).countP Turn.takes + (vendor.records events).count overwritten +
        (vendor.turns events).countP Turn.clears +
        (vendor.after events).command.isSome.toNat := by
  induction events generalizing vendor with
  | nil => rfl
  | cons event events ih =>
    have first := (vendor.moves event).balance
    have rest := ih (vendor.step event).value.2
    have after : vendor.after (event :: events) = (vendor.step event).value.2.after events := rfl
    have logged : (vendor.records (event :: events)).count overwritten =
        (vendor.step event).records.count overwritten +
          ((vendor.step event).value.2.records events).count overwritten := List.count_append
    have takes : Turn.takes ⟨vendor, event⟩ = (vendor.step event).value.1.packet?.isSome := rfl
    have clears : Turn.clears ⟨vendor, event⟩ = (event.isReset && vendor.command.isSome) := rfl
    -- What `first` has as held after the event, `rest` has as held before the others.
    simp only [turns, countP_cons_toNat, takes, clears, logged, after]
    omega

theorem command_after (interface name nativeName : UInt8) (events : List (Event β)) :
    ((initial interface name nativeName).after events).command =
      Events.latest Event.empties Event.packet? events := by
  induction events using List.reverseRecOn with
  | nil => rfl
  | append_singleton events event ih =>
    rw [after_append_singleton, Events.latest_append_singleton, ← ih]
    exact (moves _ event).command

theorem sentCount_after (interface name nativeName : UInt8) (events : List (Event β))
    {address : EndpointAddress} (own : address = ⟨0x83⟩ ∨ address = ⟨0x84⟩) :
    ((initial interface name nativeName).after events).sentCount address =
      UInt32.ofNat (Events.count Event.isReset (Event.isSent address) events) := by
  induction events using List.reverseRecOn with
  | nil => rcases own with rfl | rfl <;> rfl
  | append_singleton events event ih =>
    rw [after_append_singleton, Events.count_append_singleton, (moves _ event).sentCount own, ih]
    cases event.isReset with
    | true => rfl
    | false => exact (UInt32.ofNat_add _ _).symm

theorem sentCount_of_foreign (vendor : Vendor) {address : EndpointAddress}
    (other : ¬(address = ⟨0x83⟩ ∨ address = ⟨0x84⟩)) : vendor.sentCount address = 0 := by
  obtain ⟨samples, responses⟩ := not_or.mp other
  exact (if_neg samples).trans (if_neg responses)

/-- Whatever happened since the interface was allocated, the packet it holds is the last one read
since the program took one or the bus was reset. Every packet read was taken, overwritten with a
warning, cleared by a reset, or is still held. Completed packets are counted for each endpoint since
the last reset. No request is answered. -/
theorem packets_accounted (interface name nativeName : UInt8) (events : List (Event β)) :
    let fresh := initial interface name nativeName
    let vendor := fresh.after events
    (vendor.step (.taken : Event β)).value.1 =
        .took (Events.latest Event.empties Event.packet? events) ∧
      events.countP (·.packet?.isSome) =
        (fresh.turns events).countP Turn.takes + (fresh.records events).count overwritten +
          (fresh.turns events).countP Turn.clears + vendor.command.isSome.toNat ∧
      (∀ address, (vendor.sentCount address).toNat =
        if address = ⟨0x83⟩ ∨ address = ⟨0x84⟩ then
          Events.count Event.isReset (Event.isSent address) events % UInt32.size
        else 0) ∧
      ∀ callback : Callback β, (vendor.step (.told callback)).value.1 = .replied none ∧
        ((Event.told callback).IsIdle → (vendor.step (.told callback)).value.2 = vendor) := by
  intro fresh vendor
  refine ⟨?_, run_balance fresh events, ?_, ?_⟩
  · rw [← command_after interface name nativeName]
    rfl
  · intro address
    split
    case isTrue own =>
      rw [sentCount_after interface name nativeName events own]
      exact UInt32.toNat_ofNat'
    case isFalse other =>
      rw [sentCount_of_foreign vendor other]
      rfl
  · intro callback
    exact ⟨(vendor.moves _).unanswered, (vendor.moves _).unchanged⟩

/-- The first packet is overwritten by the second, which is taken; a reset clears the third, and the
fourth, an empty one, is held. -/
def fourPackets : List (Event Bench.PacketBus) :=
  let arrival (packet : Bytes) : Event Bench.PacketBus :=
    let sent := (Bench.PacketBus.fresh [] none).host (.send (EndpointAddress.index ⟨0x04⟩) packet)
    .told (.packetReceived ⟨0x04⟩ sent.2)
  [arrival [1], arrival [2, 2], .taken, arrival [3], .told .reset, arrival []]

theorem fourPackets_accounted :
    let fresh := initial 0 4 5
    let vendor := fresh.after fourPackets
    fourPackets.countP (·.packet?.isSome) = 4 ∧
      (fresh.turns fourPackets).countP Turn.takes = 1 ∧
      (fresh.records fourPackets).count overwritten = 1 ∧
      (fresh.turns fourPackets).countP Turn.clears = 1 ∧
      vendor.command.isSome.toNat = 1 ∧
      (vendor.step (.taken : Event Bench.PacketBus)).value.1 = .took (some []) := by
  intro fresh vendor
  have read : fourPackets.countP (·.packet?.isSome) = 4 := by decide +kernel
  have takes : (fresh.turns fourPackets).countP Turn.takes = 1 := by decide +kernel
  have warned : (fresh.records fourPackets).count overwritten = 1 := by decide +kernel
  have clears : (fresh.turns fourPackets).countP Turn.clears = 1 := by decide +kernel
  have last : Events.latest Event.empties Event.packet? fourPackets = some [] := by decide +kernel
  obtain ⟨took, balance, -, -⟩ := packets_accounted 0 4 5 fourPackets
  rw [last] at took
  rw [read, takes, warned, clears] at balance
  have held : ((initial 0 4 5).after fourPackets).command.isSome.toNat = 1 := by omega
  exact ⟨read, takes, warned, clears, held, took⟩

end Gadget.Vendor
