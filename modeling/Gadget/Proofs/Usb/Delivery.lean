import Gadget.Bench.Stack
import Gadget.Proofs.Usb.Callback
import Mathlib.Data.List.Nodup

namespace Gadget

def UsbFunction.LogsDescribing (κ : Type) [UsbFunction κ] (record : Record) : Prop :=
  ∃ (ω : Type) (_ : DescriptorWriter ω) (function : κ) (writer : ω),
    record ∈ (describe function writer).records

/-- What devices are documented to do in a poll. They call the functions for the event that the bus has
brought: for a packet only in a poll that says so, once for each endpoint, and not beside a reset. -/
structure UsbDevice.Delivery (δ κ β : Type) [UsbDevice δ] [UsbFunction κ] [UsbBus β] where
  calls : δ → κ → β → List (Callback β)
  told (device : δ) (functions : κ) (bus : β) :
    (poll device functions bus).value.functions =
      UsbFunction.after functions (calls device functions bus)
  records {device : δ} {functions : κ} {bus : β} {record : Record}
    (logged : record ∈ (poll device functions bus).records) :
    record ∈ UsbFunction.records functions (calls device functions bus) ∨
      UsbFunction.LogsDescribing κ record
  brought {device : δ} {functions : κ} {bus : β} {address : EndpointAddress} {found : β}
    (received : .packetReceived address found ∈ calls device functions bus) :
    (poll device functions bus).value.brought = true
  once (device : δ) (functions : κ) (bus : β) :
    ((calls device functions bus).filterMap Callback.received?).Nodup
  reset {device : δ} {functions : κ} {bus : β} (reset : .reset ∈ calls device functions bus) :
    (poll device functions bus).value.brought = false

namespace Bench

namespace Stack

variable {κ β : Type} [UsbBus β]

theorem functions_standardOut {stack changed : Stack κ β} {request : Request}
    (out : stack.standardOut request = some changed) : changed.functions = stack.functions := by
  unfold standardOut at out
  split at out
  case h_5 | h_7 =>
    split at out
    all_goals cases out
    all_goals rfl
  all_goals cases out
  all_goals rfl

theorem functions_controlSent (stack : Stack κ β) (sent : Bool) :
    (stack.controlSent sent).functions = stack.functions := by
  have settled (stack : Stack κ β) : stack.settleAddress.functions = stack.functions := by
    unfold settleAddress
    split <;> rfl
  cases sent with
  | false => rfl
  | true =>
    unfold controlSent
    rcases stack.device.pipe.packetSent stack.bus with ⟨ended, pipe⟩
    cases ended with
    | false => rfl
    | true => exact settled (stack.withPipe pipe)

def arrivalCalls (stack : Stack κ β) : Option Arrival → List (Callback β)
  | none => []
  | some arrival =>
    match arrival.request.direction with
    | .toHost =>
      [.controlIn arrival.request (stack.device.pipe.accepts arrival.request stack.bus)]
    | .toDevice => [.controlOut arrival.request arrival.data]

def controlCalls (stack : Stack κ β) (received sent setup : Bool) : List (Callback β) :=
  let stack := stack.controlSent sent
  let (arrival, pipe) := stack.controlArrival received setup
  (stack.withPipe pipe).arrivalCalls arrival

theorem received?_controlCalls (stack : Stack κ β) (received sent setup : Bool) :
    (stack.controlCalls received sent setup).filterMap Callback.received? = [] := by
  have arrival (stack : Stack κ β) (arrival : Option Arrival) :
      (stack.arrivalCalls arrival).filterMap Callback.received? = [] := by
    cases arrival with
    | none => rfl
    | some arrival =>
      dsimp only [arrivalCalls]
      cases arrival.request.direction <;> rfl
  exact arrival _ _

theorem reset_not_mem_controlCalls (stack : Stack κ β) (received sent setup : Bool) :
    .reset ∉ stack.controlCalls received sent setup := by
  have arrival (stack : Stack κ β) (arrival : Option Arrival) : .reset ∉ stack.arrivalCalls arrival := by
    cases arrival with
    | none => exact List.not_mem_nil
    | some arrival =>
      dsimp only [arrivalCalls]
      cases arrival.request.direction <;> simp
  exact arrival _ _

variable [UsbFunction κ]

def packetCalls (received setup : Vector Bool 16) (stack : Stack κ β) (index : Fin 16) :
    List (Callback β) :=
  if received.get index && !setup.get index then [.packetReceived (.output index) stack.bus] else []

def countCalls (sent : Vector Bool 16) (index : Fin 16) : List (Callback β) :=
  if sent.get index then [.packetSent (.input index)] else []

def endpointCalls (received sent setup : Vector Bool 16) :
    List (Fin 16) → Stack κ β → List (Callback β)
  | [], _ => []
  | index :: rest, stack =>
    (packetCalls received setup stack index ++ countCalls sent index) ++
      endpointCalls received sent setup rest
        (endpointEvents received sent setup stack index).value

def eventCalls (stack : Stack κ β) : BusEvent → List (Callback β)
  | .none | .resume | .suspend => []
  | .reset => [.reset]
  | .data received sent setup =>
    let own := EndpointAddress.controlIndex
    stack.controlCalls (received.get own) (sent.get own) (setup.get own) ++
      endpointCalls received sent setup dataEndpoints
        (stack.control (received.get own) (sent.get own) (setup.get own)).value

def pollCalls (stack : Stack κ β) : List (Callback β) :=
  let (event, bus) := UsbBus.poll stack.bus
  let stack := { stack with bus }
  if stack.sleepsOn event then []
  else eventCalls { stack with device := { stack.device with isSuspended := false } } event

structure Tells (functions : κ) (calls : List (Callback β)) (outcome : Logged (Stack κ β)) :
    Prop where
  told : outcome.value.functions = UsbFunction.after functions calls
  records : ∀ record ∈ outcome.records,
    record ∈ UsbFunction.records functions calls ∨ UsbFunction.LogsDescribing κ record

namespace Tells

variable {functions : κ} {calls more : List (Callback β)} {outcome : Logged (Stack κ β)}

theorem pure {stack : Stack κ β} (same : stack.functions = functions) :
    Tells functions [] (Pure.pure stack) :=
  ⟨same, fun _ member => absurd member List.not_mem_nil⟩

theorem bind {next : Stack κ β → Logged (Stack κ β)} (first : Tells functions calls outcome)
    (second : Tells outcome.value.functions more (next outcome.value)) :
    Tells functions (calls ++ more) (outcome >>= next) where
  told := by
    rw [UsbFunction.after_append, ← first.told]
    exact second.told
  records := by
    intro record member
    rw [UsbFunction.records_append, ← first.told, List.mem_append]
    rcases List.mem_append.mp member with early | late
    · exact (first.records record early).imp_left .inl
    · exact (second.records record late).imp_left .inr

theorem single {callback : Callback β}
    (told : outcome.value.functions = (UsbFunction.handle functions callback).value.2)
    (records : ∀ record ∈ outcome.records,
      record ∈ (UsbFunction.handle functions callback).records ∨
        UsbFunction.LogsDescribing κ record) : Tells functions [callback] outcome where
  told := told
  records record member := (records record member).imp_left fun own =>
    List.mem_append_left (UsbFunction.records _ []) own

end Tells

theorem records_standardIn (stack : Stack κ β) (request : Request) :
    ∀ record ∈ (stack.standardIn request).records, UsbFunction.LogsDescribing κ record := by
  have nothing : ∀ record ∈ ([] : List Record), UsbFunction.LogsDescribing κ record :=
    List.forall_mem_nil _
  have configuration :
      ∀ record ∈ stack.configuration.records, UsbFunction.LogsDescribing κ record := by
    intro record member
    unfold Stack.configuration at member
    dsimp only at member
    split at member
    · cases member
    · rcases List.mem_append.mp member with described | finished
      · exact ⟨_, _, _, _, described⟩
      · dsimp only at finished
        split at finished <;> cases finished
  have descriptor (kind index : Nat) :
      ∀ record ∈ (stack.descriptor? kind index).records, UsbFunction.LogsDescribing κ record := by
    unfold descriptor?
    split
    case h_2 => exact configuration
    all_goals exact nothing
  unfold standardIn
  split
  case h_4 => exact descriptor _ _
  all_goals exact nothing

theorem dispatchIn_tells (stack : Stack κ β) (request : Request) :
    Tells stack.functions
      [.controlIn request (stack.device.pipe.accepts request stack.bus)]
      (stack.dispatchIn request) := by
  unfold dispatchIn
  have handled : UsbFunction.handle stack.functions
      (.controlIn request (stack.device.pipe.accepts request stack.bus) : Callback β) =
        UsbFunction.controlIn request (stack.device.pipe.accepts request stack.bus)
          stack.functions := rfl
  rcases asked : UsbFunction.controlIn request (stack.device.pipe.accepts request stack.bus)
    stack.functions with ⟨⟨reply, functions⟩, records⟩
  rw [asked] at handled
  apply Tells.single
  · rw [handled]
    cases reply <;> rfl
  · intro record member
    rw [handled]
    rcases List.mem_append.mp member with early | late
    · exact .inl early
    · cases reply with
      | some reply => cases late
      | none =>
        rcases List.mem_append.mp late with own | finished
        · exact .inr (records_standardIn _ request record own)
        · cases finished

theorem dispatchOut_tells (stack : Stack κ β) (request : Request) (data : Bytes) :
    Tells stack.functions [.controlOut request data] (stack.dispatchOut request data) := by
  unfold dispatchOut
  have handled : UsbFunction.handle stack.functions (.controlOut request data : Callback β) =
      UsbFunction.controlOut request data stack.functions := rfl
  rcases asked : UsbFunction.controlOut request data stack.functions with
    ⟨⟨reply, functions⟩, records⟩
  rw [asked] at handled
  show Tells _ _ (⟨_, records ++ _⟩ : Logged (Stack κ β))
  apply Tells.single
  · rw [handled]
    cases reply with
    | some reply => rfl
    | none =>
      dsimp only
      cases out : standardOut { stack with functions } request with
      | none => rfl
      | some changed => exact functions_standardOut out
  · intro record member
    rw [handled]
    rcases List.mem_append.mp member with early | late
    · exact .inl early
    · cases reply with
      | some reply => cases late
      | none =>
        dsimp only at late
        cases out : standardOut { stack with functions } request <;>
          (rw [out] at late; cases late)

theorem dispatch_tells (stack : Stack κ β) (arrival : Option Arrival) :
    Tells stack.functions (stack.arrivalCalls arrival) (stack.dispatch arrival) := by
  cases arrival with
  | none => exact .pure rfl
  | some arrival =>
    dsimp only [arrivalCalls, dispatch]
    cases arrival.request.direction with
    | toHost => exact dispatchIn_tells stack arrival.request
    | toDevice => exact dispatchOut_tells stack arrival.request arrival.data

theorem control_tells (stack : Stack κ β) (received sent setup : Bool) :
    Tells stack.functions (stack.controlCalls received sent setup)
      (stack.control received sent setup) := by
  unfold control controlCalls
  rw [← functions_controlSent stack sent]
  generalize stack.controlSent sent = stack
  exact dispatch_tells (stack.withPipe (stack.controlArrival received setup).2)
    (stack.controlArrival received setup).1

theorem receivePacket_tells (received setup : Vector Bool 16) (stack : Stack κ β)
    (index : Fin 16) :
    Tells stack.functions (packetCalls received setup stack index)
      (stack.receivePacket received setup index) := by
  unfold receivePacket packetCalls
  split
  · exact Tells.single rfl fun _ member => .inl member
  · exact .pure rfl

theorem countPacket_tells (sent : Vector Bool 16) (stack : Stack κ β) (index : Fin 16) :
    Tells stack.functions (countCalls sent index) (pure (stack.countPacket sent index)) := by
  unfold countPacket countCalls
  split
  · exact Tells.single rfl nofun
  · exact .pure rfl

theorem endpointEvents_tells (received sent setup : Vector Bool 16) (stack : Stack κ β)
    (index : Fin 16) :
    Tells stack.functions (packetCalls received setup stack index ++ countCalls sent index)
      (endpointEvents received sent setup stack index) :=
  (receivePacket_tells received setup stack index).bind (countPacket_tells sent _ index)

theorem foldlM_tells (received sent setup : Vector Bool 16) (indices : List (Fin 16))
    (stack : Stack κ β) :
    Tells stack.functions (endpointCalls received sent setup indices stack)
      (indices.foldlM (endpointEvents received sent setup) stack) := by
  induction indices generalizing stack with
  | nil => exact .pure rfl
  | cons index rest ih =>
    rw [List.foldlM_cons, endpointCalls]
    exact (endpointEvents_tells received sent setup stack index).bind (ih _)

theorem reset_tells (stack : Stack κ β) : Tells stack.functions [.reset] stack.reset :=
  Tells.single rfl fun _ member => .inl member

theorem data_tells (received sent setup : Vector Bool 16) (stack : Stack κ β) :
    Tells stack.functions (stack.eventCalls (.data received sent setup))
      (stack.data received sent setup) :=
  (control_tells stack _ _ _).bind (foldlM_tells received sent setup dataEndpoints _)

theorem handle_tells (stack : Stack κ β) (event : BusEvent) :
    Tells stack.functions (stack.eventCalls event)
      ⟨(stack.handle event).value.2, (stack.handle event).records⟩ := by
  cases event with
  | none | resume | suspend => exact .pure rfl
  | reset =>
    have reset := reset_tells stack
    exact ⟨reset.told, fun record member => reset.records record (by simpa [handle] using member)⟩
  | data received sent setup =>
    have data := data_tells received sent setup stack
    exact ⟨data.told, fun record member => data.records record (by simpa [handle] using member)⟩

theorem poll_tells (stack : Stack κ β) :
    Tells stack.functions stack.pollCalls ⟨stack.poll.value.2, stack.poll.records⟩ := by
  let polled : Stack κ β := { stack with bus := (UsbBus.poll stack.bus).2 }
  let awake : Stack κ β := { polled with device := { stack.device with isSuspended := false } }
  unfold poll pollCalls
  dsimp only
  split
  · exact .pure rfl
  · exact handle_tells awake (UsbBus.poll stack.bus).1

theorem received?_endpointCalls (received sent setup : Vector Bool 16) (indices : List (Fin 16))
    (stack : Stack κ β) :
    (endpointCalls received sent setup indices stack).filterMap Callback.received? =
      (indices.filter fun index => received.get index && !setup.get index).map
        EndpointAddress.output := by
  induction indices generalizing stack with
  | nil => rfl
  | cons index rest ih =>
    have counts : (countCalls sent index : List (Callback β)).filterMap Callback.received? = [] := by
      unfold countCalls
      split <;> rfl
    rw [endpointCalls, List.filterMap_append, List.filterMap_append, ih, counts, List.append_nil,
      packetCalls]
    cases arrived : received.get index && !setup.get index with
    | true =>
      rw [List.filter_cons, arrived]
      rfl
    | false =>
      rw [List.filter_cons, arrived]
      rfl

theorem reset_not_mem_endpointCalls (received sent setup : Vector Bool 16) (indices : List (Fin 16))
    (stack : Stack κ β) : .reset ∉ endpointCalls received sent setup indices stack := by
  induction indices generalizing stack with
  | nil => exact List.not_mem_nil
  | cons index rest ih =>
    have packets : .reset ∉ packetCalls received setup stack index := by
      unfold packetCalls
      split <;> simp
    have counts : .reset ∉ (countCalls sent index : List (Callback β)) := by
      unfold countCalls
      split <;> simp
    rw [endpointCalls, List.mem_append, List.mem_append]
    exact not_or.mpr ⟨not_or.mpr ⟨packets, counts⟩, ih _⟩

theorem once_eventCalls (stack : Stack κ β) (event : BusEvent) :
    ((stack.eventCalls event).filterMap Callback.received?).Nodup := by
  cases event with
  | data received sent setup =>
    have distinct : Function.Injective EndpointAddress.output := by
      intro index other
      revert index other
      decide
    rw [eventCalls, List.filterMap_append, received?_controlCalls, List.nil_append,
      received?_endpointCalls]
    exact (List.Nodup.filter _ (by decide : dataEndpoints.Nodup)).map distinct
  | reset => exact List.nodup_nil
  | none | resume | suspend => exact List.nodup_nil

theorem brought_of_received {stack : Stack κ β} {event : BusEvent} {address : EndpointAddress}
    {found : β} (received : .packetReceived address found ∈ stack.eventCalls event) :
    (stack.handle event).value.1 = true := by
  cases event with
  | data => rfl
  | reset => simp [eventCalls] at received
  | none | resume | suspend => cases received

theorem brought_of_reset {stack : Stack κ β} {event : BusEvent}
    (reset : .reset ∈ stack.eventCalls event) : (stack.handle event).value.1 = false := by
  cases event with
  | data received sent setup =>
    rcases List.mem_append.mp reset with control | endpoint
    · exact absurd control (reset_not_mem_controlCalls stack _ _ _)
    · exact absurd endpoint (reset_not_mem_endpointCalls received sent setup _ _)
  | _ => rfl

theorem poll_cases (stack : Stack κ β) :
    (stack.pollCalls = [] ∧ stack.poll.value.1 = false) ∨
      ∃ (awake : Stack κ β) (event : BusEvent),
        stack.pollCalls = awake.eventCalls event ∧ stack.poll = awake.handle event := by
  unfold poll pollCalls
  dsimp only
  split
  · exact .inl ⟨rfl, rfl⟩
  · exact .inr ⟨_, _, rfl, rfl⟩

end Stack

namespace Device

variable {κ β : Type} [UsbFunction κ] [UsbBus β]

def delivery : UsbDevice.Delivery Device κ β where
  calls device functions bus := Stack.pollCalls ⟨device, functions, bus⟩
  told device functions bus := (Stack.poll_tells ⟨device, functions, bus⟩).told
  records {device functions bus record} logged := by
    refine (Stack.poll_tells ⟨device, functions, bus⟩).records record ?_
    have polled : (UsbDevice.poll device functions bus).records =
        (Stack.poll ⟨device, functions, bus⟩).records := List.append_nil _
    exact polled ▸ logged
  brought {device functions bus address found} received := by
    show (Stack.poll ⟨device, functions, bus⟩).value.1 = true
    rcases Stack.poll_cases ⟨device, functions, bus⟩ with ⟨none, -⟩ | ⟨awake, event, calls, polled⟩
    · rw [none] at received
      cases received
    · rw [calls] at received
      rw [polled]
      exact Stack.brought_of_received received
  once device functions bus := by
    rcases Stack.poll_cases ⟨device, functions, bus⟩ with ⟨none, -⟩ | ⟨awake, event, calls, -⟩
    · rw [none]
      exact List.nodup_nil
    · rw [calls]
      exact Stack.once_eventCalls awake event
  reset {device functions bus} reset := by
    show (Stack.poll ⟨device, functions, bus⟩).value.1 = false
    rcases Stack.poll_cases ⟨device, functions, bus⟩ with ⟨-, silent⟩ | ⟨awake, event, calls, polled⟩
    · exact silent
    · rw [calls] at reset
      rw [polled]
      exact Stack.brought_of_reset reset

end Device

end Bench

end Gadget
