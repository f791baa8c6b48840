import Gadget.Firmware
import Gadget.Proofs.Usb.Delivery
import Gadget.Proofs.Usb.Tap
import Gadget.Proofs.Vendor.Packets

namespace Gadget

def Logged.From {α : Type} (target : String) (logged : Logged α) : Prop :=
  ∀ record ∈ logged.records, record.target = target

namespace Logged.From

variable {α γ : Type} {target : String}

theorem pure (value : α) : (Pure.pure value : Logged α).From target := List.forall_mem_nil _

theorem log (level : Level) (text : String) : (Logged.log level target text).From target :=
  List.forall_mem_singleton.mpr rfl

theorem bind {logged : Logged α} {next : α → Logged γ} (first : logged.From target)
    (second : ∀ value, (next value).From target) : (logged >>= next).From target :=
  List.forall_mem_append.mpr ⟨first, second logged.value⟩

theorem log_pure (level : Level) (text : String) (value : α) :
    (do Logged.log level target text; Pure.pure value).From target :=
  (log level text).bind fun _ => pure value

end Logged.From

namespace UsbFunction

open Logged (From)

/-- Whatever it is told or asked, a function logs from one place. -/
structure LogsFrom (κ : Type) [UsbFunction κ] (target : String) : Prop where
  handle {β : Type} [UsbBus β] (function : κ) (callback : Callback β) :
    (handle function callback).From target
  describe {ω : Type} [DescriptorWriter ω] (function : κ) (writer : ω) :
    (describe function writer).From target

variable {κ₁ κ₂ β : Type} [UsbFunction κ₁] [UsbFunction κ₂] [UsbBus β]

def askBoth (first : Logged (Option Reply × κ₁)) (second : Logged (Option Reply × κ₂))
    (unasked : κ₂) : Logged (Option Reply × κ₁ × κ₂) :=
  first >>= fun answered =>
    if answered.1.isSome then pure (answered.1, answered.2, unasked)
    else second >>= fun other => pure (other.1, answered.2, other.2)

omit [UsbFunction κ₁] [UsbFunction κ₂] in
theorem askBoth_spec (first : Logged (Option Reply × κ₁)) (second : Logged (Option Reply × κ₂))
    (unasked : κ₂) :
    (askBoth first second unasked).value.2.1 = first.value.2 ∧
      ∀ record ∈ (askBoth first second unasked).records,
        record ∈ first.records ∨ record ∈ second.records := by
  unfold askBoth
  rw [Logged.value_bind, Logged.records_bind]
  split
  · exact ⟨rfl, fun record member => .inl (by simpa using member)⟩
  · exact ⟨rfl, fun record member => by simpa using member⟩

theorem handle_prod (functions : κ₁ × κ₂) (callback : Callback β) :
    (handle functions callback).value.2.1 = (handle functions.1 callback).value.2 ∧
      ∀ record ∈ (handle functions callback).records,
        record ∈ (handle functions.1 callback).records ∨
          ∃ other : Callback β, record ∈ (handle functions.2 other).records := by
  cases callback with
  | reset =>
    refine ⟨rfl, fun record member => ?_⟩
    simp only [handle, UsbFunction.reset, Logged.records_bind, Logged.records_pure,
      List.append_nil, List.mem_append] at member ⊢
    exact member.imp_right fun own => ⟨.reset, by simpa [handle] using own⟩
  | controlIn request accept =>
    obtain ⟨same, within⟩ := askBoth_spec (controlIn request accept functions.1)
      (controlIn request accept functions.2) functions.2
    exact ⟨same, fun record member =>
      (within record member).imp_right fun own => ⟨.controlIn request accept, own⟩⟩
  | controlOut request data =>
    obtain ⟨same, within⟩ := askBoth_spec (controlOut request data functions.1)
      (controlOut request data functions.2) functions.2
    exact ⟨same, fun record member =>
      (within record member).imp_right fun own => ⟨.controlOut request data, own⟩⟩
  | packetReceived address bus =>
    refine ⟨rfl, fun record member => ?_⟩
    simp only [handle, UsbFunction.packetReceived, Logged.records_bind, Logged.records_pure,
      List.append_nil, List.mem_append] at member ⊢
    exact member.imp_right fun own => ⟨.packetReceived address
      (packetReceived address functions.1 bus).value.2, by simpa [handle] using own⟩
  | packetSent address => exact ⟨rfl, nofun⟩

theorem after_prod (functions : κ₁ × κ₂) (calls : List (Callback β)) :
    (after functions calls).1 = after functions.1 calls := by
  induction calls generalizing functions with
  | nil => rfl
  | cons callback rest ih =>
    refine (ih _).trans ?_
    rw [(handle_prod functions callback).1]
    rfl

theorem records_prod {functions : κ₁ × κ₂} {calls : List (Callback β)} {record : Record}
    (member : record ∈ records functions calls) :
    record ∈ records functions.1 calls ∨
      ∃ (function : κ₂) (other : Callback β), record ∈ (handle function other).records := by
  induction calls generalizing functions with
  | nil => cases member
  | cons callback rest ih =>
    obtain ⟨same, within⟩ := handle_prod functions callback
    rcases List.mem_append.mp member with now | later
    · exact (within record now).imp (List.mem_append_left _) fun own => ⟨_, own⟩
    · refine (ih later).imp_left fun own => List.mem_append_right _ ?_
      exact same ▸ own

theorem LogsFrom.records {target : String} (logs : LogsFrom κ₁ target) (function : κ₁)
    (calls : List (Callback β)) : ∀ record ∈ records function calls, record.target = target := by
  induction calls generalizing function with
  | nil => exact List.forall_mem_nil _
  | cons callback rest ih => exact List.forall_mem_append.mpr ⟨logs.handle function callback, ih _⟩

theorem mem_describe_prod {ω : Type} [DescriptorWriter ω] {functions : κ₁ × κ₂} {writer : ω}
    {record : Record} (member : record ∈ (describe functions writer).records) :
    record ∈ (describe functions.1 writer).records ∨
      ∃ left : ω, record ∈ (describe functions.2 left).records := by
  rcases List.mem_append.mp member with first | second
  · exact .inl first
  · rcases described : (describe functions.1 writer).value with ⟨result, left⟩
    rw [described] at second
    cases result with
    | ok => exact .inr ⟨_, second⟩
    | error => cases second

end UsbFunction

namespace Vendor

open Logged (From)

theorem logsFrom : UsbFunction.LogsFrom Vendor target := by
  have declined (vendor : Vendor) (name : String) (request : Request) :
      (vendor.decline name request).From target := by
    unfold decline
    split
    · exact From.log _ _
    · exact From.pure _
  constructor
  case handle =>
    intro β _ vendor callback
    cases callback with
    | reset => exact (From.log_pure _ _ _).bind fun _ => From.pure _
    | controlIn request => exact (declined vendor "ctrl_in" request).bind fun _ => From.pure _
    | controlOut request => exact (declined vendor "ctrl_out" request).bind fun _ => From.pure _
    | packetSent => exact From.pure _
    | packetReceived address bus =>
      refine From.bind ?_ fun _ => From.pure _
      by_cases own : address = ⟨0x04⟩
      · rw [own, packetReceived_own]
        unfold receiveCommand
        split
        · split
          · exact (From.log _ _).bind fun _ => From.log_pure _ _ _
          · exact From.log_pure _ _ _
        · exact From.pure _
        · exact From.log_pure _ _ _
      · rw [packetReceived_foreign own]
        exact From.pure _
  case describe =>
    intro ω _ vendor writer
    dsimp only [UsbFunction.describe]
    split
    · exact From.log_pure _ _ _
    · exact From.pure _

end Vendor

namespace Serial

open Logged (From)

theorem logsFrom : UsbFunction.LogsFrom Serial target := by
  have rejected (serial : Serial) (name : String) (request : Request) :
      (do let reply ← reject name request; pure (reply, serial)).From target :=
    (From.log_pure _ _ _).bind fun _ => From.pure _
  constructor
  case handle =>
    intro β _ serial callback
    cases callback with
    | reset => exact From.pure _
    | controlIn request accept =>
      show (serial.controlIn request accept).From _
      unfold controlIn sendLineCoding
      split
      · exact From.pure _
      · split
        · split <;> exact From.log_pure _ _ _
        · exact rejected serial _ _
    | controlOut request data =>
      show (serial.controlOut request data).From _
      unfold controlOut setLineCoding
      split
      · exact From.pure _
      · split
        · split <;> exact From.log_pure _ _ _
        · split
          · exact From.log_pure _ _ _
          · split
            · exact From.log_pure _ _ _
            · exact rejected serial _ _
    | packetSent => exact From.pure _
    | packetReceived address bus => exact From.pure _
  case describe =>
    intro ω _ serial writer
    dsimp only [UsbFunction.describe]
    split
    · exact From.log_pure _ _ _
    · exact From.pure _

end Serial

namespace Vendor

variable {β : Type} [UsbBus β]

theorem overwritten_not_mem_describe {ω : Type} [DescriptorWriter ω] (vendor : Vendor) (writer : ω) :
    overwritten ∉ (UsbFunction.describe vendor writer).records := by
  dsimp only [UsbFunction.describe]
  split
  · intro lost
    cases congrArg Record.level (List.mem_singleton.mp lost)
  · exact List.not_mem_nil

def commandReads : Callback β → List BusRead
  | .packetReceived address bus => if address = ⟨0x04⟩ then [commandRead bus] else []
  | _ => []

theorem reads_functions (functions : Vendor × Serial) (calls : List (Callback β)) :
    UsbFunction.reads functions calls = calls.flatMap commandReads := by
  induction calls generalizing functions with
  | nil => rfl
  | cons callback rest ih =>
    have own : UsbFunction.readsIn functions callback = commandReads callback := by
      cases callback with
      | packetReceived address bus =>
        show (UsbFunction.packetReceived address functions.1
          (⟨bus, []⟩ : Tapped β)).value.2.reads = _
        rw [packetReceived_tapped]
        rfl
      | _ => rfl
    rw [UsbFunction.reads, own, ih, List.flatMap_cons]

theorem overwritten_not_mem {vendor : Vendor} {callback : Callback β}
    (free : vendor.command = none ∨ (Event.told callback).packet? = none) :
    overwritten ∉ (UsbFunction.handle vendor callback).records := by
  have moves := vendor.moves (.told callback)
  rw [step_told] at moves
  apply List.count_eq_zero.mp
  generalize UsbFunction.handle vendor callback = done at moves ⊢
  rcases done with ⟨⟨reply, next⟩, records⟩
  cases moves with
  | reset record other => exact other
  | received read warned =>
    rw [read] at free
    rcases free with empty | nothing
    · rw [warned, empty]
      rfl
    · cases nothing
  | samplesSent | responsesSent => rfl
  | idle _ silent => exact silent

theorem command_handle (vendor : Vendor) (callback : Callback β) :
    (UsbFunction.handle vendor callback).value.2.command =
      if callback.isReset then none else (Event.told callback).packet?.or vendor.command := by
  have command := (vendor.moves (.told callback)).command
  rw [step_told] at command
  exact command

theorem told_of_not_received {callback : Callback β}
    (nothing : ∀ bus, callback ≠ .packetReceived ⟨0x04⟩ bus) :
    (Event.told callback).packet? = none ∧ commandReads callback = [] := by
  cases callback with
  | packetReceived address bus =>
    have other : address ≠ ⟨0x04⟩ := by
      rintro rfl
      exact nothing bus rfl
    exact ⟨if_neg other, if_neg other⟩
  | _ => exact ⟨rfl, rfl⟩

theorem quiet_calls {calls : List (Callback β)} (vendor : Vendor)
    (nothing : ∀ bus, .packetReceived ⟨0x04⟩ bus ∉ calls)
    (kept : vendor.command = none ∨ .reset ∉ calls) :
    (UsbFunction.after vendor calls).command = vendor.command ∧
      calls.flatMap commandReads = [] ∧ overwritten ∉ UsbFunction.records vendor calls := by
  induction calls generalizing vendor with
  | nil => exact ⟨rfl, rfl, List.not_mem_nil⟩
  | cons callback rest ih =>
    have other (bus : β) : callback ≠ .packetReceived ⟨0x04⟩ bus :=
      fun same => nothing bus (same ▸ List.mem_cons_self)
    obtain ⟨packet, reads⟩ := told_of_not_received other
    have command : (UsbFunction.handle vendor callback).value.2.command = vendor.command := by
      rw [command_handle, packet]
      split
      case isTrue reset =>
        rcases kept with empty | running
        · exact empty.symm
        · obtain rfl : callback = .reset := by
            cases callback with
            | reset => rfl
            | _ => cases reset
          exact absurd List.mem_cons_self running
      case isFalse => rfl
    obtain ⟨after, others, silent⟩ := ih (UsbFunction.handle vendor callback).value.2
      (fun bus member => nothing bus (List.mem_cons_of_mem _ member))
      (command ▸ kept.imp_right fun running member => running (List.mem_cons_of_mem _ member))
    refine ⟨after.trans command, ?_, ?_⟩
    · rw [List.flatMap_cons, reads, others]
      rfl
    · exact fun lost => (List.mem_append.mp lost).elim (overwritten_not_mem (.inr packet)) silent

/-- In calls that bring each endpoint at most one packet, none of them beside a reset, an empty
interface gets the one command that is read. -/
theorem command_calls {calls : List (Callback β)} {vendor : Vendor} (before : vendor.command = none)
    (once : (calls.filterMap Callback.received?).Nodup)
    (apart : ∀ bus, .packetReceived ⟨0x04⟩ bus ∈ calls → .reset ∉ calls) :
    BusRead.received ⟨0x04⟩ (calls.flatMap commandReads) =
        (UsbFunction.after vendor calls).command.toList ∧
      overwritten ∉ UsbFunction.records vendor calls := by
  induction calls generalizing vendor with
  | nil => exact ⟨(congrArg Option.toList before).symm, List.not_mem_nil⟩
  | cons callback rest ih =>
    by_cases own : ∃ bus, callback = .packetReceived ⟨0x04⟩ bus
    · obtain ⟨bus, rfl⟩ := own
      -- Nothing after it can add to the packet or clear it.
      have last : ∀ other, .packetReceived ⟨0x04⟩ other ∉ rest := fun other member =>
        (List.nodup_cons.mp once).1 (List.mem_filterMap.mpr ⟨_, member, rfl⟩)
      have running : .reset ∉ rest := fun member =>
        apart bus List.mem_cons_self (List.mem_cons_of_mem _ member)
      obtain ⟨after, others, silent⟩ := quiet_calls
        (UsbFunction.handle vendor (.packetReceived ⟨0x04⟩ bus)).value.2 last (.inr running)
      have command : (UsbFunction.after vendor (.packetReceived ⟨0x04⟩ bus :: rest)).command =
          (UsbBus.read ⟨0x04⟩ 32 bus).1.toOption := by
        refine after.trans ((command_handle vendor _).trans ?_)
        rw [before]
        exact Option.or_none
      refine ⟨?_, fun lost => (List.mem_append.mp lost).elim (overwritten_not_mem (.inl before)) silent⟩
      rw [List.flatMap_cons, others, command]
      exact BusRead.received_singleton ⟨0x04⟩ 32 _
    · obtain ⟨packet, reads⟩ := told_of_not_received fun bus same => own ⟨bus, same⟩
      have command : (UsbFunction.handle vendor callback).value.2.command = none := by
        rw [command_handle, packet, before]
        split <;> rfl
      have fewer : (rest.filterMap Callback.received?).Nodup := by
        rw [List.filterMap_cons] at once
        split at once
        · exact once
        · exact (List.nodup_cons.mp once).2
      obtain ⟨received, silent⟩ := ih command fewer fun bus member reset =>
        apart bus (List.mem_cons_of_mem _ member) (List.mem_cons_of_mem _ reset)
      refine ⟨?_, fun lost => (List.mem_append.mp lost).elim (overwritten_not_mem (.inl before)) silent⟩
      rw [List.flatMap_cons, reads]
      exact received

end Vendor

namespace Firmware

def Foreign (record : Record) : Prop := record.target ≠ target ∧ record ≠ Vendor.overwritten

/-- What a poll brings: a command at most, which the vendor interface then holds, and only if the bus
has brought data. -/
structure Brings {δ β : Type} (reads : List BusRead)
    (polled : Logged (Polled δ (Vendor × Serial) β)) : Prop where
  commands : BusRead.received ⟨0x04⟩ reads = polled.value.functions.1.command.toList
  packets : BusRead.received ⟨0x02⟩ reads = []
  foreign : ∀ record ∈ polled.records, Foreign record
  idle : polled.value.brought = false → polled.value.functions.1.command = none

theorem received_commandReads {β : Type} [UsbBus β] (calls : List (Callback β)) :
    BusRead.received ⟨0x02⟩ (calls.flatMap Vendor.commandReads) = [] := by
  apply List.filterMap_eq_nil_iff.mpr
  intro read member
  obtain ⟨callback, -, made⟩ := List.mem_flatMap.mp member
  cases callback with
  | packetReceived address bus =>
    dsimp only [Vendor.commandReads] at made
    split at made
    · rw [List.mem_singleton.mp made]
      rfl
    · cases made
  | _ => cases made

theorem poll_brings {δ β : Type} [UsbDevice δ] [UsbBus β]
    (delivery : UsbDevice.Delivery δ (Vendor × Serial) β) (device : δ)
    {functions : Vendor × Serial} (bus : β) (before : functions.1.command = none) :
    Brings (UsbFunction.reads functions (delivery.calls device functions bus))
      (UsbDevice.poll device functions bus) := by
  have told : (UsbDevice.poll device functions bus).value.functions.1 =
      UsbFunction.after functions.1 (delivery.calls device functions bus) := by
    rw [delivery.told, UsbFunction.after_prod]
  obtain ⟨commands, silent⟩ := Vendor.command_calls before (delivery.once device functions bus)
    fun found received reset => by
      have brought := delivery.brought received
      rw [delivery.reset reset] at brought
      cases brought
  rw [Vendor.reads_functions]
  constructor
  case commands => rw [told, commands]
  case packets => exact received_commandReads _
  case foreign =>
    have vendor {record : Record} (own : record.target = Vendor.target)
        (kept : record ≠ Vendor.overwritten) : Foreign record :=
      ⟨own ▸ (by decide : Vendor.target ≠ target), kept⟩
    have serial {record : Record} (own : record.target = Serial.target) : Foreign record := by
      refine ⟨own ▸ (by decide : Serial.target ≠ target), ?_⟩
      rintro rfl
      exact absurd own (by decide : Vendor.target ≠ Serial.target)
    intro record member
    rcases delivery.records member with told | ⟨ω, _, function, writer, described⟩
    · rcases UsbFunction.records_prod told with own | ⟨port, other, own⟩
      · exact vendor (Vendor.logsFrom.records _ _ record own) fun lost => silent (lost ▸ own)
      · exact serial (Serial.logsFrom.handle port other record own)
    · rcases UsbFunction.mem_describe_prod described with own | ⟨left, own⟩
      · exact vendor (Vendor.logsFrom.describe _ writer record own) fun lost =>
          Vendor.overwritten_not_mem_describe _ _ (lost ▸ own)
      · exact serial (Serial.logsFrom.describe _ left record own)
  case idle =>
    intro idle
    have nothing (found : β) :
        .packetReceived ⟨0x04⟩ found ∉ delivery.calls device functions bus := by
      intro received
      rw [delivery.brought received] at idle
      cases idle
    rw [told, (Vendor.quiet_calls functions.1 nothing (.inl before)).1, before]

end Firmware

end Gadget
