import Gadget.Bench.Firmware
import Gadget.Proofs.Firmware.Poll

namespace Gadget.Firmware

variable {κ δ β : Type}

def commandReport (data : Bytes) : Record :=
  ⟨.debug, target, .ofString ("Command " ++ hexList data)⟩

def packetReport (data : Bytes) : Record :=
  ⟨.debug, target,
    .ofString ("Serial port received " ++ Text.decimal data.length ++ " bytes")⟩

def isReport (start : String) (record : Record) : Bool :=
  record.level = .debug ∧ record.target = target ∧
    start.toList.isPrefixOf record.message.text.toList

/-- The records tell of all reads that were made, in their order. -/
structure Reports (made : List BusRead) (records : List Record) : Prop where
  commands : records.filter (isReport "Command ") =
    (BusRead.received ⟨0x04⟩ made).map commandReport
  packets : records.filter (isReport "Serial port received ") =
    ((BusRead.received ⟨0x02⟩ made).filter (!·.isEmpty)).map packetReport
  kept : Vendor.overwritten ∉ records

theorem text_ofString (text : String) : (Message.ofString text).text = text :=
  String.empty_append

theorem isReport_debug (start text : String) :
    isReport start ⟨.debug, target, .ofString text⟩ = start.toList.isPrefixOf text.toList := by
  rw [isReport, text_ofString]
  simp only [true_and, Bool.decide_eq_true]

theorem isReport_commandReport (data : Bytes) : isReport "Command " (commandReport data) = true := by
  rw [commandReport, isReport_debug, String.toList_append]
  exact List.isPrefixOf_iff_prefix.mpr (List.prefix_append _ _)

theorem isReport_packetReport (data : Bytes) :
    isReport "Serial port received " (packetReport data) = true := by
  rw [packetReport, isReport_debug, String.toList_append, String.toList_append, List.append_assoc]
  exact List.isPrefixOf_iff_prefix.mpr (List.prefix_append _ _)

theorem not_isReport_commandReport (data : Bytes) :
    isReport "Serial port received " (commandReport data) = false := by
  rw [commandReport, isReport_debug, String.toList_append]
  rfl

theorem not_isReport_packetReport (data : Bytes) :
    isReport "Command " (packetReport data) = false := by
  rw [packetReport, isReport_debug, String.toList_append, String.toList_append, List.append_assoc]
  rfl

namespace Reports

variable {made more : List BusRead} {records others : List Record}

theorem append (first : Reports made records) (second : Reports more others) :
    Reports (made ++ more) (records ++ others) := by
  constructor
  case commands =>
    rw [List.filter_append, first.commands, second.commands, BusRead.received_append, List.map_append]
  case packets =>
    rw [List.filter_append, first.packets, second.packets, BusRead.received_append,
      List.filter_append, List.map_append]
  case kept => exact fun lost => (List.mem_append.mp lost).elim first.kept second.kept

theorem foreign (quiet : ∀ record ∈ records, Foreign record) : Reports [] records := by
  have other (start : String) : records.filter (isReport start) = [] := by
    apply List.filter_eq_nil_iff.mpr
    intro record member report
    exact (quiet record member).1 (of_decide_eq_true report).2.1
  exact ⟨other _, other _, fun lost => (quiet _ lost).2 rfl⟩

theorem kept_threshold (reports : Reports made records) :
    Reports made (records.filter fun record => threshold.admits record.level) := by
  have debug (start : String) :
      (records.filter fun record => threshold.admits record.level).filter (isReport start) =
        records.filter (isReport start) := by
    rw [List.filter_filter]
    apply List.filter_congr
    intro record _
    cases report : isReport start record with
    | false => rfl
    | true =>
      rw [(of_decide_eq_true report).1]
      rfl
  constructor
  case commands => rw [debug, reports.commands]
  case packets => rw [debug, reports.packets]
  case kept => exact fun lost => reports.kept (List.mem_of_mem_filter lost)

theorem command {command : Option Bytes} (commands : BusRead.received ⟨0x04⟩ made = command.toList)
    (packets : BusRead.received ⟨0x02⟩ made = []) :
    Reports made (command.toList.map commandReport) := by
  constructor
  case commands =>
    rw [commands]
    cases command with
    | none => rfl
    | some data => exact List.filter_cons_of_pos (isReport_commandReport data)
  case packets =>
    rw [packets]
    cases command with
    | none => rfl
    | some data =>
      have other : isReport "Serial port received " (commandReport data) ≠ true := by
        rw [not_isReport_commandReport]
        exact Bool.false_ne_true
      exact List.filter_cons_of_neg other
  case kept =>
    intro lost
    obtain ⟨data, -, same⟩ := List.mem_map.mp lost
    cases congrArg Record.level same

end Reports

def portRecords : Except UsbError Bytes → List Record
  | .error .wouldBlock | .ok [] => []
  | .ok data => [packetReport data]
  | .error error => [⟨.warn, target, .ofString ("Failed to read serial port: " ++ error.name)⟩]

theorem portRecords_reports (capacity : Nat) (result : Except UsbError Bytes) :
    Reports [⟨⟨0x02⟩, capacity, result⟩] (portRecords result) := by
  have other : target ≠ Vendor.target := by decide
  have kept (level : Level) (text : String) :
      Vendor.overwritten ∉ [(⟨level, target, .ofString text⟩ : Record)] := fun lost =>
    other (congrArg Record.target (List.mem_singleton.mp lost)).symm
  match result with
  | .error .wouldBlock | .ok [] => exact ⟨rfl, rfl, List.not_mem_nil⟩
  | .ok (byte :: rest) =>
    have other : isReport "Command " (packetReport (byte :: rest)) ≠ true := by
      rw [not_isReport_packetReport]
      exact Bool.false_ne_true
    exact ⟨List.filter_cons_of_neg other, List.filter_cons_of_pos (isReport_packetReport _),
      kept _ _⟩
  | .error .parseError | .error .bufferOverflow | .error .endpointOverflow
  | .error .endpointMemoryOverflow | .error .invalidEndpoint | .error .unsupported
  | .error .invalidState => exact ⟨rfl, rfl, kept _ _⟩

theorem serveSerial_eq [UsbBus β] (serial : Serial) (bus : β) :
    serveSerial serial bus =
      ⟨(UsbBus.read ⟨0x02⟩ 64 bus).2, portRecords (UsbBus.read ⟨0x02⟩ 64 bus).1⟩ := by
  have read : serial.read Identity.serialOut.packetSize.toNat bus = UsbBus.read ⟨0x02⟩ 64 bus := rfl
  unfold serveSerial
  rw [read]
  rcases UsbBus.read ⟨0x02⟩ 64 bus with ⟨result, next⟩
  match result with
  | .ok [] | .ok (_ :: _) => rfl
  | .error error => cases error <;> rfl

theorem serveCommand_eq (vendor : Vendor) :
    serveCommand vendor =
      ⟨{ vendor with command := none }, vendor.command.toList.map commandReport⟩ := by
  unfold serveCommand Vendor.takeCommand
  dsimp only
  cases vendor.command <;> rfl

theorem serve_brought [UsbBus β] (device : δ) (functions : Vendor × Serial) (bus : β) :
    serve ⟨true, device, functions, bus⟩ =
      ⟨⟨true, device, ({ functions.1 with command := none }, functions.2),
          (UsbBus.read ⟨0x02⟩ 64 bus).2⟩,
        functions.1.command.toList.map commandReport ++
          portRecords (UsbBus.read ⟨0x02⟩ 64 bus).1⟩ := by
  show (serveCommand functions.1 >>= fun vendor => serveSerial functions.2 bus >>= fun bus =>
    pure (⟨true, device, (vendor, functions.2), bus⟩ : Polled δ (Vendor × Serial) β)) = _
  rw [serveCommand_eq, serveSerial_eq]
  exact congrArg (fun records => Logged.mk _ (_ ++ records)) (List.append_nil _)

def servedReads [UsbBus β] (polled : Polled δ (Vendor × Serial) β) : List BusRead :=
  (serve { polled with bus := (⟨polled.bus, []⟩ : Tapped β) }).value.bus.reads

theorem servedReads_brought [UsbBus β] (device : δ) (functions : Vendor × Serial) (bus : β) :
    servedReads ⟨true, device, functions, bus⟩ =
      [⟨⟨0x02⟩, 64, (UsbBus.read ⟨0x02⟩ 64 bus).1⟩] := by
  unfold servedReads
  rw [serve_brought]
  rfl

theorem serve_reports [UsbBus β] {made : List BusRead}
    {polled : Logged (Polled δ (Vendor × Serial) β)} (brings : Brings made polled) :
    Reports (made ++ servedReads polled.value) (polled >>= serve).records ∧
      (polled >>= serve).value.functions.1.command = none := by
  have commands := (Reports.foreign brings.foreign).append
    (Reports.command brings.commands brings.packets)
  rw [List.nil_append] at commands
  have idle := brings.idle
  rcases polled with ⟨⟨brought, device, functions, bus⟩, records⟩
  rw [Logged.value_bind, Logged.records_bind]
  cases brought with
  | false =>
    have silent : servedReads ⟨false, device, functions, bus⟩ = [] := rfl
    dsimp only at commands idle
    rw [idle rfl] at commands
    rw [silent, List.append_nil]
    exact ⟨commands, idle rfl⟩
  | true =>
    rw [servedReads_brought, serve_brought, ← List.append_assoc]
    exact ⟨commands.append (portRecords_reports 64 _), rfl⟩

variable [Peripheral κ] [UsbDevice δ] [UsbBus β]

def turnReads (delivery : UsbDevice.Delivery δ (Vendor × Serial) β) (firmware : Firmware κ δ β) :
    List BusRead :=
  UsbFunction.reads firmware.functions
      (delivery.calls firmware.device firmware.functions firmware.bus) ++
    servedReads (UsbDevice.poll firmware.device firmware.functions firmware.bus).value

def run (firmware : Firmware κ δ β) : List (β → β) → Logged (Firmware κ δ β)
  | [] => pure firmware
  | change :: rest => do
    let (_, firmware) ← turn { firmware with bus := change firmware.bus }
    firmware.run rest

def runReads (delivery : UsbDevice.Delivery δ (Vendor × Serial) β) (firmware : Firmware κ δ β) :
    List (β → β) → List BusRead
  | [] => []
  | change :: rest =>
    let next := { firmware with bus := change firmware.bus }
    next.turnReads delivery ++ next.turn.value.2.runReads delivery rest

theorem turn_reports (delivery : UsbDevice.Delivery δ (Vendor × Serial) β)
    {firmware : Firmware κ δ β} (before : firmware.functions.1.command = none) :
    Reports (firmware.turnReads delivery) firmware.turn.records ∧
      firmware.turn.value.2.functions.1.command = none := by
  obtain ⟨reports, after⟩ := serve_reports (poll_brings delivery firmware.device firmware.bus before)
  exact ⟨reports.kept_threshold, after⟩

theorem run_reports (delivery : UsbDevice.Delivery δ (Vendor × Serial) β)
    {firmware : Firmware κ δ β} (before : firmware.functions.1.command = none)
    (rounds : List (β → β)) :
    Reports (firmware.runReads delivery rounds) (firmware.run rounds).records ∧
      (firmware.run rounds).value.functions.1.command = none := by
  -- From the first turn on, as each begins where the one before it left no command.
  induction rounds generalizing firmware with
  | nil => exact ⟨Reports.foreign (List.forall_mem_nil _), before⟩
  | cons change rest ih =>
    let next : Firmware κ δ β := { firmware with bus := change firmware.bus }
    have still : next.functions.1.command = none := before
    obtain ⟨reports, after⟩ := turn_reports delivery still
    obtain ⟨others, last⟩ := ih after
    exact ⟨reports.append others, last⟩

theorem command_of_boot {α : Type} [UsbAllocator α β] {passes : Nat} {clock : Option UInt32}
    {peripheral : κ} {bus : β} {firmware : Firmware κ δ β}
    (running : boot α passes clock peripheral bus = .running firmware) :
    firmware.functions.1.command = none := by
  have started (console : BoardConsole κ)
      (running : start α passes console bus = .running firmware) :
      firmware.functions.1.command = none := by
    unfold start at running
    dsimp only at running
    split at running
    case h_1 => cases running
    case h_2 vendor allocator allocated =>
      split at running
      case h_1 => cases running
      case h_2 serial next _ =>
        cases running
        exact congrArg Vendor.command (Vendor.eq_initial_of_allocate allocated)
  unfold boot at running
  split at running
  case h_1 => cases running
  case h_2 clock =>
    dsimp only at running
    split at running
    case h_1 => cases running
    case h_2 baud _ => exact started _ running

def traffic : List (Bench.PacketBus → Bench.PacketBus) :=
  let host (steps : List Bench.HostStep) (bus : Bench.PacketBus) : Bench.PacketBus :=
    steps.foldl (fun bus step => (bus.host step).2) bus
  [host [.send (EndpointAddress.index ⟨0x04⟩) [0xC0, 0x01],
      .send (EndpointAddress.index ⟨0x02⟩) [0x41, 0x42]],
    host [.suspend], host [.reset], id,
    host [.send (EndpointAddress.index ⟨0x04⟩) [0x02]]]

def Boot.firmware? : Boot κ δ β → Option (Firmware κ δ β)
  | .running firmware => some firmware
  | .halted _ => none

omit [Peripheral κ] [UsbDevice δ] [UsbBus β] in
theorem Boot.eq_running {booted : Boot κ δ β} (started : booted.firmware?.isSome) :
    booted = .running (booted.firmware?.get started) := by
  cases booted with
  | running firmware => rfl
  | halted flushed => cases started

def booted : Boot Bench.Wire Bench.Device Bench.PacketBus :=
  boot (Bench.Allocator Bench.PacketBus) 1 (some 125000000) Bench.Wire.free (.fresh [] none)

theorem isSome_booted : booted.firmware?.isSome := by decide +kernel

end Gadget.Firmware
