import Gadget.Bench.PacketBus
import Gadget.Proofs.Usb.Callback
import Gadget.Serial.Basic
import Mathlib.Data.Nat.Bitwise

namespace Gadget

def Request.IsForClass (request : Request) (interface : UInt8) : Prop :=
  request.kind = .ofClass ∧ request.recipient = .interface ∧ request.index = interface.toUInt16

instance (request : Request) (interface : UInt8) : Decidable (request.IsForClass interface) :=
  inferInstanceAs (Decidable (_ ∧ _))

theorem testBit_of_and (value : UInt16) (bit : Nat) (mask : UInt16) (single : mask.toNat = 2 ^ bit) :
    (value &&& mask != 0) = value.toNat.testBit bit := by
  have masked : (value &&& mask).toNat = (value.toNat.testBit bit).toNat * 2 ^ bit := by
    rw [UInt16.toNat_and, single, Nat.and_two_pow]
  cases set : value.toNat.testBit bit with
  | true =>
    rw [set, Bool.toNat_true, Nat.one_mul] at masked
    rw [bne_iff_ne, ne_eq, ← UInt16.toNat_inj, masked]
    exact Nat.two_pow_pos bit |>.ne'
  | false =>
    rw [set, Bool.toNat_false, Nat.zero_mul] at masked
    rw [bne_eq_false_iff_eq, ← UInt16.toNat_inj, masked]
    rfl

namespace Callback

variable {β : Type}

def settings? (interface : UInt8) : Callback β → Option Bytes
  | controlOut request data =>
    if request.IsForClass interface ∧ request.code = 0x20 ∧ 7 ≤ data.length then some (data.take 7)
    else none
  | _ => none

def controlLines? (interface : UInt8) : Callback β → Option UInt16
  | controlOut request _ =>
    if request.IsForClass interface ∧ request.code = 0x22 then some request.value else none
  | _ => none

def IsServed : Callback β → Prop
  | controlIn request _ => request.code = 0x21
  | controlOut request data =>
    (request.code = 0x20 ∧ 7 ≤ data.length) ∨ request.code = 0x22 ∨ request.code = 0x23
  | _ => False

def IsForClass (interface : UInt8) (callback : Callback β) : Prop :=
  ∃ request ∈ callback.request?, request.IsForClass interface

theorem isForClass_controlIn (interface : UInt8) (request : Request)
    (accept : Bytes → Except UsbError Unit) :
    (controlIn request accept : Callback β).IsForClass interface ↔
      request.IsForClass interface := by
  simp [IsForClass, request?]

theorem isForClass_controlOut (interface : UInt8) (request : Request) (data : Bytes) :
    (controlOut request data : Callback β).IsForClass interface ↔
      request.IsForClass interface := by
  simp [IsForClass, request?]

def settings (interface : UInt8) (history : List (Callback β)) : Bytes :=
  Events.inForce (LineCoding.encode ⟨115200, 0, 0, 8⟩) isReset (settings? interface) history

def controlLines (interface : UInt8) (history : List (Callback β)) : UInt16 :=
  Events.inForce 0 isReset (controlLines? interface) history

end Callback

namespace LineCoding

theorem isSome_decode?_iff (data : Bytes) : (decode? data).isSome ↔ 7 ≤ data.length := by
  unfold decode?
  rcases data with _ | ⟨b0, _ | ⟨b1, _ | ⟨b2, _ | ⟨b3, _ | ⟨b4, _ | ⟨b5, _ | ⟨b6, rest⟩⟩⟩⟩⟩⟩⟩
  all_goals simp

end LineCoding

namespace Serial

variable {β : Type}

def initial (controlInterface dataInterface name : UInt8) : Serial :=
  ⟨controlInterface, dataInterface, name, .standard, false, false⟩

theorem eq_initial_of_allocate {α : Type} [UsbAllocator α β] {allocator next : α} {serial : Serial}
    (allocated : (allocate allocator).value = (.ok serial, next)) :
    serial = initial Identity.serialControlInterface Identity.serialDataInterface
      Identity.portNameIndex := by
  unfold allocate at allocated
  dsimp only at allocated
  split at allocated
  case isTrue place =>
    obtain ⟨control, data, name⟩ := place
    split at allocated
    · cases allocated
    · cases allocated
      rw [control, data, name]
      rfl
  case isFalse => cases allocated

theorem value_controlIn (serial : Serial) (request : Request)
    (accept : Bytes → Except UsbError Unit) :
    (serial.controlIn request accept).value =
      (if request.IsForClass serial.controlInterface then
        some (if request.code = Code.getLineCoding then .accept serial.lineCoding.encode else .reject)
      else none, serial) := by
  unfold controlIn
  by_cases own : request.IsForClass serial.controlInterface
  · have addressed : serial.isAddressed request = true := decide_eq_true own
    rw [addressed, if_pos own]
    by_cases code : request.code = Code.getLineCoding
    · rw [Bool.not_true, if_neg Bool.false_ne_true, if_pos code, if_pos code, sendLineCoding]
      cases accept serial.lineCoding.encode <;> rfl
    · rw [if_neg code, if_neg code]
      rfl
  · have foreign : serial.isAddressed request = false := decide_eq_false own
    rw [foreign, if_neg own]
    rfl

/-- All that a request from the host can come to. -/
inductive ServesOut (serial : Serial) (request : Request) (data : Bytes) :
    Option Reply × Serial → Prop
  | foreign (other : ¬request.IsForClass serial.controlInterface) :
      ServesOut serial request data (none, serial)
  | lineCoding (own : request.IsForClass serial.controlInterface) (code : request.code = 0x20)
      (long : 7 ≤ data.length) (lineCoding : LineCoding)
      (encoded : lineCoding.encode = data.take 7) :
      ServesOut serial request data (some (.accept []), { serial with lineCoding })
  | controlLines (own : request.IsForClass serial.controlInterface) (code : request.code = 0x22) :
      ServesOut serial request data (some (.accept []), { serial with
        dtr := request.value.toNat.testBit 0, rts := request.value.toNat.testBit 1 })
  | sendBreak (own : request.IsForClass serial.controlInterface) (code : request.code = 0x23) :
      ServesOut serial request data (some (.accept []), serial)
  | refused (own : request.IsForClass serial.controlInterface)
      (short : request.code = 0x20 → data.length < 7) (other : request.code ≠ 0x22)
      (another : request.code ≠ 0x23) : ServesOut serial request data (some .reject, serial)

theorem servesOut (serial : Serial) (request : Request) (data : Bytes) :
    ServesOut serial request data (serial.controlOut request data).value := by
  unfold controlOut
  by_cases own : request.IsForClass serial.controlInterface
  · have addressed : serial.isAddressed request = true := decide_eq_true own
    rw [addressed]
    by_cases coding : request.code = Code.setLineCoding
    · have long := LineCoding.isSome_decode?_iff data
      rw [Bool.not_true, if_neg Bool.false_ne_true, if_pos coding, setLineCoding]
      cases decoded : LineCoding.decode? data with
      | some lineCoding =>
        rw [decoded] at long
        exact .lineCoding own coding (long.mp rfl) _ (LineCoding.encode_of_decode? decoded)
      | none =>
        rw [decoded] at long
        have short : data.length < 7 := Nat.lt_of_not_le fun enough => nomatch long.mpr enough
        exact .refused own (fun _ => short) (by rw [coding]; decide) (by rw [coding]; decide)
    rw [Bool.not_true, if_neg Bool.false_ne_true, if_neg coding]
    by_cases lines : request.code = Code.setControlLines
    · have served : ServesOut serial request data _ := .controlLines own lines
      rw [← testBit_of_and request.value 0 1 rfl, ← testBit_of_and request.value 1 2 rfl] at served
      rw [if_pos lines]
      exact served
    rw [if_neg lines]
    by_cases sendBreak : request.code = Code.sendBreak
    · rw [if_pos sendBreak]
      exact .sendBreak own sendBreak
    · rw [if_neg sendBreak]
      exact .refused own (fun code => absurd code coding) lines sendBreak
  · have foreign : serial.isAddressed request = false := decide_eq_false own
    rw [foreign]
    exact .foreign own

/-- The invariant of a port and what it was told so far. -/
structure Reflects (interface : UInt8) (history : List (Callback β)) (serial : Serial) : Prop where
  own : serial.controlInterface = interface
  settings : Callback.settings interface history = serial.lineCoding.encode
  dtr : serial.dtr = (Callback.controlLines interface history).toNat.testBit 0
  rts : serial.rts = (Callback.controlLines interface history).toNat.testBit 1

namespace Reflects

variable {interface : UInt8} {history : List (Callback β)} {serial : Serial}

theorem told (reflects : Reflects interface history serial) {callback : Callback β} {next : Serial}
    (running : callback.isReset = false) (own : next.controlInterface = interface)
    (settings : (callback.settings? interface).getD serial.lineCoding.encode =
      next.lineCoding.encode)
    (dtr : next.dtr = (callback.controlLines? interface).elim serial.dtr (·.toNat.testBit 0))
    (rts : next.rts = (callback.controlLines? interface).elim serial.rts (·.toNat.testBit 1)) :
    Reflects interface (history ++ [callback]) next := by
  have lines : Callback.controlLines interface (history ++ [callback]) =
      (callback.controlLines? interface).getD (Callback.controlLines interface history) := by
    rw [Callback.controlLines, Events.inForce_append_singleton, running]
    rfl
  constructor
  case own => exact own
  case settings =>
    rw [Callback.settings, Events.inForce_append_singleton, running, ← settings,
      ← reflects.settings]
    rfl
  case dtr =>
    rw [lines, dtr, reflects.dtr]
    cases callback.controlLines? interface <;> rfl
  case rts =>
    rw [lines, rts, reflects.rts]
    cases callback.controlLines? interface <;> rfl

theorem unchanged (reflects : Reflects interface history serial) {callback : Callback β}
    (running : callback.isReset = false) (settings : callback.settings? interface = none)
    (controlLines : callback.controlLines? interface = none) :
    Reflects interface (history ++ [callback]) serial := by
  apply reflects.told running reflects.own
  · rw [settings]
    rfl
  · rw [controlLines]
    rfl
  · rw [controlLines]
    rfl

theorem reset (reflects : Reflects interface history serial) :
    Reflects interface (history ++ [Callback.reset])
      { serial with lineCoding := .standard, dtr := false, rts := false } := by
  constructor
  case own => exact reflects.own
  case settings =>
    rw [Callback.settings, Events.inForce_append_singleton]
    rfl
  all_goals
    rw [Callback.controlLines, Events.inForce_append_singleton]
    exact (Nat.zero_testBit _).symm

theorem controlOut (reflects : Reflects interface history serial) (request : Request)
    (data : Bytes) :
    Reflects interface (history ++ [.controlOut request data])
      (serial.controlOut request data).value.2 := by
  obtain rfl := reflects.own
  have serves := serial.servesOut request data
  generalize (serial.controlOut request data).value = outcome at serves ⊢
  cases serves with
  | foreign other =>
    exact reflects.unchanged rfl (if_neg fun set => other set.1) (if_neg fun set => other set.1)
  | lineCoding own code long lineCoding encoded =>
    have otherCode : request.code ≠ 0x22 := by rw [code]; decide
    refine reflects.told rfl rfl ?_ ?_ ?_
    · rw [Callback.settings?, if_pos ⟨own, code, long⟩, encoded]
      rfl
    all_goals
      rw [Callback.controlLines?, if_neg fun set => otherCode set.2]
      rfl
  | controlLines own code =>
    have otherCode : request.code ≠ 0x20 := by rw [code]; decide
    refine reflects.told rfl rfl ?_ ?_ ?_
    · rw [Callback.settings?, if_neg fun set => otherCode set.2.1]
      rfl
    all_goals
      rw [Callback.controlLines?, if_pos ⟨own, code⟩]
      rfl
  | sendBreak own code =>
    have otherCode : request.code ≠ 0x20 ∧ request.code ≠ 0x22 := by rw [code]; decide
    exact reflects.unchanged rfl (if_neg fun set => otherCode.1 set.2.1)
      (if_neg fun set => otherCode.2 set.2)
  | refused own short other another =>
    refine reflects.unchanged rfl (if_neg ?_) (if_neg fun set => other set.2)
    rintro ⟨-, code, long⟩
    exact absurd (short code) (Nat.not_lt_of_le long)

theorem handle [UsbBus β] (reflects : Reflects interface history serial)
    (callback : Callback β) :
    Reflects interface (history ++ [callback]) (UsbFunction.handle serial callback).value.2 := by
  cases callback with
  | reset => exact reflects.reset
  | controlIn request accept =>
    have same : (serial.controlIn request accept).value.2 = serial := by rw [value_controlIn]
    show Reflects _ _ (serial.controlIn request accept).value.2
    rw [same]
    exact reflects.unchanged rfl rfl rfl
  | controlOut request data => exact reflects.controlOut request data
  | packetReceived address bus => exact reflects.unchanged rfl rfl rfl
  | packetSent address => exact reflects.unchanged rfl rfl rfl

theorem after [UsbBus β] (controlInterface dataInterface name : UInt8)
    (history : List (Callback β)) :
    Reflects controlInterface history
      (UsbFunction.after (initial controlInterface dataInterface name) history) := by
  -- On the last callback, as the end of a history decides what is in force.
  induction history using List.reverseRecOn with
  | nil => exact ⟨rfl, rfl, (Nat.zero_testBit 0).symm, (Nat.zero_testBit 1).symm⟩
  | append_singleton history callback reflects =>
    rw [UsbFunction.after_append_singleton]
    exact reflects.handle callback

end Reflects

structure Answers (interface : UInt8) (told : Bytes) (callback : Callback β) (serial : Serial)
    (outcome : Option Reply × Serial) : Prop where
  answered : outcome.1.isSome ↔ callback.IsForClass interface
  accepted : (∃ payload, outcome.1 = some (.accept payload)) ↔
    callback.IsForClass interface ∧ callback.IsServed
  rejected : outcome.1 = some .reject ↔ callback.IsForClass interface ∧ ¬callback.IsServed
  unchanged : callback.isReset = false → ¬(callback.IsForClass interface ∧ callback.IsServed) →
    outcome.2 = serial
  settings : ∀ request accept, callback = .controlIn request accept →
    request.IsForClass interface → request.code = 0x21 → outcome.1 = some (.accept told)

namespace Answers

variable {interface : UInt8} {sent : Bytes} {callback : Callback β} {serial next : Serial}

theorem declined (foreign : ¬callback.IsForClass interface)
    (same : callback.isReset = false → next = serial) :
    Answers interface sent callback serial (none, next) where
  answered := by simp [foreign]
  accepted := by simp [foreign]
  rejected := by simp [foreign]
  unchanged running _ := same running
  settings := by
    rintro request accept rfl own
    exact absurd ((Callback.isForClass_controlIn interface request accept).mpr own) foreign

theorem refused (own : callback.IsForClass interface) (unserved : ¬callback.IsServed) :
    Answers interface sent callback serial (some .reject, serial) where
  answered := by simp [own]
  accepted := by simp [unserved]
  rejected := by simp [own, unserved]
  unchanged _ _ := rfl
  settings := by
    rintro request accept rfl - code
    exact absurd code unserved

theorem served (own : callback.IsForClass interface) (served : callback.IsServed) (payload : Bytes)
    (told : ∀ request accept, callback = .controlIn request accept → payload = sent) :
    Answers interface sent callback serial (some (.accept payload), next) where
  answered := by simp [own]
  accepted := by simp [own, served]
  rejected := by simp [served]
  unchanged _ refused := absurd ⟨own, served⟩ refused
  settings := by
    rintro request accept rfl - -
    rw [told request accept rfl]

theorem controlIn (serial : Serial) (request : Request) (accept : Bytes → Except UsbError Unit) :
    Answers serial.controlInterface serial.lineCoding.encode
      (.controlIn request accept : Callback β) serial (serial.controlIn request accept).value := by
  have forClass := Callback.isForClass_controlIn (β := β) serial.controlInterface request accept
  rw [value_controlIn]
  by_cases own : request.IsForClass serial.controlInterface
  · rw [if_pos own]
    by_cases code : request.code = Code.getLineCoding
    · rw [if_pos code]
      exact served (forClass.mpr own) code _ fun _ _ _ => rfl
    · rw [if_neg code]
      exact refused (forClass.mpr own) code
  · rw [if_neg own]
    exact declined (fun asked => own (forClass.mp asked)) fun _ => rfl

theorem controlOut (serial : Serial) (request : Request) (data : Bytes) :
    Answers serial.controlInterface sent (.controlOut request data : Callback β)
      serial (serial.controlOut request data).value := by
  have forClass := Callback.isForClass_controlOut (β := β) serial.controlInterface request data
  have serves := serial.servesOut request data
  generalize (serial.controlOut request data).value = outcome at serves ⊢
  cases serves with
  | foreign other => exact declined (fun asked => other (forClass.mp asked)) fun _ => rfl
  | lineCoding own code long => exact served (forClass.mpr own) (.inl ⟨code, long⟩) [] nofun
  | controlLines own code => exact served (forClass.mpr own) (.inr (.inl code)) [] nofun
  | sendBreak own code => exact served (forClass.mpr own) (.inr (.inr code)) [] nofun
  | refused own short other another =>
    apply refused (forClass.mpr own)
    rintro (⟨code, long⟩ | code | code)
    · exact absurd (short code) (Nat.not_lt_of_le long)
    · exact other code
    · exact another code

theorem handle [UsbBus β] (serial : Serial) (callback : Callback β) :
    Answers serial.controlInterface serial.lineCoding.encode callback serial
      (UsbFunction.handle serial callback).value := by
  have unasked : callback.request? = none → ¬callback.IsForClass serial.controlInterface := by
    intro silent
    simp [Callback.IsForClass, silent]
  cases callback with
  | reset => exact declined (unasked rfl) nofun
  | controlIn request accept => exact controlIn serial request accept
  | controlOut request data => exact controlOut serial request data
  | packetReceived address bus => exact declined (unasked rfl) fun _ => rfl
  | packetSent address => exact declined (unasked rfl) fun _ => rfl

end Answers

/-- Whatever a port was told since it was allocated, its settings and control lines are those last
sent to it since the last reset. It answers the requests of its class to its interface and no others,
serves four of them, and refuses the rest with nothing changed. The host gets its own settings back,
byte for byte. -/
theorem host_settings_kept [UsbBus β] (controlInterface dataInterface name : UInt8)
    (history : List (Callback β)) (callback : Callback β) :
    let serial := UsbFunction.after (initial controlInterface dataInterface name) history
    let settings := Callback.settings controlInterface history
    let controlLines := (Callback.controlLines controlInterface history).toNat
    LineCoding.decode? settings = some serial.lineCoding ∧
      serial.dtr = controlLines.testBit 0 ∧ serial.rts = controlLines.testBit 1 ∧
      Answers controlInterface settings callback serial
        (UsbFunction.handle serial callback).value ∧
      ∀ (transmitted : Request → Reply → Bytes),
        (∀ request payload, transmitted request (.accept payload) =
          payload.take request.length.toNat) →
        ∀ (request : Request) (accept : Bytes → Except UsbError Unit),
          request.IsForClass controlInterface → request.code = 0x21 →
            (UsbFunction.handle serial (.controlIn request accept : Callback β)).value.1.map
              (transmitted request) = some (settings.take request.length.toNat) := by
  intro serial settings controlLines
  have reflects : Reflects controlInterface history serial := .after _ _ _ history
  have answers (callback : Callback β) :
      Answers controlInterface settings callback serial (UsbFunction.handle serial callback).value := by
    have answers := Answers.handle serial callback
    rw [reflects.own, ← reflects.settings] at answers
    exact answers
  refine ⟨?_, reflects.dtr, reflects.rts, answers callback, ?_⟩
  · have decoded := LineCoding.decode?_encode serial.lineCoding []
    rw [List.append_nil, ← reflects.settings] at decoded
    exact decoded
  · intro transmitted cuts request accept own code
    rw [(answers (.controlIn request accept)).settings request accept rfl own code, Option.map_some,
      cuts]

def configured : List (Callback Bench.PacketBus) :=
  [.controlOut ⟨.toDevice, .ofClass, .interface, 0x20, 0, 1, 9⟩ [0x80, 0x25, 0, 0, 2, 1, 7, 0, 0],
    .controlOut ⟨.toDevice, .ofClass, .interface, 0x22, 3, 1, 0⟩ []]

theorem configured_settings_kept :
    let fetch : Request := ⟨.toHost, .ofClass, .interface, 0x21, 0, 1, 5⟩
    let asked : Callback Bench.PacketBus := .controlIn fetch fun _ => .ok ()
    let serial := UsbFunction.after (initial 1 2 6) configured
    let transmitted (request : Request) : Reply → Bytes
      | .accept payload => payload.take request.length.toNat
      | .reject => []
    fetch.IsForClass 1 ∧ serial.dtr = true ∧ serial.rts = true ∧
      (UsbFunction.handle serial asked).value.1 = some (.accept [0x80, 0x25, 0, 0, 2, 1, 7]) ∧
      (UsbFunction.handle serial asked).value.1.map (transmitted fetch) =
        some [0x80, 0x25, 0, 0, 2] := by
  intro fetch asked serial transmitted
  have own : fetch.IsForClass 1 := ⟨rfl, rfl, rfl⟩
  obtain ⟨-, dtr, rts, answers, cut⟩ := host_settings_kept 1 2 6 configured asked
  have settings : Callback.settings 1 configured = [0x80, 0x25, 0, 0, 2, 1, 7] := by
    decide +kernel
  have told := answers.settings fetch _ rfl own rfl
  have sent := cut transmitted (fun _ _ => rfl) fetch (fun _ => .ok ()) own rfl
  rw [settings] at told sent
  exact ⟨own, dtr, rts, told, sent⟩

end Serial

end Gadget
