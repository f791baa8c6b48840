import Gadget.Bench.Wire

namespace Gadget

inductive UartCall
  | enable (baud : UInt32)
  | write (byte : UInt8)
  | flush
deriving DecidableEq

inductive UartReply
  | enabled (result : Except UartError UInt32)
  | done (result : Except (Refusal UartError) Unit)

def UartCall.unserved : UartCall → UartReply
  | .enable _ => .enabled (.error .disabled)
  | .write _ | .flush => .done (.error (.fault .disabled))

namespace Uart

variable {κ : Type} [Peripheral κ]

def perform (uart : Uart κ) : UartCall → UartReply × Uart κ
  | .enable baud => (.enabled (uart.enable baud).1, (uart.enable baud).2)
  | .write byte => (.done (uart.write byte).1, (uart.write byte).2)
  | .flush => (.done uart.flush, uart)

def after (uart : Uart κ) (calls : List UartCall) : Uart κ :=
  calls.foldl (fun uart call => (uart.perform call).2) uart

def replies (uart : Uart κ) : List UartCall → List UartReply
  | [] => []
  | call :: rest => (uart.perform call).1 :: replies (uart.perform call).2 rest

def Unaffected (uart : Uart κ) (baud : UInt32) : Prop :=
  ∀ later, (uart.enable baud).2.replies later = uart.replies later

def HasRefused (uart : Uart κ) (calls : List UartCall) : Prop :=
  ∃ cause, UartReply.enabled (.error cause) ∈ uart.replies calls

theorem enable_of_lost {uart : Uart κ} (lost : uart.state = .lost) (baud : UInt32) :
    uart.enable baud = (.error .disabled, uart) := by
  rw [enable, lost]

theorem perform_of_lost {uart : Uart κ} (lost : uart.state = .lost) (call : UartCall) :
    uart.perform call = (call.unserved, uart) := by
  cases call with
  | enable baud => rw [perform, enable_of_lost lost]; rfl
  | write byte => rw [perform, write, lost]; rfl
  | flush => rw [perform, flush, lost]; rfl

theorem replies_of_lost {uart : Uart κ} (lost : uart.state = .lost) (calls : List UartCall) :
    uart.replies calls = calls.map UartCall.unserved := by
  induction calls with
  | nil => rfl
  | cons call rest ih => rw [replies, perform_of_lost lost, ih, List.map_cons]

theorem enable_cases (uart : Uart κ) (baud : UInt32) :
    uart.state = .lost ∧ uart.enable baud = (.error .disabled, uart) ∨
      uart.state ≠ .lost ∧
        ((∃ peripheral, uart.enable baud = (.ok baud, ⟨.enabled peripheral, uart.clock⟩)) ∨
          uart.enable baud = (.error .badSettings, ⟨.lost, uart.clock⟩)) := by
  obtain ⟨state, clock⟩ := uart
  cases state with
  | lost => exact .inl ⟨rfl, rfl⟩
  | disabled peripheral | enabled peripheral =>
    refine .inr ⟨by simp, ?_⟩
    simp only [enable]
    cases Peripheral.configure clock baud peripheral with
    | some configured => exact .inl ⟨configured, rfl⟩
    | none => exact .inr rfl

theorem lost_of_refused {uart : Uart κ} {baud : UInt32} {cause : UartError}
    (refused : (uart.enable baud).1 = .error cause) : (uart.enable baud).2.state = .lost := by
  rcases uart.enable_cases baud with ⟨lost, same⟩ | ⟨_, ⟨peripheral, same⟩ | same⟩
  · rw [same]
    exact lost
  · rw [same] at refused
    cases refused
  · rw [same]

theorem state_write_ne_lost {uart : Uart κ} (held : uart.state ≠ .lost) (byte : UInt8) :
    (uart.write byte).2.state ≠ .lost := by
  obtain ⟨state, clock⟩ := uart
  cases state with
  | lost => exact absurd rfl held
  | disabled peripheral => exact held
  | enabled peripheral => simp [write]

theorem lost_perform_iff {uart : Uart κ} (held : uart.state ≠ .lost) (call : UartCall) :
    (uart.perform call).2.state = .lost ↔
      ∃ cause, UartReply.enabled (.error cause) = (uart.perform call).1 := by
  cases call with
  | enable baud =>
    rcases uart.enable_cases baud with ⟨lost, _⟩ | ⟨_, ⟨peripheral, same⟩ | same⟩
    · exact absurd lost held
    · simp [perform, same]
    · simp [perform, same]
  | write byte => simp [perform, state_write_ne_lost held byte]
  | flush => simp [perform, held]

theorem after_of_lost {uart : Uart κ} (lost : uart.state = .lost) (calls : List UartCall) :
    uart.after calls = uart := by
  induction calls with
  | nil => rfl
  | cons call rest ih =>
    rw [after, List.foldl_cons, perform_of_lost lost]
    exact ih

theorem lost_after_iff {uart : Uart κ} (held : uart.state ≠ .lost) (calls : List UartCall) :
    (uart.after calls).state = .lost ↔ uart.HasRefused calls := by
  induction calls generalizing uart with
  | nil => simp [after, HasRefused, replies, held]
  | cons call rest ih =>
    have first := lost_perform_iff held call
    have split : uart.HasRefused (call :: rest) ↔
        (uart.perform call).2.state = .lost ∨ (uart.perform call).2.HasRefused rest := by
      simp only [HasRefused, replies, List.mem_cons, exists_or, first]
    rw [split]
    change ((uart.perform call).2.after rest).state = .lost ↔ _
    by_cases gone : (uart.perform call).2.state = .lost
    · rw [after_of_lost gone]
      simp [gone]
    · rw [ih gone]
      simp [gone]

theorem unaffected_iff_lost {uart : Uart κ} {baud : UInt32} {cause : UartError}
    (refused : (uart.enable baud).1 = .error cause) :
    uart.Unaffected baud ↔ uart.state = .lost := by
  constructor
  · intro unaffected
    -- The same attempt once more tells them apart: only a port with its peripheral names the cause.
    have again := unaffected [.enable baud]
    rw [replies_of_lost (lost_of_refused refused)] at again
    rcases uart.enable_cases baud with ⟨lost, _⟩ | ⟨_, ⟨peripheral, same⟩ | same⟩
    · exact lost
    · rw [same] at refused
      cases refused
    · simp [replies, perform, UartCall.unserved, same] at again
  · intro lost later
    rw [enable_of_lost lost]

/-- Over any calls on a port that starts with its peripheral, for any peripheral, clock and rates:
after an attempt to enable it that fails, every later call is answered as by a port without one. So
the attempt makes no difference to them exactly if an earlier one had failed already. -/
theorem refusal_unnoticed_iff (peripheral : κ) (clock : UInt32) (calls : List UartCall)
    (baud : UInt32) (cause : UartError)
    (refused : (((ofPeripheral peripheral clock).after calls).enable baud).1 = .error cause) :
    let uart := (ofPeripheral peripheral clock).after calls
    (∀ later, (uart.enable baud).2.replies later = later.map UartCall.unserved) ∧
      (uart.Unaffected baud ↔ (ofPeripheral peripheral clock).HasRefused calls) := by
  have held : (ofPeripheral peripheral clock).state ≠ .lost := by simp [ofPeripheral]
  refine ⟨replies_of_lost (lost_of_refused refused), ?_⟩
  rw [unaffected_iff_lost refused, lost_after_iff held]

theorem later_refusal_unnoticed :
    let uart := (ofPeripheral Bench.Wire.free 125000000).after [.enable 115200, .enable 0]
    (uart.enable 9600).1 = .error .disabled ∧ uart.Unaffected 9600 := by
  have refused : (((ofPeripheral Bench.Wire.free 125000000).after
      [.enable 115200, .enable 0]).enable 9600).1 = .error .disabled := rfl
  have earlier : (ofPeripheral Bench.Wire.free 125000000).HasRefused [.enable 115200, .enable 0] :=
    ⟨.badSettings, List.mem_cons_of_mem _ List.mem_cons_self⟩
  exact ⟨refused, (refusal_unnoticed_iff _ _ _ _ _ refused).2.mpr earlier⟩

def speaking : Uart Bench.Wire :=
  (ofPeripheral Bench.Wire.free 125000000).after [.enable 115200, .write 65]

/-- Without the attempt at the rate 0 the port would go on, and at another rate too. With it, it
answers that it is disabled, though it was enabled before. -/
theorem zero_rate_silences :
    (speaking.enable 0).1 = .error .badSettings ∧ ¬ speaking.Unaffected 0 ∧
      speaking.replies [.write 66, .enable 9600, .write 67] =
        [.done (.ok ()), .enabled (.ok 9600), .done (.ok ())] ∧
      (speaking.enable 0).2.replies [.write 66, .enable 9600, .write 67] =
        [.done (.error (.fault .disabled)), .enabled (.error .disabled),
          .done (.error (.fault .disabled))] := by
  refine ⟨rfl, ?_, rfl, rfl⟩
  intro unaffected
  have reply : [UartReply.done (.error (.fault .disabled))] = [.done (.ok ())] :=
    unaffected [.write 66]
  cases reply

end Uart

end Gadget
