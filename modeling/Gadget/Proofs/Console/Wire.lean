import Gadget.Proofs.Console.Step

namespace Gadget

namespace Console

variable {capacity : Capacity} {π ε : Type}

def wire (effects : List Effect) : Bytes := wireBytes (effects.flatMap Effect.attempts)

theorem wire_cons (effect : Effect) (rest : List Effect) :
    wire (effect :: rest) = wireBytes effect.attempts ++ wire rest := by
  rw [wire, List.flatMap_cons, wireBytes_append]
  rfl

theorem run_cons [SerialPort π ε] (console : Console capacity π) (part : Section π)
    (rest : List (Section π)) :
    console.run (part :: rest) = ((console.perform part).1 :: ((console.perform part).2.run rest).1,
      ((console.perform part).2.run rest).2) := rfl

theorem run_content [SerialPort π ε] (console : Console capacity π) (sections : List (Section π)) :
    wire (console.run sections).1 ++ (console.run sections).2.ring.toList =
      console.ring.toList ++ (console.run sections).1.flatMap Effect.queued := by
  induction sections generalizing console with
  | nil => exact (List.append_nil _).symm
  | cons part rest ih =>
    have step := console.step_perform part
    rw [run_cons, wire_cons, List.flatMap_cons, List.append_assoc, ih, ← List.append_assoc,
      step.content, List.append_assoc]

theorem run_content_empty [SerialPort π ε] (sections : List (Section π)) :
    wire ((empty : Console capacity π).run sections).1 ++
        ((empty : Console capacity π).run sections).2.ring.toList =
      ((empty : Console capacity π).run sections).1.flatMap Effect.queued := by
  have nothing : (empty : Console capacity π).ring.toList = [] := Ring.toList_ofStart 0
  rw [run_content, nothing, List.nil_append]

theorem run_sent [SerialPort π ε] (console : Console capacity π) (sections : List (Section π)) :
    (console.run sections).2.ring.sent =
      console.ring.sent + .ofNat (wire (console.run sections).1).length := by
  induction sections generalizing console with
  | nil => exact (UInt64.add_zero _).symm
  | cons part rest ih =>
    have step := console.step_perform part
    rw [run_cons, wire_cons, List.length_append, UInt64.ofNat_add, ← UInt64.add_assoc, ih,
      step.sent]

theorem run_first [SerialPort π ε] (console : Console capacity π) (sections : List (Section π))
    {byte : UInt8} (oldest : console.ring.toList.head? = some byte) :
    ∀ attempt ∈ ((console.run sections).1.flatMap Effect.attempts).head?,
      attempt.byte = byte := by
  induction sections generalizing console with
  | nil => simp [run]
  | cons part rest ih =>
    have step := console.step_perform part
    rw [run_cons, List.flatMap_cons]
    cases made : (console.perform part).1.attempts with
    -- Without an attempt the byte still waits, and it is still the oldest.
    | nil =>
      apply ih
      have content := step.content
      rw [made] at content
      obtain ⟨younger, split⟩ := List.head?_eq_some_iff.mp oldest
      rw [split] at content
      exact List.head?_eq_some_iff.mpr ⟨_, content⟩
    | cons attempt more =>
      intro first member
      cases member
      have same := step.first attempt (by rw [made]; rfl)
      exact Option.some.inj (same.symm.trans oldest)

theorem run_retried [SerialPort π ε] (console : Console capacity π)
    (sections : List (Section π)) :
    ((console.run sections).1.flatMap Effect.attempts).IsChain Retries := by
  induction sections generalizing console with
  | nil => exact .nil
  | cons part rest ih =>
    have step := console.step_perform part
    rw [run_cons, List.flatMap_cons]
    apply List.IsChain.append step.retried (ih _)
    intro refused last attempt first refusal
    exact run_first _ rest (step.last refused last refusal) attempt first

theorem run_bound [SerialPort π ε] (console : Console capacity π) (sections : List (Section π))
    (port : π) (bound : console.port = some port) :
    ∃ after, (console.run sections).2.port = some after ∧
      SerialPort.offerAll port
          (((console.run sections).1.flatMap Effect.attempts).map Attempt.byte) =
        ((console.run sections).1.flatMap Effect.attempts, after) := by
  induction sections generalizing console port with
  | nil => exact ⟨port, bound, rfl⟩
  | cons part rest ih =>
    obtain ⟨next, same, replayed⟩ := (console.step_perform part).bound port bound
    obtain ⟨after, last, more⟩ := ih _ next same
    refine ⟨after, last, ?_⟩
    rw [run_cons, List.flatMap_cons, List.map_append, SerialPort.offerAll_append, replayed, more]

def Served [SerialPort π ε] (attempts : List Attempt) : Option π → Prop
  | none => attempts = []
  | some after => ∃ bound,
    SerialPort.offerAll bound (attempts.map Attempt.byte) = (attempts, after)

theorem run_served [SerialPort π ε] (console : Console capacity π) (sections : List (Section π))
    (unbound : console.port = none) :
    Served ((console.run sections).1.flatMap Effect.attempts) (console.run sections).2.port := by
  induction sections generalizing console with
  | nil =>
    simp only [run, unbound]
    rfl
  | cons part rest ih =>
    have quiet := (console.step_perform part).unbound unbound
    rw [run_cons, List.flatMap_cons, quiet, List.nil_append]
    cases own : (console.perform part).2.port with
    | none => exact ih _ own
    | some port =>
      obtain ⟨after, last, replayed⟩ := run_bound _ rest port own
      dsimp only
      rw [last]
      exact ⟨port, replayed⟩

theorem run_call? [SerialPort π ε] (console : Console capacity π)
    (sections : List (Section π)) :
    (console.run sections).1.map Effect.call? = sections.map Section.call? := by
  induction sections generalizing console with
  | nil => rfl
  | cons part rest ih => rw [run_cons, List.map_cons, List.map_cons, call?_perform, ih]

/-- Over any run of sections from the empty console, whichever contexts they belong to and whatever
the port answers: the wire and the ring hold what the writing calls of the run and the notices put
in, in order; the sent counter tells how many bytes the port took; a refused byte is offered again
before any other; and it is one port that answers. -/
theorem wire_first_in_first_out [SerialPort π ε] (sections : List (Section π)) :
    let done := (Console.empty : Console capacity π).run sections
    let attempts := done.1.flatMap Effect.attempts
    done.1.map Effect.call? = sections.map Section.call? ∧
      wireBytes attempts ++ done.2.ring.toList = done.1.flatMap Effect.queued ∧
      done.2.ring.sent.toNat = (wireBytes attempts).length % UInt64.size ∧
      attempts.IsChain Retries ∧ Served attempts done.2.port := by
  have sent := run_sent (Console.empty : Console capacity π) sections
  have zero : (Console.empty : Console capacity π).ring.sent = 0 := rfl
  rw [zero, UInt64.zero_add] at sent
  refine ⟨run_call? _ sections, run_content_empty sections, ?_, run_retried _ sections,
    run_served _ sections rfl⟩
  rw [sent, UInt64.toNat_ofNat']
  rfl

end Console

end Gadget
