import Gadget.Proofs.Console.Wire

namespace Gadget

namespace Console

variable {capacity : Capacity} {π ε : Type} {allowed : Write → Prop}

/-- Some sections, with no writes but allowed ones, lead from one console to the other and make these
attempts on the way. -/
def Reaches [SerialPort π ε] (allowed : Write → Prop) (console : Console capacity π)
    (attempts : List Attempt) (next : Console capacity π) : Prop :=
  ∃ sections : List (Section π), (∀ part ∈ sections, ∀ call ∈ part.call?, allowed call) ∧
    (console.run sections).1.flatMap Effect.attempts = attempts ∧ (console.run sections).2 = next

theorem run_append [SerialPort π ε] (console : Console capacity π) (first rest : List (Section π)) :
    console.run (first ++ rest) = ((console.run first).1 ++ ((console.run first).2.run rest).1,
      ((console.run first).2.run rest).2) := by
  induction first generalizing console with
  | nil => rfl
  | cons part more ih => rw [List.cons_append, run_cons, ih, run_cons, List.cons_append]

theorem Reaches.refl [SerialPort π ε] (console : Console capacity π) :
    Reaches allowed console [] console :=
  ⟨[], by simp, rfl, rfl⟩

theorem Reaches.trans [SerialPort π ε] {console middle last : Console capacity π}
    {attempts more : List Attempt} (first : Reaches allowed console attempts middle)
    (second : Reaches allowed middle more last) :
    Reaches allowed console (attempts ++ more) last := by
  obtain ⟨sections, calls, rfl, rfl⟩ := first
  obtain ⟨others, further, rfl, rfl⟩ := second
  refine ⟨sections ++ others, ?_, ?_, ?_⟩
  · intro part member
    rcases List.mem_append.mp member with member | member
    · exact calls part member
    · exact further part member
  · rw [run_append, List.flatMap_append]
  · rw [run_append]

theorem Reaches.part [SerialPort π ε] (console : Console capacity π) (part : Section π)
    (calls : ∀ call ∈ part.call?, allowed call) :
    Reaches allowed console (console.perform part).1.attempts (console.perform part).2 := by
  refine ⟨[part], ?_, List.append_nil _, rfl⟩
  intro other member
  rw [List.mem_singleton.mp member]
  exact calls

theorem Reaches.write [SerialPort π ε] (console : Console capacity π) {write : Write}
    (call : allowed write) : Reaches allowed console [] (console.accept write).2 := by
  apply Reaches.part console (.write write)
  intro other same
  cases same
  exact call

theorem Reaches.announce [SerialPort π ε] (console : Console capacity π) :
    Reaches allowed console [] console.announce.2 :=
  .part console .announce (by simp [Section.call?])

theorem Reaches.drain [SerialPort π ε] (console : Console capacity π) :
    Reaches allowed console console.drain.1 console.drain.2 :=
  .part console .drain (by simp [Section.call?])

theorem reaches_acceptAll [SerialPort π ε] (console : Console capacity π) {writes : List Write}
    (calls : ∀ write ∈ writes, allowed write) :
    Reaches allowed console [] (console.acceptAll writes) := by
  induction writes generalizing console with
  | nil => exact .refl console
  | cons write rest ih =>
    have first := Reaches.write console (calls write List.mem_cons_self)
    exact first.trans (ih _ fun other member => calls other (List.mem_cons_of_mem write member))

theorem reaches_announceAllFrom [SerialPort π ε] {interrupts : Nat → List Write}
    (calls : ∀ turn, ∀ write ∈ interrupts turn, allowed write) (turn : Nat)
    (console : Console capacity π) :
    Reaches allowed console [] (announceAllFrom interrupts turn console).2 := by
  fun_induction announceAllFrom interrupts turn console with
  | case1 turn console next queued =>
    have first : Reaches allowed console [] console.announce.2 := .announce console
    rw [queued] at first
    exact first.trans (reaches_acceptAll next (calls turn))
  | case2 turn console next queued ih =>
    have first : Reaches allowed console [] console.announce.2 := .announce console
    rw [queued] at first
    exact first.trans ((reaches_acceptAll next (calls turn)).trans ih)

theorem reaches_taskAmid [SerialPort π ε] {interrupts : Nat → List Write}
    (calls : ∀ turn, ∀ write ∈ interrupts turn, allowed write) (console : Console capacity π) :
    Reaches allowed console (console.taskAmid interrupts).1 (console.taskAmid interrupts).2 :=
  (reaches_announceAllFrom calls 0 console).trans (.drain _)

theorem reaches_flush [SerialPort π ε] (passes : Nat) {console next : Console capacity π}
    {attempts : List Attempt} (flushed : console.flush passes = some (attempts, next)) :
    Reaches allowed console attempts next := by
  induction passes generalizing console attempts with
  | zero =>
    unfold flush at flushed
    split at flushed
    · cases flushed
      exact .refl _
    · cases flushed
  | succ passes ih =>
    unfold flush at flushed
    split at flushed
    · cases flushed
      exact .refl _
    · obtain ⟨⟨more, last⟩, rest, same⟩ := Option.map_eq_some_iff.mp flushed
      cases same
      exact (reaches_taskAmid (by simp) console).trans (ih rest)

theorem reaches_log [SerialPort π ε] (console : Console capacity π) (record : Record)
    (call : allowed (.emitted (Line.render record).bytes)) :
    Reaches allowed console [] (console.log record) :=
  .write console call

end Console

end Gadget
