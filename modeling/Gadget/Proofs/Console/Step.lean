import Gadget.Proofs.Console.Effects
import Mathlib.Data.List.Chain

namespace Gadget

def passAttempts (taken : Bytes) (refused : Option UInt8) : List Attempt :=
  taken.map (Attempt.mk · true) ++ refused.toList.map (Attempt.mk · false)

def Retries (first second : Attempt) : Prop := first.taken = false → second.byte = first.byte

theorem wireBytes_passAttempts (taken : Bytes) (refused : Option UInt8) :
    wireBytes (passAttempts taken refused) = taken := by
  have none : wireBytes (refused.toList.map (Attempt.mk · false)) = [] := by
    cases refused <;> rfl
  rw [passAttempts, wireBytes_append, none, List.append_nil]
  induction taken with
  | nil => rfl
  | cons byte rest ih => exact congrArg (byte :: ·) ih

theorem retries_passAttempts (taken : Bytes) (refused : Option UInt8) :
    (passAttempts taken refused).IsChain Retries := by
  induction taken with
  | nil => cases refused <;> simp [passAttempts]
  | cons byte rest ih =>
    apply List.IsChain.cons ih
    intro attempt _ refusal
    cases refusal

theorem head?_passAttempts (taken rest : Bytes) {attempt : Attempt}
    (first : attempt ∈ (passAttempts taken rest.head?).head?) :
    (taken ++ rest).head? = some attempt.byte := by
  cases taken with
  | nil =>
    cases rest with
    | nil => cases first
    | cons byte rest =>
      cases first
      rfl
  | cons byte more =>
    cases first
    rfl

theorem refused_of_getLast?_passAttempts {taken : Bytes} {refused : Option UInt8}
    {attempt : Attempt} (last : attempt ∈ (passAttempts taken refused).getLast?)
    (refusal : attempt.taken = false) : refused = some attempt.byte := by
  cases refused with
  | none =>
    have member := List.mem_of_getLast? last
    simp only [passAttempts, Option.toList_none, List.map_nil, List.append_nil,
      List.mem_map] at member
    obtain ⟨byte, _, rfl⟩ := member
    cases refusal
  | some byte =>
    simp only [passAttempts, Option.toList_some, List.map_cons, List.map_nil,
      List.getLast?_append, List.getLast?_singleton, Option.some_or, Option.mem_def,
      Option.some.injEq] at last
    rw [← last]

namespace Console

variable {capacity : Capacity} {π ε : Type}

/-- The bytes a port takes leave the ring in order. The pass ends with the refusal of the byte that
is the oldest then, or with an empty ring. -/
theorem drainTo_spec [SerialPort π ε] (port : π) (ring : Ring capacity) :
    let (attempts, after, rest) := drainTo port ring
    ∃ taken : Bytes, ring.toList = taken ++ rest.toList ∧
      attempts = passAttempts taken rest.toList.head? ∧
      rest.sent = ring.sent + .ofNat taken.length ∧
      SerialPort.offerAll port (attempts.map Attempt.byte) = (attempts, after) := by
  fun_induction drainTo port ring with
  | case1 port ring none =>
    rw [Ring.front?_eq_head?] at none
    exact ⟨[], rfl, by simp [passAttempts, none], (UInt64.add_zero _).symm, rfl⟩
  | case2 port ring byte oldest _ cause next refused =>
    rw [Ring.front?_eq_head?] at oldest
    refine ⟨[], rfl, by simp [passAttempts, oldest], (UInt64.add_zero _).symm, ?_⟩
    simp only [List.map_cons, List.map_nil, SerialPort.offerAll, refused]
    rfl
  | case3 port ring byte oldest shorter answer next accepted attempts rest more ih =>
    -- The port took the byte, which leaves the ring before the pass goes on.
    obtain ⟨after, rest⟩ := rest
    rw [more] at ih
    obtain ⟨taken, content, made, sent, replayed⟩ := ih
    have waiting : ring.isEmpty = false := by
      cases empty : ring.isEmpty
      · rfl
      · simp [Ring.front?, empty] at oldest
    have next : ring.consume.sent = ring.sent + 1 := by simp [Ring.consume, waiting]
    rw [Ring.front?_eq_head?] at oldest
    obtain ⟨younger, split⟩ := List.head?_eq_some_iff.mp oldest
    rw [Ring.toList_consume, split, List.tail_cons] at content
    refine ⟨byte :: taken, ?_, ?_, ?_, ?_⟩
    · rw [split, content, List.cons_append]
    · rw [made]
      rfl
    · rw [sent, next, List.length_cons, UInt64.ofNat_add, UInt64.add_assoc,
        UInt64.add_comm (.ofNat _)]
      rfl
    · simp only [List.map_cons, SerialPort.offerAll, accepted, replayed]
      rfl

/-- What the effect of a section tells of the consoles before and after it. -/
structure Step [SerialPort π ε] (console : Console capacity π) (effect : Effect)
    (next : Console capacity π) : Prop where
  content : wireBytes effect.attempts ++ next.ring.toList = console.ring.toList ++ effect.queued
  sent : next.ring.sent = console.ring.sent + .ofNat (wireBytes effect.attempts).length
  loss : next.loss = effect.settle console.loss
  suppressed : ∀ data count, effect = .accepted (.emitted data) count →
    console.loss.isPending = true → count = 0
  notice : ∀ count, effect = .announced (some count) → count = console.loss.pending
  retried : effect.attempts.IsChain Retries
  first : ∀ attempt ∈ effect.attempts.head?, console.ring.toList.head? = some attempt.byte
  last : ∀ attempt ∈ effect.attempts.getLast?, attempt.taken = false →
    next.ring.toList.head? = some attempt.byte
  unbound : console.port = none → effect.attempts = []
  bound : ∀ port, console.port = some port → ∃ after, next.port = some after ∧
    SerialPort.offerAll port (effect.attempts.map Attempt.byte) = (effect.attempts, after)

theorem Step.quiet [SerialPort π ε] {console next : Console capacity π} {effect : Effect}
    (quiet : effect.attempts = [])
    (content : next.ring.toList = console.ring.toList ++ effect.queued)
    (sent : next.ring.sent = console.ring.sent) (loss : next.loss = effect.settle console.loss)
    (suppressed : ∀ data count, effect = .accepted (.emitted data) count →
      console.loss.isPending = true → count = 0)
    (notice : ∀ count, effect = .announced (some count) → count = console.loss.pending)
    (port : ∀ port, console.port = some port → next.port = some port) :
    Step console effect next where
  content := by simpa [quiet, wireBytes] using content
  sent := by simpa [quiet, wireBytes] using sent
  loss := loss
  suppressed := suppressed
  notice := notice
  retried := by rw [quiet]; exact .nil
  first := by simp [quiet]
  last := by simp [quiet]
  unbound := fun _ => quiet
  bound := fun before same => ⟨before, port before same, by rw [quiet]; rfl⟩

theorem step_write [SerialPort π ε] (console : Console capacity π) (write : Write) :
    Step console (.accepted write (console.accept write).1) (console.accept write).2 := by
  obtain ⟨content, sent, port, loss⟩ := console.accept_spec write
  refine .quiet rfl content sent loss ?_ (by simp) (fun _ same => port.trans same)
  intro data count same pending
  cases same
  exact accept_emitted_of_isPending pending data

theorem step_announce [SerialPort π ε] (console : Console capacity π) :
    Step console (console.perform .announce).1 (console.perform .announce).2 := by
  rcases console.announce_cases with same | ⟨ring, same, content, sent⟩
  · simp only [perform, same]
    exact .quiet rfl (List.append_nil _).symm rfl rfl (by simp) (by simp) (fun _ same => same)
  · simp only [perform, same]
    exact .quiet rfl content sent rfl (by simp) (by simp) (fun _ same => same)

theorem step_drain [SerialPort π ε] (console : Console capacity π) :
    Step console (console.perform .drain).1 (console.perform .drain).2 := by
  obtain ⟨ring, loss, port⟩ := console
  cases port with
  | none =>
    exact .quiet rfl (List.append_nil _).symm rfl rfl (by simp [perform, drain])
      (by simp [perform, drain]) (by simp)
  | some port =>
    have spec := drainTo_spec port ring
    simp only [perform, drain]
    generalize drainTo port ring = pass at spec ⊢
    obtain ⟨attempts, after, rest⟩ := pass
    obtain ⟨taken, content, rfl, sent, replayed⟩ := spec
    constructor
    · simp only [Effect.attempts, Effect.queued, wireBytes_passAttempts, List.append_nil, content]
    · simp only [Effect.attempts, wireBytes_passAttempts, sent]
    · rfl
    · simp
    · simp
    · exact retries_passAttempts taken _
    · intro attempt first
      simpa only [content] using head?_passAttempts taken rest.toList first
    · intro attempt last refusal
      exact refused_of_getLast?_passAttempts last refusal
    · simp
    · intro before same
      cases same
      exact ⟨after, rfl, replayed⟩

theorem bind_cases [SerialPort π ε] (console : Console capacity π) (port : π)
    (settings : PortSettings) :
    (console.bind port settings).value.2.1 = console ∨
      console.port = none ∧ ∃ own,
        (console.bind port settings).value.2.1 = { console with port := some own } := by
  unfold bind
  split
  · exact .inl rfl
  · split
    · exact .inl rfl
    · rename_i unbound
      rw [Logged.value_bind]
      split
      · exact .inl rfl
      · refine .inr ⟨?_, _, rfl⟩
        cases own : console.port with
        | none => rfl
        | some _ => simp [isBound, own] at unbound

theorem step_bind [SerialPort π ε] (console : Console capacity π) (port : π)
    (settings : PortSettings) :
    Step console (console.perform (.bind port settings)).1
      (console.perform (.bind port settings)).2 := by
  have quiet : (console.perform (.bind port settings)).1.attempts = [] := rfl
  rcases console.bind_cases port settings with same | ⟨unbound, own, same⟩
  · refine .quiet rfl ?_ ?_ ?_ (by simp [perform]) (by simp [perform]) ?_
    all_goals simp [perform, same, Effect.queued, Effect.settle]
  · refine .quiet rfl ?_ ?_ ?_ (by simp [perform]) (by simp [perform]) ?_
    all_goals simp [perform, same, Effect.queued, Effect.settle, unbound]

theorem step_perform [SerialPort π ε] (console : Console capacity π) (part : Section π) :
    Step console (console.perform part).1 (console.perform part).2 := by
  cases part with
  | write write => exact console.step_write write
  | announce => exact console.step_announce
  | drain => exact console.step_drain
  | bind port settings => exact console.step_bind port settings

end Console

end Gadget
