import Gadget.Bench.Wire
import Gadget.Proofs.Console.Announcing
import Gadget.Proofs.Console.Wire
import Mathlib.Data.List.TakeWhile

namespace Gadget

theorem wireBytes_taken (data : Bytes) : wireBytes (data.map (Attempt.mk · true)) = data := by
  have plain := wireBytes_passAttempts data none
  rwa [passAttempts, Option.toList_none, List.map_nil, List.append_nil] at plain

theorem passAttempts_none (taken : Bytes) :
    passAttempts taken none = taken.map (Attempt.mk · true) := List.append_nil _

theorem length_passAttempts (taken rest : Bytes) :
    (passAttempts taken rest.head?).length =
      if rest = [] then taken.length else taken.length + 1 := by
  cases rest <;> simp [passAttempts]

theorem passAttempts_eq_nil_iff (taken rest : Bytes) :
    passAttempts taken rest.head? = [] ↔ taken ++ rest = [] := by
  cases taken <;> cases rest <;> simp [passAttempts]

theorem map_byte_passAttempts (taken : Bytes) (refused : Option UInt8) :
    (passAttempts taken refused).map Attempt.byte = taken ++ refused.toList := by
  cases refused <;> simp [passAttempts, Function.comp_def]

namespace SerialPort

variable {π ε : Type}

def accepted [SerialPort π ε] (port : π) (data : Bytes) : Nat :=
  ((SerialPort.offerAll port data).1.takeWhile Attempt.taken).length

theorem accepted_of_pass [SerialPort π ε] {port after : π} {taken rest : Bytes}
    (replayed : SerialPort.offerAll port ((passAttempts taken rest.head?).map Attempt.byte) =
      (passAttempts taken rest.head?, after)) :
    SerialPort.accepted port (taken ++ rest) = taken.length := by
  have all : ∀ attempt ∈ taken.map (Attempt.mk · true), attempt.taken = true := by simp
  rw [map_byte_passAttempts] at replayed
  cases rest with
  | nil =>
    rw [List.head?_nil, Option.toList_none, passAttempts_none] at replayed
    rw [SerialPort.accepted, replayed, List.takeWhile_eq_self_iff.mpr all, List.length_map]
  | cons byte younger =>
    rw [List.head?_cons, Option.toList_some] at replayed
    have split : taken ++ byte :: younger = taken ++ [byte] ++ younger := by simp
    rw [SerialPort.accepted, split, SerialPort.offerAll_append, replayed, passAttempts,
      List.append_assoc, List.takeWhile_append_of_pos all]
    simp

def TakesAll [SerialPort π ε] (port : π) : Prop :=
  ∀ data, (SerialPort.offerAll port data).1 = data.map (Attempt.mk · true)

theorem TakesAll.after [SerialPort π ε] {port : π} (takes : SerialPort.TakesAll port)
    (data : Bytes) : SerialPort.TakesAll (SerialPort.offerAll port data).2 := by
  intro more
  have all := takes (data ++ more)
  rw [SerialPort.offerAll_append, List.map_append, takes data] at all
  exact List.append_cancel_left all

theorem TakesAll.accepted [SerialPort π ε] {port : π} (takes : SerialPort.TakesAll port)
    (data : Bytes) : SerialPort.accepted port data = data.length := by
  rw [SerialPort.accepted, takes data, List.takeWhile_eq_self_iff.mpr (by simp), List.length_map]

theorem takesAll_of_invariant [SerialPort π ε] (inv : π → Prop)
    (step : ∀ port byte, inv port →
      ∃ next, SerialPort.offer byte port = (.ok (), next) ∧ inv next)
    {port : π} (holds : inv port) : SerialPort.TakesAll port := by
  intro data
  induction data generalizing port with
  | nil => rfl
  | cons byte rest ih =>
    obtain ⟨next, taken, kept⟩ := step port byte holds
    simp only [SerialPort.offerAll, taken, ih kept, List.map_cons]
    rfl

end SerialPort

def Bench.Wire.IsFree (wire : Bench.Wire) : Prop :=
  wire.credit = none ∧ wire.fault = 0 ∧ wire.busy = 0 ∧ wire.busyEvery = 0

theorem Bench.takesAll_of_isFree {port : Bench.Port} (free : port.wire.IsFree) :
    SerialPort.TakesAll port := by
  refine SerialPort.takesAll_of_invariant (fun port : Bench.Port => port.wire.IsFree) ?_ free
  intro port byte free
  refine ⟨{ port with wire := { port.wire with attempts := port.wire.attempts + 1 } }, ?_, free⟩
  obtain ⟨credit, fault, busy, every⟩ := free
  simp [SerialPort.offer, Bench.Wire.offer, credit, fault, busy, every]

namespace Console

variable {capacity : Capacity} {π ε : Type}

def Flowing [SerialPort π ε] (console : Console capacity π) : Prop :=
  ∃ port, console.port = some port ∧ SerialPort.TakesAll port

theorem task_eq [SerialPort π ε] (console : Console capacity π) :
    console.task = console.announce.2.drain := by
  rw [task, taskAmid, announceAll_alone]

theorem loss_drain [SerialPort π ε] (console : Console capacity π) :
    console.drain.2.loss = console.loss := by
  unfold drain
  split <;> rfl

theorem drain_of_unbound [SerialPort π ε] {console : Console capacity π}
    (unbound : console.port = none) : console.drain = ([], console) := by
  rw [drain, unbound]

theorem drain_of_bound [SerialPort π ε] {console : Console capacity π} {port : π}
    (bound : console.port = some port) :
    let waiting := console.ring.toList
    let taken := SerialPort.accepted port waiting
    console.drain.1 = passAttempts (waiting.take taken) (waiting.drop taken).head? ∧
      console.drain.2.ring.toList = waiting.drop taken ∧
      console.drain.2.ring.sent = console.ring.sent + .ofNat taken ∧
      taken ≤ waiting.length ∧
      ∃ after, console.drain.2.port = some after ∧
        SerialPort.offerAll port (console.drain.1.map Attempt.byte) = (console.drain.1, after) := by
  have spec := drainTo_spec port console.ring
  unfold drain
  rw [bound]
  dsimp only
  generalize drainTo port console.ring = pass at spec ⊢
  obtain ⟨attempts, after, rest⟩ := pass
  obtain ⟨taken, content, rfl, sent, replayed⟩ := spec
  have count := SerialPort.accepted_of_pass replayed
  rw [content, count, List.take_left, List.drop_left, List.length_append]
  exact ⟨rfl, rfl, sent, Nat.le_add_right _ _, after, rfl, replayed⟩

theorem drain_of_flowing [SerialPort π ε] {console : Console capacity π}
    (flowing : console.Flowing) :
    console.drain.1 = console.ring.toList.map (Attempt.mk · true) ∧
      console.drain.2.ring.toList = [] ∧ console.drain.2.loss = console.loss ∧
      console.drain.2.Flowing := by
  obtain ⟨port, bound, takes⟩ := flowing
  obtain ⟨attempts, left, _, _, after, own, replayed⟩ := drain_of_bound bound
  have kept := takes.after (console.drain.1.map Attempt.byte)
  rw [replayed] at kept
  rw [takes.accepted, List.drop_length] at left
  rw [takes.accepted, List.take_length, List.drop_length, List.head?_nil,
    passAttempts_none] at attempts
  exact ⟨attempts, left, console.loss_drain, after, own, kept⟩

theorem Flowing.run [SerialPort π ε] {console : Console capacity π} (flowing : console.Flowing)
    (sections : List (Section π)) : (console.run sections).2.Flowing := by
  obtain ⟨port, bound, takes⟩ := flowing
  obtain ⟨after, own, replayed⟩ := run_bound console sections port bound
  have kept := takes.after (((console.run sections).1.flatMap Effect.attempts).map Attempt.byte)
  rw [replayed] at kept
  exact ⟨after, own, kept⟩

theorem Flowing.announce [SerialPort π ε] {console : Console capacity π}
    (flowing : console.Flowing) : console.announce.2.Flowing := by
  rwa [Flowing, port_announce]

theorem loss_task [SerialPort π ε] (console : Console capacity π) :
    console.task.2.loss =
      if console.Announceable then console.loss.announce console.loss.pending
      else console.loss := by
  rw [task_eq, loss_drain, loss_announce]

theorem pending_task [SerialPort π ε] (console : Console capacity π) :
    console.task.2.loss.pending =
      if console.Announceable then 0 else console.loss.pending := by
  rw [task_eq, loss_drain, pending_announce]

theorem task_of_unbound [SerialPort π ε] {console : Console capacity π}
    (unbound : console.port = none) : console.task = ([], console.announce.2) := by
  rw [task_eq, drain_of_unbound (console.port_announce.trans unbound)]

theorem task_of_bound [SerialPort π ε] {console : Console capacity π} {port : π}
    (bound : console.port = some port) :
    let waiting := console.ring.toList ++ console.due
    let taken := SerialPort.accepted port waiting
    console.task.1 = passAttempts (waiting.take taken) (waiting.drop taken).head? ∧
      console.task.2.ring.toList = waiting.drop taken ∧
      console.task.2.ring.sent = console.ring.sent + .ofNat taken ∧
      taken ≤ waiting.length ∧
      ∃ after, console.task.2.port = some after ∧
        SerialPort.offerAll port (console.task.1.map Attempt.byte) = (console.task.1, after) := by
  have drained := drain_of_bound (console.port_announce.trans bound)
  rwa [toList_announce, sent_announce, ← task_eq] at drained

theorem drain_of_drained [SerialPort π ε] {console : Console capacity π}
    (drained : console.ring.toList = []) : console.drain = ([], console) := by
  obtain ⟨ring, loss, port⟩ := console
  cases port with
  | none => rfl
  | some port =>
    have none : ring.front? = none := by
      rw [Ring.front?_eq_head?, drained, List.head?_nil]
    have stops : drainTo port ring = ([], port, ring) := by
      rw [drainTo]
      split
      · rfl
      · rename_i byte oldest
        rw [none] at oldest
        cases oldest
    simp only [drain, stops]

/-- All that a pass does which no other context interrupts. The notice for the whole loss is queued
behind what waits and settles the loss, if there is a loss and its notice fits the room there is at
first; room that the drain makes does not count. Without a port that is all. A port is offered what
waits then, in order, up to the first byte it refuses, and that byte and those after it stay. So at
most one attempt fails, and with nothing to say nothing is done. -/
theorem pass_in_full [SerialPort π ε] (console : Console capacity π) :
    let notice := (Notice.text console.loss.pending).bytes
    let fits := console.Announceable
    let waiting := console.ring.toList ++ if fits then notice else []
    let done := console.task
    (fits ↔ console.loss.pending ≠ 0 ∧ notice.length ≤ console.ring.available) ∧
      done.2.loss =
        (if fits then console.loss.announce console.loss.pending else console.loss) ∧
      done.2.loss.pending = (if fits then 0 else console.loss.pending) ∧
      (console.port = none → done = ([], console.announce.2) ∧ done.2.ring.toList = waiting ∧
        done.2.ring.sent = console.ring.sent ∧ done.2.port = none ∧
        (¬ fits → done = ([], console))) ∧
      (∀ port, console.port = some port →
        let taken := SerialPort.accepted port waiting
        done.1 = passAttempts (waiting.take taken) (waiting.drop taken).head? ∧
          done.1.length = (if done.2.ring.toList = [] then taken else taken + 1) ∧
          taken ≤ waiting.length ∧ done.2.ring.toList = waiting.drop taken ∧
          done.2.ring.sent.toNat = (console.ring.sent.toNat + taken) % UInt64.size ∧
          ∃ after, done.2.port = some after ∧
            SerialPort.offerAll port (done.1.map Attempt.byte) = (done.1, after)) ∧
      (console.ring.toList = [] → console.loss.pending = 0 → done = ([], console)) := by
  have condition : console.Announceable ↔ console.loss.pending ≠ 0 ∧
      (Notice.text console.loss.pending).bytes.length ≤ console.ring.available := by
    rw [Announceable, Notice.length_bytes_text]
  refine ⟨condition, console.loss_task, console.pending_task, ?_, ?_, ?_⟩
  · intro unbound
    rw [task_of_unbound unbound]
    refine ⟨rfl, console.toList_announce, console.sent_announce,
      console.port_announce.trans unbound, ?_⟩
    intro waits
    rw [announce_of_not_announceable waits]
  · intro port bound
    obtain ⟨attempts, left, sent, within, replayed⟩ := task_of_bound bound
    refine ⟨attempts, ?_, within, left, ?_, replayed⟩
    · rw [attempts, length_passAttempts, List.length_take_of_le within, left]
      rfl
    · rw [sent, UInt64.toNat_add, UInt64.toNat_ofNat', Nat.add_mod_mod]
      rfl
  · intro nothing calm
    rw [task_eq, announce_of_calm calm, drain_of_drained nothing]

theorem task_of_flowing [SerialPort π ε] {console : Console capacity π}
    (flowing : console.Flowing) :
    console.task.1 = (console.ring.toList ++ console.due).map (Attempt.mk · true) ∧
      console.task.2.ring.toList = [] ∧
      console.task.2.loss.pending =
        (if console.Announceable then 0 else console.loss.pending) ∧
      console.task.2.Flowing := by
  obtain ⟨attempts, nothing, _, next⟩ := drain_of_flowing flowing.announce
  rw [toList_announce] at attempts
  rw [← task_eq] at attempts nothing next
  exact ⟨attempts, nothing, console.pending_task, next⟩

def onFreeWire : Console capacity Bench.Port :=
  (Console.empty.run
    [.bind ⟨none, none, none, false, .free⟩ (.transmitOnly 115200 0)]).2

theorem flowing_onFreeWire : (onFreeWire : Console capacity Bench.Port).Flowing :=
  ⟨⟨some 0, some 115200, none, false, .free⟩, rfl, Bench.takesAll_of_isFree ⟨rfl, rfl, rfl, rfl⟩⟩

theorem flush_of_idle [SerialPort π ε] {console : Console capacity π}
    (idle : console.port = none ∨ console.ring.toList = []) (passes : Nat) :
    console.flush passes = some ([], console) := by
  have stops : (!console.isBound || console.ring.isEmpty) = true := by
    rcases idle with unbound | nothing
    · simp [isBound, unbound]
    · simp [console.ring.isEmpty_iff_toList_eq_nil.mpr nothing]
  unfold flush
  exact if_pos stops

theorem flush_of_busy [SerialPort π ε] {console : Console capacity π} {port : π}
    (bound : console.port = some port) (busy : console.ring.toList ≠ []) :
    console.flush 0 = none ∧ ∀ passes, console.flush (passes + 1) =
      (console.task.2.flush passes).map fun (more, last) => (console.task.1 ++ more, last) := by
  have goesOn : ¬ (!console.isBound || console.ring.isEmpty) = true := by
    simp [isBound, bound, console.ring.isEmpty_iff_toList_eq_nil, busy]
  exact ⟨if_neg goesOn, fun passes => if_neg goesOn⟩

def FlushAnnounces (console : Console capacity π) : Prop :=
  console.ring.toList ≠ [] ∧ console.Announceable

instance (console : Console capacity π) : Decidable console.FlushAnnounces :=
  inferInstanceAs (Decidable (_ ∧ _))

theorem flush_of_flowing [SerialPort π ε] {console : Console capacity π}
    (flowing : console.Flowing) (passes : Nat) :
    ∃ attempts last, console.flush (passes + 1) = some (attempts, last) ∧
      last.ring.toList = [] ∧
      wireBytes attempts = console.ring.toList ++
        (if console.FlushAnnounces then (Notice.text console.loss.pending).bytes else []) ∧
      last.loss.pending = if console.FlushAnnounces then 0 else console.loss.pending := by
  by_cases empty : console.ring.toList = []
  · have quiet : ¬ console.FlushAnnounces := fun announces => announces.1 empty
    refine ⟨[], console, flush_of_idle (.inr empty) _, empty, ?_, ?_⟩
    · rw [if_neg quiet, empty]
      rfl
    · rw [if_neg quiet]
  -- The first pass leaves nothing to a second one.
  · obtain ⟨attempts, nothing, pending, _⟩ := task_of_flowing flowing
    obtain ⟨port, bound, _⟩ := flowing
    obtain ⟨_, more⟩ := flush_of_busy bound empty
    have announces : console.FlushAnnounces ↔ console.Announceable := and_iff_right empty
    refine ⟨console.task.1, console.task.2, ?_, nothing, ?_, ?_⟩
    · simp [more, flush_of_idle (.inr nothing)]
    · rw [attempts, wireBytes_taken, due]
      simp only [announces]
    · rw [pending]
      simp only [announces]

end Console

end Gadget
