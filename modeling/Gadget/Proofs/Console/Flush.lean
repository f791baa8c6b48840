import Gadget.Proofs.Console.Recovery
import Mathlib.Data.Nat.Find

namespace Gadget

namespace SerialPort

variable {π ε : Type}

/-- Whatever it was offered before, of so many bytes in a row the port takes one at least. -/
def TakesWithin [SerialPort π ε] (window : Nat) (port : π) : Prop :=
  ∀ earlier next : Bytes, next.length = window →
    ∃ attempt ∈ (SerialPort.offerAll (SerialPort.offerAll port earlier).2 next).1,
      attempt.taken = true

theorem TakesWithin.after [SerialPort π ε] {window : Nat} {port : π}
    (takes : SerialPort.TakesWithin window port) (data : Bytes) :
    SerialPort.TakesWithin window (SerialPort.offerAll port data).2 := by
  intro earlier next length
  have later := takes (data ++ earlier) next length
  rwa [SerialPort.offerAll_append] at later

theorem TakesWithin.pos [SerialPort π ε] {window : Nat} {port : π}
    (takes : SerialPort.TakesWithin window port) : 0 < window := by
  apply Nat.pos_of_ne_zero
  intro none
  obtain ⟨attempt, member, _⟩ := takes [] [] none.symm
  cases member

theorem length_wireBytes_pos {attempts : List Attempt} {attempt : Attempt}
    (member : attempt ∈ attempts) (taken : attempt.taken = true) :
    0 < (wireBytes attempts).length := by
  rw [wireBytes, List.length_map]
  exact List.length_pos_of_mem (List.mem_filter.mpr ⟨member, taken⟩)

theorem TakesWithin.length_lt [SerialPort π ε] {window : Nat} {port : π}
    (takes : SerialPort.TakesWithin window port) (data : Bytes) :
    data.length < window * ((wireBytes (SerialPort.offerAll port data).1).length + 1) := by
  induction size : data.length using Nat.strong_induction_on generalizing port data with
  | _ n ih =>
    subst size
    have positive := takes.pos
    rcases Nat.lt_or_ge data.length window with short | long
    · exact Nat.lt_of_lt_of_le short (Nat.le_mul_of_pos_right window (Nat.succ_pos _))
    · have first : (data.take window).length = window := List.length_take_of_le long
      have rest : (data.drop window).length = data.length - window := List.length_drop
      obtain ⟨attempt, member, taken⟩ := takes [] (data.take window) first
      have some : 0 < (wireBytes (SerialPort.offerAll port (data.take window)).1).length :=
        length_wireBytes_pos member taken
      have others := ih _ (by omega) (takes.after (data.take window)) (data.drop window) rfl
      have split := SerialPort.offerAll_append port (data.take window) (data.drop window)
      rw [List.take_append_drop] at split
      rw [split, wireBytes_append, List.length_append]
      generalize (wireBytes (SerialPort.offerAll port (data.take window)).1).length = head
        at some ⊢
      generalize (wireBytes (SerialPort.offerAll
        (SerialPort.offerAll port (data.take window)).2 (data.drop window)).1).length = tail
        at others ⊢
      calc data.length = window + (data.drop window).length := by omega
        _ < window + window * (tail + 1) := Nat.add_lt_add_left others window
        _ = window * (tail + 1 + 1) := by rw [Nat.mul_succ window (tail + 1), Nat.add_comm]
        _ ≤ window * (head + tail + 1) := Nat.mul_le_mul_left window (by omega)

section Rank

variable [SerialPort π ε] {inv : π → Prop} {rank : π → Nat}
  (step : ∀ port byte, inv port → inv (SerialPort.offer byte port).2 ∧
    ((SerialPort.offer byte port).1.toBool = false →
      rank (SerialPort.offer byte port).2 < rank port))

include step

theorem inv_offerAll {port : π} (holds : inv port) (data : Bytes) :
    inv (SerialPort.offerAll port data).2 := by
  induction data generalizing port with
  | nil => exact holds
  | cons byte rest ih => exact ih (step port byte holds).1

theorem exists_taken_of_rank {port : π} (holds : inv port) {next : Bytes}
    (longer : rank port < next.length) :
    ∃ attempt ∈ (SerialPort.offerAll port next).1, attempt.taken = true := by
  induction next generalizing port with
  | nil => exact absurd longer (Nat.not_lt_zero _)
  | cons byte rest ih =>
    obtain ⟨kept, falls⟩ := step port byte holds
    cases answer : (SerialPort.offer byte port).1.toBool with
    | true => exact ⟨_, List.mem_cons_self, answer⟩
    | false =>
      have lower := falls answer
      rw [List.length_cons] at longer
      obtain ⟨attempt, member, taken⟩ := ih kept (by omega)
      exact ⟨attempt, List.mem_cons_of_mem _ member, taken⟩

/-- The rank of a port bounds how many bytes it may refuse from now on before it takes one. -/
theorem takesWithin_of_rank {window : Nat} (bounded : ∀ port, inv port → rank port < window)
    {port : π} (holds : inv port) : SerialPort.TakesWithin window port := by
  intro earlier next length
  have kept := inv_offerAll step holds earlier
  exact exists_taken_of_rank step kept (by rw [length]; exact bounded _ kept)

end Rank

end SerialPort

def Bench.Wire.Alternates (wire : Bench.Wire) : Prop :=
  wire.credit = none ∧ wire.fault = 0 ∧ wire.busy = 0 ∧ wire.busyEvery = 2

theorem Bench.takesWithin_of_alternates {port : Bench.Port} (alternates : port.wire.Alternates) :
    SerialPort.TakesWithin 2 port := by
  have bounded (port : Bench.Port) (_ : port.wire.Alternates) : port.wire.attempts % 2 < 2 :=
    Nat.mod_lt _ (by decide)
  refine SerialPort.takesWithin_of_rank ?_ bounded alternates
  intro port byte alternates
  obtain ⟨credit, fault, busy, every⟩ := alternates
  by_cases busyNow : (port.wire.attempts + 1) % 2 = 0
  · have answer : SerialPort.offer byte port = (.error .wouldBlock,
        { port with wire := { port.wire with attempts := port.wire.attempts + 1 } }) := by
      simp [SerialPort.offer, Bench.Wire.offer, fault, busy, every, busyNow]
    rw [answer]
    exact ⟨⟨credit, fault, busy, every⟩, fun _ => by dsimp only; omega⟩
  · have answer : SerialPort.offer byte port = (.ok (),
        { port with wire := { port.wire with attempts := port.wire.attempts + 1 } }) := by
      simp [SerialPort.offer, Bench.Wire.offer, credit, fault, busy, every, busyNow]
    rw [answer]
    exact ⟨⟨credit, fault, busy, every⟩, fun refused => Bool.noConfusion refused⟩

namespace Console

variable {capacity : Capacity} {π ε : Type}

def attemptsOver [SerialPort π ε] (passes : Nat) (console : Console capacity π) : List Attempt :=
  (List.range passes).flatMap fun pass => (afterTasks pass console).task.1

theorem afterTasks_succ [SerialPort π ε] (passes : Nat) (console : Console capacity π) :
    afterTasks (passes + 1) console = (afterTasks passes console).task.2 := by
  induction passes generalizing console with
  | zero => rfl
  | succ passes ih => exact ih console.task.2

theorem attemptsOver_succ [SerialPort π ε] (passes : Nat) (console : Console capacity π) :
    attemptsOver (passes + 1) console =
      attemptsOver passes console ++ (afterTasks passes console).task.1 := by
  simp [attemptsOver, List.range_succ]

theorem attemptsOver_succ_eq_append [SerialPort π ε] (passes : Nat)
    (console : Console capacity π) :
    attemptsOver (passes + 1) console = console.task.1 ++ attemptsOver passes console.task.2 := by
  rw [attemptsOver, List.range_succ_eq_map, List.flatMap_cons, List.flatMap_map]
  rfl

theorem flush_of_passes [SerialPort π ε] {console : Console capacity π} {port : π} {count : Nat}
    (bound : console.port = some port)
    (busy : ∀ pass < count, (afterTasks pass console).ring.toList ≠ [])
    (drained : (afterTasks count console).ring.toList = []) (passes : Nat) :
    console.flush passes =
      if count ≤ passes then some (attemptsOver count console, afterTasks count console)
      else none := by
  induction count generalizing console port passes with
  | zero => exact flush_of_idle (.inr drained) passes
  | succ count ih =>
    obtain ⟨none, more⟩ := flush_of_busy bound (busy 0 (Nat.succ_pos count))
    obtain ⟨_, _, _, _, _, own, _⟩ := task_of_bound bound
    have later := ih own (fun pass before => busy (pass + 1) (Nat.succ_lt_succ before)) drained
    cases passes with
    | zero => rw [none, if_neg (Nat.not_succ_le_zero count)]
    | succ passes =>
      rw [more, later, attemptsOver_succ_eq_append]
      simp only [Nat.add_le_add_iff_right]
      split <;> rfl

section Bound

variable [SerialPort π ε] {console : Console capacity π} {port : π}

theorem offerAll_attemptsOver (bound : console.port = some port) (passes : Nat) :
    ∃ after, (afterTasks passes console).port = some after ∧
      SerialPort.offerAll port ((attemptsOver passes console).map Attempt.byte) =
        (attemptsOver passes console, after) := by
  induction passes with
  | zero => exact ⟨port, bound, rfl⟩
  | succ passes ih =>
    obtain ⟨middle, own, replayed⟩ := ih
    obtain ⟨_, _, _, _, after, still, more⟩ := task_of_bound own
    refine ⟨after, by rw [afterTasks_succ, still], ?_⟩
    rw [attemptsOver_succ, List.map_append, SerialPort.offerAll_append, replayed, more]

theorem content_task (bound : console.port = some port) :
    wireBytes console.task.1 ++ console.task.2.ring.toList =
      console.ring.toList ++ console.due := by
  obtain ⟨attempts, left, _⟩ := task_of_bound bound
  rw [attempts, left, wireBytes_passAttempts, List.take_append_drop]

theorem attempts_task_ne_nil (bound : console.port = some port)
    (busy : console.ring.toList ≠ []) : console.task.1 ≠ [] := by
  obtain ⟨attempts, _⟩ := task_of_bound bound
  rw [attempts, Ne, passAttempts_eq_nil_iff, List.take_append_drop]
  intro nothing
  exact busy (List.append_eq_nil_iff.mp nothing).1

theorem le_length_attemptsOver (bound : console.port = some port) {passes : Nat}
    (busy : ∀ pass < passes, (afterTasks pass console).ring.toList ≠ []) :
    passes ≤ (attemptsOver passes console).length := by
  induction passes with
  | zero => exact Nat.zero_le _
  | succ passes ih =>
    obtain ⟨_, own, _⟩ := offerAll_attemptsOver bound passes
    have made := attempts_task_ne_nil own (busy passes (Nat.lt_succ_self passes))
    have earlier := ih fun pass before => busy pass (Nat.lt_succ_of_lt before)
    rw [attemptsOver_succ, List.length_append]
    exact Nat.add_le_add earlier (List.length_pos_iff.mpr made)

structure Unannounced (passes : Nat) (console : Console capacity π) : Prop where
  content : wireBytes (attemptsOver passes console) ++ (afterTasks passes console).ring.toList =
    console.ring.toList
  loss : ∀ pass ≤ passes, (afterTasks pass console).loss = console.loss
  waits : ∀ pass < passes, ¬ (afterTasks pass console).Announceable

structure Announced (passes : Nat) (console : Console capacity π) : Prop where
  content : wireBytes (attemptsOver passes console) ++ (afterTasks passes console).ring.toList =
    console.ring.toList ++ (Notice.text console.loss.pending).bytes
  lost : console.loss.pending ≠ 0
  settled : (afterTasks passes console).loss.pending = 0

theorem content_succ (bound : console.port = some port) (passes : Nat) :
    wireBytes (attemptsOver (passes + 1) console) ++
        (afterTasks (passes + 1) console).ring.toList =
      wireBytes (attemptsOver passes console) ++ (afterTasks passes console).ring.toList ++
        (afterTasks passes console).due := by
  obtain ⟨_, own, _⟩ := offerAll_attemptsOver bound passes
  rw [attemptsOver_succ, afterTasks_succ, wireBytes_append, List.append_assoc, content_task own,
    List.append_assoc]

theorem Unannounced.succ {passes : Nat} (withheld : Unannounced passes console)
    (bound : console.port = some port)
    (waits : ¬ (afterTasks passes console).Announceable) : Unannounced (passes + 1) console := by
  have content := content_succ bound passes
  rw [due, if_neg waits, List.append_nil, withheld.content] at content
  have loss := loss_task (afterTasks passes console)
  rw [if_neg waits, withheld.loss passes (Nat.le_refl _), ← afterTasks_succ] at loss
  refine ⟨content, ?_, ?_⟩
  · intro pass within
    rcases Nat.lt_or_eq_of_le within with earlier | rfl
    · exact withheld.loss pass (Nat.le_of_lt_succ earlier)
    · exact loss
  · intro pass before
    rcases Nat.lt_succ_iff_lt_or_eq.mp before with earlier | rfl
    · exact withheld.waits pass earlier
    · exact waits

theorem Unannounced.announced {passes : Nat} (withheld : Unannounced passes console)
    (bound : console.port = some port)
    (fits : (afterTasks passes console).Announceable) : Announced (passes + 1) console := by
  have loss := withheld.loss passes (Nat.le_refl _)
  have content := content_succ bound passes
  rw [due, if_pos fits, withheld.content, loss] at content
  have pending := pending_task (afterTasks passes console)
  rw [if_pos fits, ← afterTasks_succ] at pending
  exact ⟨content, loss ▸ fits.1, pending⟩

theorem Announced.succ {passes : Nat} (announced : Announced passes console)
    (bound : console.port = some port) : Announced (passes + 1) console := by
  have quiet : ¬ (afterTasks passes console).Announceable := fun fits => fits.1 announced.settled
  have content := content_succ bound passes
  rw [due, if_neg quiet, List.append_nil, announced.content] at content
  have pending := pending_task (afterTasks passes console)
  rw [if_neg quiet, announced.settled, ← afterTasks_succ] at pending
  exact ⟨content, announced.lost, pending⟩

theorem unannounced_or_announced (bound : console.port = some port) (passes : Nat) :
    Unannounced passes console ∨ Announced passes console := by
  induction passes with
  | zero =>
    refine .inl ⟨rfl, ?_, fun pass before => absurd before (Nat.not_lt_zero pass)⟩
    intro pass within
    rw [Nat.le_zero.mp within]
    rfl
  | succ passes ih =>
    rcases ih with withheld | announced
    · by_cases fits : (afterTasks passes console).Announceable
      · exact .inr (withheld.announced bound fits)
      · exact .inl (withheld.succ bound fits)
    · exact .inr (announced.succ bound)

theorem Unannounced.lacks_room {passes : Nat} (withheld : Unannounced passes console)
    (lossy : console.loss.pending ≠ 0) {pass : Nat} (before : pass < passes) :
    (afterTasks pass console).ring.available <
      (Notice.text console.loss.pending).bytes.length := by
  have waits := withheld.waits pass before
  rw [Announceable, withheld.loss pass (Nat.le_of_lt before)] at waits
  rw [Notice.length_bytes_text]
  exact Nat.lt_of_not_le fun room => waits ⟨lossy, room⟩

theorem length_content_le (bound : console.port = some port) (passes : Nat) :
    (wireBytes (attemptsOver passes console)).length +
        (afterTasks passes console).ring.toList.length ≤ console.ring.toList.length + 35 := by
  have digits := Text.digitCount_word_le console.loss.pending
  have notice := Notice.length_bytes_text console.loss.pending
  rw [← List.length_append]
  rcases unannounced_or_announced bound passes with withheld | announced
  · rw [withheld.content]
    exact Nat.le_add_right _ _
  · rw [announced.content, List.length_append]
    omega

theorem exists_drained (bound : console.port = some port) {window : Nat}
    (takes : SerialPort.TakesWithin window port) :
    ∃ count ≤ window * (console.ring.toList.length + 35),
      (afterTasks count console).ring.toList = [] ∧
      ∀ pass < count, (afterTasks pass console).ring.toList ≠ [] := by
  have ends : ∃ count ≤ window * (console.ring.toList.length + 35),
      (afterTasks count console).ring.toList = [] := by
    by_contra never
    simp only [not_exists, not_and] at never
    -- Each of these passes made an attempt, so the port took more bytes than there were.
    generalize limit : window * (console.ring.toList.length + 35) = passes at never
    have busy := le_length_attemptsOver bound fun pass before => never pass (Nat.le_of_lt before)
    have left := List.length_pos_iff.mpr (never passes (Nat.le_refl _))
    have content := length_content_le bound passes
    obtain ⟨_, _, replayed⟩ := offerAll_attemptsOver bound passes
    have few := takes.length_lt ((attemptsOver passes console).map Attempt.byte)
    rw [replayed, List.length_map] at few
    dsimp only at few
    have most := Nat.mul_le_mul_left window (by omega :
      (wireBytes (attemptsOver passes console)).length + 1 ≤ console.ring.toList.length + 35)
    omega
  obtain ⟨within, drained⟩ := Nat.find_spec ends
  refine ⟨Nat.find ends, within, drained, ?_⟩
  intro pass before nothing
  exact Nat.find_min ends before ⟨Nat.le_trans (Nat.le_of_lt before) within, nothing⟩

end Bound

/-- A console without a port, or with nothing in its ring, is flushed by doing nothing. With a port
that takes at least one byte of so many in a row, a flush makes no more passes than are named here,
and ends with an empty ring. The port has taken what waited and behind it the notice for the whole
loss, if a pass had room for it; otherwise the loss is still pending. -/
theorem flush_ends [SerialPort π ε] (console : Console capacity π) :
    (console.port = none ∨ console.ring.toList = [] →
      ∀ passes, console.flush passes = some ([], console)) ∧
    ∀ port window, console.port = some port → SerialPort.TakesWithin window port →
      let waiting := console.ring.toList
      let notice := (Notice.text console.loss.pending).bytes
      ∃ count attempts last, count ≤ window * (waiting.length + 35) ∧
        (∀ passes, console.flush passes =
          if count ≤ passes then some (attempts, last) else none) ∧
        last = afterTasks count console ∧ last.ring.toList = [] ∧
        (∃ after, last.port = some after ∧
          SerialPort.offerAll port (attempts.map Attempt.byte) = (attempts, after)) ∧
        ((wireBytes attempts = waiting ++ notice ∧ console.loss.pending ≠ 0 ∧
            last.loss.pending = 0) ∨
          (wireBytes attempts = waiting ∧ last.loss.pending = console.loss.pending ∧
            (console.loss.pending = 0 ∨
              ∀ pass < count, (afterTasks pass console).ring.available < notice.length))) := by
  refine ⟨fun idle passes => flush_of_idle idle passes, ?_⟩
  intro port window bound takes
  obtain ⟨count, within, drained, busy⟩ := exists_drained bound takes
  refine ⟨count, attemptsOver count console, afterTasks count console, within,
    flush_of_passes bound busy drained, rfl, drained, offerAll_attemptsOver bound count, ?_⟩
  rcases unannounced_or_announced bound count with withheld | announced
  · have content := withheld.content
    rw [drained, List.append_nil] at content
    refine .inr ⟨content, by rw [withheld.loss count (Nat.le_refl _)], ?_⟩
    by_cases calm : console.loss.pending = 0
    · exact .inl calm
    · exact .inr fun pass before => withheld.lacks_room calm before
  · have content := announced.content
    rw [drained, List.append_nil] at content
    exact .inl ⟨content, announced.lost, announced.settled⟩

def jammed : Console ⟨5, by decide⟩ Bench.Port :=
  (Console.empty.run [.bind ⟨none, none, none, false, ⟨none, 0, 0, 2, 0⟩⟩ (.transmitOnly 115200 0),
    .write (.emitted (List.replicate 40 46))]).2

/-- The notice waits until half of the ring is drained, a byte a pass. -/
theorem jammed_flush_ends :
    ∃ port, jammed.port = some port ∧ SerialPort.TakesWithin 2 port ∧
      ∃ attempts last, jammed.flush 134 = some (attempts, last) ∧ last.ring.toList = [] ∧
        wireBytes attempts = List.replicate 32 46 ++ (Notice.text 8).bytes ∧
        last.loss.pending = 0 := by
  have content : jammed.ring.toList = List.replicate 32 46 := by decide +kernel
  have lost : jammed.loss.pending = 8 := by decide +kernel
  let port : Bench.Port := ⟨some 0, some 115200, none, false, ⟨none, 0, 0, 2, 0⟩⟩
  have bound : jammed.port = some port := rfl
  have takes : SerialPort.TakesWithin 2 port :=
    Bench.takesWithin_of_alternates ⟨rfl, rfl, rfl, rfl⟩
  obtain ⟨count, attempts, last, within, flushed, _, drained, _, announced | withheld⟩ :=
    (flush_ends jammed).2 port 2 bound takes
  · rw [content, lost] at announced
    rw [content] at within
    refine ⟨port, bound, takes, attempts, last, ?_, drained, announced.1, announced.2.2⟩
    rw [flushed, if_pos (Nat.le_trans within (by decide))]
  · obtain ⟨_, _, calm | waits⟩ := withheld
    · rw [lost] at calm
      cases calm
    · have unfinished : jammed.flush 16 = none := by decide +kernel
      have room : (afterTasks 16 jammed).ring.available = 16 := by decide +kernel
      have notice : (Notice.text jammed.loss.pending).bytes.length = 16 := by decide +kernel
      rw [flushed] at unfinished
      have later : ¬ count ≤ 16 := by
        intro early
        rw [if_pos early] at unfinished
        cases unfinished
      have less := waits 16 (Nat.lt_of_not_le later)
      omega

end Console

end Gadget
