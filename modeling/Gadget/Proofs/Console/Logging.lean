import Gadget.Proofs.Console.Pass

namespace Gadget

namespace Line

theorem head?_bytes_render (record : Record) :
    ∃ byte, (render record).bytes.head? = some byte ∧ byte ≠ 91 := by
  obtain ⟨rest, split⟩ := letter_prefix_render record
  rw [BoundedText.bytes, ← split, Text.utf8_append]
  cases record.level
  case error => exact ⟨69, rfl, by decide⟩
  case warn => exact ⟨87, rfl, by decide⟩
  case info => exact ⟨73, rfl, by decide⟩
  case debug => exact ⟨68, rfl, by decide⟩
  case trace => exact ⟨84, rfl, by decide⟩

theorem length_bytes_render_pos (record : Record) : 0 < (render record).bytes.length := by
  obtain ⟨byte, first, _⟩ := head?_bytes_render record
  rw [List.length_pos_iff]
  rintro nothing
  rw [nothing] at first
  cases first

theorem length_bytes_render_le (record : Record) : (render record).bytes.length ≤ 256 := by
  rw [BoundedText.length_bytes]
  exact (render record).size_le_capacity

end Line

namespace Console

variable {capacity : Capacity} {π ε : Type}

def kept (console : Console capacity π) (line : Bytes) : Nat :=
  if console.loss.pending = 0 then min line.length console.ring.available else 0

theorem emit_fst (console : Console capacity π) (data : Bytes) :
    (console.emit data).1 = console.kept data := by
  unfold emit kept
  by_cases calm : console.loss.pending = 0
  · rw [Loss.isPending_eq_false calm, if_pos calm]
    simp only [Ring.write, Ring.accepted, Bool.false_eq_true, if_false]
    split <;> omega
  · rw [if_pos ((Loss.isPending_iff _).mpr calm), if_neg calm]

theorem log_spec (console : Console capacity π) (record : Record) :
    let line := (Line.render record).bytes
    (console.log record).ring.toList = console.ring.toList ++ line.take (console.kept line) ∧
      (console.log record).loss.pending =
        console.loss.pending + .ofNat (line.length - console.kept line) ∧
      (console.log record).port = console.port := by
  have spec := console.accept_spec (.emitted (Line.render record).bytes)
  simp only [accept, Write.data, Effect.dropped, List.length_drop, emit_fst] at spec
  obtain ⟨content, _, port, loss⟩ := spec
  refine ⟨content, ?_, port⟩
  rw [← Loss.pending_record, ← loss]
  rfl

def AsUnit (line : Bytes) (console next : Console capacity π) : Prop :=
  (next.ring.toList = console.ring.toList ++ line ∧ next.loss.pending = console.loss.pending) ∨
    (next.ring.toList = console.ring.toList ∧
      next.loss.pending = console.loss.pending + .ofNat line.length)

/-- The ring takes the beginning of a line as far as there is room, and nothing while a loss is
pending; the rest is counted. So the line is one unit exactly if all of it fits or none of it. -/
theorem logged_as_unit_iff [SerialPort π ε] (passes : Nat) (console : Console capacity π)
    (record : Record) :
    let line := (Line.render record).bytes
    let next := (logger passes).log record console
    next.ring.toList = console.ring.toList ++ line.take (console.kept line) ∧
      next.loss.pending = console.loss.pending + .ofNat (line.length - console.kept line) ∧
      (AsUnit line console next ↔
        console.loss.pending ≠ 0 ∨ console.ring.available = 0 ∨
          line.length ≤ console.ring.available) := by
  obtain ⟨content, pending, _⟩ := console.log_spec record
  dsimp only
  rw [logger_log]
  generalize (Line.render record).bytes = line at content pending ⊢
  refine ⟨content, pending, ?_, ?_⟩
  · intro unit
    by_contra cut
    simp only [not_or, ne_eq, not_not, Nat.not_le] at cut
    obtain ⟨calm, room, exceeds⟩ := cut
    have part : (line.take (console.kept line)).length = console.ring.available := by
      rw [List.length_take, kept, if_pos calm]
      omega
    rcases unit with ⟨whole, _⟩ | ⟨nothing, _⟩
    · rw [content] at whole
      rw [List.append_cancel_left whole] at part
      omega
    · rw [content, List.append_right_eq_self] at nothing
      rw [nothing] at part
      exact room part.symm
  · intro unit
    have all_or_nothing : console.kept line = line.length ∨ console.kept line = 0 := by
      unfold kept
      by_cases calm : console.loss.pending = 0
      · have room := unit.resolve_left fun lossy => lossy calm
        rw [if_pos calm]
        omega
      · exact .inr (if_neg calm)
    rcases all_or_nothing with all | nothing
    · left
      rw [content, pending, all, List.take_length, Nat.sub_self]
      exact ⟨rfl, UInt64.add_zero _⟩
    · right
      rw [content, pending, nothing, List.take_zero, List.append_nil]
      exact ⟨rfl, rfl⟩

def greeting : Record := ⟨.info, "main", .ofString "hello world"⟩

theorem greeting_cut :
    let console : Console ⟨4, by decide⟩ Bench.Port := onFreeWire
    let next := (logger 1).log greeting console
    next.ring.toList = (Line.render greeting).bytes.take 16 ∧ next.loss.pending = 4 ∧
      ¬ AsUnit (Line.render greeting).bytes console next := by
  refine ⟨by decide +kernel, by decide +kernel, ?_⟩
  rintro (⟨whole, _⟩ | ⟨nothing, _⟩)
  · exact absurd whole (by decide +kernel)
  · exact absurd nothing (by decide +kernel)

def Reported (waiting line wire : Bytes) (pending : UInt64) : Prop :=
  pending = 0 ∧ (wire = waiting ++ line ∨
    ∃ kept count, wire = waiting ++ (line.take kept ++ (Notice.text count).bytes) ∧
      line.length ≤ kept + count.toNat)

theorem not_reported_bare (waiting : Bytes) (record : Record) (pending : UInt64) :
    ¬ Reported waiting (Line.render record).bytes waiting pending := by
  have some := Line.length_bytes_render_pos record
  rintro ⟨_, whole | ⟨kept, count, noticed, _⟩⟩
  · rw [List.self_eq_append_right] at whole
    rw [whole] at some
    cases some
  · rw [List.self_eq_append_right, List.append_eq_nil_iff] at noticed
    exact Notice.bytes_text_ne_nil count noticed.2

theorem reported_notice_iff (waiting : Bytes) (record : Record) (count : UInt64) :
    Reported waiting (Line.render record).bytes (waiting ++ (Notice.text count).bytes) 0 ↔
      (Line.render record).bytes.length ≤ count.toNat := by
  obtain ⟨byte, first, differs⟩ := Line.head?_bytes_render record
  have bracket := Notice.head?_bytes_text count
  constructor
  · rintro ⟨_, whole | ⟨kept, other, noticed, counted⟩⟩
    · rw [List.append_cancel_left whole, first] at bracket
      exact absurd (Option.some.inj bracket) differs
    -- What begins like the line does not begin like a notice.
    · have same := List.append_cancel_left noticed
      cases kept with
      | zero =>
        rw [List.take_zero, List.nil_append] at same
        rw [Notice.bytes_text_injective same]
        omega
      | succ kept =>
        obtain ⟨rest, split⟩ := List.head?_eq_some_iff.mp first
        rw [same, split] at bracket
        exact absurd (Option.some.inj bracket) differs
  · intro counted
    refine ⟨rfl, .inr ⟨0, count, ?_, by omega⟩⟩
    rw [List.take_zero, List.nil_append]

theorem available_log (console : Console capacity π) (record : Record) :
    (console.log record).ring.available =
      console.ring.available - console.kept (Line.render record).bytes := by
  obtain ⟨content, _, _⟩ := console.log_spec record
  have lengths := congrArg List.length content
  have before := console.ring.length_add_available
  have after := (console.log record).ring.length_add_available
  have less : console.kept (Line.render record).bytes ≤ (Line.render record).bytes.length := by
    unfold kept
    split <;> omega
  simp only [Ring.length_toList, List.length_append, List.length_take] at lengths
  omega

theorem announces_log_iff {console : Console capacity π} (lossy : console.loss.pending ≠ 0)
    (record : Record) :
    let line := (Line.render record).bytes
    let logged := console.log record
    logged.FlushAnnounces ∧ line.length ≤ logged.loss.pending.toNat ↔
      console.ring.toList ≠ [] ∧ console.loss.pending.toNat + line.length < UInt64.size ∧
        15 + Text.digitCount (console.loss.pending.toNat + line.length) ≤
          console.ring.available := by
  obtain ⟨content, pending, _⟩ := console.log_spec record
  have room := console.available_log record
  have none : console.kept (Line.render record).bytes = 0 := if_neg lossy
  have some := Line.length_bytes_render_pos record
  have small := Line.length_bytes_render_le record
  have bound := console.loss.pending.toNat_lt
  have size : UInt64.size = 2 ^ 64 := rfl
  rw [none, Nat.sub_zero] at pending room
  rw [none, List.take_zero, List.append_nil] at content
  have sum := congrArg UInt64.toNat pending
  rw [UInt64.toNat_add, UInt64.toNat_ofNat', Nat.add_mod_mod] at sum
  dsimp only
  rw [FlushAnnounces, Announceable, content, room]
  constructor
  · rintro ⟨⟨waits, _, fits⟩, counted⟩
    -- A sum that wraps is less than the line alone.
    have exact : (console.log record).loss.pending.toNat =
        console.loss.pending.toNat + (Line.render record).bytes.length := by omega
    rw [exact] at fits
    exact ⟨waits, by omega, fits⟩
  · rintro ⟨waits, bounded, fits⟩
    have exact : (console.log record).loss.pending.toNat =
        console.loss.pending.toNat + (Line.render record).bytes.length := by omega
    have lost : (console.log record).loss.pending ≠ 0 := by
      rw [Loss.pending_ne_zero_iff]
      omega
    rw [exact]
    exact ⟨⟨waits, lost, fits⟩, by omega⟩

theorem pending_log_eq_zero_iff {console : Console capacity π} (calm : console.loss.pending = 0)
    (record : Record) :
    (console.log record).loss.pending = 0 ↔
      (Line.render record).bytes.length ≤ console.ring.available := by
  obtain ⟨_, pending, _⟩ := console.log_spec record
  have small := Line.length_bytes_render_le record
  rw [pending, calm, UInt64.zero_add, kept, if_pos calm, ← UInt64.toNat_inj, UInt64.toNat_ofNat',
    UInt64.toNat_zero, Nat.mod_eq_of_lt (by omega)]
  omega

theorem not_announces_log {console : Console capacity π} (calm : console.loss.pending = 0)
    (record : Record) : ¬ (console.log record).FlushAnnounces := by
  rintro ⟨_, lossy, fits⟩
  -- A line that is cut fills the ring.
  rw [ne_eq, pending_log_eq_zero_iff calm] at lossy
  rw [available_log, kept, if_pos calm] at fits
  omega

theorem reported_part_iff {console : Console capacity π} (calm : console.loss.pending = 0)
    (record : Record) :
    Reported console.ring.toList (Line.render record).bytes
        (console.ring.toList ++
          (Line.render record).bytes.take (console.kept (Line.render record).bytes))
        (console.log record).loss.pending ↔
      (Line.render record).bytes.length ≤ console.ring.available := by
  rw [← pending_log_eq_zero_iff calm record]
  refine ⟨fun reported => reported.1, ?_⟩
  intro settled
  have fits := (pending_log_eq_zero_iff calm record).mp settled
  refine ⟨settled, .inl ?_⟩
  rw [kept, if_pos calm, Nat.min_eq_left fits, List.take_length]

/-- With a port that takes every byte a flush ends, and the wire has what waited, what the ring took
of the record's line, and a notice exactly if there is something to drain and room for the notice
ahead of it; otherwise the rest of the line stays pending. So the record is reported exactly if no
loss was pending and its line fit, or a loss was pending, something waited, and the notice for both
fit beside it. -/
theorem reported_iff [SerialPort π ε] (console : Console capacity π) (flowing : console.Flowing)
    (record : Record) (passes : Nat) :
    let line := (Line.render record).bytes
    let logged := (logger (passes + 1)).log record console
    ∃ attempts last, (logger (passes + 1)).flush logged = some (attempts, last) ∧
      last.ring.toList = [] ∧
      logged.loss.pending =
        console.loss.pending + .ofNat (line.length - console.kept line) ∧
      wireBytes attempts = console.ring.toList ++ line.take (console.kept line) ++
        (if logged.FlushAnnounces then (Notice.text logged.loss.pending).bytes else []) ∧
      last.loss.pending = (if logged.FlushAnnounces then 0 else logged.loss.pending) ∧
      (Reported console.ring.toList line (wireBytes attempts) last.loss.pending ↔
        (console.loss.pending = 0 ∧ line.length ≤ console.ring.available) ∨
        (console.loss.pending ≠ 0 ∧ console.ring.toList ≠ [] ∧
          console.loss.pending.toNat + line.length < UInt64.size ∧
          15 + Text.digitCount (console.loss.pending.toNat + line.length) ≤
            console.ring.available)) := by
  obtain ⟨content, pending, port⟩ := console.log_spec record
  have ready : (console.log record).Flowing := by rwa [Flowing, port]
  obtain ⟨attempts, last, flushed, drained, wire, left⟩ := flush_of_flowing ready passes
  dsimp only
  rw [logger_log]
  refine ⟨attempts, last, flushed, drained, pending, by rw [wire, content], left, ?_⟩
  rw [wire, left, content]
  by_cases calm : console.loss.pending = 0
  · have quiet := not_announces_log calm record
    rw [if_neg quiet, if_neg quiet, List.append_nil, reported_part_iff calm]
    simp [calm]
  · have none : console.kept (Line.render record).bytes = 0 := if_neg calm
    have condition := announces_log_iff calm record
    dsimp only at condition
    rw [none, List.take_zero, List.append_nil]
    by_cases announces : (console.log record).FlushAnnounces
    · rw [and_iff_right announces] at condition
      rw [if_pos announces, if_pos announces, reported_notice_iff, condition]
      simp [calm]
    · rw [if_neg announces, if_neg announces, List.append_nil]
      refine iff_of_false (not_reported_bare _ _ _) ?_
      rintro (⟨same, _⟩ | ⟨_, more⟩)
      · exact calm same
      · exact announces (condition.mpr more).1

def parting : Record := ⟨.error, "test_device::panic", .ofString "panicked at 'boom'"⟩

def filled : Console ⟨6, by decide⟩ Bench.Port :=
  (onFreeWire.run [.write (.emitted (List.replicate 64 46))]).2

/-- What is logged to a full ring is lost, and the pass that makes room for the notice is the last
one of the flush. -/
theorem flush_leaves_loss_unreported :
    filled.Flowing ∧ ∀ passes, ∃ attempts last,
      (logger (passes + 1)).flush ((logger (passes + 1)).log parting filled) =
          some (attempts, last) ∧
        last.loss.pending = 28 ∧
        ¬ Reported filled.ring.toList (Line.render parting).bytes (wireBytes attempts)
          last.loss.pending := by
  have flowing : filled.Flowing := flowing_onFreeWire.run _
  refine ⟨flowing, ?_⟩
  intro passes
  obtain ⟨_, _, port⟩ := filled.log_spec parting
  have ready : (filled.log parting).Flowing := by rwa [Flowing, port]
  have quiet : ¬ (filled.log parting).FlushAnnounces := by decide +kernel
  have lost : (filled.log parting).loss.pending = 28 := by decide +kernel
  obtain ⟨attempts, last, flushed, _, _, left⟩ := flush_of_flowing ready passes
  rw [if_neg quiet, lost] at left
  refine ⟨attempts, last, flushed, left, ?_⟩
  rintro ⟨settled, _⟩
  rw [left] at settled
  cases settled

theorem reported_behind_one_byte :
    let console := ((filled.log parting).run [.drain, .write (.plain [88])]).2
    console.Flowing ∧ ∃ attempts last,
      (logger 1).flush ((logger 1).log parting console) = some (attempts, last) ∧
        Reported console.ring.toList (Line.render parting).bytes (wireBytes attempts)
          last.loss.pending := by
  obtain ⟨_, _, port⟩ := filled.log_spec parting
  have ready : (filled.log parting).Flowing := by
    rw [Flowing, port]
    exact flowing_onFreeWire.run _
  have flowing := ready.run [.drain, .write (.plain [88])]
  obtain ⟨attempts, last, flushed, _, _, _, _, condition⟩ := reported_iff _ flowing parting 0
  exact ⟨flowing, attempts, last, flushed, condition.mpr (.inr (by decide +kernel))⟩

end Console

end Gadget
