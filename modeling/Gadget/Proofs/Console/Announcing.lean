import Gadget.Proofs.Console.Effects
import Gadget.Proofs.Console.NoticeText

namespace Gadget

namespace Console

variable {capacity : Capacity} {π ε : Type}

def Announceable (console : Console capacity π) : Prop :=
  console.loss.pending ≠ 0 ∧
    15 + Text.digitCount console.loss.pending.toNat ≤ console.ring.available

instance (console : Console capacity π) : Decidable console.Announceable :=
  inferInstanceAs (Decidable (_ ∧ _))

def due (console : Console capacity π) : Bytes :=
  if console.Announceable then (Notice.text console.loss.pending).bytes else []

theorem announce_fst_iff (console : Console capacity π) :
    console.announce.1 = true ↔ console.Announceable := by
  have length := Notice.length_bytes_text console.loss.pending
  rw [Announceable, ← Loss.isPending_iff, ← length]
  unfold announce
  generalize (Notice.text console.loss.pending).bytes = text at length ⊢
  split
  · rename_i pending
    by_cases fits : text.length ≤ console.ring.available
    · have all : console.ring.accepted text true = text.length := if_pos fits
      have some : text.length ≠ 0 := by omega
      simp [Ring.write, all, some, pending, fits]
    · have nothing : console.ring.accepted text true = 0 := by
        rw [Ring.accepted, if_neg fits, if_pos rfl]
      simp [Ring.write, nothing, fits]
  · rename_i calm
    simp [calm]

theorem announce_of_announceable {console : Console capacity π} (fits : console.Announceable) :
    ∃ ring, console.announce =
        (true, ⟨ring, console.loss.announce console.loss.pending, console.port⟩) ∧
      ring.toList = console.ring.toList ++ (Notice.text console.loss.pending).bytes := by
  have queued := console.announce_fst_iff.mpr fits
  rcases console.announce_cases with same | ⟨ring, same, content, _⟩
  · rw [same] at queued
    cases queued
  · exact ⟨ring, same, content⟩

theorem announce_of_not_announceable {console : Console capacity π}
    (waits : ¬ console.Announceable) : console.announce = (false, console) := by
  rcases console.announce_cases with same | ⟨ring, same, _⟩
  · exact same
  · exact absurd (console.announce_fst_iff.mp (by rw [same])) waits

theorem toList_announce (console : Console capacity π) :
    console.announce.2.ring.toList = console.ring.toList ++ console.due := by
  unfold due
  split
  · rename_i fits
    obtain ⟨ring, same, content⟩ := announce_of_announceable fits
    rw [same, content]
  · rename_i waits
    rw [announce_of_not_announceable waits, List.append_nil]

theorem loss_announce (console : Console capacity π) :
    console.announce.2.loss =
      if console.Announceable then console.loss.announce console.loss.pending
      else console.loss := by
  split
  · rename_i fits
    obtain ⟨ring, same, _⟩ := announce_of_announceable fits
    rw [same]
  · rename_i waits
    rw [announce_of_not_announceable waits]

theorem pending_announce (console : Console capacity π) :
    console.announce.2.loss.pending =
      if console.Announceable then 0 else console.loss.pending := by
  rw [loss_announce]
  split
  · rw [Loss.pending_announce, UInt64.sub_self]
  · rfl

theorem sent_announce (console : Console capacity π) :
    console.announce.2.ring.sent = console.ring.sent := by
  rcases console.announce_cases with same | ⟨ring, same, _, sent⟩
  · rw [same]
  · rw [same, sent]

theorem port_announce (console : Console capacity π) :
    console.announce.2.port = console.port := by
  rcases console.announce_cases with same | ⟨ring, same, _⟩
  · rw [same]
  · rw [same]

theorem announce_of_calm {console : Console capacity π} (calm : console.loss.pending = 0) :
    console.announce = (false, console) :=
  announce_of_not_announceable fun fits => fits.1 calm

/-- A pending loss has filled the ring. -/
def LossFills (console : Console capacity π) : Prop :=
  console.loss.pending ≠ 0 → console.ring.available = 0

theorem LossFills.not_announceable {console : Console capacity π} (fills : console.LossFills) :
    ¬ console.Announceable := by
  rintro ⟨lossy, fits⟩
  rw [fills lossy] at fits
  omega

theorem LossFills.accept {console : Console capacity π} (fills : console.LossFills)
    (write : Write) : (console.accept write).2.LossFills := by
  intro lossy
  have shrinks := console.available_accept_le write
  by_cases calm : console.loss.pending = 0
  · cases write with
    | plain data => exact absurd calm lossy
    | whole data => exact absurd calm lossy
    | emitted data =>
      have silent := Loss.isPending_eq_false calm
      simp only [Console.accept, emit, silent, Bool.false_eq_true, if_false] at lossy ⊢
      rw [Loss.pending_record, calm, UInt64.zero_add] at lossy
      -- Something was dropped, so the write took all the room.
      by_cases fits : data.length ≤ console.ring.available
      · have all : (console.ring.write data false).1 = data.length := if_pos fits
        rw [all, Nat.sub_self] at lossy
        exact absurd rfl lossy
      · have rest : console.ring.accepted data false = console.ring.available := if_neg fits
        rw [Ring.available_write, rest, Nat.sub_self]
  · have full := fills calm
    omega

theorem LossFills.acceptAll {console : Console capacity π} (fills : console.LossFills)
    (writes : List Write) : (console.acceptAll writes).LossFills := by
  induction writes generalizing console with
  | nil => exact fills
  | cons write rest ih => exact ih (fills.accept write)

theorem lossFills_announce {console : Console capacity π} (fits : console.Announceable) :
    console.announce.2.LossFills := by
  intro lossy
  rw [pending_announce, if_pos fits] at lossy
  exact absurd rfl lossy

theorem announceAllFrom_of_not_announceable (interrupts : Nat → List Write) (turn : Nat)
    {console : Console capacity π} (waits : ¬ console.Announceable) :
    announceAllFrom interrupts turn console = (turn, console.acceptAll (interrupts turn)) := by
  have quiet := announce_of_not_announceable waits
  rw [announceAllFrom]
  split
  · rename_i next queued
    rw [quiet] at queued
    cases queued
    rfl
  · rename_i next queued
    rw [quiet] at queued
    cases queued

/-- A second notice never follows the first one, whatever is written in between. -/
theorem announceAll_eq (interrupts : Nat → List Write) (console : Console capacity π) :
    console.announceAll interrupts =
      if console.Announceable then
        (1, (console.announce.2.acceptAll (interrupts 0)).acceptAll (interrupts 1))
      else (0, console.acceptAll (interrupts 0)) := by
  split
  · rename_i fits
    have queued := console.announce_fst_iff.mpr fits
    have fills := (lossFills_announce fits).acceptAll (interrupts 0)
    rw [announceAll, announceAllFrom]
    split
    · rename_i next quiet
      rw [quiet] at queued
      cases queued
    · rename_i next first
      rw [first] at fills ⊢
      exact announceAllFrom_of_not_announceable interrupts 1 fills.not_announceable
  · rename_i waits
    exact announceAllFrom_of_not_announceable interrupts 0 waits

theorem announceAll_alone (console : Console capacity π) :
    (console.announceAll fun _ => []).2 = console.announce.2 := by
  rw [announceAll_eq]
  split
  · rfl
  · rename_i waits
    rw [announce_of_not_announceable waits]
    rfl

def atTurn (interrupts : Nat → List Write) (console : Console capacity π) :
    Nat → Console capacity π
  | 0 => console
  | turn + 1 => (atTurn interrupts console turn).announce.2.acceptAll (interrupts turn)

/-- Whatever other contexts write between the sections of a pass, and however much: its notice loop
queues a notice exactly if one is called for and fits at first, and no other one after it. It takes
one turn more than that, and what the last turn leaves behind is drained. A notice takes 16 bytes or
more, so these are no more notices than the ring has room for. -/
theorem notices_of_interrupted_pass [SerialPort π ε] (interrupts : Nat → List Write)
    (console : Console capacity π) :
    let notices := (console.announceAll interrupts).1
    let turns := notices + 1
    (∀ turn < notices, (atTurn interrupts console turn).announce.1 = true) ∧
      (atTurn interrupts console notices).announce.1 = false ∧
      console.taskAmid interrupts = (atTurn interrupts console turns).drain ∧
      notices = (if console.Announceable then 1 else 0) ∧
      notices ≤ capacity.size / 16 ∧ turns ≤ capacity.size / 16 + 1 := by
  by_cases fits : console.Announceable
  · have digits : 0 < Text.digitCount console.loss.pending.toNat := Nat.length_toDigits_pos
    have total := console.ring.length_add_available
    have room := fits.2
    have first := console.announce_fst_iff.mpr fits
    have settled := ((lossFills_announce fits).acceptAll (interrupts 0)).not_announceable
    have second := announce_of_not_announceable settled
    rw [taskAmid, announceAll_eq, if_pos fits, if_pos fits]
    refine ⟨?_, congrArg Prod.fst second, ?_, rfl, by omega, by omega⟩
    · intro turn before
      rw [Nat.lt_one_iff.mp before]
      exact first
    · rw [atTurn, atTurn, atTurn, second]
  · have quiet := announce_of_not_announceable fits
    rw [taskAmid, announceAll_eq, if_neg fits, if_neg fits]
    refine ⟨fun turn before => absurd before (Nat.not_lt_zero turn), congrArg Prod.fst quiet, ?_,
      rfl, by omega, by omega⟩
    rw [atTurn, atTurn, quiet]

end Console

end Gadget
