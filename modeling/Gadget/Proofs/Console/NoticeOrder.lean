import Gadget.Bench.Wire
import Gadget.Proofs.Console.History
import Gadget.Proofs.Console.Wire

namespace Gadget

namespace Effect

def notice? : Effect → Option UInt64
  | announced notice => notice
  | _ => none

theorem carry_of_quiet {effect : Effect} (quiet : effect.notice? = none) (missing : Bytes) :
    effect.carry missing = missing ++ effect.dropped := by
  rcases effect with ⟨write, count⟩ | ⟨_ | count⟩ | attempts | succeeded
  case announced.some => cases quiet
  all_goals rfl

theorem carry_of_notice {effect : Effect} {count : UInt64} (notice : effect.notice? = some count)
    (missing : Bytes) : effect = announced (some count) ∧ effect.carry missing = [] := by
  rcases effect with ⟨write, count⟩ | notice | attempts | succeeded
  case announced =>
    cases notice
    exact ⟨rfl, rfl⟩
  all_goals cases notice

end Effect

namespace History

theorem of_append_cons (before after : List Effect) (effect : Effect) :
    of (before ++ effect :: after) = ((of before).extend effect).extendAll after := by
  rw [of, extendAll, List.foldl_append, List.foldl_cons]
  rfl

theorem missing_of_quiet (history : History) {effects : List Effect}
    (quiet : ∀ effect ∈ effects, effect.notice? = none) :
    (history.extendAll effects).missing =
      history.missing ++ effects.flatMap Effect.dropped := by
  induction effects generalizing history with
  | nil => exact (List.append_nil _).symm
  | cons effect rest ih =>
    have later := ih (history.extend effect) (fun other member =>
      quiet other (List.mem_cons_of_mem _ member))
    have first : (history.extend effect).missing = history.missing ++ effect.dropped :=
      Effect.carry_of_quiet (quiet effect List.mem_cons_self) _
    rw [List.flatMap_cons, ← List.append_assoc, ← first]
    exact later

theorem dropped_isInfix_missing (before : List Effect) (loss : Effect) {effects : List Effect}
    (given : loss.dropped ≠ []) (quiet : ∀ effect ∈ effects, effect.notice? = none) :
    loss.dropped <:+: (of (before ++ loss :: effects)).missing := by
  have silent : loss.notice? = none := by
    rcases loss with ⟨write, count⟩ | notice | attempts | succeeded
    case announced => exact absurd rfl given
    all_goals rfl
  have first : ((of before).extend loss).missing = (of before).missing ++ loss.dropped :=
    Effect.carry_of_quiet silent _
  rw [of_append_cons, missing_of_quiet _ quiet, first]
  exact ⟨_, _, rfl⟩

theorem exists_loss_of_missing {before : List Effect} (missing : (of before).missing ≠ []) :
    ∃ lead loss tail, before = lead ++ loss :: tail ∧ loss.dropped ≠ [] ∧
      ∀ effect ∈ tail, effect.notice? = none := by
  -- From the end: the last effect that gave something up, unless a notice comes later.
  induction before using List.reverseRecOn with
  | nil => exact absurd rfl missing
  | append_singleton before effect ih =>
    rw [of_append_cons] at missing
    change effect.carry (of before).missing ≠ [] at missing
    cases notice : effect.notice? with
    | some count =>
      rw [(Effect.carry_of_notice notice _).2] at missing
      exact absurd rfl missing
    | none =>
      rw [Effect.carry_of_quiet notice] at missing
      by_cases nothing : effect.dropped = []
      · rw [nothing, List.append_nil] at missing
        obtain ⟨lead, loss, tail, split, given, quiet⟩ := ih missing
        refine ⟨lead, loss, tail ++ [effect], by rw [split]; simp, given, ?_⟩
        intro other member
        rcases List.mem_append.mp member with earlier | last
        · exact quiet other earlier
        · rw [List.mem_singleton.mp last]
          exact notice
      · exact ⟨before, effect, [], rfl, nothing, by simp⟩

end History

theorem exists_first_notice {effects : List Effect}
    (loud : ¬ ∀ effect ∈ effects, effect.notice? = none) :
    ∃ quiet count rest, effects = quiet ++ .announced (some count) :: rest ∧
      ∀ effect ∈ quiet, effect.notice? = none := by
  induction effects with
  | nil => exact absurd (by simp) loud
  | cons effect rest ih =>
    cases notice : effect.notice? with
    | some count =>
      have same := (Effect.carry_of_notice notice []).1
      exact ⟨[], count, rest, by rw [same]; rfl, by simp⟩
    | none =>
      have later : ¬ ∀ effect ∈ rest, effect.notice? = none := by
        intro all
        apply loud
        intro other member
        rcases List.mem_cons.mp member with rfl | member
        · exact notice
        · exact all other member
      obtain ⟨quiet, count, more, split, silent⟩ := ih later
      refine ⟨effect :: quiet, count, more, by rw [split]; rfl, ?_⟩
      intro other member
      rcases List.mem_cons.mp member with rfl | member
      · exact notice
      · exact silent other member

/-- Every loss so far has its notice, one that was queued later and stands for the bytes given
up. -/
def Announced (before : List Effect) : Prop :=
  ∀ lead loss tail, before = lead ++ loss :: tail → loss.dropped ≠ [] →
    ∃ quiet count rest, tail = quiet ++ .announced (some count) :: rest ∧
      loss.dropped <:+: (History.of (lead ++ loss :: quiet)).missing

theorem announced_iff (before : List Effect) :
    Announced before ↔ (History.of before).missing = [] := by
  constructor
  · intro announced
    by_contra missing
    obtain ⟨lead, loss, tail, split, given, silent⟩ := History.exists_loss_of_missing missing
    obtain ⟨quiet, count, rest, found, _⟩ := announced lead loss tail split given
    have none := silent (.announced (some count)) (by rw [found]; simp)
    cases none
  · rintro nothing lead loss tail rfl given
    by_cases silent : ∀ effect ∈ tail, effect.notice? = none
    · obtain ⟨left, right, same⟩ := History.dropped_isInfix_missing lead loss given silent
      rw [nothing] at same
      exact absurd (List.append_eq_nil_iff.mp (List.append_eq_nil_iff.mp same).1).2 given
    · obtain ⟨quiet, count, rest, found, hush⟩ := exists_first_notice silent
      exact ⟨quiet, count, rest, found, History.dropped_isInfix_missing lead loss given hush⟩

def NoticesFirst (effects : List Effect) : Prop :=
  ∀ before write count after, effects = before ++ .accepted write count :: after → 0 < count →
    Announced before

/-- A write that takes bytes while others are missing: a plain or whole one does not look at the
loss, and an emitted one does not see it if the missing bytes are a multiple of 2 ^ 64. -/
def Overtakes (missing : Bytes) : Write → Prop
  | .plain _ | .whole _ => missing ≠ []
  | .emitted _ => missing ≠ [] ∧ UInt64.size ∣ missing.length

namespace Console

variable {capacity : Capacity} {π ε : Type}

theorem run_split [SerialPort π ε] (console : Console capacity π) {sections : List (Section π)}
    {before after : List Effect} {effect : Effect}
    (split : (console.run sections).1 = before ++ effect :: after) :
    ∃ first part rest, sections = first ++ part :: rest ∧ (console.run first).1 = before ∧
      ((console.run first).2.perform part).1 = effect := by
  induction before generalizing console sections with
  | nil =>
    cases sections with
    | nil => cases split
    | cons part rest => exact ⟨[], part, rest, rfl, rfl, (List.cons.inj split).1⟩
  | cons earlier before ih =>
    cases sections with
    | nil => cases split
    | cons part rest =>
      rw [run_cons] at split
      obtain ⟨same, split⟩ := List.cons.inj split
      obtain ⟨first, last, more, rfl, effects, made⟩ := ih _ split
      exact ⟨part :: first, last, more, rfl, by rw [run_cons, same, effects], made⟩

theorem dvd_missing_of_emitted [SerialPort π ε] {sections : List (Section π)}
    {before after : List Effect} {data : Bytes} {count : Nat}
    (split : ((Console.empty : Console capacity π).run sections).1 =
      before ++ .accepted (.emitted data) count :: after) (some : 0 < count) :
    UInt64.size ∣ (History.of before).missing.length := by
  obtain ⟨first, part, rest, _, effects, made⟩ := run_split _ split
  have step := ((Console.empty : Console capacity π).run first).2.step_perform part
  have pending : ((Console.empty : Console capacity π).run first).2.loss.pending = _ :=
    run_pending _ first pending_empty
  rw [effects] at pending
  have calm : ((Console.empty : Console capacity π).run first).2.loss.isPending ≠ true := by
    intro waits
    have zero := step.suppressed data count made waits
    omega
  rw [ne_eq, Loss.isPending_iff, Decidable.not_not, pending, ← UInt64.toNat_inj] at calm
  rw [UInt64.toNat_ofNat'] at calm
  exact Nat.dvd_of_mod_eq_zero calm

/-- Over any run of sections from the empty console: the stream is what the sections put in, in
their order, and the pending count is that of the missing bytes. A call that takes bytes puts them
behind the notices of all losses before it exactly if it does not overtake. -/
theorem behind_notices_iff [SerialPort π ε] (sections : List (Section π)) :
    let done := (Console.empty : Console capacity π).run sections
    wireBytes (done.1.flatMap Effect.attempts) ++ done.2.ring.toList =
        done.1.flatMap Effect.queued ∧
      done.2.loss.pending.toNat = (History.of done.1).missing.length % UInt64.size ∧
      ∀ before write count after, done.1 = before ++ .accepted write count :: after → 0 < count →
        (Announced before ↔ ¬ Overtakes (History.of before).missing write) := by
  have pending := run_pending (Console.empty : Console capacity π) sections pending_empty
  refine ⟨run_content_empty sections, ?_, ?_⟩
  · rw [pending, UInt64.toNat_ofNat']
    rfl
  · intro before write count after split some
    rw [announced_iff]
    cases write with
    | plain data => exact Decidable.not_not.symm
    | whole data => exact Decidable.not_not.symm
    | emitted data =>
      have wraps := dvd_missing_of_emitted split some
      constructor
      · intro nothing overtakes
        exact overtakes.1 nothing
      · intro behind
        by_contra missing
        exact behind ⟨missing, wraps⟩

def overtaking : List (Section Bench.Port) :=
  [.bind ⟨none, none, none, false, .free⟩ (.transmitOnly 115200 0),
    .write (.emitted [48, 49, 50, 51, 52, 53, 54, 55, 56, 57, 65, 66, 67, 68, 69, 70, 71]),
    .announce, .drain, .write (.plain [88]), .announce, .drain, .announce, .drain]

/-- On the wire the byte written after the loss stands ahead of the notice. -/
theorem plain_write_ahead_of_notice :
    let done := (Console.empty : Console ⟨4, by decide⟩ Bench.Port).run overtaking
    ¬ NoticesFirst done.1 ∧ (wire done.1).drop 16 = 88 :: (Notice.text 1).bytes := by
  refine ⟨?_, by decide +kernel⟩
  intro first
  have announced := first
    ((Console.empty : Console ⟨4, by decide⟩ Bench.Port).run (overtaking.take 4)).1
    (.plain [88]) 1
    (((Console.empty : Console ⟨4, by decide⟩ Bench.Port).run overtaking).1.drop 5)
    (by decide +kernel) (by decide)
  rw [announced_iff] at announced
  exact absurd announced (by decide +kernel)

end Console

end Gadget
