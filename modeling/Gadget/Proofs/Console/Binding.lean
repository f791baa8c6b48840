import Gadget.Proofs.Console.Calls
import Gadget.Proofs.Console.NoticeOrder

namespace Gadget

namespace Console

variable {capacity : Capacity} {π ε : Type}

def boundRecord (capacity : Capacity) (baud : UInt32) : Record where
  level := .info
  target := target
  message := .ofString <|
    "stdio uart bound at " ++ Text.decimal baud.toNat ++ " baud, " ++
      Text.decimal capacity.size ++ " byte tx buffer"

/-- All that an attempt to bind can come to. -/
inductive Binds [SerialPort π ε] (console : Console capacity π) (port : π)
    (settings : PortSettings) : Logged (Except (BindError ε) UInt32 × Console capacity π × π) → Prop
  | receiving (asked : settings.rxPin ≠ none) :
      Binds console port settings (pure (.error .receiveUnsupported, console, port))
  | late (transmits : settings.rxPin = none) (taken : console.port ≠ none) :
      Binds console port settings (pure (.error .alreadyBound, console, port))
  | refused (transmits : settings.rxPin = none) (unbound : console.port = none) {cause : ε} {own : π}
      (enabled : SerialPort.enable settings.baud (route settings port).value =
        (.error cause, own)) :
      Binds console port settings
        ⟨(.error (.port cause), console, own), (route settings port).records⟩
  | settled (transmits : settings.rxPin = none) (unbound : console.port = none) {baud : UInt32}
      {own : π}
      (enabled : SerialPort.enable settings.baud (route settings port).value = (.ok baud, own)) :
      Binds console port settings ⟨(.ok baud, { console with port := some own }, own),
        (route settings port).records ++ [boundRecord capacity baud]⟩

theorem binds [SerialPort π ε] (console : Console capacity π) (port : π)
    (settings : PortSettings) : Binds console port settings (console.bind port settings) := by
  unfold bind
  by_cases transmits : settings.rxPin = none
  · have silent : ¬ settings.rxPin.isSome = true := by simp [transmits]
    rw [if_neg silent]
    by_cases unbound : console.port = none
    · have free : ¬ console.isBound = true := by simp [isBound, unbound]
      rw [if_neg free]
      cases enabled : SerialPort.enable settings.baud (route settings port).value with
      | mk answer own =>
        cases answer with
        | error cause =>
          have refused := Binds.refused transmits unbound enabled
          simpa [Bind.bind, enabled, Pure.pure] using refused
        | ok baud =>
          have settled := Binds.settled transmits unbound enabled
          simpa [Bind.bind, enabled, Pure.pure, Logged.log, boundRecord] using settled
    · have taken : console.isBound = true := Option.isSome_iff_ne_none.mpr unbound
      rw [if_pos taken]
      exact .late transmits unbound
  · have asked : settings.rxPin.isSome = true := Option.isSome_iff_ne_none.mpr transmits
    rw [if_pos asked]
    exact .receiving transmits

theorem logAll_withPort (console : Console capacity π) (port : Option π) (records : List Record) :
    ({ console with port } : Console capacity π).logAll records =
      { console.logAll records with port } := by
  induction records generalizing console with
  | nil => rfl
  | cons record rest ih =>
    have first : ({ console with port } : Console capacity π).log record =
        { console.log record with port } := by
      unfold log emit
      dsimp only
      split <;> rfl
    change (({ console with port } : Console capacity π).log record).logAll rest = _
    rw [first, ih]
    rfl

theorem port_perform_of_unbound [SerialPort π ε] {console : Console capacity π}
    (unbound : console.port = none) {part : Section π}
    (unsettled : (console.perform part).1 ≠ .bound true) :
    (console.perform part).2.port = none := by
  cases part with
  | write call => exact (console.accept_spec call).2.2.1.trans unbound
  | announce =>
    rcases console.announce_cases with same | ⟨ring, same, _⟩
    all_goals
      simp only [perform, same]
      exact unbound
  | drain => simp only [perform, drain, unbound]
  | bind port settings =>
    have binds := console.binds port settings
    simp only [perform] at unsettled ⊢
    generalize console.bind port settings = outcome at binds unsettled ⊢
    cases binds with
    | settled => exact absurd rfl unsettled
    | _ => exact unbound

theorem bind_of_perform [SerialPort π ε] {console : Console capacity π} {part : Section π}
    (settled : (console.perform part).1 = .bound true) :
    ∃ port settings baud own, part = .bind port settings ∧
      (console.bind port settings).value = (.ok baud, { console with port := some own }, own) ∧
      (console.perform part).2.port = some own := by
  cases part with
  | write call => cases settled
  | announce => cases settled
  | drain => cases settled
  | bind port settings =>
    have binds := console.binds port settings
    simp only [perform, Effect.bound.injEq] at settled ⊢
    generalize outcome : console.bind port settings = result at binds settled
    cases binds with
    | @settled _ _ baud own => exact ⟨port, settings, baud, own, rfl, by rw [outcome], rfl⟩
    | _ => cases settled

theorem run_port_of_unsettled [SerialPort π ε] {console : Console capacity π}
    (unbound : console.port = none) {sections : List (Section π)}
    (unsettled : .bound true ∉ (console.run sections).1) :
    (console.run sections).2.port = none := by
  induction sections generalizing console with
  | nil => exact unbound
  | cons part rest ih =>
    rw [run_cons, List.mem_cons, not_or] at unsettled
    exact ih (port_perform_of_unbound unbound fun same => unsettled.1 same.symm) unsettled.2

theorem exists_first_bound [SerialPort π ε] {console : Console capacity π}
    {sections : List (Section π)} (settled : .bound true ∈ (console.run sections).1) :
    ∃ before port settings after baud own, sections = before ++ .bind port settings :: after ∧
      .bound true ∉ (console.run before).1 ∧
      ((console.run before).2.bind port settings).value =
        (.ok baud, { (console.run before).2 with port := some own }, own) ∧
      ((console.run before).2.perform (.bind port settings)).2.port = some own := by
  obtain ⟨earlier, later, split, first⟩ := List.eq_append_cons_of_mem settled
  obtain ⟨before, part, after, same, effects, made⟩ := run_split console split
  obtain ⟨port, settings, baud, own, rfl, outcome, bound⟩ := bind_of_perform made
  rw [← effects] at first
  exact ⟨before, port, settings, after, baud, own, same, first, outcome, bound⟩

def ServedByFirst [SerialPort π ε] (console : Console capacity π) (sections : List (Section π)) :
    Prop :=
  let done := console.run sections
  let attempts := done.1.flatMap Effect.attempts
  (.bound true ∉ done.1 ∧ attempts = [] ∧ done.2.port = none) ∨
    ∃ before port settings after baud own, sections = before ++ .bind port settings :: after ∧
      .bound true ∉ (console.run before).1 ∧
      ((console.run before).2.bind port settings).value =
        (.ok baud, { (console.run before).2 with port := some own }, own) ∧
      ∃ last, done.2.port = some last ∧
        SerialPort.offerAll own (attempts.map Attempt.byte) = (attempts, last)

theorem served_by_first [SerialPort π ε] {console : Console capacity π}
    (unbound : console.port = none) (sections : List (Section π)) :
    console.ServedByFirst sections := by
  have served (part : List (Section π)) (unsettled : .bound true ∉ (console.run part).1) :
      (console.run part).1.flatMap Effect.attempts = [] ∧ (console.run part).2.port = none := by
    have port := run_port_of_unsettled unbound unsettled
    have served := run_served console part unbound
    rw [port] at served
    exact ⟨served, port⟩
  by_cases settled : .bound true ∈ (console.run sections).1
  · obtain ⟨before, port, settings, after, baud, own, rfl, first, outcome, bound⟩ :=
      exists_first_bound settled
    obtain ⟨last, same, replayed⟩ := run_bound _ after own bound
    have quiet : ((console.run before).2.perform (.bind port settings)).1.attempts = [] := rfl
    refine .inr ⟨before, port, settings, after, baud, own, rfl, first, outcome, last, ?_, ?_⟩
    · rw [run_append, run_cons]
      exact same
    · rw [run_append, run_cons, List.flatMap_append, List.flatMap_cons, (served before first).1,
        quiet, List.nil_append, List.nil_append]
      exact replayed
  · exact .inl ⟨settled, served sections settled⟩

/-- How an attempt to bind ends, where `settled` tells that an earlier one succeeded. -/
structure Attempted [SerialPort π ε] (settled : Prop) (console : Console capacity π) (port : π)
    (settings : PortSettings)
    (outcome : Logged (Except (BindError ε) UInt32 × Console capacity π × π)) : Prop where
  receiving : settings.rxPin ≠ none → outcome.value.1 = .error .receiveUnsupported
  late : settings.rxPin = none → settled → outcome.value.1 = .error .alreadyBound
  untouched : settings.rxPin ≠ none ∨ settled → outcome.value.2.2 = port ∧ outcome.records = []
  refused : ∀ error, outcome.value.1 = .error error → outcome.value.2.1 = console ∧
    (outcome.records = [] ∨
      ∃ cause, error = .port cause ∧ outcome.records = (route settings port).records)
  unbound : ¬ settled → console.port = none
  succeeds : (∃ baud, outcome.value.1 = .ok baud) ↔ ¬ settled ∧ settings.rxPin = none ∧
    ∃ baud own, SerialPort.enable settings.baud (route settings port).value = (.ok baud, own)
  success : ∀ baud, outcome.value.1 = .ok baud → ∃ own,
    SerialPort.enable settings.baud (route settings port).value = (.ok baud, own) ∧
      outcome.value.2 = ({ console with port := some own }, own) ∧
      outcome.records = (route settings port).records ++ [boundRecord capacity baud] ∧
      ∀ threshold, outcome.value.2.1.logAll (outcome.kept threshold) =
        { console.logAll (outcome.kept threshold) with port := some own }

theorem attempted [SerialPort π ε] {settled : Prop} {console : Console capacity π}
    (taken : settled ↔ console.port ≠ none) (port : π) (settings : PortSettings) :
    Attempted settled console port settings (console.bind port settings) := by
  have binds := console.binds port settings
  generalize console.bind port settings = outcome at binds ⊢
  cases binds with
  | receiving asked => constructor <;> simp [asked, taken]
  | late transmits bound => constructor <;> simp [transmits, taken, bound]
  | refused transmits unbound enabled => constructor <;> simp [transmits, taken, unbound, enabled]
  | @settled transmits unbound baud own enabled =>
    constructor
    case success =>
      intro rate same
      cases same
      exact ⟨own, enabled, rfl, rfl, fun threshold => logAll_withPort ..⟩
    all_goals simp [transmits, taken, unbound, enabled]

/-- Over any run of sections from the empty console, attempts to bind among them: the first attempt
that is not asked to receive and whose port can be enabled succeeds, later ones find the console
bound, and every byte goes to the port of that first success. -/
theorem bound_once [SerialPort π ε] (sections : List (Section π)) :
    let done := (Console.empty : Console capacity π).run sections
    (∀ port settings,
      Attempted (.bound true ∈ done.1) done.2 port settings (done.2.bind port settings)) ∧
      (Console.empty : Console capacity π).ServedByFirst sections := by
  refine ⟨fun port settings => attempted ⟨?_, ?_⟩ port settings, served_by_first rfl sections⟩
  · intro settled
    obtain ⟨before, first, asked, after, baud, own, rfl, _, _, bound⟩ :=
      exists_first_bound settled
    obtain ⟨last, same, _⟩ := run_bound _ after own bound
    rw [run_append, run_cons, same]
    exact Option.some_ne_none last
  · intro taken
    by_contra unsettled
    exact taken (run_port_of_unsettled rfl unsettled)

end Console

end Gadget
