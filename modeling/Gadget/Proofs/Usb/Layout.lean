import Gadget.Bench.Allocation
import Gadget.Proofs.Serial.Control
import Gadget.Proofs.Vendor.Packets

namespace Gadget

namespace UsbBus

variable {β : Type} [UsbBus β]

inductive Grants : List Endpoint → β → β → Prop
  | none (bus : β) : Grants [] bus bus
  | next {endpoint : Endpoint} {rest : List Endpoint} {bus after last : β}
      (granted : allocate endpoint bus = .ok after) (others : Grants rest after last) :
      Grants (endpoint :: rest) bus last

inductive Refuses : List Endpoint → β → UsbError → β → Prop
  | here {endpoint : Endpoint} {rest : List Endpoint} {bus : β} {error : UsbError}
      (refused : allocate endpoint bus = .error error) : Refuses (endpoint :: rest) bus error bus
  | later {endpoint : Endpoint} {rest : List Endpoint} {bus after last : β} {error : UsbError}
      (granted : allocate endpoint bus = .ok after) (others : Refuses rest after error last) :
      Refuses (endpoint :: rest) bus error last

theorem grants_or_refuses (endpoints : List Endpoint) (bus : β) :
    (∃ last, Grants endpoints bus last) ∨ ∃ error last, Refuses endpoints bus error last := by
  induction endpoints generalizing bus with
  | nil => exact .inl ⟨bus, .none bus⟩
  | cons endpoint rest ih =>
    cases answer : allocate endpoint bus with
    | error error => exact .inr ⟨error, bus, .here answer⟩
    | ok after =>
      rcases ih after with ⟨last, grants⟩ | ⟨error, last, refuses⟩
      · exact .inl ⟨last, .next answer grants⟩
      · exact .inr ⟨error, last, .later answer refuses⟩

end UsbBus

namespace Bench

namespace Allocation

def interfaces : Allocation → Nat
  | interface => 1
  | string => 0
  | vendor => 1
  | serial => 2

def strings : Allocation → Nat
  | interface => 0
  | string => 1
  | vendor => 2
  | serial => 1

def total (numbers : Allocation → Nat) : List Allocation → Nat
  | [] => 0
  | allocation :: rest => numbers allocation + total numbers rest

theorem total_append (numbers : Allocation → Nat) (first second : List Allocation) :
    total numbers (first ++ second) = total numbers first + total numbers second := by
  induction first with
  | nil => exact (Nat.zero_add _).symm
  | cons allocation rest ih => rw [List.cons_append, total, total, ih, Nat.add_assoc]

end Allocation

def AllocationAnswer.function? : AllocationAnswer → Option (Vendor ⊕ Serial)
  | vendor (.ok made) => some (.inl made)
  | serial (.ok made) => some (.inr made)
  | _ => none

end Bench

structure Taken (β : Type) where
  bus : β
  interfaces : Nat
  strings : Nat

def Taken.advance {β : Type} (interfaces strings : Nat) (taken : Taken β) : Taken β :=
  { taken with
    interfaces := taken.interfaces + interfaces
    strings := taken.strings + strings }

/-- What allocators are documented to do: they count interfaces from 0 and strings from 4, after those
of the device itself, each in one byte, and leave it to the bus whether an endpoint is granted. -/
structure UsbAllocator.Numbering (α : Type) {β : Type} [UsbAllocator α β] [UsbBus β] where
  taken : α → Taken β
  taken_ofBus (bus : β) : taken (ofBus bus) = ⟨bus, 0, 0⟩
  interface {allocator : α} (left : (taken allocator).interfaces < 255) :
    (UsbAllocator.interface allocator).1 = .ofNat (taken allocator).interfaces ∧
      taken (UsbAllocator.interface allocator).2 = (taken allocator).advance 1 0
  string {allocator : α} (left : 4 + (taken allocator).strings < 255) :
    (UsbAllocator.string allocator).1 = .ofNat (4 + (taken allocator).strings) ∧
      taken (UsbAllocator.string allocator).2 = (taken allocator).advance 0 1
  granted {allocator : α} {endpoint : Endpoint} {bus : β}
    (granted : UsbBus.allocate endpoint (taken allocator).bus = .ok bus) :
    (UsbAllocator.endpoint endpoint allocator).1 = .ok () ∧
      taken (UsbAllocator.endpoint endpoint allocator).2 = { taken allocator with bus }
  refused {allocator : α} {endpoint : Endpoint} {error : UsbError}
    (refused : UsbBus.allocate endpoint (taken allocator).bus = .error error) :
    (UsbAllocator.endpoint endpoint allocator).1 = .error error ∧
      taken (UsbAllocator.endpoint endpoint allocator).2 = taken allocator

namespace UsbAllocator

open UsbBus
open Bench (Allocation AllocationAnswer)

variable {α β : Type} [UsbAllocator α β]

def attempt {κ : Type} (function : κ) (endpoints : List Endpoint) (inPlace : Prop)
    [Decidable inPlace] (numbered : α) : Except UsbError κ × α :=
  if inPlace then
    match UsbAllocator.endpoints endpoints numbered with
    | (.error error, next) => (.error error, next)
    | (.ok _, next) => (.ok function, next)
  else (.error .unsupported, numbered)

def numberedVendor (allocator : α) : α := (string (string (interface allocator).2).2).2

def numberedSerial (allocator : α) : α := (string (interface (interface allocator).2).2).2

theorem value_allocate_vendor (allocator : α) :
    (Vendor.allocate allocator).value =
      attempt (Vendor.initial 0 4 5) Vendor.endpoints
        ((interface allocator).1 = 0 ∧ (string (interface allocator).2).1 = 4 ∧
          (string (string (interface allocator).2).2).1 = 5) (numberedVendor allocator) := by
  rw [Vendor.allocate, attempt, numberedVendor]
  dsimp only
  by_cases place : (interface allocator).1 = 0 ∧ (string (interface allocator).2).1 = 4 ∧
      (string (string (interface allocator).2).2).1 = 5
  · obtain ⟨number, name, nativeName⟩ := place
    rw [if_pos ⟨number, name, nativeName⟩, if_pos ⟨number, name, nativeName⟩, number, name,
      nativeName]
    rcases UsbAllocator.endpoints Vendor.endpoints _ with ⟨result, next⟩
    cases result <;> rfl
  · rw [if_neg fun all => place ⟨all.1, all.2.1, all.2.2⟩, if_neg place]
    rfl

theorem value_allocate_serial (allocator : α) :
    (Serial.allocate allocator).value =
      attempt (Serial.initial 1 2 6) Serial.endpoints
        ((interface allocator).1 = 1 ∧ (interface (interface allocator).2).1 = 2 ∧
          (string (interface (interface allocator).2).2).1 = 6) (numberedSerial allocator) := by
  rw [Serial.allocate, attempt, numberedSerial]
  dsimp only
  by_cases place : (interface allocator).1 = 1 ∧ (interface (interface allocator).2).1 = 2 ∧
      (string (interface (interface allocator).2).2).1 = 6
  · obtain ⟨control, data, name⟩ := place
    rw [if_pos ⟨control, data, name⟩, if_pos ⟨control, data, name⟩, control, data, name]
    rcases UsbAllocator.endpoints Serial.endpoints _ with ⟨result, next⟩
    cases result <;> rfl
  · rw [if_neg fun all => place ⟨all.1, all.2.1, all.2.2⟩, if_neg place]
    rfl

def perform (allocator : α) : Allocation → AllocationAnswer × α
  | .interface => (.number (interface allocator).1, (interface allocator).2)
  | .string => (.number (string allocator).1, (string allocator).2)
  | .vendor =>
    (.vendor (Vendor.allocate allocator).value.1, (Vendor.allocate allocator).value.2)
  | .serial =>
    (.serial (Serial.allocate allocator).value.1, (Serial.allocate allocator).value.2)

def after (allocator : α) (allocations : List Allocation) : α :=
  allocations.foldl (fun allocator allocation => (perform allocator allocation).2) allocator

def answers (allocator : α) : List Allocation → List AllocationAnswer
  | [] => []
  | allocation :: rest =>
    (perform allocator allocation).1 :: answers (perform allocator allocation).2 rest

def functions (allocator : α) (allocations : List Allocation) : List (Vendor ⊕ Serial) :=
  (answers allocator allocations).filterMap AllocationAnswer.function?

theorem after_append_singleton (allocator : α) (earlier : List Allocation)
    (allocation : Allocation) :
    after allocator (earlier ++ [allocation]) = (perform (after allocator earlier) allocation).2 :=
  List.foldl_append

theorem answers_append_singleton (allocator : α) (earlier : List Allocation)
    (allocation : Allocation) :
    answers allocator (earlier ++ [allocation]) =
      answers allocator earlier ++ [(perform (after allocator earlier) allocation).1] := by
  induction earlier generalizing allocator with
  | nil => rfl
  | cons first rest ih => exact congrArg (_ :: ·) (ih _)

theorem functions_append_singleton (allocator : α) (earlier : List Allocation)
    (allocation : Allocation) :
    functions allocator (earlier ++ [allocation]) =
      functions allocator earlier ++
        (perform (after allocator earlier) allocation).1.function?.toList := by
  rw [functions, answers_append_singleton, List.filterMap_append, List.filterMap_cons]
  cases (perform (after allocator earlier) allocation).1.function? <;> rfl

variable [UsbBus β]

theorem endpoints_of_grants (numbering : Numbering α) {endpoints : List Endpoint} {allocator : α}
    {last : β} (grants : Grants endpoints (numbering.taken allocator).bus last) :
    ∃ next, UsbAllocator.endpoints endpoints allocator = (.ok (), next) ∧
      numbering.taken next = { numbering.taken allocator with bus := last } := by
  induction endpoints generalizing allocator with
  | nil =>
    cases grants
    exact ⟨allocator, rfl, rfl⟩
  | cons endpoint rest ih =>
    cases grants with
    | next granted others =>
      obtain ⟨result, bus⟩ := numbering.granted granted
      rcases answer : UsbAllocator.endpoint endpoint allocator with ⟨result', after⟩
      rw [answer] at result bus
      cases result
      have left : Grants rest (numbering.taken after).bus last := by
        rw [bus]
        exact others
      obtain ⟨next, asked, taken⟩ := ih left
      refine ⟨next, ?_, ?_⟩
      · rw [UsbAllocator.endpoints, answer]
        exact asked
      · rw [taken, bus]

theorem endpoints_of_refuses (numbering : Numbering α) {endpoints : List Endpoint} {allocator : α}
    {error : UsbError} {last : β}
    (refuses : Refuses endpoints (numbering.taken allocator).bus error last) :
    ∃ next, UsbAllocator.endpoints endpoints allocator = (.error error, next) ∧
      numbering.taken next = { numbering.taken allocator with bus := last } := by
  induction endpoints generalizing allocator with
  | nil => cases refuses
  | cons endpoint rest ih =>
    rcases answer : UsbAllocator.endpoint endpoint allocator with ⟨result', after⟩
    rw [UsbAllocator.endpoints, answer]
    cases refuses with
    | here refused =>
      obtain ⟨result, same⟩ := numbering.refused refused
      rw [answer] at result same
      cases result
      exact ⟨after, rfl, same⟩
    | later granted others =>
      obtain ⟨result, bus⟩ := numbering.granted granted
      rw [answer] at result bus
      cases result
      have left : Refuses rest (numbering.taken after).bus error last := by
        rw [bus]
        exact others
      obtain ⟨next, asked, taken⟩ := ih left
      exact ⟨next, asked, by rw [taken, bus]⟩

/-- What an attempt to allocate a function comes to. It has taken its numbers, and succeeds if they
are the right ones and the bus grants its endpoints. -/
structure Attempts (numbering : Numbering α) {κ : Type} (function : κ) (endpoints : List Endpoint)
    (inPlace : Prop) (numbered : α) (outcome : Except UsbError κ × α) : Prop where
  succeeds : outcome.1 = .ok function ↔
    inPlace ∧ ∃ last, Grants endpoints (numbering.taken numbered).bus last
  granted : ∀ last, inPlace → Grants endpoints (numbering.taken numbered).bus last →
    outcome.1 = .ok function ∧
      numbering.taken outcome.2 = { numbering.taken numbered with bus := last }
  refused : ∀ error last, inPlace →
    Refuses endpoints (numbering.taken numbered).bus error last →
      outcome.1 = .error error ∧
        numbering.taken outcome.2 = { numbering.taken numbered with bus := last }
  misplaced : ¬inPlace → outcome = (.error .unsupported, numbered)

theorem attempts (numbering : Numbering α) {κ : Type} (function : κ) (endpoints : List Endpoint)
    (inPlace : Prop) [Decidable inPlace] (numbered : α) :
    Attempts numbering function endpoints inPlace numbered
      (attempt function endpoints inPlace numbered) := by
  have misplaced (out : ¬inPlace) :
      attempt function endpoints inPlace numbered = (.error .unsupported, numbered) := if_neg out
  have granted (last : β) (place : inPlace)
      (grants : Grants endpoints (numbering.taken numbered).bus last) :
      (attempt function endpoints inPlace numbered).1 = .ok function ∧
        numbering.taken (attempt function endpoints inPlace numbered).2 =
          { numbering.taken numbered with bus := last } := by
    obtain ⟨next, asked, taken⟩ := endpoints_of_grants numbering grants
    rw [attempt, if_pos place, asked]
    exact ⟨rfl, taken⟩
  have refused (error : UsbError) (last : β) (place : inPlace)
      (refuses : Refuses endpoints (numbering.taken numbered).bus error last) :
      (attempt function endpoints inPlace numbered).1 = .error error ∧
        numbering.taken (attempt function endpoints inPlace numbered).2 =
          { numbering.taken numbered with bus := last } := by
    obtain ⟨next, asked, taken⟩ := endpoints_of_refuses numbering refuses
    rw [attempt, if_pos place, asked]
    exact ⟨rfl, taken⟩
  refine ⟨⟨?_, ?_⟩, granted, refused, misplaced⟩
  · intro succeeded
    by_cases place : inPlace
    · refine ⟨place, ?_⟩
      rcases grants_or_refuses endpoints (numbering.taken numbered).bus with
        grants | ⟨error, last, refuses⟩
      · exact grants
      · rw [(refused error last place refuses).1] at succeeded
        cases succeeded
    · rw [misplaced place] at succeeded
      cases succeeded
  · rintro ⟨place, last, grants⟩
    exact (granted last place grants).1

theorem Attempts.made_or_failed {numbering : Numbering α} {κ : Type} {function : κ}
    {endpoints : List Endpoint} {inPlace : Prop} {numbered : α} {outcome : Except UsbError κ × α}
    (attempts : Attempts numbering function endpoints inPlace numbered outcome) :
    (inPlace ∧ outcome.1 = .ok function ∨ ∃ error, outcome.1 = .error error) ∧
      ∃ last, numbering.taken outcome.2 = { numbering.taken numbered with bus := last } := by
  by_cases place : inPlace
  · rcases grants_or_refuses endpoints (numbering.taken numbered).bus with
      ⟨last, grants⟩ | ⟨error, last, refuses⟩
    · obtain ⟨made, taken⟩ := attempts.granted last place grants
      exact ⟨.inl ⟨place, made⟩, last, taken⟩
    · obtain ⟨failed, taken⟩ := attempts.refused error last place refuses
      exact ⟨.inr ⟨error, failed⟩, last, taken⟩
  · rw [attempts.misplaced place]
    exact ⟨.inr ⟨.unsupported, rfl⟩, _, rfl⟩

theorem ofNat_eq_iff {n m : Nat} (small : n < 0x100) (least : m < 0x100) :
    UInt8.ofNat n = .ofNat m ↔ n = m := by
  rw [← UInt8.toNat_inj, UInt8.toNat_ofNat', UInt8.toNat_ofNat']
  omega

theorem interface_of_taken (numbering : Numbering α) {allocator : α} {taken : Taken β}
    (known : numbering.taken allocator = taken) (left : taken.interfaces < 255) :
    (interface allocator).1 = .ofNat taken.interfaces ∧
      numbering.taken (interface allocator).2 = taken.advance 1 0 := by
  subst known
  exact numbering.interface left

theorem string_of_taken (numbering : Numbering α) {allocator : α} {taken : Taken β}
    (known : numbering.taken allocator = taken) (left : 4 + taken.strings < 255) :
    (string allocator).1 = .ofNat (4 + taken.strings) ∧
      numbering.taken (string allocator).2 = taken.advance 0 1 := by
  subst known
  exact numbering.string left

theorem taken_numberedVendor (numbering : Numbering α) {found : α}
    (interfaces : (numbering.taken found).interfaces < 250)
    (strings : (numbering.taken found).strings < 250) :
    numbering.taken (numberedVendor found) = (numbering.taken found).advance 1 2 ∧
      ((interface found).1 = 0 ∧ (string (interface found).2).1 = 4 ∧
        (string (string (interface found).2).2).1 = 5 ↔
          (numbering.taken found).interfaces = 0 ∧ (numbering.taken found).strings = 0) := by
  obtain ⟨number, first⟩ := interface_of_taken numbering (Eq.refl (numbering.taken found)) (by omega)
  obtain ⟨name, second⟩ := string_of_taken numbering first
    (by simp only [Taken.advance]; omega)
  obtain ⟨nativeName, third⟩ := string_of_taken numbering second
    (by simp only [Taken.advance]; omega)
  refine ⟨third, ?_⟩
  rw [number, name, nativeName]
  refine (and_congr (ofNat_eq_iff (m := 0) (by omega) (by omega))
    (and_congr (ofNat_eq_iff (m := 4) ?_ (by omega)) (ofNat_eq_iff (m := 5) ?_ (by omega)))).trans ?_
  all_goals
    simp only [Taken.advance]
    omega

theorem taken_numberedSerial (numbering : Numbering α) {found : α}
    (interfaces : (numbering.taken found).interfaces < 250)
    (strings : (numbering.taken found).strings < 250) :
    numbering.taken (numberedSerial found) = (numbering.taken found).advance 2 1 ∧
      ((interface found).1 = 1 ∧ (interface (interface found).2).1 = 2 ∧
        (string (interface (interface found).2).2).1 = 6 ↔
          (numbering.taken found).interfaces = 1 ∧ (numbering.taken found).strings = 2) := by
  obtain ⟨control, first⟩ := interface_of_taken numbering (Eq.refl (numbering.taken found)) (by omega)
  obtain ⟨data, second⟩ := interface_of_taken numbering first
    (by simp only [Taken.advance]; omega)
  obtain ⟨name, third⟩ := string_of_taken numbering second
    (by simp only [Taken.advance]; omega)
  refine ⟨third, ?_⟩
  rw [control, data, name]
  refine (and_congr (ofNat_eq_iff (m := 1) (by omega) (by omega))
    (and_congr (ofNat_eq_iff (m := 2) ?_ (by omega)) (ofNat_eq_iff (m := 6) ?_ (by omega)))).trans ?_
  all_goals
    simp only [Taken.advance]
    omega

/-- What an allocation yields. The numbers and the place of an attempt tell what was taken before. -/
inductive Yields (numbering : Numbering α) (found : α) : Allocation → AllocationAnswer × α → Prop
  | interface (advanced : numbering.taken (interface found).2 = (numbering.taken found).advance 1 0) :
      Yields numbering found .interface
        (.number (.ofNat (numbering.taken found).interfaces), (interface found).2)
  | string (advanced : numbering.taken (string found).2 = (numbering.taken found).advance 0 1) :
      Yields numbering found .string
        (.number (.ofNat (4 + (numbering.taken found).strings)), (string found).2)
  | vendor {outcome : Except UsbError Vendor × α}
      (advanced : numbering.taken (numberedVendor found) = (numbering.taken found).advance 1 2)
      (attempts : Attempts numbering (Vendor.initial 0 4 5)
        [⟨⟨0x83⟩, .interrupt, 5, 1⟩, ⟨⟨0x04⟩, .bulk, 32, 0⟩, ⟨⟨0x84⟩, .bulk, 32, 0⟩]
        ((numbering.taken found).interfaces = 0 ∧ (numbering.taken found).strings = 0)
        (numberedVendor found) outcome) :
      Yields numbering found .vendor (.vendor outcome.1, outcome.2)
  | serial {outcome : Except UsbError Serial × α}
      (advanced : numbering.taken (numberedSerial found) = (numbering.taken found).advance 2 1)
      (attempts : Attempts numbering (Serial.initial 1 2 6)
        [⟨⟨0x81⟩, .interrupt, 8, 16⟩, ⟨⟨0x02⟩, .bulk, 64, 0⟩, ⟨⟨0x82⟩, .bulk, 64, 0⟩]
        ((numbering.taken found).interfaces = 1 ∧ (numbering.taken found).strings = 2)
        (numberedSerial found) outcome) :
      Yields numbering found .serial (.serial outcome.1, outcome.2)

theorem yields (numbering : Numbering α) {found : α} (allocation : Allocation)
    (interfaces : (numbering.taken found).interfaces < 250)
    (strings : (numbering.taken found).strings < 250) :
    Yields numbering found allocation (perform found allocation) := by
  cases allocation with
  | interface =>
    obtain ⟨number, taken⟩ := numbering.interface (Nat.lt_trans interfaces (by decide))
    rw [perform, number]
    exact .interface taken
  | string =>
    obtain ⟨index, taken⟩ := numbering.string (by omega : 4 + (numbering.taken found).strings < 255)
    rw [perform, index]
    exact .string taken
  | vendor =>
    obtain ⟨taken, place⟩ := taken_numberedVendor numbering interfaces strings
    have spec := attempts numbering (Vendor.initial 0 4 5) Vendor.endpoints
      ((interface found).1 = 0 ∧ (string (interface found).2).1 = 4 ∧
        (string (string (interface found).2).2).1 = 5) (numberedVendor found)
    rw [← value_allocate_vendor, place] at spec
    exact .vendor taken spec
  | serial =>
    obtain ⟨taken, place⟩ := taken_numberedSerial numbering interfaces strings
    have spec := attempts numbering (Serial.initial 1 2 6) Serial.endpoints
      ((interface found).1 = 1 ∧ (interface (interface found).2).1 = 2 ∧
        (string (interface (interface found).2).2).1 = 6) (numberedSerial found)
    rw [← value_allocate_serial, place] at spec
    exact .serial taken spec

theorem Yields.taken {numbering : Numbering α} {found : α} {allocation : Allocation}
    {outcome : AllocationAnswer × α} (yields : Yields numbering found allocation outcome) :
    ∃ bus, numbering.taken outcome.2 =
      { (numbering.taken found).advance allocation.interfaces allocation.strings with bus } := by
  cases yields with
  | interface advanced => exact ⟨_, advanced⟩
  | string advanced => exact ⟨_, advanced⟩
  | vendor advanced attempts =>
    obtain ⟨-, last, taken⟩ := attempts.made_or_failed
    exact ⟨last, by rw [taken, advanced]; rfl⟩
  | serial advanced attempts =>
    obtain ⟨-, last, taken⟩ := attempts.made_or_failed
    exact ⟨last, by rw [taken, advanced]; rfl⟩

theorem taken_after (numbering : Numbering α) (bus : β) {allocations : List Allocation}
    (interfaces : Allocation.total Allocation.interfaces allocations < 250)
    (strings : Allocation.total Allocation.strings allocations < 250) :
    (numbering.taken (after (ofBus bus) allocations)).interfaces =
        Allocation.total Allocation.interfaces allocations ∧
      (numbering.taken (after (ofBus bus) allocations)).strings =
        Allocation.total Allocation.strings allocations := by
  induction allocations using List.reverseRecOn with
  | nil =>
    show (numbering.taken (ofBus bus)).interfaces = 0 ∧ (numbering.taken (ofBus bus)).strings = 0
    rw [numbering.taken_ofBus]
    exact ⟨rfl, rfl⟩
  | append_singleton earlier allocation ih =>
    rw [Allocation.total_append] at interfaces strings
    obtain ⟨numbers, names⟩ := ih (Nat.lt_of_add_right_lt interfaces) (Nat.lt_of_add_right_lt strings)
    rw [← numbers] at interfaces
    rw [← names] at strings
    obtain ⟨last, taken⟩ := (yields numbering allocation (Nat.lt_of_add_right_lt interfaces)
      (Nat.lt_of_add_right_lt strings)).taken
    rw [after_append_singleton, taken, Allocation.total_append, Allocation.total_append, ← numbers,
      ← names]
    exact ⟨rfl, rfl⟩

structure Filled (interfaces : Nat) (functions : List (Vendor ⊕ Serial)) : Prop where
  all : functions.Sublist [.inl (Vendor.initial 0 4 5), .inr (Serial.initial 1 2 6)]
  first : interfaces ≤ 1 → functions.Sublist [.inl (Vendor.initial 0 4 5)]
  nothing : interfaces = 0 → functions = []

namespace Filled

variable {interfaces : Nat} {functions : List (Vendor ⊕ Serial)}

theorem unchanged (filled : Filled interfaces functions) (more : Nat) :
    Filled (interfaces + more) functions where
  all := filled.all
  first few := filled.first (by omega)
  nothing none := filled.nothing (by omega)

theorem yields {numbering : Numbering α} {found : α}
    (filled : Filled (numbering.taken found).interfaces functions) {allocation : Allocation}
    {outcome : AllocationAnswer × α} (yields : Yields numbering found allocation outcome) :
    Filled ((numbering.taken found).interfaces + allocation.interfaces)
      (functions ++ outcome.1.function?.toList) := by
  have same (none : outcome.1.function? = none) :
      Filled ((numbering.taken found).interfaces + allocation.interfaces)
        (functions ++ outcome.1.function?.toList) := by
    rw [none, Option.toList_none, List.append_nil]
    exact filled.unchanged _
  cases yields with
  | interface => exact same rfl
  | string => exact same rfl
  | vendor advanced attempts =>
    rcases attempts.made_or_failed.1 with ⟨⟨place, -⟩, made⟩ | ⟨error, failed⟩
    · rw [made, filled.nothing place, place]
      exact ⟨List.sublist_append_left [_] _, fun _ => List.Sublist.refl _, nofun⟩
    · exact same (by rw [failed]; rfl)
  | serial advanced attempts =>
    rcases attempts.made_or_failed.1 with ⟨⟨place, -⟩, made⟩ | ⟨error, failed⟩
    · rw [made, place]
      exact ⟨(filled.first (Nat.le_of_eq place)).append (List.Sublist.refl [_]), nofun, nofun⟩
    · exact same (by rw [failed]; rfl)

end Filled

theorem filled_functions (numbering : Numbering α) (bus : β) (allocations : List Allocation)
    (interfaces : Allocation.total Allocation.interfaces allocations < 250)
    (strings : Allocation.total Allocation.strings allocations < 250) :
    Filled (Allocation.total Allocation.interfaces allocations)
      (functions (ofBus bus : α) allocations) := by
  induction allocations using List.reverseRecOn with
  | nil => exact ⟨List.nil_sublist _, fun _ => List.nil_sublist _, fun _ => rfl⟩
  | append_singleton earlier allocation ih =>
    rw [Allocation.total_append] at interfaces strings ⊢
    have filled := ih (Nat.lt_of_add_right_lt interfaces) (Nat.lt_of_add_right_lt strings)
    obtain ⟨numbers, names⟩ := taken_after numbering bus (Nat.lt_of_add_right_lt interfaces)
      (Nat.lt_of_add_right_lt strings)
    rw [← numbers] at filled interfaces
    rw [← names] at strings
    rw [functions_append_singleton, ← numbers]
    exact filled.yields (yields numbering allocation (Nat.lt_of_add_right_lt interfaces)
      (Nat.lt_of_add_right_lt strings))

/-- While numbers are left, an attempt succeeds exactly at its place and with its endpoints granted,
fails at the first endpoint that is refused, asks for none elsewhere, and keeps what it took. So there
is at most the vendor interface with its numbers, and then the serial port with its own. -/
theorem fixed_layout_or_nothing (numbering : Numbering α) (bus : β) {allocations : List Allocation}
    (interfaces : Allocation.total Allocation.interfaces allocations < 250)
    (strings : Allocation.total Allocation.strings allocations < 250) :
    (functions (ofBus bus : α) allocations).Sublist
        [.inl (Vendor.initial 0 4 5), .inr (Serial.initial 1 2 6)] ∧
      ∀ earlier allocation later, allocations = earlier ++ allocation :: later →
        let found : α := after (ofBus bus) earlier
        (numbering.taken found).interfaces = Allocation.total Allocation.interfaces earlier ∧
          (numbering.taken found).strings = Allocation.total Allocation.strings earlier ∧
          Yields numbering found allocation (perform found allocation) := by
  refine ⟨(filled_functions numbering bus allocations interfaces strings).all, ?_⟩
  rintro earlier allocation later rfl
  rw [Allocation.total_append] at interfaces strings
  obtain ⟨numbers, names⟩ := taken_after numbering bus (Nat.lt_of_add_right_lt interfaces)
    (Nat.lt_of_add_right_lt strings)
  rw [← numbers] at interfaces
  rw [← names] at strings
  exact ⟨numbers, names, yields numbering allocation (Nat.lt_of_add_right_lt interfaces)
    (Nat.lt_of_add_right_lt strings)⟩

end UsbAllocator

namespace Bench.Allocator

def numbering {β : Type} [UsbBus β] : UsbAllocator.Numbering (Allocator β) where
  taken allocator := ⟨allocator.bus, allocator.interfaces, allocator.strings⟩
  taken_ofBus _ := rfl
  interface _ := ⟨rfl, rfl⟩
  string _ := ⟨rfl, rfl⟩
  granted {allocator endpoint bus} granted := by
    have granted : UsbBus.allocate endpoint allocator.bus = .ok bus := granted
    have answer : UsbAllocator.endpoint endpoint allocator = (.ok (), { allocator with bus }) := by
      show Allocator.endpoint endpoint allocator = _
      rw [Allocator.endpoint, granted]
    rw [answer]
    exact ⟨rfl, rfl⟩
  refused {allocator endpoint error} refused := by
    have refused : UsbBus.allocate endpoint allocator.bus = .error error := refused
    have answer : UsbAllocator.endpoint endpoint allocator = (.error error, allocator) := by
      show Allocator.endpoint endpoint allocator = _
      rw [Allocator.endpoint, refused]
    rw [answer]
    exact ⟨rfl, rfl⟩

end Bench.Allocator

namespace UsbAllocator

open Bench (Allocation)

/-- The vendor interface fails at its last endpoint, and again at its place. Its numbers are gone, so
that the serial port gets its own. -/
def refusedOnce : List Allocation := [.vendor, .serial, .vendor, .string, .interface]

theorem refusedOnce_leaves_serial :
    let bus := Bench.PacketBus.fresh [⟨0x84⟩] none
    let fresh : Bench.Allocator Bench.PacketBus := ofBus bus
    Allocation.total Allocation.interfaces refusedOnce = 5 ∧
      Allocation.total Allocation.strings refusedOnce = 6 ∧
      functions fresh refusedOnce = [.inr (Serial.initial 1 2 6)] ∧
      (functions fresh refusedOnce).Sublist
        [.inl (Vendor.initial 0 4 5), .inr (Serial.initial 1 2 6)] ∧
      Yields Bench.Allocator.numbering (after fresh [.vendor]) .serial
        (perform (after fresh [.vendor]) .serial) := by
  intro bus fresh
  have interfaces : Allocation.total Allocation.interfaces refusedOnce = 5 := rfl
  have strings : Allocation.total Allocation.strings refusedOnce = 6 := rfl
  have only : functions fresh refusedOnce = [.inr (Serial.initial 1 2 6)] := by decide +kernel
  obtain ⟨layout, each⟩ := fixed_layout_or_nothing Bench.Allocator.numbering bus
    (by rw [interfaces]; decide : Allocation.total Allocation.interfaces refusedOnce < 250)
    (by rw [strings]; decide)
  obtain ⟨-, -, serial⟩ := each [.vendor] .serial _ rfl
  exact ⟨interfaces, strings, only, layout, serial⟩

end UsbAllocator

end Gadget
