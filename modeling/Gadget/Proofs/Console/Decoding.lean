import Gadget.Proofs.Console.Accounting
import Gadget.Proofs.Console.NoticeText

namespace Gadget

inductive Mark
  | kept (byte : UInt8)
  | missing (count : Nat)
deriving DecidableEq

namespace Mark

/-- Splits bytes into notices, from an opening bracket to the next line feed, and output.
`started` is what was read so far of a notice. -/
def readFrom? (started : Option Bytes) : Bytes → Option (List Mark)
  | [] => if started.isNone then some [] else none
  | byte :: rest =>
    match started with
    | none =>
      if byte = 91 then readFrom? (some [byte]) rest
      else (readFrom? none rest).map (.kept byte :: ·)
    | some line =>
      if byte = 10 then
        (Notice.read? (line ++ [byte])).bind fun count =>
          (readFrom? none rest).map (.missing count :: ·)
      else readFrom? (some (line ++ [byte])) rest

def read? : Bytes → Option (List Mark) := readFrom? none

def byte? : Mark → Option UInt8
  | kept byte => some byte
  | missing _ => none

def payload (marks : List Mark) : Bytes := marks.filterMap byte?

theorem payload_append (left right : List Mark) :
    payload (left ++ right) = payload left ++ payload right := List.filterMap_append

theorem payload_map_kept (data : Bytes) : payload (data.map kept) = data := by
  induction data with
  | nil => rfl
  | cons first rest ih => exact congrArg (first :: ·) ih

theorem read?_output {data : Bytes} (plain : 91 ∉ data) (rest : Bytes) :
    read? (data ++ rest) = (read? rest).map (data.map kept ++ ·) := by
  induction data with
  | nil => exact (Option.map_id_apply ..).symm
  | cons first more ih =>
    have differs : first ≠ 91 := fun same => plain (by rw [same]; exact List.mem_cons_self)
    have later := ih fun member => plain (List.mem_cons_of_mem first member)
    rw [read?] at later ⊢
    rw [List.cons_append, readFrom?, if_neg differs, later, Option.map_map]
    rfl

theorem readFrom?_line (line : Bytes) {inner : Bytes} (unended : 10 ∉ inner) (rest : Bytes) :
    readFrom? (some line) (inner ++ 10 :: rest) =
      (Notice.read? (line ++ (inner ++ [10]))).bind fun count =>
        (read? rest).map (.missing count :: ·) := by
  induction inner generalizing line with
  | nil => rfl
  | cons byte more ih =>
    have differs : byte ≠ 10 := fun same => unended (by rw [same]; exact List.mem_cons_self)
    have later := ih (line ++ [byte]) fun member => unended (List.mem_cons_of_mem byte member)
    rw [List.cons_append, readFrom?, if_neg differs, later, List.append_assoc]
    rfl

theorem read?_notice (count : UInt64) (rest : Bytes) :
    read? ((Notice.text count).bytes ++ rest) =
      (read? rest).map (.missing count.toNat :: ·) := by
  have told := Notice.read?_bytes_text count
  obtain ⟨inner, text, unended⟩ := Notice.bytes_text_eq_line count
  rw [text] at told ⊢
  have line := readFrom?_line [91] unended rest
  rw [List.singleton_append, told, Option.bind_some] at line
  rw [← line, read?, List.cons_append, readFrom?, if_pos rfl, List.append_assoc,
    List.singleton_append]

end Mark

structure Transcript where
  output : List (Nat × UInt8)
  missing : Nat
deriving DecidableEq

namespace Transcript

def add (transcript : Transcript) : Mark → Transcript
  | .kept byte => ⟨transcript.output ++ [(transcript.missing, byte)], 0⟩
  | .missing count => ⟨transcript.output, transcript.missing + count⟩

def of (marks : List Mark) : Transcript := marks.foldl add ⟨[], 0⟩

theorem of_append (left right : List Mark) :
    of (left ++ right) = right.foldl add (of left) := List.foldl_append

theorem add_missing_missing (transcript : Transcript) (first second : Nat) :
    (transcript.add (.missing first)).add (.missing second) =
      transcript.add (.missing (first + second)) := by
  simp only [add, Nat.add_assoc]

theorem bytes_of (marks : List Mark) : (of marks).output.map Prod.snd = Mark.payload marks := by
  induction marks using List.reverseRecOn with
  | nil => rfl
  | append_singleton marks mark ih =>
    rw [of_append, Mark.payload_append, ← ih]
    cases mark with
    | kept byte => exact List.map_append
    | missing count => exact (List.append_nil _).symm

end Transcript

/-- An emitted write whose data cannot be taken for a notice. -/
def Write.Legible : Write → Prop
  | .plain _ | .whole _ => False
  | .emitted data => 91 ∉ data

instance : DecidablePred Write.Legible
  | .plain _ | .whole _ => inferInstanceAs (Decidable False)
  | .emitted data => inferInstanceAs (Decidable (91 ∉ data))

def Section.Legible {π : Type} (part : Section π) : Prop := ∀ call ∈ part.call?, call.Legible

instance {π : Type} : DecidablePred (Section.Legible : Section π → Prop) := fun part =>
  inferInstanceAs (Decidable (∀ call ∈ part.call?, call.Legible))

namespace Piece

def Legible : Piece → Prop
  | raw _ => False
  | output bytes => 91 ∉ bytes
  | notice _ _ => True

def marks : Piece → List Mark
  | raw bytes | output bytes => bytes.map .kept
  | notice count _ => [.missing count.toNat]

theorem read?_bytes {piece : Piece} (legible : piece.Legible) (rest : Bytes) :
    Mark.read? (piece.bytes ++ rest) = (Mark.read? rest).map (piece.marks ++ ·) := by
  cases piece with
  | raw bytes => exact legible.elim
  | output bytes => exact Mark.read?_output legible rest
  | notice count missing => exact Mark.read?_notice count rest

end Piece

theorem History.read?_stream {history : History} (legible : ∀ piece ∈ history.pieces, piece.Legible) :
    Mark.read? history.stream = some (history.pieces.flatMap Piece.marks) := by
  obtain ⟨pieces, missing⟩ := history
  induction pieces with
  | nil => rfl
  | cons piece rest ih =>
    have first := legible piece List.mem_cons_self
    have others := ih fun other member => legible other (List.mem_cons_of_mem piece member)
    rw [stream] at others ⊢
    rw [List.flatMap_cons, Piece.read?_bytes first, others, Option.map_some, List.flatMap_cons]

namespace Effect

def output : Effect → Bytes
  | accepted (.emitted data) count => data.take count
  | _ => []

def marks : Effect → List Mark
  | accepted (.emitted data) count =>
    (data.take count).map .kept ++ [.missing (data.drop count).length]
  | _ => []

theorem payload_marks (effects : List Effect) :
    Mark.payload (effects.flatMap marks) = effects.flatMap output := by
  induction effects with
  | nil => rfl
  | cons effect rest ih =>
    rw [List.flatMap_cons, Mark.payload_append, ih, List.flatMap_cons]
    congr 1
    rcases effect with ⟨⟨data⟩ | ⟨data⟩ | ⟨data⟩, count⟩ | notice | attempts | succeeded
    case accepted.emitted =>
      rw [marks, Mark.payload_append, Mark.payload_map_kept]
      exact List.append_nil _
    all_goals rfl

end Effect

/-- The invariant of a run: `marks` is how the bytes emitted so far were treated. -/
structure Told (history : History) (marks : List Mark) : Prop where
  legible : ∀ piece ∈ history.pieces, piece.Legible
  same : (Transcript.of (history.pieces.flatMap Piece.marks)).add
    (.missing history.missing.length) = Transcript.of marks

theorem Told.empty : Told History.empty [] := ⟨by simp [History.empty], rfl⟩

theorem Told.emitted {history : History} {marks : List Mark} (told : Told history marks)
    {data : Bytes} (plain : 91 ∉ data) {count : Nat} (inPlace : count = 0 ∨ history.missing = []) :
    Told (history.extend (.accepted (.emitted data) count))
      (marks ++ (Effect.accepted (.emitted data) count).marks) := by
  have same := told.same
  refine ⟨?_, ?_⟩
  · intro piece member
    rcases List.mem_append.mp member with earlier | added
    · exact told.legible piece earlier
    · cases List.mem_singleton.mp added
      exact fun bracket => plain (List.mem_of_mem_take bracket)
  · have pieces : (history.extend (.accepted (.emitted data) count)).pieces.flatMap Piece.marks =
        history.pieces.flatMap Piece.marks ++ (data.take count).map .kept := by
      rw [History.extend, List.flatMap_append]
      simp only [Effect.pieces, List.flatMap_cons, List.flatMap_nil, List.append_nil, Piece.marks]
    have missing : (history.extend (.accepted (.emitted data) count)).missing.length =
        history.missing.length + (data.drop count).length := List.length_append
    rw [pieces, missing, Transcript.of_append, Transcript.of_append, Effect.marks,
      List.foldl_append, ← same]
    rcases inPlace with rfl | nothing
    · exact (Transcript.add_missing_missing ..).symm
    · rw [nothing, List.length_nil, Nat.zero_add]
      rfl

theorem Told.notice {history : History} {marks : List Mark} (told : Told history marks)
    {count : UInt64} (counted : history.missing.length = count.toNat) :
    Told (history.extend (.announced (some count))) marks := by
  refine ⟨?_, ?_⟩
  · intro piece member
    rcases List.mem_append.mp member with earlier | added
    · exact told.legible piece earlier
    · cases List.mem_singleton.mp added
      exact True.intro
  · have same := told.same
    rw [counted] at same
    rw [← same, History.extend, List.flatMap_append, Transcript.of_append]
    rfl

theorem Told.other {history : History} {marks : List Mark} (told : Told history marks)
    {effect : Effect} (pieces : effect.pieces history.missing = [])
    (missing : effect.carry history.missing = history.missing) :
    Told (history.extend effect) marks := by
  have unchanged : history.extend effect = history := by
    rw [History.extend, pieces, missing, List.append_nil]
  rwa [unchanged]

namespace Console

variable {capacity : Capacity} {π ε : Type}

theorem Accounts.told [SerialPort π ε] {history : History} {given : Bytes}
    {console : Console capacity π} (accounts : Accounts history given console)
    (bounded : history.missing.length < UInt64.size) {marks : List Mark}
    (told : Told history marks) {part : Section π} (legible : part.Legible) :
    Told (history.extend (console.perform part).1) (marks ++ (console.perform part).1.marks) := by
  have step := console.step_perform part
  have missing := accounts.missing bounded
  have call := console.call?_perform part
  have suppressed := step.suppressed
  have notice := step.notice
  rw [Section.Legible, ← call] at legible
  generalize (console.perform part).1 = effect at legible suppressed notice ⊢
  rcases effect with ⟨⟨data⟩ | ⟨data⟩ | ⟨data⟩, count⟩ | ⟨_ | count⟩ | attempts | succeeded
  case accepted.plain => exact (legible _ rfl).elim
  case accepted.whole => exact (legible _ rfl).elim
  case accepted.emitted =>
    apply told.emitted (legible _ rfl)
    cases waits : console.loss.isPending with
    | true => exact .inl (suppressed data count rfl waits)
    | false => exact .inr (accounts.nothing_missing bounded waits)
  case announced.some =>
    rw [Effect.marks, List.append_nil]
    · exact told.notice (by rw [missing, notice count rfl])
    · simp
  all_goals
    simp only [Effect.marks, List.append_nil]
    exact told.other rfl (List.append_nil _)

theorem run_told [SerialPort π ε] {history : History} {given : Bytes}
    {console : Console capacity π} (accounts : Accounts history given console)
    {marks : List Mark} (told : Told history marks) (sections : List (Section π))
    (legible : ∀ part ∈ sections, part.Legible)
    (bounded : (history.extendAll (console.run sections).1).Bounded) :
    Told (history.extendAll (console.run sections).1)
      (marks ++ (console.run sections).1.flatMap Effect.marks) := by
  induction sections generalizing history given console marks with
  | nil => simpa [Console.run, History.extendAll] using told
  | cons part rest ih =>
    have small := (History.bounded_of_extendAll bounded).2
    have first := accounts.told small told (legible part List.mem_cons_self)
    have others := fun other member => legible other (List.mem_cons_of_mem part member)
    rw [run_cons, List.flatMap_cons, ← List.append_assoc]
    exact ih (accounts.extend small part) first others bounded

/-- A notice is never cut, its length follows from its digits, and it reads back as its count. So
does the whole wire, once nothing waits in the ring: over any run of sections whose only writes are
emitted ones without an opening bracket, with fewer than 2 ^ 64 bytes given up between notices, the
wire splits into notices and the accepted bytes in order, and the counts between two of these bytes,
ahead of the first one and, with the pending count, behind the last one add up to what was dropped
there. -/
theorem wire_can_be_read [SerialPort π ε] (sections : List (Section π)) :
    (∀ count : UInt64,
      (Notice.text count).chars = (Notice.pieces count).flatten ∧
        (Notice.text count).bytes.length = 15 + Text.digitCount count.toNat ∧
        Notice.read? (Notice.text count).bytes = some count.toNat) ∧
    let done := (Console.empty : Console capacity π).run sections
    let given := Transcript.of (done.1.flatMap Effect.marks)
    (∀ part ∈ sections, part.Legible) → (History.of done.1).Bounded → done.2.ring.toList = [] →
      ∃ marks, Mark.read? (wire done.1) = some marks ∧
        Mark.payload marks = done.1.flatMap Effect.output ∧
        (Transcript.of marks).output = given.output ∧
        (Transcript.of marks).missing + done.2.loss.pending.toNat = given.missing := by
  refine ⟨?_, ?_⟩
  · intro count
    exact ⟨Notice.chars_text count, Notice.length_bytes_text count, Notice.read?_bytes_text count⟩
  · intro done given legible bounded drained
    have fresh : Accounts History.empty [] (Console.empty : Console capacity π) :=
      ⟨by simp [History.empty], pending_empty, rfl⟩
    have accounts := fresh.run sections bounded
    have told := run_told fresh Told.empty sections legible bounded
    have stream : (History.of done.1).stream = wire done.1 := by
      have content : wire done.1 ++ done.2.ring.toList = done.1.flatMap Effect.queued :=
        run_content_empty sections
      rw [drained, List.append_nil] at content
      exact (History.stream_extendAll _ _).trans content.symm
    have same := told.same
    have pending := accounts.missing bounded.2
    rw [List.nil_append] at same
    rw [pending] at same
    refine ⟨(History.of done.1).pieces.flatMap Piece.marks, ?_, ?_, ?_, ?_⟩
    · rw [← stream]
      exact History.read?_stream told.legible
    · rw [← Transcript.bytes_of, ← Effect.payload_marks, ← Transcript.bytes_of]
      exact congrArg (fun transcript => transcript.output.map Prod.snd) same
    · have output := congrArg Transcript.output same
      exact output
    · have missing := congrArg Transcript.missing same
      exact missing

/-- A run that loses bytes twice, once with more of them lost while the loss is pending. -/
def lossy : List (Section Bench.Port) :=
  [.write (.emitted [101, 97, 114, 108, 121]),
    .bind ⟨none, none, none, false, .free⟩ (.transmitOnly 115200 0),
    .write (.emitted [48, 49, 50, 51, 52, 53, 54, 55, 56, 57, 65, 66, 67, 68, 69]),
    .announce, .drain, .write (.emitted [88, 10]), .announce, .drain,
    .write (.emitted [48, 49, 50, 51, 52, 53, 54, 55, 56, 57, 65, 66, 67, 68, 69, 70, 71]), .drain]

theorem lossy_wire_read :
    let done := (Console.empty : Console ⟨4, by decide⟩ Bench.Port).run lossy
    (∀ part ∈ lossy, part.Legible) ∧ (History.of done.1).Bounded ∧ done.2.ring.toList = [] ∧
      ∃ marks, Mark.read? (wire done.1) = some marks ∧
        Mark.payload marks = done.1.flatMap Effect.output ∧
        (Transcript.of marks).missing + 1 =
          (Transcript.of (done.1.flatMap Effect.marks)).missing := by
  have legible : ∀ part ∈ lossy, part.Legible := by decide +kernel
  have bounded : (History.of
      ((Console.empty : Console ⟨4, by decide⟩ Bench.Port).run lossy).1).Bounded := by
    decide +kernel
  have drained : ((Console.empty : Console ⟨4, by decide⟩ Bench.Port).run lossy).2.ring.toList =
      [] := by decide +kernel
  have pending : ((Console.empty : Console ⟨4, by decide⟩ Bench.Port).run lossy).2.loss.pending =
      1 := by decide +kernel
  obtain ⟨marks, read, payload, _, missing⟩ :=
    (wire_can_be_read lossy).2 legible bounded drained
  rw [pending] at missing
  exact ⟨legible, bounded, drained, marks, read, payload, missing⟩

end Console

end Gadget
