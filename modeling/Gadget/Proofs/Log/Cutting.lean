import Gadget.Bench.Console
import Gadget.Proofs.Log.Checked
import Mathlib.Data.List.Infix

namespace Gadget

namespace Text

/-- The longest beginning of a text that has at most so many bytes, in whole characters. -/
structure IsLongestFit (limit : Nat) (text part : List Char) : Prop where
  isPrefix : part <+: text
  fits : (utf8 part).length ≤ limit
  longest : ∀ other, other <+: text → (utf8 other).length ≤ limit → other <+: part

theorem isLongestFit_takeFit (limit : Nat) (text : List Char) :
    IsLongestFit limit text (takeFit limit text) where
  isPrefix := takeFit_prefix limit text
  fits := by
    rw [length_utf8]
    exact size_takeFit_le limit text
  longest other isPrefix fits := by
    rw [length_utf8] at fits
    exact prefix_takeFit isPrefix fits

theorem IsLongestFit.eq_takeFit {limit : Nat} {text part : List Char}
    (cut : IsLongestFit limit text part) : part = takeFit limit text := by
  have other := isLongestFit_takeFit limit text
  have within := other.longest part cut.isPrefix cut.fits
  have around := cut.longest (takeFit limit text) other.isPrefix other.fits
  exact within.eq_of_length_le around.length_le

end Text

namespace BoundedText

variable {capacity : Nat}

theorem appendUntilCut_append (first second : List (List Char)) (text : BoundedText capacity) :
    appendUntilCut (first ++ second) text =
      match appendUntilCut first text with
      | (true, longer) => appendUntilCut second longer
      | (false, longer) => (false, longer) := by
  induction first generalizing text with
  | nil => rfl
  | cons piece rest ih =>
    rw [List.cons_append, appendUntilCut, appendUntilCut]
    rcases text.append piece with ⟨whole, longer⟩
    cases whole with
    | true => exact ih longer
    | false => rfl

theorem chars_appendUntilCut (pieces : List (List Char)) (text : BoundedText capacity) :
    (appendUntilCut pieces text).2.chars =
      Text.takeFit capacity (text.chars ++ pieces.flatten) := by
  have within := text.size_le
  induction pieces generalizing text with
  | nil =>
    rw [List.flatten_nil, List.append_nil, Text.takeFit_of_size_le within]
    rfl
  | cons piece rest ih =>
    rw [appendUntilCut, List.flatten_cons]
    by_cases fits : Text.size piece ≤ text.remaining
    · rw [append_of_fits fits, ← List.append_assoc]
      exact ih (text.push piece fits) (text.push piece fits).size_le
    · have exceeds : capacity - Text.size text.chars < Text.size piece := Nat.lt_of_not_le fits
      have cut : text.append piece =
          (false, text.push (Text.takeFit text.remaining piece) (Text.size_takeFit_le _ _)) :=
        congrArg (·, _) (decide_eq_false fits)
      rw [cut, Text.takeFit_append_of_le within, Text.takeFit_append_of_lt exceeds]
      rfl

end BoundedText

namespace Line

/-- What follows the last `::` of a text that is split at each `::` from the left. -/
inductive LastPiece : List Char → List Char → Prop
  | whole {text : List Char} (unsplit : ¬[':', ':'] <:+: text) : LastPiece text text
  | later {piece rest tail : List Char} (first : ¬[':', ':'] <:+: piece ++ [':'])
      (last : LastPiece rest tail) : LastPiece (piece ++ [':', ':'] ++ rest) tail

theorem segmentFrom_of_unsplit (start : List Char) {text : List Char}
    (unsplit : ¬[':', ':'] <:+: text) : segmentFrom start text = start := by
  fun_induction segmentFrom start text with
  | case1 start rest => exact absurd (List.infix_append [] [':', ':'] rest) unsplit
  | case2 start c rest other ih =>
    exact ih fun within => unsplit (within.trans (List.suffix_cons c rest).isInfix)
  | case3 => rfl

theorem segmentFrom_of_split (start : List Char) {piece : List Char} (rest : List Char)
    (first : ¬[':', ':'] <:+: piece ++ [':']) :
    segmentFrom start (piece ++ [':', ':'] ++ rest) = segmentFrom rest rest := by
  induction piece with
  | nil => rfl
  | cons c piece ih =>
    have later : ¬[':', ':'] <:+: piece ++ [':'] := fun within =>
      first (within.trans (List.suffix_cons c _).isInfix)
    rw [← ih later]
    apply segmentFrom.eq_2
    rintro after rfl shown
    apply first
    cases piece with
    | nil => exact List.infix_rfl
    | cons d piece =>
      cases shown
      exact (List.prefix_append [':', ':'] (piece ++ [':'])).isInfix

theorem unsplit_take_one (text : List Char) : ¬[':', ':'] <:+: text.take 1 := by
  intro within
  have short := within.length_le
  simp only [List.length_take, List.length_cons, List.length_nil] at short
  omega

theorem lastPiece_segmentFrom {start scanned text : List Char} (split : start = scanned ++ text)
    (unsplit : ¬[':', ':'] <:+: scanned ++ text.take 1) :
    LastPiece start (segmentFrom start text) := by
  -- `scanned` is what has been passed over of the piece that begins at `start`.
  fun_induction segmentFrom start text generalizing scanned with
  | case1 start rest ih =>
    have joined : start = scanned ++ [':', ':'] ++ rest := by
      rw [split, List.append_assoc]
      rfl
    rw [joined]
    exact .later unsplit (ih (List.nil_append rest).symm (unsplit_take_one rest))
  | case2 start c rest other ih =>
    have passed : start = scanned ++ [c] ++ rest := by
      rw [split, List.append_assoc]
      rfl
    refine ih passed ?_
    cases rest with
    | nil => rwa [List.take_nil, List.append_nil]
    | cons d rest =>
      intro within
      rcases List.infix_concat_iff.mp within with ⟨before, ending⟩ | inside
      · rw [List.append_assoc] at ending
        obtain ⟨-, pair⟩ := List.append_inj' ending rfl
        cases pair
        exact other rest rfl rfl
      · exact unsplit inside
  | case3 start =>
    rw [split, List.append_nil]
    rw [List.take_nil, List.append_nil] at unsplit
    exact .whole unsplit

theorem lastPiece_iff {text tail : List Char} :
    LastPiece text tail ↔ tail = lastSegment text := by
  constructor
  · intro last
    unfold lastSegment
    induction last with
    | whole unsplit => rw [segmentFrom_of_unsplit _ unsplit]
    | later first last ih => rw [segmentFrom_of_split _ _ first, ← ih]
  · rintro rfl
    exact lastPiece_segmentFrom (List.nil_append text).symm (unsplit_take_one text)

def full (record : Record) (tail : List Char) : List Char :=
  record.level.letter :: ' ' :: tail ++ ' ' :: record.message.text.toList

theorem flatten_pieces (record : Record) :
    (heading record ++ fragments record).flatten =
      full record (lastSegment record.target.toList) := by
  have message : (fragments record).flatten = record.message.text.toList := by
    rw [fragments, Message.text, String.toList_join, List.flatMap_def]
  rw [List.flatten_append, message, full]
  simp only [heading, List.flatten_cons, List.flatten_nil, List.append_nil, List.append_assoc,
    List.cons_append, List.nil_append]

theorem chars_content {record : Record} (stops : record.message.persistent = false) :
    (content record).chars =
      Text.takeFit capacity (full record (lastSegment record.target.toList)) := by
  have all := BoundedText.chars_appendUntilCut (heading record ++ fragments record)
    (.empty : BoundedText capacity)
  have none : (BoundedText.empty : BoundedText capacity).chars = [] := rfl
  rw [flatten_pieces, none, List.nil_append] at all
  rw [← all, BoundedText.appendUntilCut_append, content, stops]
  rcases BoundedText.empty.appendUntilCut (heading record) with ⟨whole, line⟩
  cases whole with
  | true => rfl
  | false => rfl

theorem chars_fitted_eq_takeFit (record : Record) :
    (fitted record).chars = Text.takeFit (capacity - 2) (content record).chars := by
  unfold fitted
  split
  case isTrue => rfl
  case isFalse roomy =>
    have short : Text.size (content record).chars ≤ capacity - 2 := by
      simp only [BoundedText.remaining, BoundedText.size, capacity] at roomy ⊢
      omega
    rw [Text.takeFit_of_size_le short]

theorem chars_fitted {record : Record} (stops : record.message.persistent = false) :
    (fitted record).chars =
      Text.takeFit (capacity - 2) (full record (lastSegment record.target.toList)) := by
  rw [chars_fitted_eq_takeFit, chars_content stops, Text.takeFit_takeFit (Nat.sub_le capacity 2)]

theorem bytes_render {record : Record} (stops : record.message.persistent = false) :
    (render record).bytes =
      Text.utf8 (Text.takeFit 254 (full record (lastSegment record.target.toList)) ++ ending) := by
  have joined : (render record).bytes = Text.utf8 ((fitted record).chars ++ ending) := rfl
  rw [joined, chars_fitted stops]
  rfl

/-- The line of a message that stops where it is cut. Its text is cut to the longest part of at most
254 bytes that ends between characters, and followed by the line ending. It is handed over in one
call, no check fails on the way, and it does not matter how the message was divided. -/
theorem cut_between_characters {σ ρ : Type} (logger : Logger σ ρ) (sink : σ) {record : Record}
    (stops : record.message.persistent = false) :
    ∃ tail part, (∀ piece, LastPiece record.target.toList piece ↔ piece = tail) ∧
      Text.IsLongestFit 254 (full record tail) part ∧
      ((Text.utf8 (full record tail)).length ≤ 254 → part = full record tail) ∧
      let line := Text.utf8 (part ++ ['\r', '\n'])
      line.length ≤ 256 ∧ logger.log record sink = (logger.emit line sink).2 ∧
        logger.logChecked record sink = some (logger.log record sink) ∧
        ∀ fragments, String.join fragments = record.message.text →
          logger.log { record with message := ⟨fragments, false⟩ } sink =
            (logger.emit line sink).2 := by
  have bytes := bytes_render stops
  refine ⟨_, _, fun _ => lastPiece_iff, Text.isLongestFit_takeFit 254 _, ?_, ?_, ?_,
    logger.logChecked_eq record sink, ?_⟩
  · intro short
    rw [Text.length_utf8] at short
    exact Text.takeFit_of_size_le short
  · have bounded := (render record).size_le_capacity
    rwa [← BoundedText.length_bytes, bytes] at bounded
  · rw [Logger.log, bytes]
    rfl
  · intro fragments same
    let other : Record := { record with message := ⟨fragments, false⟩ }
    have otherBytes : (render other).bytes = _ := bytes_render rfl
    have text : full other = full record := by
      funext tail
      simp only [full, Message.text, other, same]
    rw [Logger.log, otherBytes, text]
    rfl

def straddling : Record :=
  ⟨.error, "device::main", ⟨[String.ofList (List.replicate 246 'x'), "𝄞", "y"], false⟩⟩

theorem straddling_cut :
    let text := "E main ".toList ++ List.replicate 246 'x'
    straddling.message.persistent = false ∧
      (∃ part, Text.IsLongestFit 254 (full straddling "main".toList) part ∧
        Text.utf8 (part ++ ['\r', '\n']) = Text.utf8 (text ++ ['\r', '\n'])) ∧
      ((Bench.Capture.logger false).log straddling .empty).lines =
        [Text.utf8 (text ++ ['\r', '\n'])] := by
  intro text
  have stops : straddling.message.persistent = false := rfl
  obtain ⟨tail, part, named, longest, -, -, logged, -⟩ :=
    cut_between_characters (Bench.Capture.logger false) .empty stops
  have last : LastPiece ("device".toList ++ [':', ':'] ++ "main".toList) "main".toList :=
    .later (by decide) (.whole (by decide))
  rw [← (named _).mp last] at longest
  have message : straddling.message.text.toList = List.replicate 246 'x' ++ ['𝄞', 'y'] := by
    rw [Message.text, String.toList_join]
    exact congrArg (· ++ ['𝄞', 'y']) (String.toList_ofList)
  have cut : part = text := by
    rw [longest.eq_takeFit, full, message]
    decide +kernel
  rw [cut] at longest logged
  exact ⟨stops, ⟨text, longest, rfl⟩, congrArg Bench.Capture.lines logged⟩

end Line

end Gadget
