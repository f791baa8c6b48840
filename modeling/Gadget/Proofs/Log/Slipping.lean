import Gadget.Proofs.Log.Cutting

namespace Gadget

namespace Text

theorem takeFit_append_of_ge {budget : Nat} {left : List Char} (reached : budget ≤ size left)
    (right : List Char) : takeFit budget (left ++ right) = takeFit budget left := by
  rcases Nat.lt_or_eq_of_le reached with exceeds | exact
  · exact takeFit_append_of_lt exceeds right
  · have fits : size left ≤ budget := Nat.le_of_eq exact.symm
    have nothing : takeFit 0 right = [] := by
      cases right with
      | nil => rfl
      | cons c rest => exact if_neg (Nat.not_le_of_lt c.utf8Size_pos)
    rw [takeFit_append_of_le fits, exact, Nat.sub_self, nothing, List.append_nil, ← exact,
      takeFit_of_size_le fits]

theorem takeFit_of_cut {budget : Nat} {part : List Char} {c : Char} (rest : List Char)
    (fits : size part ≤ budget) (wide : budget < size part + c.utf8Size) :
    takeFit budget (part ++ c :: rest) = part := by
  have nothing : takeFit (budget - size part) (c :: rest) = [] := if_neg (by omega)
  rw [takeFit_append_of_le fits, nothing, List.append_nil]

theorem exists_cut {budget : Nat} {text : List Char} (exceeds : budget < size text) :
    ∃ c rest, text = takeFit budget text ++ c :: rest ∧
      budget < size (takeFit budget text) + c.utf8Size := by
  induction text generalizing budget with
  | nil => exact absurd exceeds (Nat.not_lt_zero _)
  | cons c rest ih =>
    rw [takeFit]
    split
    · rename_i fits
      rw [size] at exceeds
      obtain ⟨d, tail, split, wide⟩ := ih (by omega : budget - c.utf8Size < size rest)
      refine ⟨d, tail, congrArg (c :: ·) split, ?_⟩
      rw [size]
      omega
    · rename_i wide
      exact ⟨c, rest, rfl, by rw [size]; omega⟩

theorem exists_cut_piece {budget : Nat} {pieces : List (List Char)}
    (exceeds : budget < size pieces.flatten) :
    ∃ before cut after, pieces = before ++ cut :: after ∧ size before.flatten ≤ budget ∧
      budget < size before.flatten + size cut := by
  induction pieces generalizing budget with
  | nil => exact absurd exceeds (Nat.not_lt_zero _)
  | cons piece rest ih =>
    rw [List.flatten_cons, size_append] at exceeds
    by_cases fits : size piece ≤ budget
    · obtain ⟨before, cut, after, split, room, exceeding⟩ :=
        ih (by omega : budget - size piece < size rest.flatten)
      refine ⟨piece :: before, cut, after, congrArg (piece :: ·) split, ?_, ?_⟩
      all_goals
        rw [List.flatten_cons, size_append]
        omega
    · refine ⟨[], piece, rest, rfl, Nat.zero_le _, ?_⟩
      rw [List.flatten_nil, size]
      omega

theorem exists_wide_of_gap {position budget : Nat} (room : budget = position + 3)
    {opening cut : List Char} (fits : size opening ≤ budget)
    (exceeds : budget < size opening + size cut)
    (gap : size (takeFit budget (opening ++ cut)) ≤ position) :
    ∃ start wide rest, cut = start ++ wide :: rest ∧
      takeFit budget (opening ++ cut) = opening ++ start ∧
      size (opening ++ start) = position ∧ wide.utf8Size = 4 := by
  obtain ⟨wide, rest, split, exceeding⟩ := exists_cut (by omega : budget - size opening < size cut)
  have part := takeFit_append_of_le fits cut
  generalize takeFit (budget - size opening) cut = start at split exceeding part
  have most := wide.utf8Size_le_four
  rw [part, size_append] at gap
  exact ⟨start, wide, rest, split, part, by rw [size_append]; omega, by omega⟩

/-- `c` takes one byte, and no piece before it has anything that fits three: each is empty or begins
with a character of four bytes. -/
inductive Slips : List (List Char) → Char → Prop
  | here {c : Char} {tail : List Char} {rest : List (List Char)} (narrow : c.utf8Size = 1) :
    Slips ((c :: tail) :: rest) c
  | later {piece : List Char} {rest : List (List Char)} {c : Char}
    (wide : ∀ d ∈ piece.head?, d.utf8Size = 4) (slips : Slips rest c) : Slips (piece :: rest) c

/-- Behind the opening and the pieces before it, one piece has a character of four bytes that begins
at this position, and `c` slips in at the beginning of a later one. -/
def Trails (position : Nat) (opening : List Char) (pieces : List (List Char)) (c : Char) : Prop :=
  ∃ before start wide rest after, pieces = before ++ (start ++ wide :: rest) :: after ∧
    (utf8 (opening ++ before.flatten ++ start)).length = position ∧ wide.utf8Size = 4 ∧
    Slips after c

theorem Slips.narrow {pieces : List (List Char)} {c : Char} (slips : Slips pieces c) :
    c.utf8Size = 1 := by
  induction slips with
  | here narrow => exact narrow
  | later _ _ ih => exact ih

theorem takeFit_three_of_wide {piece : List Char} (wide : ∀ d ∈ piece.head?, d.utf8Size = 4) :
    takeFit 3 piece = [] := by
  cases piece with
  | nil => rfl
  | cons d rest =>
    have four := wide d rfl
    exact if_neg (by omega)

theorem Trails.lt_size {position : Nat} {opening : List Char} {pieces : List (List Char)} {c : Char}
    (trails : Trails position opening pieces c) :
    size opening ≤ position ∧ position + 3 < size opening + size pieces.flatten := by
  obtain ⟨before, start, wide, rest, after, rfl, reached, four, _⟩ := trails
  simp only [length_utf8, size_append] at reached
  simp only [List.flatten_append, List.flatten_cons, size_append, size, four]
  omega

theorem Trails.toNat_lt {position : Nat} {opening : List Char} {pieces : List (List Char)} {c : Char}
    (trails : Trails position opening pieces c) : c.toNat < 128 := by
  obtain ⟨_, _, _, _, _, _, _, _, slips⟩ := trails
  have small := UInt32.le_iff_toNat_le.mp (Char.utf8Size_eq_one_iff.mp slips.narrow)
  exact Nat.lt_succ_of_le small

end Text

namespace BoundedText

variable {capacity : Nat}

theorem chars_append (text : BoundedText capacity) (piece : List Char) :
    (text.append piece).2.chars = Text.takeFit capacity (text.chars ++ piece) :=
  (Text.takeFit_append_of_le text.size_le piece).symm

theorem append_of_nothing {text : BoundedText capacity} {piece : List Char}
    (nothing : Text.takeFit text.remaining piece = []) : (text.append piece).2 = text := by
  cases text
  simp only [append, push, nothing, List.append_nil]

theorem chars_appendEach {pieces : List (List Char)} {text : BoundedText capacity}
    (fits : Text.size text.chars + Text.size pieces.flatten ≤ capacity) :
    (text.appendEach pieces).chars = text.chars ++ pieces.flatten := by
  induction pieces generalizing text with
  | nil => exact (List.append_nil _).symm
  | cons piece rest ih =>
    rw [List.flatten_cons, Text.size_append] at fits
    have whole : (text.append piece).2.chars = text.chars ++ piece := by
      rw [chars_append, Text.takeFit_of_size_le]
      rw [Text.size_append]
      omega
    have room : Text.size (text.append piece).2.chars + Text.size rest.flatten ≤ capacity := by
      rw [whole, Text.size_append]
      omega
    have others := ih room
    rw [whole, List.append_assoc] at others
    exact others

/-- What is there when a piece is cut, and how it goes on from there. -/
theorem exists_appendEach_cut {before : List (List Char)} {text : BoundedText capacity}
    (fits : Text.size text.chars + Text.size before.flatten ≤ capacity) (cut : List Char)
    (after : List (List Char)) :
    ∃ reached : BoundedText capacity,
      reached.chars = Text.takeFit capacity (text.chars ++ before.flatten ++ cut) ∧
        text.appendEach (before ++ cut :: after) = reached.appendEach after := by
  refine ⟨((text.appendEach before).append cut).2, ?_, List.foldl_append⟩
  rw [chars_append, chars_appendEach fits]

theorem prefix_appendEach_cons {text : BoundedText capacity} {c : Char}
    (fits : c.utf8Size ≤ text.remaining) (tail : List Char) (rest : List (List Char)) :
    text.chars ++ [c] <+: (text.appendEach ((c :: tail) :: rest)).chars := by
  have first : text.chars ++ [c] <+: (text.append (c :: tail)).2.chars := by
    simp only [append, push, Text.takeFit, if_pos fits]
    exact (List.prefix_append_right_inj _).mpr (List.prefix_append [c] _)
  exact first.trans (prefix_appendEach rest _)

theorem takeFit_appendEach_of_slips {text : BoundedText capacity} (room : text.remaining = 3)
    {pieces : List (List Char)} {c : Char} (slips : Text.Slips pieces c) :
    Text.takeFit (text.size + 1) (text.appendEach pieces).chars = text.chars ++ [c] := by
  induction slips with
  | @here c tail rest narrow =>
    have one : Text.size (text.chars ++ [c]) = text.size + 1 := by
      rw [Text.size_append, Text.size, narrow]
      rfl
    obtain ⟨more, split⟩ := prefix_appendEach_cons (by omega : c.utf8Size ≤ text.remaining) tail rest
    rw [← split, Text.takeFit_append_of_ge (Nat.le_of_eq one.symm),
      Text.takeFit_of_size_le (Nat.le_of_eq one)]
  | @later piece rest c wide slips ih =>
    have same : (text.append piece).2 = text :=
      append_of_nothing (by rw [room, Text.takeFit_three_of_wide wide])
    rw [appendEach, List.foldl_cons, same]
    exact ih

theorem takeFit_appendEach_of_not_slips {text : BoundedText capacity} (room : text.remaining = 3)
    {pieces : List (List Char)} (none : ∀ c, ¬ Text.Slips pieces c) :
    Text.takeFit (text.size + 1) (text.appendEach pieces).chars = text.chars := by
  induction pieces with
  | nil => exact Text.takeFit_of_size_le (Nat.le_succ _)
  | cons piece rest ih =>
    by_cases wide : ∀ d ∈ piece.head?, d.utf8Size = 4
    · have same : (text.append piece).2 = text :=
        append_of_nothing (by rw [room, Text.takeFit_three_of_wide wide])
      rw [appendEach, List.foldl_cons, same]
      exact ih fun c slips => none c (.later wide slips)
    -- A character of two or three bytes takes the room, and is itself too long for the line.
    · simp only [not_forall] at wide
      obtain ⟨d, first, fits⟩ := wide
      obtain ⟨tail, rfl⟩ := List.head?_eq_some_iff.mp first
      have narrow : d.utf8Size ≠ 1 := fun one => none d (.here one)
      have positive := d.utf8Size_pos
      have most := d.utf8Size_le_four
      obtain ⟨more, split⟩ :=
        prefix_appendEach_cons (by omega : d.utf8Size ≤ text.remaining) tail rest
      rw [← split, List.append_assoc]
      exact Text.takeFit_of_cut more (Nat.le_succ _) (by simp only [size]; omega)

section Position

variable {position : Nat} {text : BoundedText capacity} {pieces : List (List Char)}

theorem takeFit_appendEach_of_trails (room : capacity = position + 3) {c : Char}
    (trails : Text.Trails position text.chars pieces c) :
    Text.takeFit (position + 1) (text.appendEach pieces).chars =
      Text.takeFit (position + 1) (text.chars ++ pieces.flatten) ++ [c] := by
  obtain ⟨before, start, wide, rest, after, rfl, place, four, slips⟩ := trails
  rw [Text.length_utf8] at place
  have sum := place
  rw [Text.size_append, Text.size_append] at sum
  obtain ⟨reached, chars, same⟩ := exists_appendEach_cut
    (by omega : Text.size text.chars + Text.size before.flatten ≤ capacity)
    (start ++ wide :: rest) after
  have part (budget : Nat) (more : List Char) (low : position ≤ budget)
      (high : budget < position + 4) :
      Text.takeFit budget (text.chars ++ before.flatten ++ (start ++ wide :: more)) =
        text.chars ++ before.flatten ++ start := by
    rw [← List.append_assoc]
    exact Text.takeFit_of_cut more (by omega) (by omega)
  rw [part capacity rest (by omega) (by omega)] at chars
  have size : reached.size = position := by rw [BoundedText.size, chars, place]
  have left : reached.remaining = 3 := by rw [remaining, size, room, Nat.add_sub_cancel_left]
  have whole : text.chars ++ (before ++ (start ++ wide :: rest) :: after).flatten =
      text.chars ++ before.flatten ++ (start ++ wide :: (rest ++ after.flatten)) := by
    simp only [List.flatten_append, List.flatten_cons, List.append_assoc, List.cons_append]
  rw [same, whole, part (position + 1) _ (by omega) (by omega), ← chars, ← size,
    takeFit_appendEach_of_slips left slips]

theorem takeFit_appendEach_of_not_trails (room : capacity = position + 3)
    (none : ∀ c, ¬ Text.Trails position text.chars pieces c) :
    Text.takeFit (position + 1) (text.appendEach pieces).chars =
      Text.takeFit (position + 1) (text.chars ++ pieces.flatten) := by
  by_cases fits : Text.size text.chars + Text.size pieces.flatten ≤ capacity
  · rw [chars_appendEach fits]
  · have within : Text.size text.chars ≤ capacity := text.size_le
    obtain ⟨before, cut, after, rfl, low, high⟩ := Text.exists_cut_piece
      (by omega : capacity - Text.size text.chars < Text.size pieces.flatten)
    obtain ⟨reached, chars, same⟩ := exists_appendEach_cut
      (by omega : Text.size text.chars + Text.size before.flatten ≤ capacity) cut after
    -- What was reached when the piece was cut is the whole text as far as there is room.
    have shorter : Text.takeFit (position + 1) (text.chars ++ (before ++ cut :: after).flatten) =
        Text.takeFit (position + 1) reached.chars := by
      have exceeds : capacity < Text.size (text.chars ++ before.flatten ++ cut) := by
        simp only [Text.size_append]
        omega
      rw [List.flatten_append, List.flatten_cons, ← List.append_assoc, ← List.append_assoc,
        ← Text.takeFit_takeFit (by omega : position + 1 ≤ capacity),
        Text.takeFit_append_of_lt exceeds, ← chars]
    rw [same, shorter]
    by_cases full : position + 1 ≤ reached.size
    · obtain ⟨more, split⟩ := prefix_appendEach after reached
      rw [← split, Text.takeFit_append_of_ge full]
    · have gap : Text.size (Text.takeFit capacity (text.chars ++ before.flatten ++ cut)) ≤
          position := by
        rw [← chars]
        exact Nat.le_of_not_lt full
      obtain ⟨start, wide, rest, rfl, part, place, four⟩ := Text.exists_wide_of_gap room
        (by rw [Text.size_append]; omega) (by rw [Text.size_append]; omega) gap
      rw [part] at chars
      have size : reached.size = position := by rw [BoundedText.size, chars, place]
      have left : reached.remaining = 3 := by rw [remaining, size, room, Nat.add_sub_cancel_left]
      have quiet (c : Char) : ¬ Text.Slips after c := by
        intro slips
        refine none c ⟨before, start, wide, rest, after, rfl, ?_, four, slips⟩
        rw [Text.length_utf8, place]
      rw [← size, takeFit_appendEach_of_not_slips left quiet,
        Text.takeFit_of_size_le (Nat.le_succ reached.size)]

end Position

theorem appendUntilCut_fst_iff (pieces : List (List Char)) (text : BoundedText capacity) :
    (appendUntilCut pieces text).1 = true ↔
      Text.size text.chars + Text.size pieces.flatten ≤ capacity := by
  induction pieces generalizing text with
  | nil => exact iff_of_true rfl text.size_le
  | cons piece rest ih =>
    rw [appendUntilCut, List.flatten_cons, Text.size_append]
    by_cases fits : Text.size piece ≤ text.remaining
    · rw [append_of_fits fits]
      dsimp only
      rw [ih, push, Text.size_append, Nat.add_assoc]
    · have cut : text.append piece = (false, (text.append piece).2) :=
        Prod.ext (decide_eq_false fits) rfl
      simp only [remaining, size] at fits
      rw [cut]
      simp only [Bool.false_eq_true, false_iff]
      omega

end BoundedText

namespace Line

theorem chars_appendUntilCut_heading (record : Record) :
    (BoundedText.empty.appendUntilCut (heading record) : Bool × BoundedText capacity).2.chars =
      Text.takeFit capacity (heading record).flatten :=
  BoundedText.chars_appendUntilCut (heading record) .empty

theorem content_of_cut_heading {record : Record}
    (exceeds : capacity < Text.size (heading record).flatten) :
    (content record).chars = Text.takeFit capacity (heading record).flatten := by
  have chars := chars_appendUntilCut_heading record
  have flag := BoundedText.appendUntilCut_fst_iff (heading record) (.empty : BoundedText capacity)
  rw [content]
  split
  · rename_i line made
    rwa [made] at chars
  · rename_i line made
    rw [made] at flag
    have fits := flag.mp rfl
    simp only [BoundedText.empty, Text.size] at fits
    omega

theorem content_of_persistent {record : Record} (goesOn : record.message.persistent = true)
    (fits : Text.size (heading record).flatten ≤ capacity) :
    ∃ line : BoundedText capacity, line.chars = (heading record).flatten ∧
      content record = line.appendEach (fragments record) := by
  have chars := chars_appendUntilCut_heading record
  have flag := (BoundedText.appendUntilCut_fst_iff (heading record) .empty).mpr
    (Nat.le_trans (Nat.le_of_eq (Nat.zero_add _)) fits)
  rw [content]
  generalize BoundedText.empty.appendUntilCut (heading record) = made at chars flag ⊢
  obtain ⟨whole, line⟩ := made
  cases flag
  refine ⟨line, ?_, if_pos goesOn⟩
  rw [chars, Text.takeFit_of_size_le fits]

theorem fitted_of_trails {record : Record} (goesOn : record.message.persistent = true) {c : Char}
    (trails : Text.Trails 253 (heading record).flatten (fragments record) c) :
    (fitted record).chars =
      Text.takeFit 254 (heading record ++ fragments record).flatten ++ [c] := by
  obtain ⟨short, _⟩ := trails.lt_size
  obtain ⟨line, chars, same⟩ :=
    content_of_persistent goesOn (Nat.le_trans short (by decide))
  rw [← chars] at trails
  rw [chars_fitted_eq_takeFit, same, List.flatten_append, ← chars]
  exact BoundedText.takeFit_appendEach_of_trails rfl trails

theorem fitted_of_not_trails {record : Record} (goesOn : record.message.persistent = true)
    (none : ∀ c, ¬ Text.Trails 253 (heading record).flatten (fragments record) c) :
    (fitted record).chars = Text.takeFit 254 (heading record ++ fragments record).flatten := by
  rw [chars_fitted_eq_takeFit, List.flatten_append]
  by_cases fits : Text.size (heading record).flatten ≤ capacity
  · obtain ⟨line, chars, same⟩ := content_of_persistent goesOn fits
    rw [← chars] at none
    rw [same, ← chars]
    exact BoundedText.takeFit_appendEach_of_not_trails rfl none
  · have exceeds := Nat.lt_of_not_le fits
    have far : 254 < Text.size (heading record).flatten :=
      Nat.lt_of_le_of_lt (by decide : 254 ≤ capacity) exceeds
    rw [content_of_cut_heading exceeds, Text.takeFit_append_of_lt far,
      Text.takeFit_takeFit (Nat.sub_le capacity 2)]
    rfl

theorem exists_extra {record : Record} (goesOn : record.message.persistent = true) :
    ∃ extra : List Char, (extra = [] ∨ ∃ c : Char, extra = [c] ∧ c.toNat < 128) ∧
      (∀ c, extra = [c] ↔
        Text.Trails 253 (heading record).flatten (fragments record) c) ∧
      (fitted record).chars =
        Text.takeFit 254 (heading record ++ fragments record).flatten ++ extra := by
  by_cases trailed : ∃ c, Text.Trails 253 (heading record).flatten (fragments record) c
  · obtain ⟨c, trails⟩ := trailed
    have chars := fitted_of_trails goesOn trails
    refine ⟨[c], .inr ⟨c, rfl, trails.toNat_lt⟩, ?_, chars⟩
    intro d
    constructor
    · intro same
      rwa [← List.singleton_inj.mp same]
    · intro others
      rw [fitted_of_trails goesOn others] at chars
      exact (List.append_cancel_left chars).symm
  · have none : ∀ c, ¬ Text.Trails 253 (heading record).flatten (fragments record) c :=
      not_exists.mp trailed
    refine ⟨[], .inl rfl, ?_, ?_⟩
    · intro c
      exact iff_of_false (List.cons_ne_nil c []).symm (none c)
    · rw [fitted_of_not_trails goesOn none, List.append_nil]

/-- The line of a message that goes on where it is cut. Its text is cut to the longest part of at
most 254 bytes that ends between characters. One more character of one byte follows it exactly if a
character of four bytes begins at byte 253 and that one slips in at the beginning of a later
fragment. The line has at most 256 bytes with its ending, it is handed over in one call, and no check
fails on the way. -/
theorem cut_or_trailed {σ ρ : Type} (logger : Logger σ ρ) (sink : σ) {record : Record}
    (goesOn : record.message.persistent = true) :
    ∃ tail part extra, (∀ piece, LastPiece record.target.toList piece ↔ piece = tail) ∧
      Text.IsLongestFit 254 (full record tail) part ∧
      (extra = [] ∨ ∃ c : Char, extra = [c] ∧ c.toNat < 128) ∧
      (∀ c, extra = [c] ↔ Text.Trails 253 (record.level.letter :: ' ' :: tail ++ [' '])
        (fragments record) c) ∧
      let line := Text.utf8 (part ++ extra ++ ['\r', '\n'])
      line.length ≤ 256 ∧ logger.log record sink = (logger.emit line sink).2 ∧
        logger.logChecked record sink = some (logger.log record sink) := by
  obtain ⟨extra, narrow, trails, chars⟩ := exists_extra goesOn
  rw [flatten_pieces] at chars
  have opening : (heading record).flatten =
      record.level.letter :: ' ' :: lastSegment record.target.toList ++ [' '] := rfl
  have bytes : (render record).bytes = Text.utf8 ((fitted record).chars ++ ['\r', '\n']) := rfl
  rw [chars] at bytes
  rw [opening] at trails
  refine ⟨_, _, extra, fun _ => lastPiece_iff, Text.isLongestFit_takeFit 254 _, narrow, trails, ?_,
    ?_, logger.logChecked_eq record sink⟩
  · have bounded := (render record).size_le_capacity
    rwa [← BoundedText.length_bytes, bytes] at bounded
  · rw [Logger.log, bytes]

def lingering : Record :=
  ⟨.error, "device::main", ⟨[String.ofList (List.replicate 246 'x'), "𝄞", "", "𝄞", "yes"], true⟩⟩

theorem lingering_trailed :
    let text := "E main ".toList ++ List.replicate 246 'x'
    lingering.message.persistent = true ∧
      Text.Trails 253 "E main ".toList (fragments lingering) 'y' ∧
      ((Bench.Capture.logger false).log lingering .empty).lines =
        [Text.utf8 (text ++ ['y'] ++ ['\r', '\n'])] := by
  intro text
  have goesOn : lingering.message.persistent = true := rfl
  obtain ⟨tail, part, extra, named, longest, -, trails, -, logged, -⟩ :=
    cut_or_trailed (Bench.Capture.logger false) .empty goesOn
  have last : LastPiece ("device".toList ++ [':', ':'] ++ "main".toList) "main".toList :=
    .later (by decide) (.whole (by decide))
  rw [← (named _).mp last] at longest trails
  have filler : (String.ofList (List.replicate 246 'x')).toList = List.replicate 246 'x' :=
    String.toList_ofList
  have pieces : fragments lingering = [List.replicate 246 'x', ['𝄞'], [], ['𝄞'], "yes".toList] := by
    rw [← filler]
    rfl
  have trailed : Text.Trails 253 "E main ".toList (fragments lingering) 'y' := by
    have wide : '𝄞'.utf8Size = 4 := by decide
    refine ⟨[List.replicate 246 'x'], [], '𝄞', [], [[], ['𝄞'], "yes".toList], pieces,
      by decide +kernel, wide, ?_⟩
    exact .later (by simp) (.later (by simp [wide]) (.here (by decide)))
  have message : lingering.message.text.toList =
      List.replicate 246 'x' ++ "𝄞𝄞yes".toList := by
    rw [Message.text, String.toList_join, ← filler]
    rfl
  have cut : part = text := by
    rw [longest.eq_takeFit, full, message]
    decide +kernel
  rw [cut, (trails 'y').mpr trailed] at logged
  exact ⟨goesOn, trailed, congrArg Bench.Capture.lines logged⟩

end Line

end Gadget
