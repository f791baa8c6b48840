import Gadget.Log.Logger

namespace Gadget

namespace Text

def slice? : Nat → List Char → Option (List Char)
  | index, [] => if index = 0 then some [] else none
  | index, c :: rest =>
    if index = 0 then some []
    else if c.utf8Size ≤ index then (slice? (index - c.utf8Size) rest).map (c :: ·)
    else none

def stepDown? (text : List Char) : Nat → Option Nat
  | 0 => if (slice? 0 text).isSome then some 0 else none
  | index + 1 =>
    if (slice? (index + 1) text).isSome then some (index + 1) else stepDown? text index

def floor? (text : List Char) (index : Nat) : Option Nat := stepDown? text (min index (size text))

theorem slice?_size {part text : List Char} (isPart : part <+: text) :
    slice? (size part) text = some part := by
  induction part generalizing text with
  | nil => cases text <;> rfl
  | cons c rest ih =>
    obtain ⟨tail, rfl⟩ := isPart
    have positive := c.utf8Size_pos
    simp only [size, List.cons_append, slice?]
    rw [if_neg (by omega), if_pos (by omega), Nat.add_sub_cancel_left, ih (List.prefix_append _ _)]
    rfl

theorem slice?_takeFit (budget : Nat) (text : List Char) :
    slice? (size (takeFit budget text)) text = some (takeFit budget text) := by
  apply slice?_size
  exact takeFit_prefix budget text

theorem prefix_of_slice? {index : Nat} {text part : List Char} (cut : slice? index text = some part) :
    part <+: text ∧ size part = index := by
  fun_induction slice? index text generalizing part with
  | case1 => cases cut; exact ⟨List.nil_prefix, rfl⟩
  | case2 => cases cut
  | case3 => cases cut; exact ⟨List.nil_prefix, rfl⟩
  | case4 index c rest later fits ih =>
    obtain ⟨tail, cutTail, rfl⟩ := Option.map_eq_some_iff.mp cut
    obtain ⟨isPrefix, sized⟩ := ih cutTail
    refine ⟨(List.prefix_cons_inj c).mpr isPrefix, ?_⟩
    rw [size, sized]
    omega
  | case5 => cases cut

theorem stepDown?_eq (text : List Char) (index : Nat) :
    stepDown? text index = some (size (takeFit index text)) := by
  induction index with
  | zero =>
    have start : slice? 0 text = some [] := slice?_size List.nil_prefix
    rw [stepDown?, start, Nat.le_zero.mp (size_takeFit_le 0 text)]
    rfl
  | succ index ih =>
    rw [stepDown?]
    cases cut : slice? (index + 1) text with
    | some part =>
      obtain ⟨isPrefix, sized⟩ := prefix_of_slice? cut
      obtain ⟨rest, split⟩ := prefix_takeFit isPrefix (Nat.le_of_eq sized)
      have within := size_takeFit_le (index + 1) text
      rw [← split, size_append] at within ⊢
      rw [Option.isSome_some, if_pos rfl, sized]
      congr 1
      omega
    | none =>
      have between : size (takeFit (index + 1) text) ≠ index + 1 := by
        intro reached
        rw [← reached, slice?_takeFit] at cut
        cases cut
      have within := size_takeFit_le (index + 1) text
      have shorter := Nat.le_of_lt_succ (Nat.lt_of_le_of_ne within between)
      rw [Option.isSome_none, if_neg Bool.false_ne_true, ih,
        takeFit_eq_of_size_le (Nat.le_succ index) shorter]

theorem floor?_eq (text : List Char) (index : Nat) :
    floor? text index = some (size (takeFit index text)) := by
  rw [floor?, stepDown?_eq]
  by_cases inside : index ≤ size text
  · rw [Nat.min_eq_left inside]
  · have past : size text ≤ index := Nat.le_of_not_le inside
    rw [Nat.min_eq_right past, takeFit_of_size_le (Nat.le_refl _), takeFit_of_size_le past]

end Text

namespace BoundedText

variable {capacity : Nat}

def pushChecked (text : BoundedText capacity) (piece : List Char) :
    Option (BoundedText capacity) :=
  if fits : Text.size piece ≤ text.remaining then some (text.push piece fits) else none

def appendChecked (text : BoundedText capacity) (piece : List Char) :
    Option (Bool × BoundedText capacity) :=
  if Text.size piece ≤ text.remaining then (text.pushChecked piece).map (true, ·)
  else do
    let index ← Text.floor? piece text.remaining
    let longer ← text.pushChecked (← Text.slice? index piece)
    pure (false, longer)

def appendUntilCutChecked :
    List (List Char) → BoundedText capacity → Option (Bool × BoundedText capacity)
  | [], text => some (true, text)
  | piece :: rest, text => do
    let (whole, longer) ← text.appendChecked piece
    if whole then appendUntilCutChecked rest longer else pure (false, longer)

def appendEachChecked (pieces : List (List Char)) (text : BoundedText capacity) :
    Option (BoundedText capacity) :=
  pieces.foldlM (fun text piece => (text.appendChecked piece).map Prod.snd) text

def truncateChecked (text : BoundedText capacity) (index : Nat) : Option (BoundedText capacity) :=
  if index ≤ text.size then do
    let part ← Text.slice? index text.chars
    if fits : Text.size part ≤ capacity then some ⟨part, fits⟩ else none
  else some text

theorem pushChecked_of_fits {text : BoundedText capacity} {piece : List Char}
    (fits : Text.size piece ≤ text.remaining) :
    text.pushChecked piece = some (text.push piece fits) :=
  dif_pos fits

theorem appendChecked_eq (text : BoundedText capacity) (piece : List Char) :
    text.appendChecked piece = some (text.append piece) := by
  unfold appendChecked
  by_cases fits : Text.size piece ≤ text.remaining
  · rw [if_pos fits, pushChecked_of_fits fits, append_of_fits fits]
    rfl
  · have part := Text.slice?_takeFit text.remaining piece
    have room := Text.size_takeFit_le text.remaining piece
    simp only [if_neg fits, Text.floor?_eq, part, pushChecked_of_fits room, Option.bind_eq_bind,
      Option.bind_some, append, decide_eq_false fits, Option.pure_def]

theorem appendUntilCutChecked_eq (pieces : List (List Char)) (text : BoundedText capacity) :
    appendUntilCutChecked pieces text = some (appendUntilCut pieces text) := by
  induction pieces generalizing text with
  | nil => rfl
  | cons piece rest ih =>
    rw [appendUntilCutChecked, appendChecked_eq, appendUntilCut]
    rcases text.append piece with ⟨whole, longer⟩
    cases whole with
    | true => exact ih longer
    | false => rfl

theorem appendEachChecked_eq (pieces : List (List Char)) (text : BoundedText capacity) :
    appendEachChecked pieces text = some (appendEach pieces text) := by
  induction pieces generalizing text with
  | nil => rfl
  | cons piece rest ih =>
    rw [appendEachChecked, List.foldlM_cons, appendChecked_eq]
    exact ih _

theorem truncateChecked_eq (text : BoundedText capacity) (limit : Nat) :
    (Text.floor? text.chars limit).bind text.truncateChecked = some (text.truncate limit) := by
  have part := Text.slice?_takeFit limit text.chars
  have within : Text.size (Text.takeFit limit text.chars) ≤ text.size := by
    obtain ⟨rest, split⟩ := Text.takeFit_prefix limit text.chars
    have whole := congrArg Text.size split
    rw [Text.size_append] at whole
    exact Nat.le.intro whole
  rw [Text.floor?_eq, Option.bind_some, truncateChecked, if_pos within, part]
  exact dif_pos (text.truncate limit).size_le

end BoundedText

namespace Line

def contentChecked (record : Record) : Option (BoundedText capacity) := do
  let (whole, line) ← BoundedText.empty.appendUntilCutChecked (heading record)
  if whole then
    if record.message.persistent then line.appendEachChecked (fragments record)
    else (line.appendUntilCutChecked (fragments record)).map Prod.snd
  else pure line

def renderChecked (record : Record) : Option (BoundedText capacity) := do
  let line ← contentChecked record
  let line ←
    if line.remaining < 2 then (Text.floor? line.chars (capacity - 2)).bind line.truncateChecked
    else pure line
  line.pushChecked ending

theorem contentChecked_eq (record : Record) : contentChecked record = some (content record) := by
  rw [contentChecked, BoundedText.appendUntilCutChecked_eq, content]
  rcases BoundedText.empty.appendUntilCut (heading record) with ⟨whole, line⟩
  cases whole with
  | false => rfl
  | true =>
    cases record.message.persistent with
    | false => exact congrArg (Option.map Prod.snd) (BoundedText.appendUntilCutChecked_eq _ line)
    | true => exact BoundedText.appendEachChecked_eq _ line

theorem renderChecked_eq (record : Record) : renderChecked record = some (render record) := by
  have fits := ending_fits record
  have ended : (fitted record).pushChecked ending = some (render record) :=
    BoundedText.pushChecked_of_fits fits
  rw [renderChecked, contentChecked_eq, ← ended, fitted]
  by_cases full : (content record).remaining < 2
  · simp only [if_pos full, BoundedText.truncateChecked_eq, Option.bind_eq_bind, Option.bind_some]
  · simp only [if_neg full, Option.bind_eq_bind, Option.bind_some, Option.pure_def]

end Line

namespace Logger

variable {σ ρ : Type}

def logChecked (logger : Logger σ ρ) (record : Record) (sink : σ) : Option σ := do
  let line ← Line.renderChecked record
  pure (logger.emit line.bytes sink).2

theorem logChecked_eq (logger : Logger σ ρ) (record : Record) (sink : σ) :
    logger.logChecked record sink = some (logger.log record sink) := by
  rw [logChecked, Line.renderChecked_eq]
  rfl

end Logger

end Gadget
