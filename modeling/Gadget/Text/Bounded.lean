import Gadget.Text.Utf8

namespace Gadget

structure BoundedText (capacity : Nat) where
  chars : List Char
  size_le : Text.size chars ≤ capacity
deriving DecidableEq

namespace BoundedText

variable {capacity : Nat}

def empty : BoundedText capacity := ⟨[], Nat.zero_le _⟩

def size (text : BoundedText capacity) : Nat := Text.size text.chars

def remaining (text : BoundedText capacity) : Nat := capacity - text.size

def bytes (text : BoundedText capacity) : Bytes := Text.utf8 text.chars

def push (text : BoundedText capacity) (piece : List Char) (fits : Text.size piece ≤ text.remaining) :
    BoundedText capacity where
  chars := text.chars ++ piece
  size_le := by
    have := text.size_le
    simp only [remaining, size] at fits
    rw [Text.size_append]
    omega

def pushAll : List (List Char) → BoundedText capacity → BoundedText capacity
  | [], text => text
  | piece :: rest, text =>
    if fits : Text.size piece ≤ text.remaining then pushAll rest (text.push piece fits) else text

def append (text : BoundedText capacity) (piece : List Char) : Bool × BoundedText capacity :=
  (decide (Text.size piece ≤ text.remaining),
    text.push (Text.takeFit text.remaining piece) (Text.size_takeFit_le _ _))

/-- Appends pieces up to and including the first that is cut, and tells whether none was. -/
def appendUntilCut : List (List Char) → BoundedText capacity → Bool × BoundedText capacity
  | [], text => (true, text)
  | piece :: rest, text =>
    match text.append piece with
    | (true, longer) => appendUntilCut rest longer
    | (false, longer) => (false, longer)

/-- Appends what fits of every piece, so that a short piece may still follow one that was cut. -/
def appendEach (pieces : List (List Char)) (text : BoundedText capacity) : BoundedText capacity :=
  pieces.foldl (fun text piece => (text.append piece).2) text

def truncate (text : BoundedText capacity) (limit : Nat) : BoundedText capacity where
  chars := Text.takeFit limit text.chars
  size_le := by
    have fits := text.size_le
    have shorter : Text.size (Text.takeFit limit text.chars) ≤ Text.size text.chars := by
      obtain ⟨rest, split⟩ := Text.takeFit_prefix limit text.chars
      have := congrArg Text.size split
      rw [Text.size_append] at this
      omega
    omega

theorem chars_pushAll {pieces : List (List Char)} {text : BoundedText capacity}
    (fits : Text.size text.chars + Text.size pieces.flatten ≤ capacity) :
    (pushAll pieces text).chars = text.chars ++ pieces.flatten := by
  induction pieces generalizing text with
  | nil => exact (List.append_nil _).symm
  | cons piece rest ih =>
    rw [List.flatten_cons, Text.size_append] at fits
    have room : Text.size piece ≤ text.remaining := by
      simp only [remaining, size]
      omega
    rw [pushAll, dif_pos room, ih]
    · rw [push, List.flatten_cons, List.append_assoc]
    · rw [push, Text.size_append]
      omega

theorem append_of_fits {text : BoundedText capacity} {piece : List Char}
    (fits : Text.size piece ≤ text.remaining) : text.append piece = (true, text.push piece fits) := by
  simp only [append, fits, decide_true, Text.takeFit_of_size_le fits]

theorem prefix_append (text : BoundedText capacity) (piece : List Char) :
    text.chars <+: (text.append piece).2.chars :=
  List.prefix_append _ _

theorem prefix_appendUntilCut (pieces : List (List Char)) (text : BoundedText capacity) :
    text.chars <+: (appendUntilCut pieces text).2.chars := by
  induction pieces generalizing text with
  | nil => exact List.prefix_rfl
  | cons piece rest ih =>
    have first := text.prefix_append piece
    rw [appendUntilCut]
    split
    · rename_i longer added
      rw [added] at first
      exact first.trans (ih longer)
    · rename_i longer added
      rwa [added] at first

theorem prefix_appendUntilCut_cons {text : BoundedText capacity} {piece : List Char}
    (fits : Text.size piece ≤ text.remaining) (rest : List (List Char)) :
    text.chars ++ piece <+: (appendUntilCut (piece :: rest) text).2.chars := by
  rw [appendUntilCut, append_of_fits fits]
  exact prefix_appendUntilCut rest (text.push piece fits)

theorem prefix_appendEach (pieces : List (List Char)) (text : BoundedText capacity) :
    text.chars <+: (text.appendEach pieces).chars := by
  induction pieces generalizing text with
  | nil => exact List.prefix_rfl
  | cons piece rest ih => exact (text.prefix_append piece).trans (ih _)

theorem size_truncate_le (text : BoundedText capacity) (limit : Nat) :
    (text.truncate limit).size ≤ limit :=
  Text.size_takeFit_le _ _

@[simp] theorem length_bytes (text : BoundedText capacity) : text.bytes.length = text.size :=
  Text.length_utf8 _

theorem size_le_capacity (text : BoundedText capacity) : text.size ≤ capacity := text.size_le

end BoundedText

end Gadget
