import Gadget.Log.Record
import Gadget.Text.Bounded

namespace Gadget.Line

def capacity : Nat := 256

def ending : List Char := ['\r', '\n']

/-- What follows the last `::` found from the left, where `start` is what follows the last one found
so far. -/
def segmentFrom (start : List Char) : List Char → List Char
  | ':' :: ':' :: rest => segmentFrom rest rest
  | _ :: rest => segmentFrom start rest
  | [] => start

def lastSegment (target : List Char) : List Char := segmentFrom target target

def heading (record : Record) : List (List Char) :=
  [[record.level.letter], [' '], lastSegment record.target.toList, [' ']]

def fragments (record : Record) : List (List Char) := record.message.fragments.map String.toList

def content (record : Record) : BoundedText capacity :=
  match BoundedText.empty.appendUntilCut (heading record) with
  | (false, line) => line
  | (true, line) =>
    if record.message.persistent then line.appendEach (fragments record)
    else (line.appendUntilCut (fragments record)).2

def fitted (record : Record) : BoundedText capacity :=
  if (content record).remaining < 2 then (content record).truncate (capacity - 2)
  else content record

theorem ending_fits (record : Record) : Text.size ending ≤ (fitted record).remaining := by
  have two : Text.size ending = 2 := by decide
  rw [two]
  unfold fitted
  split
  · have := (content record).size_truncate_le (capacity - 2)
    simp only [BoundedText.remaining]
    simp only [capacity] at *
    omega
  · omega

def render (record : Record) : BoundedText capacity :=
  (fitted record).push ending (ending_fits record)

theorem letter_prefix_content (record : Record) :
    [record.level.letter] <+: (content record).chars := by
  have first : [record.level.letter] <+:
      (BoundedText.empty.appendUntilCut (heading record) : Bool × BoundedText capacity).2.chars := by
    have fits : Text.size [record.level.letter] ≤
        (BoundedText.empty : BoundedText capacity).remaining := by
      cases record.level <;> decide
    exact BoundedText.prefix_appendUntilCut_cons fits _
  unfold content
  split
  · rename_i line made
    rwa [made] at first
  · rename_i line made
    rw [made] at first
    split
    · exact first.trans (line.prefix_appendEach _)
    · exact first.trans (line.prefix_appendUntilCut _)

theorem letter_prefix_fitted (record : Record) :
    [record.level.letter] <+: (fitted record).chars := by
  have first := letter_prefix_content record
  unfold fitted
  split
  · refine Text.prefix_takeFit first ?_
    cases record.level <;> decide
  · exact first

theorem letter_prefix_render (record : Record) :
    [record.level.letter] <+: (render record).chars :=
  (letter_prefix_fitted record).trans (List.prefix_append _ _)

end Gadget.Line
