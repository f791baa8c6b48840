import Gadget.Bytes

namespace Gadget.Text

def utf8 (text : List Char) : Bytes := text.flatMap String.utf8EncodeChar

def size : List Char → Nat
  | [] => 0
  | c :: rest => c.utf8Size + size rest

def takeFit : Nat → List Char → List Char
  | _, [] => []
  | budget, c :: rest =>
    if c.utf8Size ≤ budget then c :: takeFit (budget - c.utf8Size) rest else []

@[simp] theorem length_utf8 (text : List Char) : (utf8 text).length = size text := by
  induction text with
  | nil => rfl
  | cons c rest ih =>
    simp only [utf8, List.flatMap_cons, List.length_append, String.length_utf8EncodeChar, size]
    exact congrArg _ ih

@[simp] theorem size_append (left right : List Char) :
    size (left ++ right) = size left + size right := by
  induction left with
  | nil => simp [size]
  | cons c rest ih => simp [size, ih, Nat.add_assoc]

theorem utf8_append (left right : List Char) : utf8 (left ++ right) = utf8 left ++ utf8 right :=
  List.flatMap_append

theorem size_of_ascii {text : List Char} (ascii : ∀ c ∈ text, c.utf8Size = 1) :
    size text = text.length := by
  induction text with
  | nil => rfl
  | cons c rest ih =>
    have first := ascii c List.mem_cons_self
    have others := ih fun d member => ascii d (List.mem_cons_of_mem c member)
    rw [size, first, others, List.length_cons, Nat.add_comm]

theorem size_takeFit_le (budget : Nat) (text : List Char) : size (takeFit budget text) ≤ budget := by
  fun_induction takeFit budget text with
  | case1 => simp [size]
  | case2 budget c rest fits ih => simp only [size]; omega
  | case3 => simp [size]

theorem takeFit_prefix (budget : Nat) (text : List Char) : takeFit budget text <+: text := by
  fun_induction takeFit budget text with
  | case1 => exact List.nil_prefix
  | case2 budget c rest fits ih => exact (List.prefix_cons_inj c).mpr ih
  | case3 => exact List.nil_prefix

theorem takeFit_of_size_le {budget : Nat} {text : List Char} (fits : size text ≤ budget) :
    takeFit budget text = text := by
  induction text generalizing budget with
  | nil => rfl
  | cons c rest ih =>
    simp only [size] at fits
    rw [takeFit, if_pos (by omega), ih (by omega)]

theorem prefix_takeFit {budget : Nat} {part text : List Char} (isPart : part <+: text)
    (fits : size part ≤ budget) : part <+: takeFit budget text := by
  induction text generalizing budget part with
  | nil => simpa [takeFit] using isPart
  | cons c rest ih =>
    cases part with
    | nil => exact List.nil_prefix
    | cons d tail =>
      obtain ⟨rfl, tailPart⟩ := List.cons_prefix_cons.mp isPart
      simp only [size] at fits
      rw [takeFit, if_pos (by omega)]
      exact (List.prefix_cons_inj _).mpr (ih tailPart (by omega))

theorem takeFit_append_of_le {budget : Nat} {left : List Char} (fits : size left ≤ budget)
    (right : List Char) :
    takeFit budget (left ++ right) = left ++ takeFit (budget - size left) right := by
  induction left generalizing budget with
  | nil => rfl
  | cons c rest ih =>
    simp only [size] at fits ⊢
    rw [List.cons_append, takeFit, if_pos (by omega), ih (by omega), Nat.sub_add_eq,
      List.cons_append]

theorem takeFit_append_of_lt {budget : Nat} {left : List Char} (exceeds : budget < size left)
    (right : List Char) : takeFit budget (left ++ right) = takeFit budget left := by
  induction left generalizing budget with
  | nil => exact absurd exceeds (Nat.not_lt_zero _)
  | cons c rest ih =>
    simp only [size] at exceeds
    rw [List.cons_append, takeFit, takeFit]
    split
    · rw [ih (by omega)]
    · rfl

theorem takeFit_takeFit {small big : Nat} (ordered : small ≤ big) (text : List Char) :
    takeFit small (takeFit big text) = takeFit small text := by
  induction text generalizing small big with
  | nil => rfl
  | cons c rest ih =>
    by_cases fits : c.utf8Size ≤ small
    · have fitsBig := Nat.le_trans fits ordered
      rw [takeFit, if_pos fitsBig, takeFit, if_pos fits, takeFit, if_pos fits,
        ih (Nat.sub_le_sub_right ordered _)]
    · have nothing (tail : List Char) : takeFit small (c :: tail) = [] := if_neg fits
      rw [nothing, takeFit]
      split
      · rw [nothing]
      · rfl

theorem takeFit_eq_of_size_le {small big : Nat} (ordered : small ≤ big) {text : List Char}
    (fits : size (takeFit big text) ≤ small) : takeFit small text = takeFit big text := by
  rw [← takeFit_takeFit ordered, takeFit_of_size_le fits]

end Gadget.Text
