import Gadget.Console.Loss
import Mathlib.Data.List.Basic

namespace Gadget

namespace Text

def digitCount (n : Nat) : Nat := (Nat.toDigits 10 n).length

theorem digitCount_mono {m n : Nat} (le : m ≤ n) : digitCount m ≤ digitCount n := by
  have positive : 0 < digitCount n := Nat.length_toDigits_pos
  have bound := (Nat.length_toDigits_le_iff (by decide) positive).mp (Nat.le_refl _)
  exact (Nat.length_toDigits_le_iff (by decide) positive).mpr (Nat.lt_of_le_of_lt le bound)

theorem digitCount_word_le (count : UInt64) : digitCount count.toNat ≤ 20 :=
  (Nat.length_toDigits_le_iff (by decide) (by decide)).mpr
    (Nat.lt_trans count.toNat_lt (by decide))

theorem isDigit_of_mem_decimal {n : Nat} {c : Char} (member : c ∈ (decimal n).toList) :
    c.isDigit = true := by
  rw [decimal, String.toList_ofList] at member
  exact Nat.isDigit_of_mem_toDigits (by decide) (by decide) member

theorem utf8Size_of_isDigit {c : Char} (digit : c.isDigit = true) : c.utf8Size = 1 := by
  simp only [Char.isDigit, Bool.and_eq_true, decide_eq_true_eq] at digit
  exact Char.utf8Size_eq_one_iff.mpr (UInt32.le_trans digit.2 (by decide))

theorem size_decimal (n : Nat) : size (decimal n).toList = digitCount n := by
  have ascii : ∀ c ∈ (decimal n).toList, c.utf8Size = 1 := fun c member =>
    utf8Size_of_isDigit (isDigit_of_mem_decimal member)
  rw [size_of_ascii ascii, decimal, String.toList_ofList, digitCount]

def numeral (n : Nat) : Bytes := utf8 (decimal n).toList

def readNumeral? (data : Bytes) : Option Nat :=
  let digits := data.map Char.ofUInt8
  if !digits.isEmpty && digits.all Char.isDigit then
    some (Nat.ofDigitChars 10 digits 0)
  else none

theorem map_ofUInt8_utf8 {text : List Char} (ascii : ∀ c ∈ text, c.utf8Size = 1) :
    (utf8 text).map Char.ofUInt8 = text := by
  induction text with
  | nil => rfl
  | cons c rest ih =>
    have small := ascii c List.mem_cons_self
    have others := ih fun d member => ascii d (List.mem_cons_of_mem c member)
    have same : Char.ofUInt8 c.val.toUInt8 = c := by
      have bound : c.val.toNat ≤ 127 :=
        UInt32.le_iff_toNat_le.mp (Char.utf8Size_eq_one_iff.mp small)
      apply Char.ext
      rw [← UInt32.toNat_inj]
      change c.val.toUInt8.toUInt32.toNat = c.val.toNat
      rw [UInt8.toNat_toUInt32, UInt32.toNat_toUInt8]
      omega
    rw [utf8] at others ⊢
    rw [List.flatMap_cons, String.utf8EncodeChar_eq_singleton small, List.map_append, others,
      List.map_singleton, same, List.singleton_append]

theorem map_ofUInt8_numeral (n : Nat) : (numeral n).map Char.ofUInt8 = Nat.toDigits 10 n := by
  rw [numeral, map_ofUInt8_utf8 fun c member => utf8Size_of_isDigit (isDigit_of_mem_decimal member),
    decimal, String.toList_ofList]

theorem readNumeral?_numeral (n : Nat) : readNumeral? (numeral n) = some n := by
  have some : (Nat.toDigits 10 n).isEmpty = false :=
    List.isEmpty_eq_false_iff.mpr (List.ne_nil_of_length_pos Nat.length_toDigits_pos)
  have digits : (Nat.toDigits 10 n).all Char.isDigit = true :=
    List.all_eq_true.mpr fun digit member =>
      Nat.isDigit_of_mem_toDigits (by decide) (by decide) member
  have numeric : (!(Nat.toDigits 10 n).isEmpty && (Nat.toDigits 10 n).all Char.isDigit) = true := by
    rw [some, digits]
    rfl
  rw [readNumeral?, map_ofUInt8_numeral, if_pos numeric, Nat.ofDigitChars_ten_toDigits]

theorem lineFeed_not_mem_numeral (n : Nat) : 10 ∉ numeral n := by
  intro member
  have digit := List.mem_map_of_mem (f := Char.ofUInt8) member
  rw [map_ofUInt8_numeral] at digit
  exact absurd (Nat.isDigit_of_mem_toDigits (by decide) (by decide) digit) (by decide)

end Text

namespace Notice

theorem size_pieces (count : UInt64) :
    Text.size (pieces count).flatten = 15 + Text.digitCount count.toNat := by
  have opening : Text.size "[...".toList = 4 := by decide
  have closing : Text.size " bytes...]".toList = 10 := by decide
  have ending : Text.size "\n".toList = 1 := by decide
  have empty : Text.size [] = 0 := rfl
  simp only [pieces, List.flatten_cons, List.flatten_nil, Text.size_append, Text.size_decimal,
    opening, closing, ending, empty]
  omega

theorem chars_text (count : UInt64) : (text count).chars = (pieces count).flatten := by
  have digits := Text.digitCount_word_le count
  refine BoundedText.chars_pushAll ?_
  rw [size_pieces]
  simp only [BoundedText.empty, Text.size, capacity]
  omega

theorem length_bytes_text (count : UInt64) :
    (text count).bytes.length = 15 + Text.digitCount count.toNat := by
  rw [BoundedText.length_bytes, BoundedText.size, chars_text, size_pieces]

theorem bytes_text_ne_nil (count : UInt64) : (text count).bytes ≠ [] := by
  have length := length_bytes_text count
  intro nothing
  rw [nothing, List.length_nil] at length
  omega

theorem head?_bytes_text (count : UInt64) : (text count).bytes.head? = some 91 := by
  rw [BoundedText.bytes, chars_text]
  rfl

def opening : Bytes := Text.utf8 "[...".toList

def closing : Bytes := Text.utf8 " bytes...]\n".toList

def read? (line : Bytes) : Option Nat :=
  ((line.dropPrefix? opening).bind (List.dropSuffix? · closing)).bind Text.readNumeral?

theorem bytes_text (count : UInt64) :
    (text count).bytes = opening ++ (Text.numeral count.toNat ++ closing) := by
  have ending : closing = Text.utf8 " bytes...]".toList ++ Text.utf8 "\n".toList := by decide
  rw [BoundedText.bytes, chars_text, ending]
  simp only [pieces, List.flatten_cons, List.flatten_nil, List.append_nil, Text.utf8_append]
  rfl

theorem bytes_text_eq_line (count : UInt64) :
    ∃ inner, (text count).bytes = 91 :: (inner ++ [10]) ∧ 10 ∉ inner := by
  refine ⟨Text.utf8 "...".toList ++ (Text.numeral count.toNat ++ Text.utf8 " bytes...]".toList),
    ?_, ?_⟩
  · rw [bytes_text]
    simp only [List.append_assoc]
    rfl
  · have digits := Text.lineFeed_not_mem_numeral count.toNat
    have before : 10 ∉ Text.utf8 "...".toList := by decide
    have after : 10 ∉ Text.utf8 " bytes...]".toList := by decide
    simp only [List.mem_append, not_or]
    exact ⟨before, digits, after⟩

theorem read?_bytes_text (count : UInt64) : read? (text count).bytes = some count.toNat := by
  have opened : (text count).bytes.dropPrefix? opening =
      some (Text.numeral count.toNat ++ closing) :=
    List.dropPrefix?_eq_some_iff.mpr ⟨opening, bytes_text count, BEq.rfl⟩
  have closed : (Text.numeral count.toNat ++ closing).dropSuffix? closing =
      some (Text.numeral count.toNat) :=
    List.dropSuffix?_eq_some_iff.mpr ⟨closing, rfl, BEq.rfl⟩
  rw [read?, opened, Option.bind_some, closed, Option.bind_some, Text.readNumeral?_numeral]

theorem bytes_text_injective {count other : UInt64}
    (same : (text count).bytes = (text other).bytes) : count = other := by
  have told := congrArg read? same
  rw [read?_bytes_text, read?_bytes_text] at told
  exact UInt64.toNat_inj.mp (Option.some.inj told)

end Notice

end Gadget
