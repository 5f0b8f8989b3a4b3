import CloudSpace.Text.Bytes
import Mathlib.Data.List.Basic

/-!
# Texts that determine what they are made from

Numbers in decimal digits, and the bytes of texts: neither loses anything.
-/
namespace CloudSpace

/-! ### Numbers -/

/-- Numbers are told apart by their digits. -/
theorem toDigits_ten_inj {first second : Nat}
    (same : Nat.toDigits 10 first = Nat.toDigits 10 second) : first = second := by
  have numbers := congrArg (Nat.ofDigitChars 10 · 0) same
  simpa only [Nat.ofDigitChars_ten_toDigits] using numbers

/-! ### Bytes -/

namespace Text

/-- The bytes of an array from a position on, after those that have been passed. -/
theorem toList_loop (bytes : ByteArray) (position : Nat) (passed : List UInt8) :
    ByteArray.toList.loop bytes position passed =
      passed.reverse ++ bytes.data.toList.drop position := by
  fun_induction ByteArray.toList.loop bytes position passed with
  | case1 position passed inside ih =>
    have here : position < bytes.data.toList.length := inside
    have read : bytes.get! position = bytes.data.toList[position] :=
      getElem!_pos bytes.data position inside
    rw [ih, List.reverse_cons, List.append_assoc, List.singleton_append, read,
      ← List.drop_eq_getElem_cons here]
  | case2 position passed outside =>
    have past : bytes.data.toList.length ≤ position := Nat.le_of_not_lt outside
    rw [List.drop_eq_nil_of_le past, List.append_nil]

theorem utf8_eq (text : String) : utf8 text = text.toByteArray.data.toList := by
  rw [utf8, String.toUTF8, ByteArray.toList, toList_loop, List.reverse_nil, List.nil_append,
    List.drop_zero]

theorem utf8_append (first second : String) :
    utf8 (first ++ second) = utf8 first ++ utf8 second := by
  simp only [utf8_eq, String.toByteArray_append, ByteArray.data_append, Array.toList_append]

theorem utf8_inj {first second : String} (same : utf8 first = utf8 second) : first = second := by
  rw [utf8_eq, utf8_eq] at same
  exact String.toByteArray_inj.mp (ByteArray.ext (Array.toList_inj.mp same))

end Text

end CloudSpace
