import Mathlib.Logic.Function.Defs

/-! # Numerals

The numeral of a number is not empty, and it says which number it is: the digits are read back, and
a minus sign is no digit. `Nat.repr_injective` and `Int.repr_inj` say so as well, but there is no
importing them without the whole library. -/

namespace BindingPlan.Text

theorem natNumeral_injective : Function.Injective Nat.repr := by
  intro m n same
  have digits : Nat.toDigits 10 m = Nat.toDigits 10 n := by
    simpa using congrArg String.toList same
  calc
    m = Nat.ofDigitChars 10 (Nat.toDigits 10 m) 0 := Nat.ofDigitChars_ten_toDigits.symm
    _ = Nat.ofDigitChars 10 (Nat.toDigits 10 n) 0 := by rw [digits]
    _ = n := Nat.ofDigitChars_ten_toDigits

theorem minus_append_ne_natNumeral (text : String) (n : Nat) : "-" ++ text ≠ n.repr := by
  intro same
  have digits : '-' :: text.toList = Nat.toDigits 10 n := by
    simpa using congrArg String.toList same
  have mem : '-' ∈ Nat.toDigits 10 n := digits ▸ List.mem_cons_self
  have digit := Nat.isDigit_of_mem_toDigits (by decide) (Nat.le_refl 10) mem
  cases digit

theorem intNumeral_injective : Function.Injective Int.repr := by
  intro m n same
  simp only [Int.repr_eq_if] at same
  split at same <;> split at same
  · have := natNumeral_injective same
    omega
  · exact absurd same.symm (minus_append_ne_natNumeral _ _)
  · exact absurd same (minus_append_ne_natNumeral _ _)
  · have := natNumeral_injective ((String.append_right_inj "-").mp same)
    omega

theorem intNumeral_ne_empty (n : Int) : n.repr ≠ "" := by
  rw [Int.repr_eq_if]
  split
  · exact Nat.repr_ne_empty
  · simp

end BindingPlan.Text
