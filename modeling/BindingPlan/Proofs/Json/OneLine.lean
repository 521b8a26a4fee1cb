import BindingPlan.Proofs.Json.ReadBack

/-! # One line for a value

The text of a value has no line break in it (`newline_not_mem_write`), whatever stands in its texts
and keys: a line break inside a text is written as an escape, numbers are made of digits and a few
signs (`Decimal.isNumeral_chars`), and nothing is written between the tokens. -/

namespace BindingPlan

/-! ### Numbers -/

namespace Decimal

/-- The character may stand in a number: a digit, a sign, a point, or the letter of an exponent. -/
def IsNumeral (c : Char) : Prop :=
  c.isDigit = true ∨ c ∈ ['-', '+', '.', 'e']

theorem isNumeral_toDigits (n : Nat) : ∀ c ∈ Nat.toDigits 10 n, IsNumeral c := by
  intro c mem
  exact .inl (Nat.isDigit_of_mem_toDigits (by decide) (Nat.le_refl 10) mem)

theorem isNumeral_replicate (n : Nat) : ∀ c ∈ List.replicate n '0', IsNumeral c := by
  intro c mem
  obtain rfl : c = '0' := List.eq_of_mem_replicate mem
  exact .inl (by decide)

section Layouts
variable {digits : List Char} (numeral : ∀ c ∈ digits, IsNumeral c)
include numeral

theorem isNumeral_placed (keepsFraction : Bool) (point : Int) :
    ∀ c ∈ placed keepsFraction digits point, IsNumeral c := by
  have zero : IsNumeral '0' := .inl (by decide)
  have dot : IsNumeral '.' := .inr (by decide)
  unfold placed
  split_ifs
  · exact List.forall_mem_cons.2 ⟨zero, List.forall_mem_cons.2
      ⟨dot, List.forall_mem_append.2 ⟨isNumeral_replicate _, numeral⟩⟩⟩
  · refine List.forall_mem_append.2 ⟨fun c mem => numeral c (List.mem_of_mem_take mem), ?_⟩
    exact List.forall_mem_cons.2 ⟨dot, fun c mem => numeral c (List.mem_of_mem_drop mem)⟩
  · refine List.forall_mem_append.2
      ⟨List.forall_mem_append.2 ⟨numeral, isNumeral_replicate _⟩, ?_⟩
    exact List.forall_mem_cons.2 ⟨dot, List.forall_mem_singleton.2 zero⟩
  · exact List.forall_mem_append.2
      ⟨List.forall_mem_append.2 ⟨numeral, isNumeral_replicate _⟩, by simp⟩

theorem isNumeral_scientific (exponent : Int) :
    ∀ c ∈ scientific digits exponent, IsNumeral c := by
  have tail : ∀ sign : Char, IsNumeral sign →
      ∀ c ∈ 'e' :: sign :: Nat.toDigits 10 exponent.natAbs, IsNumeral c := fun sign h =>
    List.forall_mem_cons.2 ⟨.inr (by decide), List.forall_mem_cons.2 ⟨h, isNumeral_toDigits _⟩⟩
  have sign : IsNumeral (if exponent < 0 then '-' else '+') := by
    split_ifs
    · exact .inr (by decide)
    · exact .inr (by decide)
  refine List.forall_mem_append.2 ⟨?_, tail _ sign⟩
  match digits, numeral with
  | [], _ => simp
  | [d], numeral => exact numeral
  | d :: e :: rest, numeral =>
    obtain ⟨first, others⟩ := List.forall_mem_cons.1 numeral
    exact List.forall_mem_cons.2 ⟨first, List.forall_mem_cons.2 ⟨.inr (by decide), others⟩⟩

end Layouts

/-- **A double is written in digits and a few signs**, in any layout. -/
theorem isNumeral_chars (layout : Layout) (x : Double) : ∀ c ∈ layout.chars x, IsNumeral c := by
  have minus : IsNumeral '-' := .inr (by decide)
  have digits := isNumeral_toDigits (x.shortest layout.tie).digits
  unfold Layout.chars
  dsimp only
  split_ifs
  · exact List.forall_mem_cons.2 ⟨minus, isNumeral_placed digits _ _⟩
  · exact List.forall_mem_cons.2 ⟨minus, isNumeral_scientific digits _⟩
  · exact isNumeral_placed digits _ _
  · exact isNumeral_scientific digits _

end Decimal

namespace Json

open Decimal (IsNumeral)

theorem isNumeral_writeInteger (n : Int) : ∀ c ∈ writeInteger n, IsNumeral c := by
  unfold writeInteger
  split_ifs
  · exact List.forall_mem_cons.2 ⟨.inr (by decide), Decimal.isNumeral_toDigits _⟩
  · exact Decimal.isNumeral_toDigits _

theorem not_isNumeral_newline : ¬ IsNumeral '\n' := by
  unfold IsNumeral
  decide

/-! ### Texts -/

theorem hexDigit_ne_newline : ∀ n < 0x10, hexDigit n ≠ '\n' := by decide

/-- The line break itself is written as an escape, and no escape has one in it. -/
theorem newline_not_mem_escape (c : Char) : '\n' ∉ escape c := by
  unfold escape
  split
  case h_8 ne _ _ =>
    split_ifs with control
    · have high : hexDigit (c.toNat / 16) ≠ '\n' := hexDigit_ne_newline _ (by omega)
      have low : hexDigit (c.toNat % 16) ≠ '\n' := hexDigit_ne_newline _ (by omega)
      simp [high.symm, low.symm]
    · simpa using Ne.symm ne
  all_goals decide

theorem newline_not_mem_writeText (s : String) : '\n' ∉ writeText s := by
  have inside : '\n' ∉ s.toList.flatMap escape := by
    rw [List.mem_flatMap]
    rintro ⟨c, -, mem⟩
    exact newline_not_mem_escape c mem
  simp [writeText, inside]

/-! ### Values -/

mutual

/-- **A written value has no line break in it.** -/
theorem newline_not_mem_write : ∀ v : Json, '\n' ∉ v.write
  | .unreadable => by decide
  | .null => by decide
  | .bool true => by decide
  | .bool false => by decide
  | .integer n => fun mem => not_isNumeral_newline (isNumeral_writeInteger n _ mem)
  | .decimal x => fun mem => not_isNumeral_newline (Decimal.isNumeral_chars _ x _ mem)
  | .string s => newline_not_mem_writeText s
  | .array [] => by decide
  | .array (item :: rest) => by
    simp [Json.write, newline_not_mem_write item, newline_not_mem_writeItems rest]
  | .object [] => by decide
  | .object ((key, value) :: rest) => by
    simp [Json.write, newline_not_mem_writeText key, newline_not_mem_write value,
      newline_not_mem_writeMembers rest]

theorem newline_not_mem_writeItems : ∀ items : List Json, '\n' ∉ writeItems items
  | [] => by decide
  | item :: rest => by
    simp [writeItems, newline_not_mem_write item, newline_not_mem_writeItems rest]

theorem newline_not_mem_writeMembers : ∀ members : List (String × Json),
    '\n' ∉ writeMembers members
  | [] => by decide
  | (key, value) :: rest => by
    simp [writeMembers, newline_not_mem_writeText key, newline_not_mem_write value,
      newline_not_mem_writeMembers rest]

end

end Json

end BindingPlan
