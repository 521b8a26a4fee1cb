import Mathlib.Algebra.Ring.Nat
import Mathlib.Data.Char
import Mathlib.Tactic.SplitIfs

/-! # The order of bytes

Texts are compared character by character. That is the order of their UTF-8 bytes
(`bytes_le_bytes_iff`): the first byte of a character tells how many there are, and a longer encoding
has the greater first byte; the other bytes are the base-64 digits, the highest of them first. -/

namespace BindingPlan.Text

/-- The bytes of a text. -/
def bytes (text : String) : List UInt8 :=
  text.toUTF8.data.toList

theorem bytes_eq_flatMap (text : String) :
    bytes text = text.toList.flatMap String.utf8EncodeChar := by
  have encoded : text.toByteArray = text.toList.utf8Encode := by
    rw [← String.toByteArray_ofList, String.ofList_toList]
  rw [bytes, String.toUTF8, encoded, List.utf8Encode, List.toList_data_toByteArray]

/-- The bytes behind the first one, for the `k` lowest base-64 digits of a code point. -/
def continuation : Nat → Nat → List UInt8
  | 0, _ => []
  | k + 1, n => continuation k (n / 64) ++ [UInt8.ofNat (n % 64 + 128)]

theorem ofNat_lt_ofNat {m n : Nat} (lt : m < n) (byte : n < 256) :
    UInt8.ofNat m < UInt8.ofNat n := by
  rw [UInt8.lt_iff_toNat_lt, UInt8.toNat_ofNat', UInt8.toNat_ofNat']
  omega

theorem cons_lt_cons {a b : UInt8} (lt : a < b) (x y : List UInt8) : a :: x < b :: y :=
  List.cons_lt_cons_iff.mpr (.inl lt)

/-- Behind first bytes that are in order if the high digits are, the low digits decide. -/
theorem continuation_lt {a b : UInt8} : ∀ (k : Nat) {m n : Nat}, m < n →
    (m / 64 ^ k < n / 64 ^ k → a < b) → (m / 64 ^ k = n / 64 ^ k → a = b) → ∀ x y : List UInt8,
      a :: (continuation k m ++ x) < b :: (continuation k n ++ y)
  | 0, m, n, lt, higher, _, x, y => by
    rw [Nat.pow_zero, Nat.div_one, Nat.div_one] at higher
    exact cons_lt_cons (higher lt) _ _
  | k + 1, m, n, lt, higher, same, x, y => by
    rw [Nat.pow_succ', ← Nat.div_div_eq_div_mul, ← Nat.div_div_eq_div_mul] at higher same
    rw [continuation, continuation, List.append_assoc, List.append_assoc]
    rcases Nat.lt_or_eq_of_le (Nat.div_le_div_right (c := 64) (Nat.le_of_lt lt)) with less | eq
    · exact continuation_lt k less higher same _ _
    · rw [eq, same (by rw [eq])]
      have lowest : UInt8.ofNat (m % 64 + 128) < UInt8.ofNat (n % 64 + 128) :=
        ofNat_lt_ofNat (by omega) (by omega)
      exact List.cons_lt_cons_iff.mpr (.inr ⟨rfl, List.append_left_lt (cons_lt_cons lowest x y)⟩)

theorem utf8EncodeChar_lt {c d : Char} (lt : c < d) (x y : List UInt8) :
    String.utf8EncodeChar c ++ x < String.utf8EncodeChar d ++ y := by
  have codes : c.val.toNat < d.val.toNat := lt
  have bound : d.val.toNat < 0x110000 := by
    have := d.valid
    unfold UInt32.isValidChar Nat.isValidChar at this
    omega
  unfold String.utf8EncodeChar
  generalize c.val.toNat = m at *
  generalize d.val.toNat = n at *
  dsimp only
  split_ifs
  -- encodings of different lengths, and single bytes
  any_goals first
    | omega
    | (refine cons_lt_cons (ofNat_lt_ofNat ?_ ?_) _ _ <;> omega)
  · refine continuation_lt 1 codes (fun less => ofNat_lt_ofNat ?_ ?_) (fun eq => ?_) x y
    · omega
    · omega
    · rw [Nat.pow_one] at eq
      rw [eq]
  · have same (eq : m / 4096 = n / 4096) :
        UInt8.ofNat (m / 4096 % 16 + 224) = UInt8.ofNat (n / 4096 % 16 + 224) := by rw [eq]
    have := continuation_lt 2 codes
      (fun less => ofNat_lt_ofNat (by omega) (by omega)) same x y
    simpa [continuation] using this
  · have same (eq : m / 262144 = n / 262144) :
        UInt8.ofNat (m / 262144 % 8 + 240) = UInt8.ofNat (n / 262144 % 8 + 240) := by rw [eq]
    have := continuation_lt 3 codes
      (fun less => ofNat_lt_ofNat (by omega) (by omega)) same x y
    simpa [continuation, Nat.div_div_eq_div_mul] using this

theorem flatMap_lt : ∀ {l l' : List Char}, l < l' →
    l.flatMap String.utf8EncodeChar < l'.flatMap String.utf8EncodeChar
  | [], [], lt => absurd lt (List.lt_irrefl _)
  | [], d :: _, _ => by
    rw [List.flatMap_nil, List.flatMap_cons]
    cases h : String.utf8EncodeChar d with
    | nil => exact absurd h String.utf8EncodeChar_ne_nil
    | cons => exact List.nil_lt_cons _ _
  | _ :: _, [], lt => absurd lt (List.not_lt_nil _)
  | c :: rest, d :: rest', lt => by
    rw [List.flatMap_cons, List.flatMap_cons]
    rcases List.cons_lt_cons_iff.mp lt with less | ⟨rfl, tails⟩
    · exact utf8EncodeChar_lt less _ _
    · exact List.append_left_lt (flatMap_lt tails)

theorem bytes_lt_bytes {text text' : String} (lt : text < text') : bytes text < bytes text' := by
  rw [bytes_eq_flatMap, bytes_eq_flatMap]
  exact flatMap_lt (String.lt_iff.mp lt)

/-- **Texts are in order just where their bytes are.** -/
theorem bytes_le_bytes_iff {text text' : String} : bytes text ≤ bytes text' ↔ text ≤ text' := by
  constructor
  · intro le
    rw [← String.not_lt]
    intro gt
    exact List.not_lt.mpr le (bytes_lt_bytes gt)
  · intro le
    by_cases ge : text' ≤ text
    · rw [String.le_antisymm le ge]
      exact List.le_refl _
    · exact List.le_of_lt (bytes_lt_bytes (String.not_le.mp ge))

end BindingPlan.Text
