import BindingPlan.Json.Reader
import BindingPlan.Json.Writer
import Mathlib.Algebra.Group.Int.Defs
import Mathlib.Data.List.TakeWhile

/-! # JSON text read back

The text of a value is read back as that value (`read?_toText`), if the value has no unreadable part,
its integers fit into sixty-four bits, and each of its doubles is read back from its own text. What is
written for a value inside an array or an object is followed by a comma or a closing bracket, and none
of these goes on a number; so every reader is shown to stop there. -/

namespace BindingPlan

open Json

/-- A double is read back from the text that a document has for it. -/
def Decimal.Double.ReadsBack (x : Decimal.Double) : Prop :=
  readNumber (Decimal.Layout.document.chars x) = some (.decimal x, [])

namespace Json

/-- Whether nothing but a given double was read. -/
def isDecimal (x : Decimal.Double) : Option (Json × List Char) → Bool
  | some (.decimal y, []) => decide (y = x)
  | _ => false

theorem isDecimal_iff {x : Decimal.Double} {result : Option (Json × List Char)} :
    isDecimal x result = true ↔ result = some (.decimal x, []) := by
  unfold isDecimal
  split <;> simp_all

instance : DecidablePred Decimal.Double.ReadsBack :=
  fun _ => decidable_of_iff _ isDecimal_iff

/-! ### What can be written -/

mutual

/-- No part of the value is unreadable, and its integers fit into sixty-four bits. -/
def IsPlain : Json → Prop
  | .unreadable => False
  | .integer n => -2 ^ 63 ≤ n ∧ n < 2 ^ 64
  | .array items => ArePlain items
  | .object members => HavePlain members
  | _ => True

/-- All items are plain. -/
def ArePlain : List Json → Prop
  | [] => True
  | item :: rest => item.IsPlain ∧ ArePlain rest

/-- All members have plain values. -/
def HavePlain : List (String × Json) → Prop
  | [] => True
  | (_, value) :: rest => value.IsPlain ∧ HavePlain rest

end

mutual

/-- The doubles in a value. -/
def decimals : Json → List Decimal.Double
  | .decimal x => [x]
  | .array items => decimalsOfItems items
  | .object members => decimalsOfMembers members
  | _ => []

/-- The doubles in some items. -/
def decimalsOfItems : List Json → List Decimal.Double
  | [] => []
  | item :: rest => item.decimals ++ decimalsOfItems rest

/-- The doubles in some members. -/
def decimalsOfMembers : List (String × Json) → List Decimal.Double
  | [] => []
  | (_, value) :: rest => value.decimals ++ decimalsOfMembers rest

end

theorem arePlain_iff : ∀ {items : List Json}, ArePlain items ↔ ∀ item ∈ items, item.IsPlain
  | [] => by simp [ArePlain]
  | item :: rest => by rw [ArePlain, arePlain_iff, List.forall_mem_cons]

mutual

theorem IsPlain.isReadable : ∀ {v : Json}, v.IsPlain → v.isReadable = true
  | .unreadable, h => h.elim
  | .null, _ => rfl
  | .bool _, _ => rfl
  | .integer _, _ => rfl
  | .decimal _, _ => rfl
  | .string _, _ => rfl
  | .array _, h => ArePlain.areReadable h
  | .object _, h => HavePlain.haveReadable h

theorem ArePlain.areReadable : ∀ {items : List Json}, ArePlain items → areReadable items = true
  | [], _ => rfl
  | _ :: _, h => by
    rw [Json.areReadable, IsPlain.isReadable h.1, ArePlain.areReadable h.2, Bool.and_self]

theorem HavePlain.haveReadable : ∀ {members : List (String × Json)}, HavePlain members →
    haveReadable members = true
  | [], _ => rfl
  | _ :: _, h => by
    rw [Json.haveReadable, IsPlain.isReadable h.1, HavePlain.haveReadable h.2, Bool.and_self]

end

/-! ### Where a value ends -/

/-- Nothing follows, or a character that can stand behind a value inside of another one. -/
def Delimited (rest : List Char) : Prop :=
  ∀ c ∈ rest.head?, c = ',' ∨ c = ']' ∨ c = '\x7d'

theorem delimited_nil : Delimited [] := by
  simp [Delimited]

theorem delimited_cons {c : Char} (h : c = ',' ∨ c = ']' ∨ c = '\x7d') (rest : List Char) :
    Delimited (c :: rest) := by
  rintro _ ⟨⟩
  exact h

theorem delimited_writeItems (items : List Json) (rest : List Char) :
    Delimited (writeItems items ++ rest) := by
  cases items <;> exact delimited_cons (by decide) _

theorem delimited_writeMembers (members : List (String × Json)) (rest : List Char) :
    Delimited (writeMembers members ++ rest) := by
  cases members <;> exact delimited_cons (by decide) _

section Runs
variable {p : Char → Bool} {rest : List Char}

theorem takeWhile_append_of_stop (stop : ∀ c ∈ rest.head?, p c = false) (s : List Char) :
    (s ++ rest).takeWhile p = s.takeWhile p := by
  induction s with
  | nil =>
    cases rest with
    | nil => rfl
    | cons c rest => simp [stop c rfl]
  | cons c s ih => cases h : p c <;> simp [h, ih]

theorem dropWhile_append_of_stop (stop : ∀ c ∈ rest.head?, p c = false) (s : List Char) :
    (s ++ rest).dropWhile p = s.dropWhile p ++ rest := by
  induction s with
  | nil =>
    cases rest with
    | nil => rfl
    | cons c rest => simp [stop c rfl]
  | cons c s ih => cases h : p c <;> simp [h, ih]

end Runs

theorem Delimited.not_isDigit {rest : List Char} (h : Delimited rest) :
    ∀ c ∈ rest.head?, c.isDigit = false := by
  intro c hc
  rcases h c hc with rfl | rfl | rfl <;> decide

/-! ### Numbers -/

section Numbers
variable {rest : List Char}

/-- Puts more text behind what is left. -/
def leave {α : Type} (rest : List Char) (result : α × List Char) : α × List Char :=
  (result.1, result.2 ++ rest)

theorem readDigits_append (h : Delimited rest) (s : List Char) :
    readDigits (s ++ rest) = (readDigits s).map (leave rest) := by
  unfold readDigits
  rw [takeWhile_append_of_stop h.not_isDigit, dropWhile_append_of_stop h.not_isDigit]
  cases s.takeWhile Char.isDigit <;> rfl

theorem eq_cons_or_ne (c : Char) (s : List Char) : (∃ t, s = c :: t) ∨ ∀ t, s ≠ c :: t := by
  by_cases h : ∃ t, s = c :: t
  · exact .inl h
  · exact .inr fun t e => h ⟨t, e⟩

theorem readWhole_of_ne {s : List Char} (h : ∀ t, s ≠ '0' :: t) : readWhole s = readDigits s := by
  unfold readWhole
  split
  next t => exact absurd rfl (h t)
  next => rfl

theorem readFraction_of_ne {s : List Char} (h : ∀ t, s ≠ '.' :: t) :
    readFraction s = some ([], s) := by
  unfold readFraction
  split
  next t => exact absurd rfl (h t)
  next => rfl

theorem Delimited.ne_cons {c : Char} (h : Delimited rest) (other : c ≠ ',' ∧ c ≠ ']' ∧ c ≠ '\x7d')
    (t : List Char) : rest ≠ c :: t := by
  rintro rfl
  rcases h c rfl with e | e | e
  · exact other.1 e
  · exact other.2.1 e
  · exact other.2.2 e

theorem Delimited.append_ne_cons {c : Char} (h : Delimited rest)
    (other : c ≠ ',' ∧ c ≠ ']' ∧ c ≠ '\x7d') {s : List Char} (ne : ∀ t, s ≠ c :: t) (t : List Char) :
    s ++ rest ≠ c :: t := by
  intro e
  cases s with
  | nil => exact h.ne_cons other t e
  | cons d s => exact ne s (by rw [(List.cons.inj e).1])

theorem readWhole_append (h : Delimited rest) (s : List Char) :
    readWhole (s ++ rest) = (readWhole s).map (leave rest) := by
  obtain ⟨t, rfl⟩ | ne := eq_cons_or_ne '0' s
  · have head : (t ++ rest).head?.any Char.isDigit = t.head?.any Char.isDigit := by
      cases t with
      | cons d t => rfl
      | nil =>
        cases rest with
        | nil => rfl
        | cons c rest => simp [h.not_isDigit c rfl]
    simp only [List.cons_append, readWhole, head]
    split_ifs <;> rfl
  · rw [readWhole_of_ne ne, readWhole_of_ne (h.append_ne_cons (by decide) ne), readDigits_append h]

theorem readFraction_append (h : Delimited rest) (s : List Char) :
    readFraction (s ++ rest) = (readFraction s).map (leave rest) := by
  obtain ⟨t, rfl⟩ | ne := eq_cons_or_ne '.' s
  · exact readDigits_append h t
  · rw [readFraction_of_ne ne, readFraction_of_ne (h.append_ne_cons (by decide) ne)]
    rfl

/-- The exponent behind its letter. -/
def readSigned : List Char → Option (Option Int × List Char)
  | '-' :: digits => (readDigits digits).map fun (d, r) => (some (-(digitsValue d : Int)), r)
  | '+' :: digits => (readDigits digits).map fun (d, r) => (some (digitsValue d : Int), r)
  | digits => (readDigits digits).map fun (d, r) => (some (digitsValue d : Int), r)

theorem readSigned_of_ne {s : List Char} (minus : ∀ t, s ≠ '-' :: t) (plus : ∀ t, s ≠ '+' :: t) :
    readSigned s = (readDigits s).map fun (d, r) => (some (digitsValue d : Int), r) := by
  unfold readSigned
  split
  next t => exact absurd rfl (minus t)
  next t => exact absurd rfl (plus t)
  next => rfl

theorem readExponent_cons (c : Char) (s : List Char) : readExponent (c :: s) =
    if c = 'e' ∨ c = 'E' then readSigned s else some (none, c :: s) := by
  by_cases letter : c = 'e' ∨ c = 'E'
  · rw [if_pos letter]
    exact if_pos letter
  · rw [if_neg letter]
    exact if_neg letter

theorem readSigned_append (h : Delimited rest) (s : List Char) :
    readSigned (s ++ rest) = (readSigned s).map (leave rest) := by
  obtain ⟨t, rfl⟩ | minus := eq_cons_or_ne '-' s
  · simp only [List.cons_append, readSigned, readDigits_append h, Option.map_map]
    rfl
  obtain ⟨t, rfl⟩ | plus := eq_cons_or_ne '+' s
  · simp only [List.cons_append, readSigned, readDigits_append h, Option.map_map]
    rfl
  · rw [readSigned_of_ne minus plus, readSigned_of_ne (h.append_ne_cons (by decide) minus)
      (h.append_ne_cons (by decide) plus), readDigits_append h, Option.map_map, Option.map_map]
    rfl

theorem readExponent_append (h : Delimited rest) (s : List Char) :
    readExponent (s ++ rest) = (readExponent s).map (leave rest) := by
  cases s with
  | nil =>
    cases rest with
    | nil => rfl
    | cons c rest => obtain rfl | rfl | rfl := h c rfl <;> rfl
  | cons c s =>
    rw [List.cons_append, readExponent_cons, readExponent_cons]
    split_ifs with letter
    · exact readSigned_append h s
    · rfl

/-- The sign and the number behind it. -/
def readUnsigned (negative : Bool) (s : List Char) : Option (Json × List Char) := do
  let (whole, s) ← readWhole s
  let (fraction, s) ← readFraction s
  let (exponent, s) ← readExponent s
  some (number negative whole fraction exponent, s)

theorem readNumber_minus (s : List Char) : readNumber ('-' :: s) = readUnsigned true s :=
  rfl

theorem readNumber_of_ne {s : List Char} (h : ∀ t, s ≠ '-' :: t) :
    readNumber s = readUnsigned false s := by
  unfold readNumber
  split
  next negative t e =>
    split at e
    next t => exact absurd rfl (h t)
    next =>
      cases e
      rfl

theorem readUnsigned_append (h : Delimited rest) (negative : Bool) (s : List Char) :
    readUnsigned negative (s ++ rest) = (readUnsigned negative s).map (leave rest) := by
  simp only [readUnsigned, readWhole_append h]
  rcases readWhole s with _ | ⟨whole, s⟩
  · rfl
  simp only [Option.map_some, leave, Option.bind_eq_bind, Option.bind_some, readFraction_append h]
  rcases readFraction s with _ | ⟨fraction, s⟩
  · rfl
  simp only [Option.map_some, leave, Option.bind_some, readExponent_append h]
  rcases readExponent s with _ | ⟨exponent, s⟩ <;> rfl

/-- A number is read where the text is delimited as it is at the end of a text. -/
theorem readNumber_append (h : Delimited rest) (s : List Char) :
    readNumber (s ++ rest) = (readNumber s).map (leave rest) := by
  obtain ⟨t, rfl⟩ | ne := eq_cons_or_ne '-' s
  · exact readUnsigned_append h true t
  · rw [readNumber_of_ne ne, readNumber_of_ne (h.append_ne_cons (by decide) ne),
      readUnsigned_append h]

end Numbers

/-! ### Integers -/

section Integers

theorem digitsValue_toDigits (n : Nat) : digitsValue (Nat.toDigits 10 n) = n := by
  have step : (fun k (c : Char) => k * 10 + (c.toNat - 0x30)) =
      fun k c => 10 * k + (c.toNat - '0'.toNat) := by
    funext k c
    rw [Nat.mul_comm]
    rfl
  rw [digitsValue, step]
  exact Nat.ofDigitChars_toDigits (by decide) (by decide)

theorem readDigits_toDigits (n : Nat) :
    readDigits (Nat.toDigits 10 n) = some (Nat.toDigits 10 n, []) := by
  have digits : ∀ c ∈ Nat.toDigits 10 n, c.isDigit = true := fun c hc =>
    Nat.isDigit_of_mem_toDigits (by decide) (Nat.le_refl 10) hc
  have run : (Nat.toDigits 10 n).takeWhile Char.isDigit = Nat.toDigits 10 n :=
    List.takeWhile_eq_self_iff.2 digits
  have left : (Nat.toDigits 10 n).dropWhile Char.isDigit = [] :=
    List.dropWhile_eq_nil_iff.2 digits
  unfold readDigits
  rw [run, left]
  cases e : Nat.toDigits 10 n with
  | nil => exact absurd e Nat.toDigits_ne_nil
  | cons c s => rfl

theorem head?_toDigits_ne {n : Nat} (h : 0 < n) : (Nat.toDigits 10 n).head? ≠ some '0' := by
  have zero : ∀ n < 10, 0 < n → [Nat.digitChar n].head? ≠ some '0' := by decide
  induction n using Nat.strongRecOn with
  | _ n ih =>
    by_cases small : n < 10
    · rw [Nat.toDigits_of_lt_base small]
      exact zero n small h
    · have first := ih (n / 10) (by omega) (by omega)
      obtain ⟨c, s, e⟩ := List.exists_cons_of_ne_nil (Nat.toDigits_ne_nil (n := n / 10) (b := 10))
      rw [Nat.toDigits_of_base_le (by decide) (Nat.not_lt.1 small), e]
      rwa [e] at first

theorem readWhole_toDigits (n : Nat) :
    readWhole (Nat.toDigits 10 n) = some (Nat.toDigits 10 n, []) := by
  cases n with
  | zero => rfl
  | succ n =>
    have ne : ∀ t, Nat.toDigits 10 (n + 1) ≠ '0' :: t := by
      intro t e
      apply head?_toDigits_ne n.succ_pos
      rw [e]
      rfl
    rw [readWhole_of_ne ne, readDigits_toDigits]

theorem readUnsigned_toDigits (negative : Bool) (n : Nat) :
    readUnsigned negative (Nat.toDigits 10 n) =
      some (number negative (Nat.toDigits 10 n) [] none, []) := by
  rw [readUnsigned, readWhole_toDigits]
  rfl

theorem readNumber_writeInteger {n : Int} (low : -2 ^ 63 ≤ n) (high : n < 2 ^ 64) :
    readNumber (writeInteger n) = some (.integer n, []) := by
  unfold writeInteger
  split_ifs with negative
  · rw [readNumber_minus, readUnsigned_toDigits]
    have fits : 0 < n.natAbs ∧ n.natAbs ≤ Nat.pow 2 63 := by
      show 0 < n.natAbs ∧ n.natAbs ≤ 2 ^ 63
      omega
    have value : -(n.natAbs : Int) = n := by omega
    simp only [number, digitsValue_toDigits, List.isEmpty_nil, Option.isNone_none, if_true, fits,
      and_self, value]
  · have ne : ∀ t, Nat.toDigits 10 n.natAbs ≠ '-' :: t := by
      intro t e
      have digit := Nat.isDigit_of_mem_toDigits (by decide) (Nat.le_refl 10) (e ▸ List.mem_cons_self)
      exact absurd digit (by decide)
    rw [readNumber_of_ne ne, readUnsigned_toDigits]
    have fits : n.natAbs < UInt64.size := by
      show n.natAbs < 2 ^ 64
      omega
    have value : (n.natAbs : Int) = n := by omega
    simp only [number, digitsValue_toDigits, List.isEmpty_nil, Option.isNone_none, Bool.false_eq_true,
      if_false, if_true, fits, and_self, value]

end Integers

/-! ### Texts -/

section Texts

theorem hexValue4?_hexDigit :
    ∀ n < 0x20, hexValue4? '0' '0' (hexDigit (n / 16)) (hexDigit (n % 16)) = some n := by
  decide

theorem ofUnit_toNat (c : Char) (h : c.toNat < 0x20) : TextPart.ofUnit c.toNat = .char c := by
  rw [TextPart.ofUnit, if_neg (by omega), Char.ofNat_toNat]

/-- A character is read back from its written form, whatever follows it. -/
theorem readText_escape (c : Char) (s : List Char) :
    readText (escape c ++ s) = push (.char c) (readText s) := by
  unfold escape
  split
  case h_8 quote slash _ _ _ _ _ =>
    split_ifs with control
    · show readText ('\\' :: 'u' :: '0' :: '0' :: _ :: _ :: s) = _
      rw [readText, hexValue4?_hexDigit _ control]
      simp only [ofUnit_toNat c control]
    · rw [List.singleton_append, readText.eq_def]
      split
      next e => cases e
      next e => exact absurd (List.cons.inj e).1 quote
      next e => exact absurd (List.cons.inj e).1 slash
      next e => exact absurd (List.cons.inj e).1 slash
      next e =>
        cases e
        rw [if_neg control]
  all_goals rfl

theorem readText_flatMap (s rest : List Char) :
    readText (s.flatMap escape ++ '"' :: rest) = some (s.map .char, rest) := by
  induction s with
  | nil => rfl
  | cons c s ih =>
    rw [List.flatMap_cons, List.append_assoc, readText_escape, ih]
    rfl

theorem chars?_map_char (s : List Char) : TextPart.chars? (s.map .char) = some s := by
  induction s with
  | nil => rfl
  | cons c s ih =>
    rw [List.map_cons, TextPart.chars?, ih]
    rfl

theorem text?_map_char (s : String) : TextPart.text? (s.toList.map .char) = some s := by
  rw [TextPart.text?, chars?_map_char, Option.map_some, String.ofList_toList]

theorem ofTextParts_map_char (s : String) : ofTextParts (s.toList.map .char) = .string s := by
  rw [ofTextParts, text?_map_char]

end Texts

/-! ### Values -/

section Values

theorem numeral_first {c : Char} (first : c = '-' ∨ c.isDigit = true) :
    isSpace c = false ∧ c ∉ ['n', 't', 'f', '"', '[', '\x7b', ']'] := by
  rcases first with rfl | digit
  · decide
  · have other : ∀ d, d.isDigit = false → c ≠ d := by
      rintro d no rfl
      exact absurd (digit.symm.trans no) (by decide)
    constructor
    · simp [isSpace, other]
    · simp [other]

theorem skipSpace_cons {c : Char} (h : isSpace c = false) (s : List Char) :
    skipSpace (c :: s) = c :: s := by
  simp [skipSpace, h]

/-- Each kind of value announces itself by its first character. -/
theorem readValue_of_numeral {c : Char} (first : c = '-' ∨ c.isDigit = true) (n : Nat)
    (s : List Char) : readValue (n + 1) (c :: s) = readNumber (c :: s) := by
  obtain ⟨space, other⟩ := numeral_first first
  rw [readValue, skipSpace_cons space]
  split
  case h_7 => rfl
  all_goals
    next e => exact absurd (List.cons.inj e).1 (by rintro rfl; exact other (by decide))

theorem exists_digit_of_readDigits {s : List Char} {result : List Char × List Char}
    (read : readDigits s = some result) : ∃ c t, s = c :: t ∧ c.isDigit = true := by
  cases s with
  | nil => cases read
  | cons c t =>
    refine ⟨c, t, rfl, ?_⟩
    by_contra digit
    rw [readDigits, List.takeWhile_cons_of_neg digit] at read
    cases read

theorem exists_digit_of_readUnsigned {s : List Char} {negative : Bool} {result : Json × List Char}
    (read : readUnsigned negative s = some result) : ∃ c t, s = c :: t ∧ c.isDigit = true := by
  obtain ⟨whole, read, -⟩ := Option.bind_eq_some_iff.1 read
  obtain ⟨t, rfl⟩ | ne := eq_cons_or_ne '0' s
  · exact ⟨'0', t, rfl, rfl⟩
  · rw [readWhole_of_ne ne] at read
    exact exists_digit_of_readDigits read

theorem exists_cons_of_readNumber {s : List Char} {result : Json × List Char}
    (read : readNumber s = some result) :
    ∃ c t, s = c :: t ∧ (c = '-' ∨ c.isDigit = true) := by
  obtain ⟨t, rfl⟩ | ne := eq_cons_or_ne '-' s
  · exact ⟨'-', t, rfl, .inl rfl⟩
  · rw [readNumber_of_ne ne] at read
    obtain ⟨c, t, rfl, digit⟩ := exists_digit_of_readUnsigned read
    exact ⟨c, t, rfl, .inr digit⟩

/-- What is read as a number alone is read as that value where it is delimited. -/
theorem readValue_of_readNumber {s rest : List Char} {v : Json} (read : readNumber s = some (v, []))
    (h : Delimited rest) (n : Nat) : readValue (n + 1) (s ++ rest) = some (v, rest) := by
  obtain ⟨c, t, rfl, first⟩ := exists_cons_of_readNumber read
  rw [List.cons_append, readValue_of_numeral first, ← List.cons_append, readNumber_append h, read]
  rfl

/-- A written value has a first character, which is no blank and does not close an array. -/
theorem exists_write_eq_cons {v : Json} (plain : v.IsPlain) (back : ∀ x ∈ v.decimals, x.ReadsBack) :
    ∃ c s, v.write = c :: s ∧ isSpace c = false ∧ c ≠ ']' := by
  have numeral : ∀ {s value}, readNumber s = some value →
      ∃ c t, s = c :: t ∧ isSpace c = false ∧ c ≠ ']' := by
    intro s value read
    obtain ⟨c, t, rfl, first⟩ := exists_cons_of_readNumber read
    obtain ⟨space, other⟩ := numeral_first first
    exact ⟨c, t, rfl, space, by rintro rfl; exact other (by decide)⟩
  match v with
  | .unreadable => exact plain.elim
  | .null => exact ⟨_, _, rfl, by decide⟩
  | .bool true => exact ⟨_, _, rfl, by decide⟩
  | .bool false => exact ⟨_, _, rfl, by decide⟩
  | .integer n => exact numeral (readNumber_writeInteger plain.1 plain.2)
  | .decimal x => exact numeral (back x (List.mem_singleton_self x))
  | .string s => exact ⟨_, _, rfl, by decide⟩
  | .array [] => exact ⟨_, _, rfl, by decide⟩
  | .array (_ :: _) => exact ⟨_, _, rfl, by decide⟩
  | .object [] => exact ⟨_, _, rfl, by decide⟩
  | .object (_ :: _) => exact ⟨_, _, rfl, by decide⟩

/-- What follows an item: another one, or the end of the array. -/
def readItemsAfter (n : Nat) (item : Json) (s : List Char) : Option (List Json × List Char) :=
  match skipSpace s with
  | ',' :: rest => (readItems n rest).map fun (items, rest) => (item :: items, rest)
  | ']' :: rest => some ([item], rest)
  | _ => none

theorem readValue_bracket {item : Json} (plain : item.IsPlain)
    (back : ∀ x ∈ item.decimals, x.ReadsBack) (n : Nat) (rest : List Char) :
    readValue (n + 1) ('[' :: (item.write ++ rest)) =
      (readItems n (item.write ++ rest)).map fun (items, rest) => (.array items, rest) := by
  obtain ⟨c, s, first, space, close⟩ := exists_write_eq_cons plain back
  rw [first, List.cons_append, readValue, skipSpace_cons (by decide)]
  simp only [skipSpace_cons space]
  split
  next e => exact absurd (List.cons.inj e).1 close
  next => rfl

theorem readItems_of_readValue {n : Nat} {item : Json} {s rest : List Char}
    (read : readValue n s = some (item, rest)) :
    readItems (n + 1) s = readItemsAfter n item rest := by
  rw [readItems, read]
  rfl

/-- What follows a member: another one, or the end of the object. -/
def readMembersAfter (n : Nat) (member : Option String × Json) (s : List Char) :
    Option (List (Option String × Json) × List Char) :=
  match skipSpace s with
  | ',' :: rest => (readMembers n rest).map fun (members, rest) => (member :: members, rest)
  | '\x7d' :: rest => some ([member], rest)
  | _ => none

theorem readMembers_of_readValue {n : Nat} {key : String} {value : Json} {s rest : List Char}
    (read : readValue n s = some (value, rest)) :
    readMembers (n + 1) (writeText key ++ ':' :: s) = readMembersAfter n (some key, value) rest := by
  have skip : skipSpace (writeText key ++ ':' :: s) =
      '"' :: (key.toList.flatMap escape ++ '"' :: ':' :: s) := by
    simp [writeText, skipSpace, isSpace]
  have colon : skipSpace (':' :: s) = ':' :: s := rfl
  simp only [readMembers, skip, readText_flatMap, colon, read, text?_map_char]
  rfl

theorem ofMembers_map_some (members : List (String × Json)) :
    ofMembers (members.map fun m => (some m.1, m.2)) = .object members := by
  have keys : (members.map fun m => (some m.1, m.2)).mapM
      (fun m : Option String × Json => m.1.map (·, m.2)) = some members := by
    induction members with
    | nil => rfl
    | cons m members ih => simp [ih]
  rw [ofMembers, keys]

mutual

theorem readValue_write : ∀ {v : Json}, v.IsPlain → (∀ x ∈ v.decimals, x.ReadsBack) →
    ∀ {n : Nat} {rest : List Char}, 2 * v.write.length < n → Delimited rest →
      readValue n (v.write ++ rest) = some (v, rest)
  | .unreadable, plain, _, _, _, _, _ => plain.elim
  | .null, _, _, _ + 1, _, _, _ => rfl
  | .bool true, _, _, _ + 1, _, _, _ => rfl
  | .bool false, _, _, _ + 1, _, _, _ => rfl
  | .integer _, plain, _, _ + 1, _, _, h =>
    readValue_of_readNumber (readNumber_writeInteger plain.1 plain.2) h _
  | .decimal x, _, back, _ + 1, _, _, h =>
    readValue_of_readNumber (back x (List.mem_singleton_self x)) h _
  | .string s, _, _, n + 1, rest, _, _ => by
    have text : (Json.string s).write ++ rest = '"' :: (s.toList.flatMap escape ++ '"' :: rest) := by
      simp [Json.write, writeText]
    have read : readValue (n + 1) ('"' :: (s.toList.flatMap escape ++ '"' :: rest)) =
        (readText (s.toList.flatMap escape ++ '"' :: rest)).map
          fun (parts, rest) => (ofTextParts parts, rest) := rfl
    rw [text, read, readText_flatMap, Option.map_some]
    simp only [ofTextParts_map_char]
  | .array [], _, _, _ + 1, _, _, _ => rfl
  | .array (item :: items), plain, back, n + 2, rest, enough, h => by
    have back := List.forall_mem_append.1 back
    simp only [Json.write, List.cons_append, List.length_cons, List.length_append] at enough
    have head := readValue_write plain.1 back.1 (n := n) (by omega) (delimited_writeItems items rest)
    have tail : readItemsAfter n item (writeItems items ++ rest) = some (item :: items, rest) :=
      readItemsAfter_writeItems plain.2 back.2 (by omega)
    rw [Json.write, List.cons_append, List.cons_append, List.append_assoc,
      readValue_bracket plain.1 back.1, readItems_of_readValue head, tail]
    rfl
  | .object [], _, _, _ + 1, _, _, _ => rfl
  | .object ((key, value) :: members), plain, back, n + 2, rest, enough, h => by
    have back := List.forall_mem_append.1 back
    simp only [Json.write, List.cons_append, List.length_cons, List.length_append] at enough
    have head := readValue_write plain.1 back.1 (n := n) (by omega)
      (delimited_writeMembers members rest)
    have tail : readMembersAfter n (some key, value) (writeMembers members ++ rest) =
        some ((some key, value) :: members.map fun m => (some m.1, m.2), rest) :=
      readMembersAfter_writeMembers plain.2 back.2 (by omega)
    have text : (Json.object ((key, value) :: members)).write ++ rest =
        '\x7b' :: (writeText key ++ ':' :: (value.write ++ (writeMembers members ++ rest))) := by
      simp [Json.write]
    have brace : ∀ s, readValue (n + 2) ('\x7b' :: (writeText key ++ s)) =
        (readMembers (n + 1) (writeText key ++ s)).map
          fun (members, rest) => (ofMembers members, rest) := fun _ => rfl
    rw [text, brace, readMembers_of_readValue head, tail, Option.map_some]
    exact congrArg some (Prod.ext (ofMembers_map_some ((key, value) :: members)) rfl)

theorem readItemsAfter_writeItems : ∀ {items : List Json}, ArePlain items →
    (∀ x ∈ decimalsOfItems items, x.ReadsBack) →
    ∀ {n : Nat} {rest : List Char} {item : Json}, 2 * (writeItems items).length < n →
      readItemsAfter n item (writeItems items ++ rest) = some (item :: items, rest)
  | [], _, _, _, _, _, _ => rfl
  | next :: items, plain, back, n + 1, rest, item, enough => by
    have back := List.forall_mem_append.1 back
    simp only [writeItems, List.cons_append, List.length_cons, List.length_append] at enough
    have head := readValue_write plain.1 back.1 (n := n) (by omega) (delimited_writeItems items rest)
    have tail : readItemsAfter n next (writeItems items ++ rest) = some (next :: items, rest) :=
      readItemsAfter_writeItems plain.2 back.2 (by omega)
    have comma : readItemsAfter (n + 1) item (writeItems (next :: items) ++ rest) =
        (readItems (n + 1) (next.write ++ (writeItems items ++ rest))).map
          fun (items, rest) => (item :: items, rest) := by
      rw [← List.append_assoc]
      rfl
    rw [comma, readItems_of_readValue head, tail]
    rfl

theorem readMembersAfter_writeMembers : ∀ {members : List (String × Json)}, HavePlain members →
    (∀ x ∈ decimalsOfMembers members, x.ReadsBack) →
    ∀ {n : Nat} {rest : List Char} {member : Option String × Json},
      2 * (writeMembers members).length < n →
      readMembersAfter n member (writeMembers members ++ rest) =
        some (member :: members.map fun m => (some m.1, m.2), rest)
  | [], _, _, _, _, _, _ => rfl
  | (key, value) :: members, plain, back, n + 1, rest, member, enough => by
    have back := List.forall_mem_append.1 back
    simp only [writeMembers, List.cons_append, List.length_cons, List.length_append] at enough
    have head := readValue_write plain.1 back.1 (n := n) (by omega)
      (delimited_writeMembers members rest)
    have tail : readMembersAfter n (some key, value) (writeMembers members ++ rest) =
        some ((some key, value) :: members.map fun m => (some m.1, m.2), rest) :=
      readMembersAfter_writeMembers plain.2 back.2 (by omega)
    have text : writeMembers ((key, value) :: members) ++ rest =
        ',' :: (writeText key ++ ':' :: (value.write ++ (writeMembers members ++ rest))) := by
      simp [writeMembers]
    have comma : ∀ s, readMembersAfter (n + 1) member (',' :: s) =
        (readMembers (n + 1) s).map fun (members, rest) => (member :: members, rest) := fun _ => rfl
    rw [text, comma, readMembers_of_readValue head, tail]
    rfl

end

/-- **The text of a value is read back**, unreadable parts, integers of more than sixty-four bits and
doubles that do not survive apart. -/
theorem read?_toText {v : Json} (plain : v.IsPlain) (back : ∀ x ∈ v.decimals, x.ReadsBack) :
    read? v.toText = some v := by
  have read := readValue_write plain back (n := 2 * v.write.length + 1) (by omega) delimited_nil
  rw [List.append_nil] at read
  simp only [read?, toText, String.toList_ofList, read]
  rfl

theorem ofText?_toText {v : Json} (plain : v.IsPlain) (back : ∀ x ∈ v.decimals, x.ReadsBack) :
    ofText? v.toText = some v := by
  rw [ofText?, read?_toText plain back, Option.filter_some, if_pos plain.isReadable]

end Values

end Json

end BindingPlan
