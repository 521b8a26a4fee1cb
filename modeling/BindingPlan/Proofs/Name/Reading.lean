import BindingPlan.Proofs.Name.Spacing
import BindingPlan.Proofs.Sequence

/-! # Reading by the grammar

What the reader of types accepts is what the grammar derives: each part of the reader answers a phrase
with its rest (`read_sound`), and each phrase is read in full, but for blanks behind it, wherever it may
end (`readType_complete`). The bound on the number of steps is never met, so that a larger bound gives no
other answer, be it a type or a fault (`read_steps`). `ofText?_exactly` puts these together. -/

namespace BindingPlan.TypeRef

open TypeGrammar

/-! ### Names and annotations -/

theorem className_eq_ok_iff {chars : List Char} {name : ClassName} :
    className chars = .ok name ↔ ClassName.ofDotted? (String.ofList chars) = .ok name := by
  unfold className
  cases ClassName.ofDotted? (String.ofList chars) <;> simp

theorem readClass_eq_ok_iff {s rest : List Char} {name : ClassName} :
    readClass s = .ok (name, rest) ↔ Word s name rest := by
  rw [word_iff, ← className_eq_ok_iff, readClass]
  split
  next none =>
    have empty : className [] ≠ .ok name := by
      rw [Ne, className_eq_ok_iff, ClassName.ofDotted?_eq_ok_iff]
      exact fun h => absurd (by decide) h.1
    simp [none, empty]
  next => simp [bind_eq_ok_iff]

theorem readAnnotations_of_at {s rest : List Char} (h : skipBlanks s = '@' :: rest) (steps : Nat) :
    readAnnotations (steps + 1) s = (do
      let name ← className (rest.takeWhile isNameChar)
      let more ← readAnnotations steps (rest.dropWhile isNameChar)
      .ok (name :: more.1, more.2)) := by
  rw [readAnnotations, h]
  rfl

theorem readAnnotations_of_not_at {s : List Char} (h : ∀ rest, skipBlanks s ≠ '@' :: rest)
    (steps : Nat) : readAnnotations steps s = .ok ([], skipBlanks s) := by
  cases steps with
  | zero => rfl
  | succ steps =>
    rw [readAnnotations]
    split
    next rest e => exact absurd e (h rest)
    next => rfl

theorem readAnnotations_sound : ∀ {steps : Nat} {s rest : List Char} {names : List ClassName},
    readAnnotations steps s = .ok (names, rest) → ∃ s₁, Gap s s₁ ∧ Annotations s₁ names rest
  | 0, s, _, _, h => by
    cases h
    exact ⟨_, gap_skipBlanks s, .nil _⟩
  | steps + 1, s, rest, names, h => by
    by_cases at_sign : ∃ s', skipBlanks s = '@' :: s'
    · obtain ⟨s', first⟩ := at_sign
      rw [readAnnotations_of_at first, bind_eq_ok_iff] at h
      obtain ⟨name, read, h⟩ := h
      obtain ⟨⟨more, rest'⟩, tail, h⟩ := bind_eq_ok_iff.mp h
      cases h
      obtain ⟨s₁, gap, annotations⟩ := readAnnotations_sound tail
      have word : Word s' name (s'.dropWhile isNameChar) :=
        word_iff.mpr ⟨className_eq_ok_iff.mp read, rfl⟩
      exact ⟨_, first ▸ gap_skipBlanks s, .cons word gap annotations⟩
    · rw [readAnnotations_of_not_at (not_exists.mp at_sign)] at h
      cases h
      exact ⟨_, gap_skipBlanks s, .nil _⟩

/-- Annotations are read up to the name of the class behind them. -/
theorem readAnnotations_complete {s₁ rest rest' : List Char} {names : List ClassName}
    {raw : ClassName} (h : Annotations s₁ names rest) (word : Word rest raw rest') :
    ∀ {s : List Char}, Gap s s₁ → ∀ steps, names.length ≤ steps →
      readAnnotations steps s = .ok (names, rest) := by
  induction h with
  | nil rest =>
    intro s gap steps _
    have skipped : skipBlanks s = rest := gap.skipBlanks_eq.trans word.skipBlanks_eq
    obtain ⟨c, s', rfl, name⟩ := word.exists_cons
    have not_at : ∀ r, skipBlanks s ≠ '@' :: r := by
      intro r e
      rw [skipped, List.cons.injEq] at e
      rw [e.1] at name
      exact absurd name (by decide)
    rw [readAnnotations_of_not_at not_at, skipped]
  | @cons s' s₁ s₂ rest name names annotation gap' _ ih =>
    intro s gap steps enough
    rw [List.length_cons] at enough
    obtain ⟨steps, rfl⟩ : ∃ n, steps = n + 1 := ⟨steps - 1, by omega⟩
    have first := gap.skipBlanks_eq_cons (by decide)
    obtain ⟨read, left⟩ := word_iff.mp annotation
    rw [readAnnotations_of_at first, className_eq_ok_iff.mpr read, left,
      ih word gap' steps (by omega)]
    rfl

/-! ### Brackets and marks -/

theorem readNullable_sound {s rest : List Char} {nullable : Bool}
    (h : readNullable s = (nullable, rest)) : ∃ s₁, Gap s s₁ ∧ Mark s₁ nullable rest := by
  have gap := gap_skipBlanks s
  unfold readNullable at h
  split at h
  next s' e =>
    cases h
    exact ⟨_, e ▸ gap, .present _⟩
  next =>
    cases h
    exact ⟨_, gap, .absent _⟩

/-- What stands behind a whole type, blanks aside: the end of the text or of an argument. -/
def Closed (rest : List Char) : Prop :=
  ∀ c ∈ (skipBlanks rest).head?, c = ',' ∨ c = '>'

theorem readNullable_complete {s s₁ rest : List Char} {nullable : Bool}
    (skipped : skipBlanks s = skipBlanks s₁) (h : Mark s₁ nullable rest) (closed : Closed rest) :
    ∃ rest', readNullable s = (nullable, rest') ∧ Gap rest rest' := by
  unfold readNullable
  cases h with
  | absent =>
    refine ⟨skipBlanks s₁, ?_, gap_skipBlanks s₁⟩
    rw [skipped]
    split
    next e =>
      have mark : '?' = ',' ∨ '?' = '>' := closed '?' (by rw [e]; rfl)
      exact absurd mark (by decide)
    next => rfl
  | present =>
    refine ⟨rest, ?_, .refl rest⟩
    rw [skipped]
    rfl

/-- Arguments between brackets, if a bracket opens. -/
def readBracketed (steps : Nat) (s : List Char) : Except Stop (List TypeRef × List Char) :=
  match skipBlanks s with
  | '<' :: rest => readArguments steps rest
  | rest => .ok ([], rest)

theorem readBracketed_of_open {s rest : List Char} (h : skipBlanks s = '<' :: rest) (steps : Nat) :
    readBracketed steps s = readArguments steps rest := by
  rw [readBracketed, h]
  rfl

theorem readBracketed_of_not_open {s : List Char} (h : ∀ rest, skipBlanks s ≠ '<' :: rest)
    (steps : Nat) : readBracketed steps s = .ok ([], skipBlanks s) := by
  rw [readBracketed]
  split
  next rest e => exact absurd e (h rest)
  next => rfl

/-! ### One step of the reader -/

theorem readType_succ (steps : Nat) (s : List Char) : readType (steps + 1) s = (do
    let front ← readAnnotations steps s
    let word ← readClass front.2
    let bracketed ← readBracketed steps word.2
    let mark := readNullable bracketed.2
    .ok (⟨word.1, bracketed.1, mark.1, front.1⟩, mark.2)) := by
  rw [readType]
  refine bind_congr_of_ok fun front _ => bind_congr_of_ok fun word _ => ?_
  obtain ⟨raw, s'⟩ := word
  dsimp only
  split
  next rest e => rw [readBracketed_of_open e]
  next e => rw [readBracketed_of_not_open e]

theorem readArguments_succ (steps : Nat) (s : List Char) : readArguments (steps + 1) s = (do
    let reference ← readType steps s
    match skipBlanks reference.2 with
    | ',' :: rest => do
      let more ← readArguments steps rest
      .ok (reference.1 :: more.1, more.2)
    | '>' :: rest => .ok ([reference.1], rest)
    | rest => .error (.unexpected .commaOrEnd rest)) :=
  rfl

theorem readType_succ_eq_ok_iff {steps : Nat} {s rest : List Char} {type : TypeRef} :
    readType (steps + 1) s = .ok (type, rest) ↔ ∃ annotations s₁ raw s₂ arguments s₃ nullable,
      readAnnotations steps s = .ok (annotations, s₁) ∧ readClass s₁ = .ok (raw, s₂) ∧
        readBracketed steps s₂ = .ok (arguments, s₃) ∧ readNullable s₃ = (nullable, rest) ∧
          type = ⟨raw, arguments, nullable, annotations⟩ := by
  rw [readType_succ]
  constructor
  · intro h
    obtain ⟨⟨annotations, s₁⟩, front, h⟩ := bind_eq_ok_iff.mp h
    obtain ⟨⟨raw, s₂⟩, word, h⟩ := bind_eq_ok_iff.mp h
    obtain ⟨⟨arguments, s₃⟩, bracketed, h⟩ := bind_eq_ok_iff.mp h
    cases h
    exact ⟨annotations, s₁, raw, s₂, arguments, s₃, _, front, word, bracketed, rfl, rfl⟩
  · rintro ⟨annotations, s₁, raw, s₂, arguments, s₃, nullable, front, word, bracketed, mark, rfl⟩
    refine bind_eq_ok_iff.mpr ⟨_, front, bind_eq_ok_iff.mpr ⟨_, word, bind_eq_ok_iff.mpr
      ⟨_, bracketed, ?_⟩⟩⟩
    simp only [mark]

theorem readArguments_succ_eq_ok_iff {steps : Nat} {s rest : List Char}
    {arguments : List TypeRef} : readArguments (steps + 1) s = .ok (arguments, rest) ↔
      ∃ argument s₁, readType steps s = .ok (argument, s₁) ∧
        ((skipBlanks s₁ = '>' :: rest ∧ arguments = [argument]) ∨
          ∃ s₂ more, skipBlanks s₁ = ',' :: s₂ ∧ readArguments steps s₂ = .ok (more, rest) ∧
            arguments = argument :: more) := by
  rw [readArguments_succ, bind_eq_ok_iff]
  constructor
  · rintro ⟨⟨argument, s₁⟩, first, h⟩
    refine ⟨argument, s₁, first, ?_⟩
    dsimp only at h
    split at h
    next s₂ comma =>
      obtain ⟨⟨more, rest'⟩, tail, h⟩ := bind_eq_ok_iff.mp h
      cases h
      exact .inr ⟨s₂, more, comma, tail, rfl⟩
    next rest' bracket =>
      cases h
      exact .inl ⟨bracket, rfl⟩
    next => cases h
  · rintro ⟨argument, s₁, first, ⟨bracket, rfl⟩ | ⟨s₂, more, comma, tail, rfl⟩⟩
    · refine ⟨_, first, ?_⟩
      simp only [bracket]
    · refine ⟨_, first, ?_⟩
      simp only [comma, tail]
      rfl

/-! ### What is read is derived -/

/-- **The reader is sound**: what it answers is a phrase at the start of the text, with its rest. -/
theorem read_sound : ∀ steps : Nat,
    (∀ {s rest : List Char} {type : TypeRef}, readType steps s = .ok (type, rest) →
      Reference s type rest) ∧
    (∀ {s rest : List Char} {arguments : List TypeRef},
      readArguments steps s = .ok (arguments, rest) → Arguments s arguments rest)
  | 0 => by
    constructor
    · intro s rest type h
      cases h
    · intro s rest arguments h
      cases h
  | steps + 1 => by
    -- by the number of steps, for both at once: a type asks for arguments, and these ask for types
    obtain ⟨type_sound, arguments_sound⟩ := read_sound steps
    constructor
    · intro s rest type h
      obtain ⟨annotations, s₁, raw, s₂, arguments, s₃, nullable, front, word, bracketed, mark, rfl⟩ :=
        readType_succ_eq_ok_iff.mp h
      obtain ⟨_, gap, front⟩ := readAnnotations_sound front
      obtain ⟨_, gap'', mark⟩ := readNullable_sound mark
      obtain ⟨_, gap', bracketed⟩ : ∃ s', Gap s₂ s' ∧ Bracketed s' arguments s₃ := by
        by_cases opens : ∃ s', skipBlanks s₂ = '<' :: s'
        · obtain ⟨s', opens⟩ := opens
          rw [readBracketed_of_open opens] at bracketed
          exact ⟨_, opens ▸ gap_skipBlanks s₂, .present (arguments_sound bracketed)⟩
        · rw [readBracketed_of_not_open (not_exists.mp opens)] at bracketed
          cases bracketed
          exact ⟨_, gap_skipBlanks s₂, .absent _⟩
      exact .mk gap front (readClass_eq_ok_iff.mp word) gap' bracketed gap'' mark
    · intro s rest arguments h
      obtain ⟨argument, s₁, first, ⟨bracket, rfl⟩ | ⟨s₂, more, comma, tail, rfl⟩⟩ :=
        readArguments_succ_eq_ok_iff.mp h
      · exact .last (type_sound first) (bracket ▸ gap_skipBlanks s₁)
      · exact .more (type_sound first) (comma ▸ gap_skipBlanks s₁) (arguments_sound tail)

/-! ### What is derived is read -/

theorem closed_of_gap {s rest : List Char} {c : Char} (gap : Gap s (c :: rest))
    (h : c = ',' ∨ c = '>') : Closed s := by
  have solid : Text.isBlank c = false := by
    obtain rfl | rfl := h <;> decide
  intro c' hc
  rw [gap.skipBlanks_eq_cons solid] at hc
  cases hc
  exact h

theorem closed_of_gap_nil {s : List Char} (gap : Gap s []) : Closed s := by
  intro c hc
  rw [gap.skipBlanks_eq] at hc
  cases hc

theorem not_open_of_mark {s rest : List Char} {nullable : Bool} (h : Mark s nullable rest)
    (closed : Closed rest) : ∀ r, skipBlanks s ≠ '<' :: r := by
  intro r e
  cases h with
  | absent =>
    have opened : '<' = ',' ∨ '<' = '>' := closed '<' (by rw [e]; rfl)
    exact absurd opened (by decide)
  | present => cases e

mutual

/-- **The reader is complete**: a phrase that ends where a type can end is read, with enough steps, and
nothing but blanks behind it is read as well. -/
theorem readType_complete : ∀ {s rest : List Char} {type : TypeRef}, Reference s type rest →
    Closed rest → ∀ steps, 2 * s.length + 2 ≤ steps →
      ∃ rest', readType steps s = .ok (type, rest') ∧ Gap rest rest'
  | s, rest, _, .mk gap front word gap' bracketed gap'' mark, closed, steps, enough => by
    obtain ⟨steps, rfl⟩ : ∃ n, steps = n + 1 := ⟨steps - 1, by omega⟩
    have := gap.length_le
    have := front.length_le
    have := word.length_lt
    -- where the phrase has no brackets, the reader must not find any in what follows
    have not_open := gap''.skipBlanks_eq ▸ not_open_of_mark mark closed
    obtain ⟨s', bracketed, behind⟩ := readBracketed_complete bracketed gap' not_open steps (by omega)
    have skipped := behind.skipBlanks_eq.symm.trans gap''.skipBlanks_eq
    obtain ⟨rest', mark, left⟩ := readNullable_complete skipped mark closed
    have front := readAnnotations_complete front word gap steps (by omega)
    exact ⟨rest', readType_succ_eq_ok_iff.mpr ⟨_, _, _, _, _, _, _, front,
      readClass_eq_ok_iff.mpr word, bracketed, mark, rfl⟩, left⟩

theorem readBracketed_complete : ∀ {s s₁ rest : List Char} {arguments : List TypeRef},
    Bracketed s₁ arguments rest → Gap s s₁ → (∀ r, skipBlanks rest ≠ '<' :: r) →
      ∀ steps, 2 * s.length + 1 ≤ steps →
        ∃ rest', readBracketed steps s = .ok (arguments, rest') ∧ Gap rest rest'
  | s, _, rest, _, .absent _, gap, not_open, steps, _ => by
    rw [← gap.skipBlanks_eq] at not_open
    refine ⟨_, readBracketed_of_not_open not_open steps, ?_⟩
    rw [gap.skipBlanks_eq]
    exact gap_skipBlanks rest
  | s, _, rest, _, .present arguments, gap, _, steps, enough => by
    have shorter := gap.length_le
    rw [List.length_cons] at shorter
    refine ⟨rest, ?_, .refl rest⟩
    rw [readBracketed_of_open (gap.skipBlanks_eq_cons (by decide))]
    exact readArguments_complete arguments steps (by omega)

theorem readArguments_complete : ∀ {s rest : List Char} {arguments : List TypeRef},
    Arguments s arguments rest → ∀ steps, 2 * s.length + 3 ≤ steps →
      readArguments steps s = .ok (arguments, rest)
  | s, rest, _, .last reference gap, steps, enough => by
    obtain ⟨steps, rfl⟩ : ∃ n, steps = n + 1 := ⟨steps - 1, by omega⟩
    have closed := closed_of_gap gap (.inr rfl)
    obtain ⟨s', first, behind⟩ := readType_complete reference closed steps (by omega)
    have bracket := behind.skipBlanks_eq.symm.trans (gap.skipBlanks_eq_cons (by decide))
    exact readArguments_succ_eq_ok_iff.mpr ⟨_, s', first, .inl ⟨bracket, rfl⟩⟩
  | s, rest, _, .more reference gap arguments, steps, enough => by
    obtain ⟨steps, rfl⟩ : ∃ n, steps = n + 1 := ⟨steps - 1, by omega⟩
    have closed := closed_of_gap gap (.inl rfl)
    obtain ⟨s', first, behind⟩ := readType_complete reference closed steps (by omega)
    have comma := behind.skipBlanks_eq.symm.trans (gap.skipBlanks_eq_cons (by decide))
    have := reference.length_lt
    have shorter := gap.length_le
    rw [List.length_cons] at shorter
    have tail := readArguments_complete arguments steps (by omega)
    exact readArguments_succ_eq_ok_iff.mpr ⟨_, s', first, .inr ⟨_, _, comma, tail, rfl⟩⟩

end

/-! ### The whole text -/

theorem readWhole_eq_ok_iff {s : List Char} {type : TypeRef} : readWhole s = .ok type ↔
    ∃ rest, readType (2 * s.length + 2) s = .ok (type, rest) ∧ skipBlanks rest = [] := by
  rw [readWhole, bind_eq_ok_iff]
  constructor
  · rintro ⟨⟨type', rest⟩, read, h⟩
    dsimp only at h
    split at h
    next nothing =>
      cases h
      exact ⟨rest, read, nothing⟩
    next => cases h
  · rintro ⟨rest, read, nothing⟩
    refine ⟨_, read, ?_⟩
    simp only [nothing]

/-- **The reader accepts the grammar**: no text more, no text less, and with the type that the text
derives. -/
theorem ofText?_eq_ok_iff {text : String} {type : TypeRef} :
    ofText? text = .ok type ↔ Input text type := by
  have whole : ofText? text = .ok type ↔ readWhole text.toList = .ok type := by
    unfold ofText?
    split
    next read => rw [read]; simp
    next name read => rw [read]; simp
    next expectation rest read => rw [read]; simp
  rw [whole, readWhole_eq_ok_iff]
  constructor
  · rintro ⟨rest, read, nothing⟩
    exact ⟨rest, (read_sound _).1 read, nothing ▸ gap_skipBlanks rest⟩
  · rintro ⟨rest, reference, gap⟩
    obtain ⟨rest', read, behind⟩ :=
      readType_complete reference (closed_of_gap_nil gap) (2 * text.toList.length + 2) le_rfl
    refine ⟨rest', read, ?_⟩
    rw [← behind.skipBlanks_eq, gap.skipBlanks_eq]
    rfl

/-! ### The number of steps -/

theorem readAnnotations_steps : ∀ (steps steps' : Nat) (s : List Char), s.length ≤ steps →
    s.length ≤ steps' → readAnnotations steps s = readAnnotations steps' s := by
  intro steps
  induction steps with
  | zero =>
    intro steps' s enough _
    have empty : s = [] := List.eq_nil_of_length_eq_zero (Nat.le_zero.mp enough)
    subst empty
    have not_at : ∀ r, skipBlanks [] ≠ '@' :: r := by
      intro r e
      cases e
    rw [readAnnotations_of_not_at not_at, readAnnotations_of_not_at not_at]
  | succ steps ih =>
    intro steps' s enough enough'
    by_cases at_sign : ∃ s', skipBlanks s = '@' :: s'
    · obtain ⟨s', first⟩ := at_sign
      have shorter := (gap_skipBlanks s).length_le
      rw [first, List.length_cons] at shorter
      have left : (s'.dropWhile isNameChar).length ≤ s'.length := List.length_dropWhile_le _ _
      obtain ⟨steps', rfl⟩ : ∃ n, steps' = n + 1 := ⟨steps' - 1, by omega⟩
      rw [readAnnotations_of_at first, readAnnotations_of_at first,
        ih steps' _ (by omega) (by omega)]
    · have not_at := not_exists.mp at_sign
      rw [readAnnotations_of_not_at not_at, readAnnotations_of_not_at not_at]

/-- **The bound on the steps is never met**: with as many steps as the text asks for, the reader gives
the answer that it gives with any more of them. -/
theorem read_steps : ∀ steps : Nat,
    (∀ (steps' : Nat) (s : List Char), 2 * s.length + 2 ≤ steps → 2 * s.length + 2 ≤ steps' →
      readType steps s = readType steps' s) ∧
    (∀ (steps' : Nat) (s : List Char), 2 * s.length + 3 ≤ steps → 2 * s.length + 3 ≤ steps' →
      readArguments steps s = readArguments steps' s) := by
  intro steps
  induction steps with
  | zero =>
    constructor
    · intro steps' s enough _
      omega
    · intro steps' s enough _
      omega
  | succ steps ih =>
    obtain ⟨type_steps, arguments_steps⟩ := ih
    constructor
    · intro steps' s enough enough'
      obtain ⟨steps', rfl⟩ : ∃ n, steps' = n + 1 := ⟨steps' - 1, by omega⟩
      rw [readType_succ, readType_succ, readAnnotations_steps steps steps' s (by omega) (by omega)]
      refine bind_congr_of_ok fun front hfront => bind_congr_of_ok fun word hword => ?_
      -- the name has taken a character, and both bounds suffice for what is left
      obtain ⟨_, gap, annotations⟩ := readAnnotations_sound hfront
      have := gap.length_le
      have := annotations.length_le
      have := (readClass_eq_ok_iff.mp hword).length_lt
      have same : readBracketed steps word.2 = readBracketed steps' word.2 := by
        by_cases opens : ∃ r, skipBlanks word.2 = '<' :: r
        · obtain ⟨r, opens⟩ := opens
          have shorter := (gap_skipBlanks word.2).length_le
          rw [opens, List.length_cons] at shorter
          rw [readBracketed_of_open opens, readBracketed_of_open opens]
          exact arguments_steps steps' r (by omega) (by omega)
        · have not_open := not_exists.mp opens
          rw [readBracketed_of_not_open not_open, readBracketed_of_not_open not_open]
      rw [same]
    · intro steps' s enough enough'
      obtain ⟨steps', rfl⟩ : ∃ n, steps' = n + 1 := ⟨steps' - 1, by omega⟩
      rw [readArguments_succ, readArguments_succ, type_steps steps' s (by omega) (by omega)]
      refine bind_congr_of_ok fun reference hreference => ?_
      have := ((read_sound _).1 hreference).length_lt
      have shorter := (gap_skipBlanks reference.2).length_le
      split
      next rest comma =>
        rw [comma, List.length_cons] at shorter
        rw [arguments_steps steps' rest (by omega) (by omega)]
      next => rfl
      next => rfl

/-! ### The grammar and nothing else -/

theorem eq_of_input {text : String} {type type' : TypeRef} (h : Input text type)
    (h' : Input text type') : type = type' := by
  have read := ofText?_eq_ok_iff.mpr h
  rw [ofText?_eq_ok_iff.mpr h'] at read
  exact (Except.ok.inj read).symm

theorem ofText?_eq_ok_of_pieces_eq {text text' : String} {type : TypeRef}
    (same : pieces text.toList = pieces text'.toList) (h : ofText? text = .ok type) :
    ofText? text' = .ok type :=
  ofText?_eq_ok_iff.mpr ((ofText?_eq_ok_iff.mp h).of_pieces_eq same.symm)

/-- **The reader of types accepts its grammar and nothing else.** It comes to an end within the steps
that the length of the text provides: more of them change nothing. It answers a type exactly on the
texts that derive it, no text derives two types, and texts with the same pieces, however many blanks
stand between these, have the same answer. -/
theorem ofText?_exactly :
    (∀ (s : List Char) (steps : Nat), 2 * s.length + 2 ≤ steps →
      readType steps s = readType (2 * s.length + 2) s) ∧
    (∀ (text : String) (type : TypeRef), ofText? text = .ok type ↔ Input text type) ∧
    (∀ (text : String) (type type' : TypeRef), Input text type → Input text type' →
      type = type') ∧
    (∀ text text' : String, pieces text.toList = pieces text'.toList → ∀ type : TypeRef,
      ofText? text = .ok type ↔ ofText? text' = .ok type) := by
  refine ⟨fun s steps enough => ?_, fun _ _ => ofText?_eq_ok_iff, fun _ _ _ => eq_of_input, ?_⟩
  · exact (read_steps steps).1 _ s enough le_rfl
  · intro text text' same type
    exact ⟨ofText?_eq_ok_of_pieces_eq same, ofText?_eq_ok_of_pieces_eq same.symm⟩

/-- The type `@a.B c.D<e.F, g.H<k.L?>>?`. -/
def exampleNested : TypeRef :=
  have inner : TypeRef := ⟨⟨"g", ["H"]⟩, [⟨⟨"k", ["L"]⟩, [], true, []⟩], false, []⟩
  ⟨⟨"c", ["D"]⟩, [.ofClass ⟨"e", ["F"]⟩, inner], true, [⟨"a", ["B"]⟩]⟩

/-- A type read without a blank that could be left out, and with blanks wherever they can stand. -/
theorem ofText?_exactly_exampleNested :
    Input "@a.B c.D<e.F,g.H<k.L?>>?" exampleNested ∧
      ofText? " @a.B c.D < e.F , g.H < k.L ? > > ? " = .ok exampleNested ∧
      (∀ type, Input "@a.B c.D<e.F,g.H<k.L?>>?" type → type = exampleNested) ∧
      readType 20 "c.D<e.F>".toList = readType 18 "c.D<e.F>".toList := by
  obtain ⟨steps, grammar, unique, spacing⟩ := ofText?_exactly
  have read : ofText? "@a.B c.D<e.F,g.H<k.L?>>?" = .ok exampleNested := by decide +kernel
  have derived := (grammar _ _).mp read
  have same : pieces "@a.B c.D<e.F,g.H<k.L?>>?".toList =
      pieces " @a.B c.D < e.F , g.H < k.L ? > > ? ".toList := by decide +kernel
  exact ⟨derived, (spacing _ _ same _).mp read, fun type h => unique _ _ _ h derived,
    steps "c.D<e.F>".toList 20 (by decide)⟩

end BindingPlan.TypeRef
