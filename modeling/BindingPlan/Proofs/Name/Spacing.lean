import BindingPlan.Proofs.Name.Grammar

/-! # Types respaced

What a text derives depends on its pieces only: names, each with the `@` in front of it if there is one,
and single characters. How many blanks stand between two pieces does not matter, and the grammar has a
place for blanks between any two of them (`Input.of_pieces_eq`). -/

namespace BindingPlan.TypeGrammar

open TypeRef (isNameChar skipBlanks)

/-! ### Pieces -/

/-- A name may go on behind the character. -/
def leads (c : Char) : Bool :=
  c == '@' || isNameChar c

/-- The text cut into pieces: a name, together with an `@` that stands right in front of it, is one
piece, any other character is one by itself, and blanks are left out. -/
def pieces : List Char → List (List Char)
  | [] => []
  | c :: s =>
    if Text.isBlank c then pieces s
    else if leads c && s.head?.any isNameChar then (pieces s).modifyHead (c :: ·)
    else [c] :: pieces s

/-- The piece that a character begins, without that character. -/
def pieceTail (c : Char) (s : List Char) : List Char :=
  if leads c then s.takeWhile isNameChar else []

/-- What stands behind the piece that a character begins. -/
def pieceRest (c : Char) (s : List Char) : List Char :=
  if leads c then s.dropWhile isNameChar else s

theorem pieces_cons : ∀ {s : List Char} {c : Char}, Text.isBlank c = false →
    pieces (c :: s) = (c :: pieceTail c s) :: pieces (pieceRest c s)
  | [], c, solid => by
    simp [pieces, pieceTail, pieceRest, solid]
  | d :: s, c, solid => by
    rw [pieces, pieceTail, pieceRest]
    cases name : isNameChar d with
    | false => cases leads c <;> simp [solid, name]
    | true =>
      -- the name goes on, and the next character leads the rest of the same piece
      have more : leads d = true := by simp [leads, name]
      have ih := pieces_cons (isBlank_of_isNameChar name) (s := s)
      cases leads c <;> simp [solid, name, ih, pieceTail, pieceRest, more]

theorem Gap.pieces_eq {s rest : List Char} (h : Gap s rest) : pieces s = pieces rest := by
  obtain ⟨gap, blank, rfl⟩ := h
  induction gap with
  | nil => rfl
  | cons c gap ih =>
    obtain ⟨blank, rest_blank⟩ := List.forall_mem_cons.mp blank
    rw [List.cons_append, pieces, if_pos blank, ih rest_blank]

/-- Behind a gap, a text with the same pieces goes on with the same piece. -/
theorem exists_piece {s s' : List Char} {c : Char} (solid : Text.isBlank c = false)
    (same : pieces s' = pieces (c :: s)) : ∃ r, Gap s' (c :: r) ∧
      pieceTail c r = pieceTail c s ∧ pieces (pieceRest c r) = pieces (pieceRest c s) := by
  have gap := gap_skipBlanks s'
  rw [gap.pieces_eq, pieces_cons solid] at same
  cases first : skipBlanks s' with
  | nil =>
    rw [first] at same
    cases same
  | cons d r =>
    rw [first, pieces_cons (isBlank_of_skipBlanks first), List.cons.injEq, List.cons.injEq] at same
    obtain ⟨⟨rfl, tail⟩, rest⟩ := same
    exact ⟨r, first ▸ gap, tail, rest⟩

theorem exists_single {s s' : List Char} {c : Char} (solid : Text.isBlank c = false)
    (alone : leads c = false) (same : pieces s' = pieces (c :: s)) :
    ∃ r, Gap s' (c :: r) ∧ pieces r = pieces s := by
  obtain ⟨r, gap, -, rest⟩ := exists_piece solid same
  simp only [pieceRest, alone, Bool.false_eq_true, if_false] at rest
  exact ⟨r, gap, rest⟩

/-! ### Derivations respaced -/

theorem Word.exists_of_pieces_at {s s' rest : List Char} {name : ClassName} (h : Word s name rest)
    (same : pieces s' = pieces ('@' :: s)) :
    ∃ r rest', Gap s' ('@' :: r) ∧ Word r name rest' ∧ pieces rest' = pieces rest := by
  obtain ⟨r, gap, tail, left⟩ := exists_piece (by decide) same
  obtain ⟨read, rfl⟩ := word_iff.mp h
  have at_leads : leads '@' = true := by decide
  simp only [pieceTail, pieceRest, at_leads, if_true] at tail left
  exact ⟨r, _, gap, word_iff.mpr ⟨by rw [tail, read], rfl⟩, left⟩

theorem Word.exists_of_pieces {s s' rest : List Char} {name : ClassName} (h : Word s name rest)
    (same : pieces s' = pieces s) :
    ∃ r rest', Gap s' r ∧ Word r name rest' ∧ pieces rest' = pieces rest := by
  obtain ⟨c, s, rfl, first⟩ := h.exists_cons
  obtain ⟨r, gap, tail, left⟩ := exists_piece (isBlank_of_isNameChar first) same
  obtain ⟨read, rfl⟩ := word_iff.mp h
  have c_leads : leads c = true := by simp [leads, first]
  simp only [pieceTail, pieceRest, c_leads, if_true] at tail left
  simp only [List.takeWhile_cons_of_pos first, List.dropWhile_cons_of_pos first] at read ⊢
  refine ⟨c :: r, _, gap, word_iff.mpr ⟨?_, rfl⟩, ?_⟩
  · rw [List.takeWhile_cons_of_pos first, tail, read]
  · rw [List.dropWhile_cons_of_pos first, left]

theorem Annotations.exists_of_pieces {s s₁ s₂ : List Char} {names : List ClassName}
    {raw : ClassName} (h : Annotations s names s₁) (word : Word s₁ raw s₂) :
    ∀ {s' : List Char}, pieces s' = pieces s → ∃ r r₁ r₂, Gap s' r ∧ Annotations r names r₁ ∧
      Word r₁ raw r₂ ∧ pieces r₂ = pieces s₂ := by
  induction h with
  | nil s =>
    intro s' same
    obtain ⟨r, r₂, gap, word', left⟩ := word.exists_of_pieces same
    exact ⟨r, r, r₂, gap, .nil r, word', left⟩
  | cons annotation gap _ ih =>
    intro s' same
    obtain ⟨r, rest', gap', annotation', left⟩ := annotation.exists_of_pieces_at same
    obtain ⟨t, r₁, r₂, gap'', annotations, word', left⟩ := ih word (left.trans gap.pieces_eq)
    exact ⟨_, r₁, r₂, gap', .cons annotation' gap'' annotations, word', left⟩

theorem Mark.exists_of_pieces {s s' rest : List Char} {nullable : Bool} (h : Mark s nullable rest)
    (same : pieces s' = pieces s) :
    ∃ r rest', Gap s' r ∧ Mark r nullable rest' ∧ pieces rest' = pieces rest := by
  cases h with
  | absent => exact ⟨s', s', .refl s', .absent s', same⟩
  | present =>
    obtain ⟨r, gap, left⟩ := exists_single (by decide) (by decide) same
    exact ⟨_, r, gap, .present r, left⟩

mutual

/-- **A text with the same pieces derives the same type**, and leaves the same pieces behind it. -/
theorem Reference.exists_of_pieces : ∀ {s s' rest : List Char} {type : TypeRef},
    Reference s type rest → pieces s' = pieces s →
      ∃ rest', Reference s' type rest' ∧ pieces rest' = pieces rest
  | _, _, _, _, .mk gap front word gap' bracketed gap'' mark, same => by
    obtain ⟨_, _, _, hgap, hfront, hword, left⟩ :=
      front.exists_of_pieces word (same.trans gap.pieces_eq)
    obtain ⟨_, _, hgap', hbracketed, left⟩ :=
      bracketed.exists_of_pieces (left.trans gap'.pieces_eq)
    obtain ⟨_, _, hgap'', hmark, left⟩ := mark.exists_of_pieces (left.trans gap''.pieces_eq)
    exact ⟨_, .mk hgap hfront hword hgap' hbracketed hgap'' hmark, left⟩

theorem Bracketed.exists_of_pieces : ∀ {s s' rest : List Char} {arguments : List TypeRef},
    Bracketed s arguments rest → pieces s' = pieces s →
      ∃ r rest', Gap s' r ∧ Bracketed r arguments rest' ∧ pieces rest' = pieces rest
  | _, s', _, _, .absent _, same => ⟨s', s', .refl s', .absent s', same⟩
  | _, _, _, _, .present arguments, same => by
    obtain ⟨_, gap, left⟩ := exists_single (by decide) (by decide) same
    obtain ⟨rest', harguments, left⟩ := arguments.exists_of_pieces left
    exact ⟨_, rest', gap, .present harguments, left⟩

theorem Arguments.exists_of_pieces : ∀ {s s' rest : List Char} {arguments : List TypeRef},
    Arguments s arguments rest → pieces s' = pieces s →
      ∃ rest', Arguments s' arguments rest' ∧ pieces rest' = pieces rest
  | _, _, _, _, .last reference gap, same => by
    obtain ⟨_, hreference, left⟩ := reference.exists_of_pieces same
    obtain ⟨rest', hgap, left⟩ :=
      exists_single (by decide) (by decide) (left.trans gap.pieces_eq)
    exact ⟨rest', .last hreference hgap, left⟩
  | _, _, _, _, .more reference gap arguments, same => by
    obtain ⟨_, hreference, left⟩ := reference.exists_of_pieces same
    obtain ⟨_, hgap, left⟩ := exists_single (by decide) (by decide) (left.trans gap.pieces_eq)
    obtain ⟨rest', harguments, left⟩ := arguments.exists_of_pieces left
    exact ⟨rest', .more hreference hgap harguments, left⟩

end

/-- **The number of blanks does not matter**: what a text derives, any text of the same pieces does. -/
theorem Input.of_pieces_eq {text text' : String} {type : TypeRef} (h : Input text type)
    (same : pieces text'.toList = pieces text.toList) : Input text' type := by
  obtain ⟨rest, reference, gap⟩ := h
  obtain ⟨rest', hreference, left⟩ := reference.exists_of_pieces same
  refine ⟨rest', hreference, ?_⟩
  have gap' := gap_skipBlanks rest'
  cases last : skipBlanks rest' with
  | nil => rwa [last] at gap'
  | cons c r =>
    rw [gap'.pieces_eq, last, pieces_cons (isBlank_of_skipBlanks last), gap.pieces_eq] at left
    cases left

end BindingPlan.TypeGrammar
