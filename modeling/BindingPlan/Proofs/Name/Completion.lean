import BindingPlan.Proofs.Name.RoundTrip

/-! # Types that can still be completed

Where the reader of types meets something unexpected, what it has read so far is the beginning of a
type: there is a text that completes it (`completable_of_read`, `exists_input_of_readWhole`). What lacks
a name is completed by a name, an argument list by its bracket, and whatever encloses them goes on as it
would have. This rests on the fact that a phrase does not depend on what stands behind it
(`Reference.movable`), except that a name must not go on there. -/

namespace BindingPlan

namespace TypeGrammar

open TypeRef (skipBlanks isNameChar)

/-! ### Phrases moved -/

/-- A phrase takes a front of the text, and it takes that front wherever it stands, as long as no name
goes on behind it that did not go on before. -/
def Movable (phrase : List Char → List Char → Prop) (s rest : List Char) : Prop :=
  ∃ front, s = front ++ rest ∧ ∀ rest', (Stops rest → Stops rest') → phrase (front ++ rest') rest'

/-- One phrase behind another one. -/
def Then (phrase next : List Char → List Char → Prop) (s rest : List Char) : Prop :=
  ∃ s₁, phrase s s₁ ∧ next s₁ rest

/-- A character by itself. -/
def Single (c : Char) (s rest : List Char) : Prop :=
  s = c :: rest

theorem Stops.append {front rest rest' : List Char} (h : Stops rest → Stops rest')
    (stops : Stops (front ++ rest)) : Stops (front ++ rest') := by
  cases front with
  | nil => exact h stops
  | cons c front => exact stops

section Movable
variable {phrase next : List Char → List Char → Prop} {s s₁ rest : List Char}

theorem Movable.mono (h : Movable phrase s rest)
    (sub : ∀ {s rest}, phrase s rest → next s rest) : Movable next s rest := by
  obtain ⟨front, split, moved⟩ := h
  exact ⟨front, split, fun rest' stops => sub (moved rest' stops)⟩

theorem Movable.then (h : Movable phrase s s₁) (h' : Movable next s₁ rest) :
    Movable (Then phrase next) s rest := by
  obtain ⟨front, rfl, moved⟩ := h
  obtain ⟨front', rfl, moved'⟩ := h'
  refine ⟨front ++ front', (List.append_assoc _ _ _).symm, fun rest' stops => ⟨front' ++ rest', ?_, ?_⟩⟩
  · rw [List.append_assoc]
    exact moved _ (.append stops)
  · exact moved' rest' stops

theorem movable_single (c : Char) (rest : List Char) : Movable (Single c) (c :: rest) rest :=
  ⟨[c], rfl, fun _ _ => rfl⟩

theorem Gap.movable (h : Gap s rest) : Movable Gap s rest := by
  obtain ⟨gap, blank, rfl⟩ := h
  exact ⟨gap, rfl, fun _ _ => ⟨gap, blank, rfl⟩⟩

theorem Word.movable {name : ClassName} (h : Word s name rest) : Movable (Word · name ·) s rest := by
  obtain ⟨chars, rfl, run, stop, full, own⟩ := h
  exact ⟨chars, rfl, fun _ stops => ⟨chars, rfl, run, stops stop, full, own⟩⟩

theorem Mark.movable {nullable : Bool} (h : Mark s nullable rest) :
    Movable (Mark · nullable ·) s rest := by
  cases h with
  | absent => exact ⟨[], rfl, fun rest' _ => .absent rest'⟩
  | present => exact ⟨['?'], rfl, fun rest' _ => .present rest'⟩

theorem Annotations.movable {names : List ClassName} (h : Annotations s names rest) :
    Movable (Annotations · names ·) s rest := by
  induction h with
  | nil => exact ⟨[], rfl, fun rest' _ => .nil rest'⟩
  | cons word gap _ ih =>
    refine ((movable_single '@' _).then (word.movable.then (gap.movable.then ih))).mono ?_
    rintro _ _ ⟨_, rfl, _, word, _, gap, annotations⟩
    exact .cons word gap annotations

end Movable

mutual

/-- **A type is the same type** in front of another rest. -/
theorem Reference.movable : ∀ {s rest : List Char} {type : TypeRef}, Reference s type rest →
    Movable (Reference · type ·) s rest
  | _, _, _, .mk gap front word gap' bracketed gap'' mark => by
    refine (gap.movable.then (front.movable.then (word.movable.then (gap'.movable.then
      (bracketed.movable.then (gap''.movable.then mark.movable)))))).mono ?_
    rintro _ _ ⟨_, gap, _, front, _, word, _, gap', _, bracketed, _, gap'', mark⟩
    exact .mk gap front word gap' bracketed gap'' mark

theorem Bracketed.movable : ∀ {s rest : List Char} {arguments : List TypeRef},
    Bracketed s arguments rest → Movable (Bracketed · arguments ·) s rest
  | _, _, _, .absent _ => ⟨[], rfl, fun rest' _ => .absent rest'⟩
  | _, _, _, .present arguments => by
    refine ((movable_single '<' _).then arguments.movable).mono ?_
    rintro _ _ ⟨_, rfl, arguments⟩
    exact .present arguments

theorem Arguments.movable : ∀ {s rest : List Char} {arguments : List TypeRef},
    Arguments s arguments rest → Movable (Arguments · arguments ·) s rest
  | _, _, _, .last reference gap => by
    refine (reference.movable.then (gap.movable.then (movable_single '>' _))).mono ?_
    rintro _ _ ⟨_, reference, _, gap, rfl⟩
    exact .last reference gap
  | _, _, _, .more reference gap arguments => by
    refine (reference.movable.then (gap.movable.then
      ((movable_single ',' _).then arguments.movable))).mono ?_
    rintro _ _ ⟨_, reference, _, gap, _, rfl, arguments⟩
    exact .more reference gap arguments

end

/-! ### Beginnings completed -/

/-- What stands in front of the rest is the beginning of a phrase: some other text instead of the rest
completes it. -/
def Completable (phrase : List Char → List Char → Prop) (s rest : List Char) : Prop :=
  ∃ front tail, s = front ++ rest ∧ Stops tail ∧
    ∀ behind, Stops behind → phrase (front ++ (tail ++ behind)) behind

section Completable
variable {phrase next : List Char → List Char → Prop} {s s₁ rest : List Char}

theorem stops_append {tail behind : List Char} (stops : Stops tail) (stops' : Stops behind) :
    Stops (tail ++ behind) := by
  cases tail with
  | nil => exact stops'
  | cons c tail => exact stops

theorem Completable.mono (h : Completable phrase s rest)
    (sub : ∀ {s rest}, phrase s rest → next s rest) : Completable next s rest := by
  obtain ⟨front, tail, split, stops, complete⟩ := h
  exact ⟨front, tail, split, stops, fun behind stops' => sub (complete behind stops')⟩

theorem Movable.completable (h : Movable phrase s s₁) (h' : Completable next s₁ rest) :
    Completable (Then phrase next) s rest := by
  obtain ⟨front, rfl, moved⟩ := h
  obtain ⟨front', tail, rfl, stops, complete⟩ := h'
  refine ⟨front ++ front', tail, (List.append_assoc _ _ _).symm, stops, fun behind stops' =>
    ⟨front' ++ (tail ++ behind), ?_, complete behind stops'⟩⟩
  rw [List.append_assoc]
  exact moved _ (.append fun _ => stops_append stops stops')

/-- Behind what completes one phrase, a character can complete the next one. -/
theorem Completable.then_single {c : Char} (h : Completable phrase s rest)
    (alone : isNameChar c = false) : Completable (Then phrase (Single c)) s rest := by
  obtain ⟨front, tail, rfl, stops, complete⟩ := h
  refine ⟨front, tail ++ [c], rfl, stops_append stops (stops_cons alone []), fun behind _ => ?_⟩
  rw [List.append_assoc]
  exact ⟨c :: behind, complete _ (stops_cons alone behind), rfl⟩

theorem completable_single {c : Char} (alone : isNameChar c = false) (rest : List Char) :
    Completable (Single c) rest rest :=
  ⟨[], [c], rfl, stops_cons alone [], fun _ _ => rfl⟩

theorem completable_word (rest : List Char) :
    Completable (Then Gap (Word · ⟨"", ["a"]⟩ ·)) rest rest := by
  refine ⟨[], [' ', 'a'], rfl, stops_cons (by decide) _, fun behind stops => ⟨'a' :: behind, ?_, ?_⟩⟩
  · exact gap_space _
  · exact ⟨['a'], rfl, List.forall_mem_singleton.mpr (by decide), stops, by decide, by decide⟩

end Completable

/-- Blanks behind annotations belong to them, or else to what stands in front of them. -/
theorem Annotations.exists_of_gap {s s₁ rest : List Char} {names : List ClassName}
    (h : Annotations s names s₁) (gap : Gap s₁ rest) :
    ∃ s', Gap s s' ∧ Annotations s' names rest := by
  induction h with
  | nil => exact ⟨_, gap, .nil _⟩
  | cons word gap' _ ih =>
    obtain ⟨s', gap'', annotations⟩ := ih gap
    exact ⟨_, .refl _, .cons word (gap'.trans gap'') annotations⟩

/-- The phrase of some type. -/
def SomeReference (s rest : List Char) : Prop :=
  ∃ type, Reference s type rest

/-- The phrase of some arguments. -/
def SomeArguments (s rest : List Char) : Prop :=
  ∃ arguments, Arguments s arguments rest

theorem completable_of_front {s s₁ rest : List Char} {names : List ClassName} (gap : Gap s s₁)
    (annotations : Annotations s₁ names rest) : Completable SomeReference s rest := by
  refine (gap.movable.completable (annotations.movable.completable (completable_word rest))).mono ?_
  rintro _ _ ⟨_, gap, _, annotations, _, gap', word⟩
  obtain ⟨_, gap'', annotations⟩ := annotations.exists_of_gap gap'
  exact ⟨_, .mk (gap.trans gap'') annotations word (.refl _) (.absent _) (.refl _) (.absent _)⟩

theorem completable_of_bracket {s s₁ s₂ s₃ s₄ rest : List Char} {names : List ClassName}
    {raw : ClassName} (gap : Gap s s₁) (annotations : Annotations s₁ names s₂)
    (word : Word s₂ raw s₃) (gap' : Gap s₃ ('<' :: s₄)) (h : Completable SomeArguments s₄ rest) :
    Completable SomeReference s rest := by
  refine (gap.movable.completable (annotations.movable.completable (word.movable.completable
    (gap'.movable.completable ((movable_single '<' s₄).completable h))))).mono ?_
  rintro _ _ ⟨_, gap, _, annotations, _, word, _, gap', _, rfl, _, arguments⟩
  exact ⟨_, .mk gap annotations word gap' (.present arguments) (.refl _) (.absent _)⟩

theorem completable_of_argument {s rest : List Char} (h : Completable SomeReference s rest) :
    Completable SomeArguments s rest := by
  refine (h.then_single (c := '>') (by decide)).mono ?_
  rintro _ _ ⟨_, ⟨argument, reference⟩, rfl⟩
  exact ⟨[argument], .last reference (.refl _)⟩

theorem completable_of_last {s s₁ rest : List Char} {argument : TypeRef}
    (reference : Reference s argument s₁) (gap : Gap s₁ rest) :
    Completable SomeArguments s rest := by
  refine (reference.movable.completable (gap.movable.completable
    (completable_single (c := '>') (by decide) rest))).mono ?_
  rintro _ _ ⟨_, reference, _, gap, rfl⟩
  exact ⟨[argument], .last reference gap⟩

theorem completable_of_more {s s₁ s₂ rest : List Char} {argument : TypeRef}
    (reference : Reference s argument s₁) (gap : Gap s₁ (',' :: s₂))
    (h : Completable SomeArguments s₂ rest) : Completable SomeArguments s rest := by
  refine (reference.movable.completable (gap.movable.completable
    ((movable_single ',' s₂).completable h))).mono ?_
  rintro _ _ ⟨_, reference, _, gap, _, rfl, arguments, others⟩
  exact ⟨argument :: arguments, .more reference gap others⟩

end TypeGrammar

namespace TypeRef

open TypeGrammar

/-! ### Where the reader stops -/

section Stop
variable {steps : Nat} {s rest : List Char} {expectation : Expectation}

theorem className_ne_unexpected {chars : List Char} :
    className chars ≠ .error (.unexpected expectation rest) := by
  unfold className
  split <;> nofun

theorem readAnnotations_ne_unexpected : ∀ {steps : Nat} {s : List Char},
    readAnnotations steps s ≠ .error (.unexpected expectation rest)
  | 0, _ => nofun
  | steps + 1, s => by
    intro h
    by_cases at_sign : ∃ s', skipBlanks s = '@' :: s'
    · obtain ⟨s', first⟩ := at_sign
      rw [readAnnotations_of_at first] at h
      rcases bind_eq_error_iff.mp h with bad | ⟨name, -, h⟩
      · exact className_ne_unexpected bad
      · rcases bind_eq_error_iff.mp h with bad | ⟨more, -, h⟩
        · exact readAnnotations_ne_unexpected bad
        · cases h
    · rw [readAnnotations_of_not_at (not_exists.mp at_sign)] at h
      cases h

theorem eq_of_readClass_eq_unexpected
    (h : readClass s = .error (.unexpected expectation rest)) : rest = s := by
  unfold readClass at h
  split at h
  · cases h
    rfl
  · rcases bind_eq_error_iff.mp h with bad | ⟨name, -, h⟩
    · exact absurd bad className_ne_unexpected
    · cases h

/-- A type is not read to its end because the name of its class is missing, or because of its
arguments. -/
theorem readType_succ_eq_unexpected
    (h : readType (steps + 1) s = .error (.unexpected expectation rest)) :
    ∃ s₁ names s₂, Gap s s₁ ∧ Annotations s₁ names s₂ ∧ (rest = s₂ ∨
      ∃ raw s₃ s₄, Word s₂ raw s₃ ∧ Gap s₃ ('<' :: s₄) ∧
        readArguments steps s₄ = .error (.unexpected expectation rest)) := by
  rw [readType_succ] at h
  rcases bind_eq_error_iff.mp h with bad | ⟨⟨names, s₂⟩, front, h⟩
  · exact absurd bad readAnnotations_ne_unexpected
  obtain ⟨s₁, gap, annotations⟩ := readAnnotations_sound front
  refine ⟨s₁, names, s₂, gap, annotations, ?_⟩
  rcases bind_eq_error_iff.mp h with missing | ⟨⟨raw, s₃⟩, word, h⟩
  · exact .inl (eq_of_readClass_eq_unexpected missing)
  rcases bind_eq_error_iff.mp h with bad | ⟨bracketed, -, h⟩
  · refine .inr ⟨raw, s₃, ?_⟩
    by_cases opens : ∃ s₄, skipBlanks s₃ = '<' :: s₄
    · obtain ⟨s₄, opens⟩ := opens
      rw [readBracketed_of_open opens] at bad
      exact ⟨s₄, readClass_eq_ok_iff.mp word, opens ▸ gap_skipBlanks s₃, bad⟩
    · rw [readBracketed_of_not_open (not_exists.mp opens)] at bad
      cases bad
  · cases h

theorem readArguments_succ_eq_unexpected
    (h : readArguments (steps + 1) s = .error (.unexpected expectation rest)) :
    readType steps s = .error (.unexpected expectation rest) ∨
      ∃ argument s₁, Reference s argument s₁ ∧ (Gap s₁ rest ∨
        ∃ s₂, Gap s₁ (',' :: s₂) ∧
          readArguments steps s₂ = .error (.unexpected expectation rest)) := by
  rw [readArguments_succ] at h
  rcases bind_eq_error_iff.mp h with bad | ⟨⟨argument, s₁⟩, first, h⟩
  · exact .inl bad
  refine .inr ⟨argument, s₁, (read_sound steps).1 first, ?_⟩
  have gap := gap_skipBlanks s₁
  dsimp only at h
  split at h
  next s₂ comma =>
    rcases bind_eq_error_iff.mp h with bad | ⟨more, -, h⟩
    · exact .inr ⟨s₂, comma ▸ gap, bad⟩
    · cases h
  next => cases h
  next =>
    cases h
    exact .inl gap

end Stop

/-! ### What is read can be completed -/

/-- **What stands in front of something unexpected is the beginning of a type**, or of arguments. -/
theorem completable_of_read : ∀ (steps : Nat) {s rest : List Char} {expectation : Expectation},
    (readType steps s = .error (.unexpected expectation rest) →
      Completable SomeReference s rest) ∧
    (readArguments steps s = .error (.unexpected expectation rest) →
      Completable SomeArguments s rest)
  | 0, s, _, _ => by
    have missing : Completable SomeReference s s := completable_of_front (.refl s) (.nil s)
    constructor
    · rintro ⟨⟩
      exact missing
    · rintro ⟨⟩
      exact completable_of_argument missing
  | steps + 1, s, rest, expectation => by
    constructor
    · intro h
      obtain ⟨s₁, names, s₂, gap, annotations, rfl | ⟨raw, s₃, s₄, word, gap', inside⟩⟩ :=
        readType_succ_eq_unexpected h
      · exact completable_of_front gap annotations
      · exact completable_of_bracket gap annotations word gap'
          ((completable_of_read steps).2 inside)
    · intro h
      obtain first | ⟨argument, s₁, reference, gap | ⟨s₂, gap, others⟩⟩ :=
        readArguments_succ_eq_unexpected h
      · exact completable_of_argument ((completable_of_read steps).1 first)
      · exact completable_of_last reference gap
      · exact completable_of_more reference gap ((completable_of_read steps).2 others)

/-- What stands in front of something unexpected in a text is the beginning of a text that derives a
type. -/
theorem exists_input_of_readWhole {s rest : List Char} {expectation : Expectation}
    (h : readWhole s = .error (.unexpected expectation rest)) :
    ∃ front tail, s = front ++ rest ∧ ∃ type, Input (String.ofList (front ++ tail)) type := by
  have stops : Stops [] := by simp [Stops]
  rcases bind_eq_error_iff.mp h with bad | ⟨⟨type, s₁⟩, read, h⟩
  · obtain ⟨front, tail, split, -, complete⟩ := (completable_of_read _).1 bad
    obtain ⟨type, reference⟩ := complete [] stops
    rw [List.append_nil] at reference
    exact ⟨front, tail, split, type, [], by rwa [String.toList_ofList], .refl []⟩
  · have gap : Gap s₁ rest := by
      have gap := gap_skipBlanks s₁
      dsimp only at h
      split at h
      · cases h
      · cases h
        exact gap
    obtain ⟨front, rfl, moved⟩ := (((read_sound _).1 read).movable.then gap.movable)
    obtain ⟨s₂, reference, gap⟩ := moved [] fun _ => stops
    exact ⟨front, [], rfl, type, s₂, by rwa [String.toList_ofList], gap⟩

end TypeRef

end BindingPlan
