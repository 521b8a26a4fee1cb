import BindingPlan.Name.TypeReader
import BindingPlan.Proofs.Name.Dotted
import Mathlib.Data.List.TakeWhile

/-! # The grammar of types

What a text has to look like to be a type, said without a reader:

    input     := type ws*
    type      := ws* ('@' name ws*)* name ws* ['<' arguments '>'] ws* ['?']
    arguments := type (ws* ',' type)* ws*

A name goes as far as there are characters for it. Each phrase is a relation between a text, what the
phrase at its start stands for, and the rest of the text behind the phrase. The rest belongs into the
relation because it says where a name ends. -/

namespace BindingPlan.TypeGrammar

open TypeRef (isNameChar skipBlanks)

/-! ### Phrases -/

/-- `ws*` -/
def Gap (s rest : List Char) : Prop :=
  ∃ gap, (∀ c ∈ gap, Text.isBlank c = true) ∧ s = gap ++ rest

/-- A name of a class: characters of names as far as they go, without an empty part between dots. The
empty text is an empty part. -/
def Word (s : List Char) (name : ClassName) (rest : List Char) : Prop :=
  ∃ chars, s = chars ++ rest ∧ (∀ c ∈ chars, isNameChar c = true) ∧
    (∀ c ∈ rest.head?, isNameChar c = false) ∧
    "" ∉ ClassName.segments (String.ofList chars) ∧
    name = ClassName.ofSegments (ClassName.segments (String.ofList chars))

/-- `('@' name ws*)*` -/
inductive Annotations : List Char → List ClassName → List Char → Prop where
  | nil (s : List Char) : Annotations s [] s
  | cons {s s₁ s₂ rest : List Char} {name : ClassName} {names : List ClassName} :
    Word s name s₁ → Gap s₁ s₂ → Annotations s₂ names rest →
      Annotations ('@' :: s) (name :: names) rest

/-- `['?']` -/
inductive Mark : List Char → Bool → List Char → Prop where
  | absent (s : List Char) : Mark s false s
  | present (s : List Char) : Mark ('?' :: s) true s

mutual

/-- `ws* ('@' name ws*)* name ws* ['<' arguments '>'] ws* ['?']` -/
inductive Reference : List Char → TypeRef → List Char → Prop where
  | mk {s s₁ s₂ s₃ s₄ s₅ s₆ rest : List Char} {annotations : List ClassName} {raw : ClassName}
    {arguments : List TypeRef} {nullable : Bool} :
    Gap s s₁ → Annotations s₁ annotations s₂ → Word s₂ raw s₃ → Gap s₃ s₄ →
      Bracketed s₄ arguments s₅ → Gap s₅ s₆ → Mark s₆ nullable rest →
        Reference s ⟨raw, arguments, nullable, annotations⟩ rest

/-- `['<' arguments '>']` -/
inductive Bracketed : List Char → List TypeRef → List Char → Prop where
  | absent (s : List Char) : Bracketed s [] s
  | present {s rest : List Char} {arguments : List TypeRef} :
    Arguments s arguments rest → Bracketed ('<' :: s) arguments rest

/-- `type (ws* ',' type)* ws* '>'` -/
inductive Arguments : List Char → List TypeRef → List Char → Prop where
  | last {s s₁ rest : List Char} {argument : TypeRef} :
    Reference s argument s₁ → Gap s₁ ('>' :: rest) → Arguments s [argument] rest
  | more {s s₁ s₂ rest : List Char} {argument : TypeRef} {arguments : List TypeRef} :
    Reference s argument s₁ → Gap s₁ (',' :: s₂) → Arguments s₂ arguments rest →
      Arguments s (argument :: arguments) rest

end

/-- `type ws*`, the whole text. -/
def Input (text : String) (type : TypeRef) : Prop :=
  ∃ rest, Reference text.toList type rest ∧ Gap rest []

/-! ### Runs of characters -/

section Runs
variable {p : Char → Bool} {chars rest : List Char}

theorem head_dropWhile (p : Char → Bool) (s : List Char) :
    ∀ c ∈ (s.dropWhile p).head?, p c = false := by
  intro c hc
  have h := List.head?_dropWhile_not p s
  rw [Option.mem_def] at hc
  rwa [hc] at h

theorem takeWhile_of_run (run : ∀ c ∈ chars, p c = true) (stop : ∀ c ∈ rest.head?, p c = false) :
    (chars ++ rest).takeWhile p = chars := by
  rw [List.takeWhile_append_of_pos run]
  cases rest with
  | nil => simp
  | cons c rest => simp [stop c rfl]

theorem dropWhile_of_run (run : ∀ c ∈ chars, p c = true) (stop : ∀ c ∈ rest.head?, p c = false) :
    (chars ++ rest).dropWhile p = rest := by
  rw [List.dropWhile_append_of_pos run]
  cases rest with
  | nil => rfl
  | cons c rest => simp [stop c rfl]

end Runs

/-! ### Gaps -/

theorem Gap.refl (s : List Char) : Gap s s :=
  ⟨[], by simp, rfl⟩

theorem Gap.trans {s s₁ rest : List Char} (h : Gap s s₁) (h' : Gap s₁ rest) : Gap s rest := by
  obtain ⟨gap, blank, rfl⟩ := h
  obtain ⟨gap', blank', rfl⟩ := h'
  refine ⟨gap ++ gap', fun c hc => ?_, (List.append_assoc _ _ _).symm⟩
  exact (List.mem_append.mp hc).elim (blank c) (blank' c)

theorem Gap.length_le {s rest : List Char} (h : Gap s rest) : rest.length ≤ s.length := by
  obtain ⟨gap, -, rfl⟩ := h
  simp

theorem gap_skipBlanks (s : List Char) : Gap s (skipBlanks s) :=
  ⟨s.takeWhile Text.isBlank, fun _ hc => List.mem_takeWhile_imp hc,
    List.takeWhile_append_dropWhile.symm⟩

/-- However much of a gap is taken, the same is left behind all of it. -/
theorem Gap.skipBlanks_eq {s rest : List Char} (h : Gap s rest) :
    skipBlanks s = skipBlanks rest := by
  obtain ⟨gap, blank, rfl⟩ := h
  exact List.dropWhile_append_of_pos blank

theorem skipBlanks_of_head {s : List Char} (h : ∀ c ∈ s.head?, Text.isBlank c = false) :
    skipBlanks s = s :=
  @dropWhile_of_run Text.isBlank [] s (by simp) h

theorem isBlank_of_skipBlanks {s rest : List Char} {c : Char} (h : skipBlanks s = c :: rest) :
    Text.isBlank c = false :=
  head_dropWhile Text.isBlank s c (by rw [← skipBlanks, h]; rfl)

theorem Gap.skipBlanks_eq_cons {s rest : List Char} {c : Char} (h : Gap s (c :: rest))
    (solid : Text.isBlank c = false) : skipBlanks s = c :: rest := by
  rw [h.skipBlanks_eq]
  refine skipBlanks_of_head ?_
  rintro _ ⟨⟩
  exact solid

/-! ### Names -/

theorem isNameChar_of_isBlank {c : Char} (h : Text.isBlank c = true) : isNameChar c = false := by
  rw [← Char.ofNat_toNat c]
  simp only [Text.isBlank, decide_eq_true_eq] at h
  revert h
  generalize c.toNat = code
  -- the blanks are few enough to look each of them up
  revert code
  decide +kernel

theorem isBlank_of_isNameChar {c : Char} (h : isNameChar c = true) : Text.isBlank c = false := by
  cases blank : Text.isBlank c with
  | false => rfl
  | true =>
    rw [isNameChar_of_isBlank blank] at h
    cases h

theorem word_iff {s rest : List Char} {name : ClassName} :
    Word s name rest ↔
      ClassName.ofDotted? (String.ofList (s.takeWhile isNameChar)) = .ok name ∧
        s.dropWhile isNameChar = rest := by
  rw [ClassName.ofDotted?_eq_ok_iff]
  constructor
  · rintro ⟨chars, rfl, run, stop, full, rfl⟩
    rw [takeWhile_of_run run stop]
    exact ⟨⟨full, rfl⟩, dropWhile_of_run run stop⟩
  · rintro ⟨⟨full, rfl⟩, rfl⟩
    exact ⟨s.takeWhile isNameChar, List.takeWhile_append_dropWhile.symm,
      fun _ hc => List.mem_takeWhile_imp hc, head_dropWhile isNameChar s, full, rfl⟩

theorem Word.exists_cons {s rest : List Char} {name : ClassName} (h : Word s name rest) :
    ∃ c s', s = c :: s' ∧ isNameChar c = true := by
  obtain ⟨chars, rfl, run, -, full, -⟩ := h
  cases chars with
  | nil => exact absurd (by decide) full
  | cons c chars => exact ⟨c, chars ++ rest, rfl, run c List.mem_cons_self⟩

theorem Word.skipBlanks_eq {s rest : List Char} {name : ClassName} (h : Word s name rest) :
    skipBlanks s = s := by
  obtain ⟨c, s', rfl, name⟩ := h.exists_cons
  refine skipBlanks_of_head ?_
  rintro _ ⟨⟩
  exact isBlank_of_isNameChar name

theorem Word.length_lt {s rest : List Char} {name : ClassName} (h : Word s name rest) :
    rest.length < s.length := by
  obtain ⟨chars, rfl, -, -, full, -⟩ := h
  cases chars with
  | nil => exact absurd (by decide) full
  | cons c chars =>
    simp only [List.cons_append, List.length_cons, List.length_append]
    omega

/-! ### Every phrase but the optional ones takes a character -/

theorem Annotations.length_le {s rest : List Char} {names : List ClassName}
    (h : Annotations s names rest) : names.length + rest.length ≤ s.length := by
  induction h with
  | nil s => simp
  | cons word gap _ ih =>
    have := word.length_lt
    have := gap.length_le
    simp only [List.length_cons]
    omega

theorem Mark.length_le {s rest : List Char} {nullable : Bool} (h : Mark s nullable rest) :
    rest.length ≤ s.length := by
  cases h <;> simp

mutual

theorem Reference.length_lt : ∀ {s rest : List Char} {type : TypeRef}, Reference s type rest →
    rest.length < s.length
  | _, _, _, .mk gap annotations word gap' bracketed gap'' mark => by
    have := gap.length_le
    have := annotations.length_le
    have := word.length_lt
    have := gap'.length_le
    have := bracketed.length_le
    have := gap''.length_le
    have := mark.length_le
    omega

theorem Bracketed.length_le : ∀ {s rest : List Char} {arguments : List TypeRef},
    Bracketed s arguments rest → rest.length ≤ s.length
  | _, _, _, .absent s => le_rfl
  | _, _, _, .present arguments => by
    have := arguments.length_lt
    simp only [List.length_cons]
    omega

theorem Arguments.length_lt : ∀ {s rest : List Char} {arguments : List TypeRef},
    Arguments s arguments rest → rest.length < s.length
  | _, _, _, .last reference gap => by
    have := reference.length_lt
    have := gap.length_le
    simp only [List.length_cons] at this
    omega
  | _, _, _, .more reference gap arguments => by
    have := reference.length_lt
    have hgap := gap.length_le
    have := arguments.length_lt
    simp only [List.length_cons] at hgap
    omega

end

end BindingPlan.TypeGrammar
