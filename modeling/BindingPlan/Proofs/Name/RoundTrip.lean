import BindingPlan.Proofs.Name.Reading

/-! # Types written and read back

The text of a type is read back as that type (`ofText?_text`) if every class in it, at any depth, is one
that a name made of name characters is read as. Each type that comes from a text is such a type. -/

namespace BindingPlan

open TypeGrammar
open TypeRef (isNameChar)

/-- The class is what some text made of characters of names stands for. -/
def ClassName.IsNamed (name : ClassName) : Prop :=
  ∃ text : String, text ≠ "" ∧ (∀ c ∈ text.toList, isNameChar c = true) ∧
    ClassName.ofDotted? text = .ok name

/-- Every class in the type is what some text stands for: its own class, those of its annotations, and
so on in its arguments at any depth. -/
inductive TypeRef.IsNamed : TypeRef → Prop where
  | mk {raw : ClassName} {arguments : List TypeRef} {nullable : Bool}
    {annotations : List ClassName} :
    raw.IsNamed → (∀ a ∈ annotations, a.IsNamed) → (∀ t ∈ arguments, TypeRef.IsNamed t) →
      TypeRef.IsNamed ⟨raw, arguments, nullable, annotations⟩

namespace TypeGrammar

/-! ### What is derived is named -/

theorem Word.isNamed {s rest : List Char} {name : ClassName} (h : Word s name rest) :
    name.IsNamed := by
  obtain ⟨chars, -, run, -, full, rfl⟩ := h
  refine ⟨String.ofList chars, ?_, by simpa using run, ClassName.ofDotted?_eq_ok_iff.mpr ⟨full, rfl⟩⟩
  intro empty
  rw [empty] at full
  exact full (by decide)

theorem Annotations.isNamed {s rest : List Char} {names : List ClassName}
    (h : Annotations s names rest) : ∀ name ∈ names, name.IsNamed := by
  induction h with
  | nil => simp
  | cons word _ _ ih => exact List.forall_mem_cons.mpr ⟨word.isNamed, ih⟩

mutual

theorem Reference.isNamed : ∀ {s rest : List Char} {type : TypeRef}, Reference s type rest →
    type.IsNamed
  | _, _, _, .mk _ front word _ bracketed _ _ => .mk word.isNamed front.isNamed bracketed.isNamed

theorem Bracketed.isNamed : ∀ {s rest : List Char} {arguments : List TypeRef},
    Bracketed s arguments rest → ∀ type ∈ arguments, type.IsNamed
  | _, _, _, .absent _ => by simp
  | _, _, _, .present arguments => arguments.isNamed

theorem Arguments.isNamed : ∀ {s rest : List Char} {arguments : List TypeRef},
    Arguments s arguments rest → ∀ type ∈ arguments, type.IsNamed
  | _, _, _, .last reference _ => by simpa using reference.isNamed
  | _, _, _, .more reference _ arguments =>
    List.forall_mem_cons.mpr ⟨reference.isNamed, arguments.isNamed⟩

end

/-! ### What is written is derived -/

/-- No name goes on into the text. -/
def Stops (rest : List Char) : Prop :=
  ∀ c ∈ rest.head?, isNameChar c = false

theorem stops_cons {c : Char} (h : isNameChar c = false) (rest : List Char) : Stops (c :: rest) := by
  rintro _ ⟨⟩
  exact h

theorem gap_space (rest : List Char) : Gap (' ' :: rest) rest :=
  ⟨[' '], List.forall_mem_singleton.mpr (by decide), rfl⟩

theorem word_dotted {name : ClassName} (named : name.IsNamed) {rest : List Char}
    (stops : Stops rest) : Word (name.dotted.toList ++ rest) name rest := by
  obtain ⟨text, -, run, read⟩ := named
  have own : name.dotted = text := ClassName.dotted_of_ofDotted? read
  refine word_iff.mpr ⟨?_, ?_⟩
  · rw [own, takeWhile_of_run run stops, String.ofList_toList, read]
  · rw [own, dropWhile_of_run run stops]

/-- The text of annotations in front of a type. -/
def annotationChars (names : List ClassName) : List Char :=
  names.flatMap fun name => '@' :: name.dotted.toList ++ [' ']

theorem annotations_chars {names : List ClassName} (named : ∀ name ∈ names, name.IsNamed)
    (rest : List Char) : Annotations (annotationChars names ++ rest) names rest := by
  induction names with
  | nil => exact .nil rest
  | cons name names ih =>
    obtain ⟨name_named, named⟩ := List.forall_mem_cons.mp named
    have word : Word (name.dotted.toList ++ ' ' :: (annotationChars names ++ rest)) name
        (' ' :: (annotationChars names ++ rest)) :=
      word_dotted name_named (stops_cons (by decide) _)
    have h := Annotations.cons word (gap_space _) (ih named)
    simpa [annotationChars] using h

/-- The text of type arguments, with their brackets. -/
def bracketedChars (arguments : List TypeRef) : List Char :=
  if arguments.isEmpty then []
  else '<' :: (String.intercalate ", " (TypeRef.texts arguments)).toList ++ ['>']

/-- The text of the mark for null. -/
def markChars (nullable : Bool) : List Char :=
  if nullable then ['?'] else []

theorem toList_text (type : TypeRef) : type.text.toList =
    annotationChars type.annotations ++ (type.raw.dotted.toList ++
      (bracketedChars type.arguments ++ markChars type.nullable)) := by
  obtain ⟨raw, arguments, nullable, annotations⟩ := type
  have front : (annotations.map fun a => "@" ++ a.dotted ++ " ").flatMap String.toList =
      annotationChars annotations := by
    simp [annotationChars, List.flatMap_map]
  rw [TypeRef.text]
  simp only [String.toList_append, String.toList_join, front, bracketedChars, markChars,
    List.append_assoc]
  cases arguments <;> cases nullable <;> simp

theorem mark_chars (nullable : Bool) (rest : List Char) :
    Mark (markChars nullable ++ rest) nullable rest := by
  cases nullable with
  | false => exact .absent rest
  | true => exact .present rest

theorem stops_markChars {rest : List Char} (stops : Stops rest) (nullable : Bool) :
    Stops (markChars nullable ++ rest) := by
  cases nullable with
  | false => exact stops
  | true => exact stops_cons (by decide) rest

theorem stops_bracketedChars {rest : List Char} (stops : Stops rest) (arguments : List TypeRef) :
    Stops (bracketedChars arguments ++ rest) := by
  cases arguments with
  | nil => exact stops
  | cons argument arguments => exact stops_cons (by decide) _

theorem Reference.of_gap {s s₁ rest : List Char} {type : TypeRef} (gap : Gap s s₁)
    (h : Reference s₁ type rest) : Reference s type rest := by
  cases h with
  | mk gap' front word bracket bracketed mark_gap mark =>
    exact .mk (gap.trans gap') front word bracket bracketed mark_gap mark

theorem Arguments.of_gap {s s₁ rest : List Char} {arguments : List TypeRef} (gap : Gap s s₁)
    (h : Arguments s₁ arguments rest) : Arguments s arguments rest := by
  cases h with
  | last reference behind => exact .last (reference.of_gap gap) behind
  | more reference behind arguments => exact .more (reference.of_gap gap) behind arguments

/-- The type is derived from its text, whatever stands behind it that a name does not go on into. -/
def Derived (type : TypeRef) : Prop :=
  ∀ rest, Stops rest → Reference (type.text.toList ++ rest) type rest

/-- Types derived from their texts are derived as arguments from these texts with commas between. -/
theorem arguments_chars {argument : TypeRef} : ∀ {arguments : List TypeRef}, Derived argument →
    (∀ t ∈ arguments, Derived t) → ∀ rest,
      Arguments ((String.intercalate ", " (TypeRef.texts (argument :: arguments))).toList ++
        '>' :: rest) (argument :: arguments) rest
  | [], derived, _, rest => by
    have reference := derived ('>' :: rest) (stops_cons (by decide) rest)
    simpa [TypeRef.texts] using Arguments.last reference (.refl _)
  | next :: arguments, derived, all, rest => by
    obtain ⟨next_derived, all⟩ := List.forall_mem_cons.mp all
    have tail := arguments_chars next_derived all rest
    have reference := derived (',' :: ' ' :: ((String.intercalate ", "
      (TypeRef.texts (next :: arguments))).toList ++ '>' :: rest)) (stops_cons (by decide) _)
    have h := Arguments.more reference (.refl _) (tail.of_gap (gap_space _))
    simpa [TypeRef.texts, String.intercalate_cons_cons] using h

theorem bracketed_chars {arguments : List TypeRef} (all : ∀ t ∈ arguments, Derived t)
    (rest : List Char) : Bracketed (bracketedChars arguments ++ rest) arguments rest := by
  cases arguments with
  | nil => exact .absent rest
  | cons argument arguments =>
    obtain ⟨derived, all⟩ := List.forall_mem_cons.mp all
    have h := Bracketed.present (arguments_chars derived all rest)
    simpa [bracketedChars] using h

/-- **Every named type is derived from its text.** -/
theorem derived_of_isNamed {type : TypeRef} (named : type.IsNamed) : Derived type := by
  induction named with
  | @mk raw arguments nullable annotations raw_named annotations_named _ derived =>
    intro rest stops
    have stops' := stops_bracketedChars (stops_markChars stops nullable) arguments
    rw [toList_text]
    simp only [List.append_assoc]
    exact .mk (.refl _) (annotations_chars annotations_named _) (word_dotted raw_named stops')
      (.refl _) (bracketed_chars derived _) (.refl _) (mark_chars nullable rest)

end TypeGrammar

namespace TypeRef

theorem ofText?_text_of_isNamed {type : TypeRef} (named : type.IsNamed) :
    ofText? type.text = .ok type := by
  have reference := derived_of_isNamed named [] (by simp [Stops])
  rw [List.append_nil] at reference
  exact ofText?_eq_ok_iff.mpr ⟨[], reference, .refl []⟩

theorem isNamed_of_ofText? {text : String} {type : TypeRef} (h : ofText? text = .ok type) :
    type.IsNamed := by
  obtain ⟨rest, reference, -⟩ := ofText?_eq_ok_iff.mp h
  exact reference.isNamed

/-- **Writing a type and reading it back is the identity** on the types that a text can stand for: these
are the named ones, each is read back from the text written for it, whatever text it came from, and so
different types have different texts. -/
theorem ofText?_text :
    (∀ type : TypeRef, type.IsNamed → ofText? type.text = .ok type) ∧
    (∀ (text : String) (type : TypeRef), ofText? text = .ok type →
      type.IsNamed ∧ ofText? type.text = .ok type) ∧
    (∀ (text text' : String) (type type' : TypeRef), ofText? text = .ok type →
      ofText? text' = .ok type' → type.text = type'.text → type = type') := by
  refine ⟨fun type => ofText?_text_of_isNamed, fun text type h => ?_, ?_⟩
  · have named := isNamed_of_ofText? h
    exact ⟨named, ofText?_text_of_isNamed named⟩
  · intro text text' type type' h h' same
    have read := ofText?_text_of_isNamed (isNamed_of_ofText? h)
    rw [same, ofText?_text_of_isNamed (isNamed_of_ofText? h')] at read
    exact (Except.ok.inj read).symm

theorem ofText?_text_exampleNested :
    exampleNested.IsNamed ∧ ofText? exampleNested.text = .ok exampleNested ∧
      ∀ type, ofText? "@a.B c.D<e.F,g.H<k.L?>>?" = .ok type → type.text = exampleNested.text →
        type = exampleNested := by
  obtain ⟨of_named, of_read, same_text⟩ := ofText?_text
  have read : ofText? " @a.B c.D < e.F , g.H < k.L ? > > ? " = .ok exampleNested := by decide +kernel
  have named := (of_read _ _ read).1
  exact ⟨named, of_named _ named, fun type h => same_text _ _ _ _ h read⟩

end TypeRef

end BindingPlan
