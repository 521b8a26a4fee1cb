import BindingPlan.Proofs.Document.RoundTrip
import BindingPlan.Proofs.Name.Dotless

/-! # Where reading puts the parts of a class name

A class name can be put together of any texts, but reading a dotted text gives only some of them: the
parts have no dots in them and are not empty, no part of the package begins with a capital, and the
class part begins with one unless it is a single part (`ClassName.WellParted`). The name that reading
gives for a text is the one of this sort that has the text (`ofDotted?_eq_ok_iff_wellParted`), and
there is one just if no part of the text is empty. A document loses the blanks at the ends of a text.
So a name comes back from a document just if it is of this sort and its text has no blanks there
(`readBack_exactly`). -/

namespace BindingPlan.ClassName

/-- The parts can be those of a class and the classes around it: the first one begins with a capital,
or it is the only one. -/
def IsClassPart (parts : List String) : Prop :=
  parts.head?.any startsClass = true ∨ parts.length = 1

/-- The parts of a class name are where reading puts them. -/
@[mk_iff]
structure WellParted (name : ClassName) : Prop where
  simpleNames_ne_nil : name.simpleNames ≠ []
  simpleNames : ∀ part ∈ name.simpleNames, part ≠ "" ∧ Dotless part
  package : name.package = "" ∨
    ∀ part ∈ segments name.package, part ≠ "" ∧ startsClass part = false
  classPart : IsClassPart name.simpleNames

instance (parts : List String) : Decidable (IsClassPart parts) :=
  inferInstanceAs (Decidable (_ ∨ _))

instance (name : ClassName) : Decidable name.WellParted :=
  decidable_of_iff _ (wellParted_iff name).symm

/-! ### The split -/

theorem startsClass_of_mem_package {parts : List String} {part : String}
    (mem : part ∈ (splitSegments parts).1) : startsClass part = false := by
  unfold splitSegments at mem
  split at mem
  next all =>
    have lower := List.dropWhile_eq_nil_iff.mp all part (List.dropLast_subset _ mem)
    simpa using lower
  next => simpa using List.mem_takeWhile_imp mem

theorem isClassPart_splitSegments {parts : List String} (some : parts ≠ []) :
    IsClassPart (splitSegments parts).2 := by
  unfold splitSegments
  split
  next =>
    obtain ⟨part, last⟩ := Option.isSome_iff_exists.mp (List.getLast?_isSome.mpr some)
    exact .inr (by simp [last])
  next classPart found =>
    obtain ⟨first, rest, split⟩ := List.exists_cons_of_ne_nil found
    have upper := List.head?_dropWhile_not (!startsClass ·) parts
    rw [split] at upper ⊢
    exact .inl (by simpa using upper)

/-- The split is where it has to be: behind parts without capitals and before a class part. -/
theorem splitSegments_append_of_lower {front back : List String}
    (lower : ∀ part ∈ front, startsClass part = false) (classPart : IsClassPart back) :
    splitSegments (front ++ back) = (front, back) := by
  have skipped : ∀ part ∈ front, (!startsClass part) = true := fun part mem => by
    simp [lower part mem]
  rw [splitSegments, List.dropWhile_append_of_pos skipped, List.takeWhile_append_of_pos skipped]
  match back, classPart with
  | [], classPart => simp [IsClassPart] at classPart
  | first :: rest, classPart =>
    cases upper : startsClass first with
    | true => simp [upper]
    | false =>
      obtain rfl : rest = [] := by simpa [IsClassPart, upper] using classPart
      simp [upper]

/-! ### Reading -/

theorem wellParted_ofSegments {parts : List String} (full : "" ∉ parts) (some : parts ≠ [])
    (dotless : ∀ part ∈ parts, Dotless part) : (ofSegments parts).WellParted := by
  have whole := splitSegments_append parts
  have sub : ∀ part ∈ (splitSegments parts).1 ++ (splitSegments parts).2, part ≠ "" ∧ Dotless part := by
    rw [whole]
    exact fun part mem => ⟨fun e => full (e ▸ mem), dotless part mem⟩
  obtain ⟨package, simple⟩ := List.forall_mem_append.mp sub
  refine ⟨splitSegments_ne_nil some, simple, ?_, isClassPart_splitSegments some⟩
  by_cases none : (splitSegments parts).1 = []
  · exact .inl (by rw [ofSegments, none]; rfl)
  · refine .inr fun part mem => ?_
    rw [ofSegments, segments_intercalate none fun part mem => (package part mem).2] at mem
    exact ⟨(package part mem).1, startsClass_of_mem_package mem⟩

theorem WellParted.ofDotted?_dotted {name : ClassName} (h : name.WellParted) :
    ofDotted? name.dotted = .ok name := by
  have dotless : ∀ part ∈ name.simpleNames, Dotless part := fun part mem => (h.simpleNames part mem).2
  rw [ofDotted?_eq_ok_iff, segments_dotted h.simpleNames_ne_nil dotless]
  have lower : ∀ part ∈ if name.package = "" then [] else segments name.package,
      part ≠ "" ∧ startsClass part = false := by
    split_ifs with none
    · exact List.forall_mem_nil _
    · exact h.package.resolve_left none
  constructor
  · rw [List.mem_append, not_or]
    exact ⟨fun mem => (lower "" mem).1 rfl, fun mem => (h.simpleNames "" mem).1 rfl⟩
  · rw [ofSegments, splitSegments_append_of_lower (fun part mem => (lower part mem).2) h.classPart]
    split_ifs with none
    · rw [String.intercalate_nil, ← none]
    · rw [intercalate_segments]

/-- **The name that a text is read as** is the well-parted one with that text. -/
theorem ofDotted?_eq_ok_iff_wellParted {text : String} {name : ClassName} :
    ofDotted? text = .ok name ↔ name.WellParted ∧ name.dotted = text := by
  constructor
  · intro h
    refine ⟨?_, dotted_of_ofDotted? h⟩
    obtain ⟨full, rfl⟩ := ofDotted?_eq_ok_iff.mp h
    exact wellParted_ofSegments full (segments_ne_nil text) fun _ => dotless_of_mem_segments
  · rintro ⟨h, rfl⟩
    exact h.ofDotted?_dotted

theorem ofDotted?_append_dot {package simple : String}
    (parts : ∀ part ∈ segments package, part ≠ "" ∧ startsClass part = false)
    (dotless : Dotless simple) (ne : simple ≠ "") :
    ofDotted? (package ++ "." ++ simple) = .ok ⟨package, [simple]⟩ := by
  have parted : WellParted ⟨package, [simple]⟩ :=
    ⟨List.cons_ne_nil _ _, List.forall_mem_singleton.mpr ⟨ne, dotless⟩, .inr parts, .inr rfl⟩
  have package_ne : package ≠ "" := by
    rintro rfl
    exact (parts "" (by decide)).1 rfl
  exact ofDotted?_eq_ok_iff_wellParted.mpr ⟨parted, dotted_of_package package_ne⟩

/-- A text is read as a name just if none of its parts is empty. -/
theorem exists_ofDotted?_iff {text : String} :
    (∃ name, ofDotted? text = .ok name) ↔ text ≠ "" ∧ ∀ part ∈ segments text, part ≠ "" := by
  simp only [ofDotted?_eq_ok_iff, exists_and_left, exists_eq, and_true]
  constructor
  · intro full
    refine ⟨?_, fun part mem e => full (e ▸ mem)⟩
    rintro rfl
    exact full (by decide)
  · exact fun h mem => h.2 "" mem rfl

theorem WellParted.startsClass_package {name : ClassName} (h : name.WellParted) :
    ∀ part ∈ segments name.package, startsClass part = false := by
  rcases h.package with none | lower
  · rw [none]
    decide
  · exact fun part mem => (lower part mem).2

/-! ### Documents -/

/-- There is no blank at either end of the text. -/
def HasSolidEnds (text : String) : Prop :=
  (∀ c ∈ text.toList.head?, Text.isBlank c = false) ∧
    ∀ c ∈ text.toList.getLast?, Text.isBlank c = false

-- the characters at the ends are looked at; the instance for all characters would go through these
instance (text : String) : Decidable (HasSolidEnds text) :=
  @instDecidableAnd _ _ (Option.decidableForallMem _) (Option.decidableForallMem _)

theorem expressible_iff {name : ClassName} :
    name.Expressible ↔ name.WellParted ∧ HasSolidEnds name.dotted := by
  rw [Expressible, ofDotted?_eq_ok_iff_wellParted, eq_comm, Text.trim_eq_self_iff, HasSolidEnds]

/-- **A dotted text is read without loss** if none of its parts is empty, and as a name with the class
part where the capitals begin. A name comes back from a document just if it is well-parted and its text
has no blanks at its ends. -/
theorem readBack_exactly :
    (∀ text, (∃ name, ofDotted? text = .ok name) ↔ text ≠ "" ∧ ∀ part ∈ segments text, part ≠ "") ∧
    (∀ text name, ofDotted? text = .ok name → name.dotted = text ∧
      (∀ part ∈ segments name.package, startsClass part = false) ∧
      name.simpleNames ≠ [] ∧ IsClassPart name.simpleNames) ∧
    (∀ name : ClassName, Document.className name.toJson = .ok name ↔
      name.WellParted ∧ HasSolidEnds name.dotted) := by
  refine ⟨fun _ => exists_ofDotted?_iff, fun text name read => ?_, fun name => ?_⟩
  · obtain ⟨parted, text_eq⟩ := ofDotted?_eq_ok_iff_wellParted.mp read
    exact ⟨text_eq, parted.startsClass_package, parted.simpleNames_ne_nil, parted.classPart⟩
  · rw [← expressible_iff]
    exact ⟨Document.expressible_of_className, Document.className_toJson⟩

/-- A nested class comes back; a class of a package that looks like another class does not. -/
theorem readBack_exactly_nested :
    let inner : ClassName := ⟨"com.example", ["Outer", "Inner"]⟩
    let odd : ClassName := ⟨"com.Example", ["Outer"]⟩
    ofDotted? "com.example.Outer.Inner" = .ok inner ∧ inner.dotted = "com.example.Outer.Inner" ∧
      IsClassPart inner.simpleNames ∧ Document.className inner.toJson = .ok inner ∧
      Document.className odd.toJson ≠ .ok odd := by
  intro inner odd
  obtain ⟨-, read, back⟩ := readBack_exactly
  have read_inner : ofDotted? "com.example.Outer.Inner" = .ok inner := by decide +kernel
  obtain ⟨text, -, -, classPart⟩ := read _ _ read_inner
  refine ⟨read_inner, text, classPart, (back inner).mpr (by decide +kernel), fun h => ?_⟩
  exact absurd ((back odd).mp h).1 (by decide +kernel)

end BindingPlan.ClassName
