import BindingPlan.Pass
import Mathlib.Data.List.Nodup

/-! # What resolution reads of a program

Resolving a declaration reads the program only through look-ups of annotation classes: the search for
a qualifier asks for the annotations on one class after the other, and nothing else asks at all. So
a candidate comes to the same in programs that answer all look-ups alike (`ofCandidate_congr`), such
as programs whose annotation classes are reported in another order under names of their own
(`AnswersAlike.of_perm`). -/

namespace BindingPlan

/-! ### Look-ups -/

/-- The annotations on a class, from the first entry of its name. -/
def annotationsIn? (entries : List AnnotationEntry) (name : ClassName) :
    Option (List AnnotationUse) :=
  (entries.find? (·.name == name)).map (·.annotations)

/-- Two lists of entries answer every look-up alike. -/
def AnswersAlike (entries entries' : List AnnotationEntry) : Prop :=
  ∀ name, annotationsIn? entries name = annotationsIn? entries' name

theorem annotationsIn?_append (entries entries' : List AnnotationEntry) (name : ClassName) :
    annotationsIn? (entries ++ entries') name =
      (annotationsIn? entries name).or (annotationsIn? entries' name) := by
  simp only [annotationsIn?, List.find?_append]
  cases entries.find? (·.name == name) <;> simp

section AnswersAlike
variable {entries entries' : List AnnotationEntry}

theorem AnswersAlike.append {front front' : List AnnotationEntry}
    (alike : AnswersAlike front front') (alike' : AnswersAlike entries entries') :
    AnswersAlike (front ++ entries) (front' ++ entries') := by
  intro name
  rw [annotationsIn?_append, annotationsIn?_append, alike name, alike' name]

theorem find?_eq_some_iff_of_nodup {α β : Type} [BEq β] [LawfulBEq β] {key : α → β} {items : List α}
    (distinct : (items.map key).Nodup) {k : β} {a : α} :
    items.find? (key · == k) = some a ↔ a ∈ items ∧ key a = k := by
  constructor
  · intro h
    exact ⟨List.mem_of_find?_eq_some h, by simpa using List.find?_some h⟩
  · rintro ⟨mem, rfl⟩
    obtain ⟨found, hfound⟩ : ∃ found, items.find? (key · == key a) = some found :=
      Option.isSome_iff_exists.mp (List.find?_isSome.mpr ⟨a, mem, beq_self_eq_true _⟩)
    have same : key found = key a := by simpa using List.find?_some hfound
    rw [hfound, List.inj_on_of_nodup_map distinct (List.mem_of_find?_eq_some hfound) mem same]

/-- **The order of entries does not matter** where they have names of their own. -/
theorem AnswersAlike.of_perm (perm : entries.Perm entries')
    (distinct : (entries.map (·.name)).Nodup) : AnswersAlike entries entries' := by
  have distinct' : (entries'.map (·.name)).Nodup := (perm.map _).nodup_iff.mp distinct
  intro name
  have same : entries.find? (·.name == name) = entries'.find? (·.name == name) := by
    refine Option.ext fun entry => ?_
    rw [find?_eq_some_iff_of_nodup distinct, find?_eq_some_iff_of_nodup distinct', perm.mem_iff]
  rw [annotationsIn?, annotationsIn?, same]

/-! ### The search -/

theorem searchMarker_nil (markers : List ClassName) (entries : List AnnotationEntry)
    (met : List ClassName) : searchMarker markers entries met [] = .exhausted met := by
  rw [searchMarker]

theorem searchMarker_of_met {met : List ClassName} {name : ClassName} (h : name ∈ met)
    (markers : List ClassName) (entries : List AnnotationEntry) (pending : List ClassName) :
    searchMarker markers entries met (name :: pending) =
      searchMarker markers entries met pending := by
  rw [searchMarker, if_pos h]

/-- A step to a class that was not met reads one look-up. -/
theorem searchMarker_of_new {met : List ClassName} {name : ClassName} (h : name ∉ met)
    (markers : List ClassName) (entries : List AnnotationEntry) (pending : List ClassName) :
    searchMarker markers entries met (name :: pending) =
      match annotationsIn? entries name with
      | none => searchMarker markers entries (name :: met) pending
      | some annotations =>
        if (annotations.map (·.type)).any (· ∈ markers) then .found
        else searchMarker markers entries (name :: met)
          ((annotations.map (·.type)).reverse ++ pending) := by
  rw [searchMarker, if_neg h, annotationsIn?]
  split
  next none => simp [none]
  next entry found => simp [found]

/-- **The search reads nothing but look-ups.** -/
theorem searchMarker_congr (markers met pending : List ClassName)
    (alike : AnswersAlike entries entries') :
    searchMarker markers entries met pending = searchMarker markers entries' met pending := by
  fun_induction searchMarker markers entries met pending with
  | case1 met => rw [searchMarker_nil]
  | case2 met name pending again ih => rw [searchMarker_of_met again, ih]
  | case3 met name pending new missing ih =>
    have unknown : annotationsIn? entries name = none := by simp [annotationsIn?, missing]
    rw [searchMarker_of_new new, ← alike name, unknown]
    exact ih
  | case4 met name pending new entry found carried marked =>
    have known : annotationsIn? entries name = some entry.annotations := by
      simp [annotationsIn?, found]
    rw [searchMarker_of_new new, ← alike name, known]
    exact (if_pos marked).symm
  | case5 met name pending new entry found carried unmarked ih =>
    have known : annotationsIn? entries name = some entry.annotations := by
      simp [annotationsIn?, found]
    rw [searchMarker_of_new new, ← alike name, known, ih]
    exact (if_neg unmarked).symm

end AnswersAlike

/-! ### Resolution -/

section Congr
variable {program program' : Program}

theorem qualifier?_congr (alike : AnswersAlike program.entries program'.entries)
    (markers : List ClassName) (skip : AnnotationUse → Bool) (annotations : List AnnotationUse) :
    program.qualifier? markers skip annotations = program'.qualifier? markers skip annotations := by
  have search : searchMarker markers program.entries = searchMarker markers program'.entries :=
    funext fun met => funext fun pending => searchMarker_congr markers met pending alike
  have found : ∀ met, qualifierBeyond? markers program.entries skip met annotations =
      qualifierBeyond? markers program'.entries skip met annotations := by
    induction annotations with
    | nil => exact fun _ => rfl
    | cons a rest ih => simp only [qualifierBeyond?, search, ih, implies_true]
  exact found []

variable (config : Config)

theorem ofRequest_congr (alike : AnswersAlike program.entries program'.entries)
    (request : BindingRequest) (annotations : List AnnotationUse) (location : Location)
    (exposed : TypeRef) :
    ContainerIdentity.ofRequest config program request annotations location exposed =
      ContainerIdentity.ofRequest config program' request annotations location exposed := by
  simp only [ContainerIdentity.ofRequest, BindingRequest.suffix?, qualifier?_congr alike]

theorem ofDeclaration_congr (alike : AnswersAlike program.entries program'.entries)
    (declaration : Declaration) (request : BindingRequest) :
    Binding.ofDeclaration config program declaration request =
      Binding.ofDeclaration config program' declaration request := by
  simp only [Binding.ofDeclaration, Binding.ofClass, Binding.ofFunction, Binding.forClass,
    Binding.forFunction, ofRequest_congr config alike]

/-- **A candidate comes to the same** in programs that answer all look-ups alike. -/
theorem ofCandidate_congr (alike : AnswersAlike program.entries program'.entries) :
    Binding.ofCandidate config program = Binding.ofCandidate config program' := by
  funext candidate
  simp only [Binding.ofCandidate, ofDeclaration_congr config alike]

end Congr

end BindingPlan
