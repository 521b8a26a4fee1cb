import BindingPlan.Proofs.Program.LookUp
import BindingPlan.Qualifier
import Mathlib.Logic.Relation

/-! # Qualifiers as reachability

A class *carries* another one if an annotation of that other class is declared on it. An annotation
is a qualifier if a chain of carried classes, of any length, leads from its class to one that
carries a qualifier marker (`Program.IsQualifier`); the chain may pass through classes that are
declared nowhere, and classes may carry each other in circles.

The search finds the first qualifier among the annotations that are not skipped, and none only if
there is none (`qualifier?_exactly`). It keeps the classes that it has met over all annotations, so
what carries its proof is that they are explored: none of them carries a marker, and whatever they
carry has been met or is pending (`Explored`). -/

namespace BindingPlan

open Relation (ReflTransGen)

namespace Program

/-! ### Annotations on classes -/

/-- The annotations declared on a class: those of the last known entry of that name, or else those
of the first annotation class of that name that is declared. -/
inductive DeclaredOn (program : Program) (name : ClassName) : List AnnotationUse → Prop
  | known {front back : List AnnotationEntry} {entry : AnnotationEntry}
      (here : program.knownEntries = front ++ entry :: back) (named : entry.name = name)
      (last : ∀ later ∈ back, later.name ≠ name) : DeclaredOn program name entry.annotations
  | declared {front back : List Declaration} {d : ClassDeclaration}
      (unknown : ∀ entry ∈ program.knownEntries, entry.name ≠ name)
      (here : program.declarations = front ++ .type d :: back) (form : d.form = .annotationClass)
      (named : d.name = name) (first : ∀ earlier : ClassDeclaration, .type earlier ∈ front →
        earlier.form = .annotationClass → earlier.name ≠ name) :
      DeclaredOn program name d.annotations

/-- A class carries another one if an annotation of that other class is declared on it. -/
def Carries (program : Program) (name carried : ClassName) : Prop :=
  ∃ annotations, program.DeclaredOn name annotations ∧ ∃ a ∈ annotations, a.type = carried

/-- A chain of carried classes leads from the class to one that carries a marker. -/
def IsQualifier (program : Program) (markers : List ClassName) (name : ClassName) : Prop :=
  ∃ last, ReflTransGen program.Carries name last ∧ ∃ marker ∈ markers, program.Carries last marker

section LookUp
variable {program : Program} {name : ClassName} {annotations : List AnnotationUse}

theorem annotationsIn?_known_iff :
    annotationsIn? program.knownEntries.reverse name = some annotations ↔
      ∃ front entry back, program.knownEntries = front ++ entry :: back ∧ entry.name = name ∧
        (∀ later ∈ back, later.name ≠ name) ∧ entry.annotations = annotations := by
  rw [annotationsIn?, Option.map_eq_some_iff]
  constructor
  · rintro ⟨entry, found, rfl⟩
    obtain ⟨named, back, front, reversed, before⟩ := List.find?_eq_some_iff_append.mp found
    refine ⟨front.reverse, entry, back.reverse, ?_, by simpa using named, ?_, rfl⟩
    · rw [← List.reverse_inj, reversed]
      simp
    · intro later mem
      simpa using before later (List.mem_reverse.mp mem)
  · rintro ⟨front, entry, back, here, named, last, rfl⟩
    refine ⟨entry, List.find?_eq_some_iff_append.mpr ⟨by simpa using named, ?_⟩, rfl⟩
    refine ⟨back.reverse, front.reverse, by simp [here], fun later mem => ?_⟩
    simpa using last later (List.mem_reverse.mp mem)

theorem annotationsIn?_known_eq_none_iff :
    annotationsIn? program.knownEntries.reverse name = none ↔
      ∀ entry ∈ program.knownEntries, entry.name ≠ name := by
  simp [annotationsIn?]

/-- The declaration declares an annotation class of a name. -/
def declares (name : ClassName) (declaration : Declaration) : Bool :=
  declaredEntry? declaration |>.any (·.name == name)

theorem declares_iff {declaration : Declaration} : declares name declaration = true ↔
    ∃ d : ClassDeclaration, declaration = .type d ∧ d.form = .annotationClass ∧ d.name = name := by
  cases declaration with
  | type d => by_cases form : d.form = .annotationClass <;> simp [declares, declaredEntry?, form]
  | function d => simp [declares, declaredEntry?]
  | misc d => simp [declares, declaredEntry?]

theorem annotationsIn?_declared_iff :
    annotationsIn? (program.declarations.filterMap declaredEntry?) name = some annotations ↔
      ∃ front d back, program.declarations = front ++ .type d :: back ∧
        d.form = .annotationClass ∧ d.name = name ∧
        (∀ earlier : ClassDeclaration, .type earlier ∈ front →
          earlier.form = .annotationClass → earlier.name ≠ name) ∧ d.annotations = annotations := by
  have found : annotationsIn? (program.declarations.filterMap declaredEntry?) name =
      (program.declarations.find? (declares name)).bind fun declaration =>
        declaredEntry? declaration |>.map (·.annotations) := by
    rw [annotationsIn?, List.find?_filterMap, Option.map_bind]
    rfl
  rw [found, Option.bind_eq_some_iff]
  constructor
  · rintro ⟨declaration, first, entry⟩
    obtain ⟨declared, front, back, here, before⟩ := List.find?_eq_some_iff_append.mp first
    obtain ⟨d, rfl, form, named⟩ := declares_iff.mp declared
    refine ⟨front, d, back, here, form, named, ?_, ?_⟩
    · intro earlier mem form' named'
      have declared' : declares name (.type earlier) = true :=
        declares_iff.mpr ⟨earlier, rfl, form', named'⟩
      simpa [declared'] using before _ mem
    · simpa [form, declaredEntry?] using entry
  · rintro ⟨front, d, back, here, form, named, earliest, rfl⟩
    have declared : declares name (.type d) = true := declares_iff.mpr ⟨d, rfl, form, named⟩
    refine ⟨.type d, List.find?_eq_some_iff_append.mpr ⟨declared, front, back, here, ?_⟩, ?_⟩
    · intro declaration mem
      rw [Bool.not_eq_true', Bool.eq_false_iff]
      intro declared'
      obtain ⟨earlier, rfl, form', named'⟩ := declares_iff.mp declared'
      exact earliest earlier mem form' named'
    · simp [form, declaredEntry?]

/-- **What the search looks up is what is declared.** -/
theorem declaredOn_iff :
    program.DeclaredOn name annotations ↔
      annotationsIn? program.entries name = some annotations := by
  rw [entries, annotationsIn?_append, Option.or_eq_some_iff, annotationsIn?_known_iff,
    annotationsIn?_known_eq_none_iff, annotationsIn?_declared_iff]
  constructor
  · rintro (⟨here, named, last⟩ | ⟨unknown, here, form, named, first⟩)
    · exact .inl ⟨_, _, _, here, named, last, rfl⟩
    · exact .inr ⟨unknown, _, _, _, here, form, named, first, rfl⟩
  · rintro (⟨front, entry, back, here, named, last, rfl⟩ |
      ⟨unknown, front, d, back, here, form, named, first, rfl⟩)
    · exact .known here named last
    · exact .declared unknown here form named first

theorem carries_of_known (known : annotationsIn? program.entries name = some annotations)
    {carried : ClassName} : program.Carries name carried ↔ carried ∈ annotations.map (·.type) := by
  simp [Carries, declaredOn_iff, known]

theorem not_carries_of_unknown (unknown : annotationsIn? program.entries name = none)
    (carried : ClassName) : ¬ program.Carries name carried := by
  simp [Carries, declaredOn_iff, unknown]

end LookUp

/-! ### The search -/

section Search
variable {program : Program} {markers : List ClassName}

/-- No class that was met carries a marker, and what it carries was met or is pending. -/
structure Explored (program : Program) (markers met pending : List ClassName) : Prop where
  unmarked : ∀ c ∈ met, ∀ marker ∈ markers, ¬ program.Carries c marker
  carried : ∀ c ∈ met, ∀ d, program.Carries c d → d ∈ met ∨ d ∈ pending

theorem explored_nil (pending : List ClassName) : Explored program markers [] pending where
  unmarked := by simp
  carried := by simp

theorem Explored.of_subset {met pending pending' : List ClassName}
    (h : Explored program markers met pending) (more : pending ⊆ pending') :
    Explored program markers met pending' where
  unmarked := h.unmarked
  carried c mem d along := (h.carried c mem d along).imp_right (more ·)

theorem Explored.of_met {met pending : List ClassName} {name : ClassName} (again : name ∈ met)
    (h : Explored program markers met (name :: pending)) :
    Explored program markers met pending where
  unmarked := h.unmarked
  carried c mem d along := by
    rcases h.carried c mem d along with old | waits
    · exact .inl old
    · rcases List.mem_cons.mp waits with rfl | waits
      · exact .inl again
      · exact .inr waits

theorem Explored.meet {met pending pending' : List ClassName} {name : ClassName}
    (h : Explored program markers met (name :: pending))
    (unmarked : ∀ marker ∈ markers, ¬ program.Carries name marker)
    (carried : ∀ d, program.Carries name d → d ∈ pending') (more : pending ⊆ pending') :
    Explored program markers (name :: met) pending' where
  unmarked c mem := by
    rcases List.mem_cons.mp mem with rfl | mem
    · exact unmarked
    · exact h.unmarked c mem
  carried c mem d along := by
    rcases List.mem_cons.mp mem with rfl | mem
    · exact .inr (carried d along)
    · rcases h.carried c mem d along with old | waits
      · exact .inl (List.mem_cons_of_mem _ old)
      · rcases List.mem_cons.mp waits with rfl | waits
        · exact .inl List.mem_cons_self
        · exact .inr (more waits)

/-- Once nothing is pending, no chain from a class that was met leads to a marker. -/
theorem Explored.not_isQualifier {met : List ClassName} (h : Explored program markers met [])
    {name : ClassName} (mem : name ∈ met) : ¬ program.IsQualifier markers name := by
  rintro ⟨last, chain, marked⟩
  have closed : last ∈ met := by
    clear marked
    induction chain with
    | refl => exact mem
    | tail _ step ih => exact (h.carried _ ih _ step).resolve_right List.not_mem_nil
  obtain ⟨marker, marked, along⟩ := marked
  exact h.unmarked last closed marker marked along

theorem IsQualifier.of_carries {name carried : ClassName} (along : program.Carries name carried)
    (h : program.IsQualifier markers carried) : program.IsQualifier markers name := by
  obtain ⟨last, chain, marked⟩ := h
  exact ⟨last, .head along chain, marked⟩

/-- What a search comes to: one of the pending classes leads to a marker, or all of them are met and
explored, with everything that was met before. -/
def Settles (program : Program) (markers met pending : List ClassName) : MarkerSearch → Prop
  | .found => ∃ c ∈ pending, program.IsQualifier markers c
  | .exhausted met' => Explored program markers met' [] ∧ met ⊆ met' ∧ pending ⊆ met'

/-- If a search goes on from one class to what it carries, then what it comes to holds of the class
as well. -/
theorem Settles.of_step {met pending : List ClassName} {name : ClassName}
    (carried : List ClassName) (along : ∀ d ∈ carried, program.Carries name d)
    {result : MarkerSearch}
    (h : Settles program markers (name :: met) (carried ++ pending) result) :
    Settles program markers met (name :: pending) result := by
  cases result with
  | found =>
    obtain ⟨c, mem, qualifies⟩ := h
    rcases List.mem_append.mp mem with mem | mem
    · exact ⟨name, List.mem_cons_self, .of_carries (along c mem) qualifies⟩
    · exact ⟨c, List.mem_cons_of_mem _ mem, qualifies⟩
  | exhausted met' =>
    obtain ⟨explored, old, waited⟩ := h
    refine ⟨explored, fun c mem => old (List.mem_cons_of_mem _ mem), ?_⟩
    exact List.cons_subset.mpr ⟨old List.mem_cons_self, fun c mem => waited
      (List.mem_append_right _ mem)⟩

/-- **A search over explored classes settles what is pending.** -/
theorem settles_searchMarker {met pending : List ClassName}
    (h : Explored program markers met pending) :
    Settles program markers met pending (searchMarker markers program.entries met pending) := by
  -- along the search; the classes met stay explored with respect to what is pending
  fun_induction searchMarker markers program.entries met pending with
  | case1 met => exact ⟨h, List.Subset.refl met, List.nil_subset met⟩
  | case2 met name pending again ih =>
    have settled := ih (h.of_met again)
    cases result : searchMarker markers program.entries met pending with
    | found =>
      rw [result] at settled
      obtain ⟨c, mem, qualifies⟩ := settled
      exact ⟨c, List.mem_cons_of_mem _ mem, qualifies⟩
    | exhausted met' =>
      rw [result] at settled
      obtain ⟨explored, old, waited⟩ := settled
      exact ⟨explored, old, List.cons_subset.mpr ⟨old again, waited⟩⟩
  | case3 met name pending new missing ih =>
    have unknown : annotationsIn? program.entries name = none := by simp [annotationsIn?, missing]
    have nothing := not_carries_of_unknown unknown
    have explored : Explored program markers (name :: met) pending :=
      h.meet (fun marker _ => nothing marker) (fun d along => absurd along (nothing d))
        (List.Subset.refl pending)
    exact .of_step [] (by simp) (ih explored)
  | case4 met name pending new entry found carried marked =>
    have known : annotationsIn? program.entries name = some entry.annotations := by
      simp [annotationsIn?, found]
    obtain ⟨marker, mem, isMarker⟩ := List.any_eq_true.mp marked
    refine ⟨name, List.mem_cons_self, name, .refl, marker, by simpa using isMarker, ?_⟩
    exact (carries_of_known known).mpr mem
  | case5 met name pending new entry found carried unmarked ih =>
    have known : annotationsIn? program.entries name = some entry.annotations := by
      simp [annotationsIn?, found]
    have explored : Explored program markers (name :: met) (carried.reverse ++ pending) := by
      refine h.meet (fun marker mem along => unmarked ?_) (fun d along => ?_)
        (List.subset_append_right _ _)
      · exact List.any_eq_true.mpr ⟨marker, (carries_of_known known).mp along, by simpa using mem⟩
      · exact List.mem_append_left _ (List.mem_reverse.mpr ((carries_of_known known).mp along))
    refine .of_step carried.reverse (fun d mem => ?_) (ih explored)
    exact (carries_of_known known).mpr (List.mem_reverse.mp mem)

open Classical in
theorem qualifierBeyond?_eq_find? (skip : AnnotationUse → Bool) :
    ∀ {met : List ClassName} (_ : Explored program markers met [])
      (annotations : List AnnotationUse),
      qualifierBeyond? markers program.entries skip met annotations =
        annotations.find? fun a => !skip a && decide (program.IsQualifier markers a.type)
  | _, _, [] => rfl
  | met, h, a :: rest => by
    cases skipped : skip a with
    | true =>
      simp only [qualifierBeyond?, skipped, if_true, List.find?_cons, Bool.not_true, Bool.false_and]
      exact qualifierBeyond?_eq_find? skip h rest
    | false =>
      have settled : Settles program markers met [a.type]
          (searchMarker markers program.entries met [a.type]) :=
        settles_searchMarker (h.of_subset (List.nil_subset _))
      cases result : searchMarker markers program.entries met [a.type] with
      | found =>
        rw [result] at settled
        obtain ⟨c, mem, qualifies⟩ := settled
        rw [List.mem_singleton.mp mem] at qualifies
        simp [qualifierBeyond?, skipped, result, qualifies]
      | exhausted met' =>
        rw [result] at settled
        obtain ⟨explored, -, waited⟩ := settled
        have fails : ¬ program.IsQualifier markers a.type :=
          explored.not_isQualifier (waited List.mem_cons_self)
        have rest := qualifierBeyond?_eq_find? skip explored rest
        simpa [qualifierBeyond?, skipped, result, fails] using rest

end Search

end Program

/-- **The search for a qualifier is reachability.** It answers the first annotation that is not
skipped and whose class leads to a marker along the annotations on annotation classes, and it
answers none exactly if there is no such annotation. -/
theorem qualifier?_exactly (program : Program) (markers : List ClassName)
    (skip : AnnotationUse → Bool) (annotations : List AnnotationUse) :
    (∀ a, program.qualifier? markers skip annotations = some a ↔
      ∃ front back, annotations = front ++ a :: back ∧
        (skip a = false ∧ program.IsQualifier markers a.type) ∧
        ∀ b ∈ front, ¬ (skip b = false ∧ program.IsQualifier markers b.type)) ∧
    (program.qualifier? markers skip annotations = none ↔
      ∀ a ∈ annotations, ¬ (skip a = false ∧ program.IsQualifier markers a.type)) := by
  classical
  have search : program.qualifier? markers skip annotations =
      annotations.find? fun a => !skip a && decide (program.IsQualifier markers a.type) :=
    Program.qualifierBeyond?_eq_find? skip (Program.explored_nil []) annotations
  have fails : ∀ b, (!(!skip b && decide (program.IsQualifier markers b.type))) = true ↔
      ¬ (skip b = false ∧ program.IsQualifier markers b.type) := fun b => by
    cases skip b <;> simp
  rw [search]
  constructor
  · intro a
    simp only [List.find?_eq_some_iff_append, fails]
    constructor
    · rintro ⟨qualifies, front, back, here, before⟩
      exact ⟨front, back, here, by simpa using qualifies, before⟩
    · rintro ⟨front, back, here, qualifies, before⟩
      exact ⟨by simpa using qualifies, front, back, here, before⟩
  · rw [List.find?_eq_none]
    simp

end BindingPlan
