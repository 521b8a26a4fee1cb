import BindingPlan.Proofs.Binding.TestOverride
import BindingPlan.Proofs.Program.LookUp
import BindingPlan.Proofs.Program.Traversal

/-! # One more declaration

A declaration does not disturb the others. Put anywhere among them, it adds its binding or its
diagnostic at one place of the resolution, or nothing if it has no marker, and everything else stays
as it was and in its order (`resolution_adds`). Only an annotation class is excepted, since the
search for qualifiers reads what is on it. Without a binding of its own the declaration leaves the
containers alone. -/

namespace BindingPlan

/-- The declaration is that of an annotation class. -/
def Declaration.DeclaresAnnotation : Declaration → Prop
  | .type d => d.form = .annotationClass
  | _ => False

instance : DecidablePred Declaration.DeclaresAnnotation
  | .type d => inferInstanceAs (Decidable (d.form = .annotationClass))
  | .function _ => inferInstanceAs (Decidable False)
  | .misc _ => inferInstanceAs (Decidable False)

theorem declaredEntry?_eq_none {d : Declaration} (ordinary : ¬ d.DeclaresAnnotation) :
    Program.declaredEntry? d = none := by
  cases d with
  | type d => exact if_neg ordinary
  | function d => rfl
  | misc d => rfl

/-- The diagnostic of a result that is an error, at a declaration. -/
def Diagnostic.ofResult? (declaration : Declaration) :
    Except BindingError Binding → Option Diagnostic
  | .ok _ => none
  | .error error => some (.ofError declaration error)

/-- What one more declaration adds to a resolution, going by what it resolves to: nothing, or its
binding between the other bindings, or its diagnostic between the other diagnostics. -/
inductive Resolution.Adds (d : Declaration) :
    Option (Except BindingError Binding) → Resolution → Resolution → Prop where
  | nothing (resolution : Resolution) : Adds d none resolution resolution
  | binding (front back : List Binding) (b : Binding) (diagnostics : List Diagnostic) :
    Adds d (some (.ok b)) ⟨front ++ back, diagnostics⟩ ⟨front ++ b :: back, diagnostics⟩
  | diagnostic (bindings : List Binding) (front back : List Diagnostic) (error : BindingError) :
    Adds d (some (.error error)) ⟨bindings, front ++ back⟩
      ⟨bindings, front ++ .ofError d error :: back⟩

theorem Resolution.Adds.bindings_eq {d : Declaration} {resolution resolution' : Resolution}
    {result : Option (Except BindingError Binding)}
    (adds : Resolution.Adds d result resolution resolution') (unbound : ∀ b, result ≠ some (.ok b)) :
    resolution'.bindings = resolution.bindings := by
  cases adds with
  | nothing => rfl
  | binding front back b => exact absurd rfl (unbound b)
  | diagnostic => rfl

section OneMore
variable {config : Config}

/-- The diagnostics of a pass are those that its declarations come to, in the order of traversal. -/
theorem diagnostics_eq (config : Config) (program : Program) :
    (program.resolution config).diagnostics = program.traversal.filterMap fun d =>
      (program.resolve? config d).bind (Diagnostic.ofResult? d) := by
  simp only [Program.resolution, candidates_eq_filterMap, List.filterMap_filterMap]
  refine List.filterMap_congr fun d _ => ?_
  rw [Program.resolve?]
  cases h : config.markers.marks d with
  | false =>
    rw [candidate?_of_not_marks h]
    rfl
  | true =>
    rw [candidate?_of_marks h, Option.bind_some, Option.map_some, Option.bind_some,
      Candidate.diagnostic?]
    cases Binding.ofCandidate config program ⟨d, config.markers.markersOn d.annotations⟩ <;> rfl

theorem resolution_eq (config : Config) (program : Program) : program.resolution config =
    ⟨program.traversal.filterMap fun d => (program.resolve? config d).bind Except.toOption,
      program.traversal.filterMap fun d =>
        (program.resolve? config d).bind (Diagnostic.ofResult? d)⟩ := by
  rw [← bindings_eq, ← diagnostics_eq]

theorem resolve?_congr {program program' : Program}
    (alike : AnswersAlike program.entries program'.entries) :
    program.resolve? config = program'.resolve? config := by
  funext d
  rw [Program.resolve?, Program.resolve?, ofCandidate_congr config alike]

theorem resolve?_eq_none_iff {program : Program} {d : Declaration} :
    program.resolve? config d = none ↔ config.markers.marks d = false := by
  rw [Program.resolve?, Option.map_eq_none_iff]
  cases h : config.markers.marks d with
  | false => simp [candidate?_of_not_marks h]
  | true => simp [candidate?_of_marks h]

/-- **A declaration does not disturb the others.** Put anywhere among them, it adds to the resolution
what it resolves to, at one place; and if it has no marker or fails, the containers are the same as
without it. -/
theorem resolution_adds (config : Config) (before after : List Declaration)
    (known : List AnnotationEntry) {d : Declaration} (ordinary : ¬ d.DeclaresAnnotation) :
    let program : Program := ⟨before ++ after, known⟩
    let program' : Program := ⟨before ++ d :: after, known⟩
    Resolution.Adds d (program'.resolve? config d) (program.resolution config)
        (program'.resolution config) ∧
      (config.markers.marks d = false ∨ (∃ error, program'.resolve? config d = some (.error error)) →
        (program'.plan config).containers = (program.plan config).containers) := by
  intro program program'
  have entries : program.entries = program'.entries := by
    simp only [program, program', Program.entries, List.filterMap_append, List.filterMap_cons,
      declaredEntry?_eq_none ordinary]
  have resolve : program.resolve? config = program'.resolve? config :=
    resolve?_congr fun name => by rw [entries]
  obtain ⟨front, back, traversal, traversal'⟩ := Program.traversal_oneMore before after known d
  have adds : Resolution.Adds d (program'.resolve? config d) (program.resolution config)
      (program'.resolution config) := by
    rw [resolution_eq config program, resolution_eq config program', traversal, traversal', resolve]
    simp only [List.filterMap_append, List.filterMap_cons]
    cases program'.resolve? config d with
    | none => exact .nothing _
    | some result =>
      cases result with
      | ok b => exact .binding _ _ b _
      | error error => exact .diagnostic _ _ _ error
  refine ⟨adds, fun unbound => congrArg (Container.ofBindings config) (adds.bindings_eq ?_)⟩
  intro b bound
  obtain unmarked | ⟨error, failed⟩ := unbound
  · rw [resolve?_eq_none_iff.mpr unmarked] at bound
    cases bound
  · rw [failed] at bound
    cases bound

end OneMore

/-- A property under a marker that is only for classes. -/
def exampleProperty : Declaration :=
  .misc
    { name := "something"
      element := "property"
      annotations := [.ofClass (MarkerClasses.default.classOf ⟨.bind, .production⟩)]
      location := some ⟨"Property.kt", "com.example"⟩ }

/-- The misplaced marker adds a diagnostic, and the container of the stub is the same without it. -/
theorem resolution_adds_exampleProperty :
    let program : Program := ⟨[.type exampleStub], []⟩
    let program' : Program := ⟨[.type exampleStub, exampleProperty], []⟩
    ¬ exampleProperty.DeclaresAnnotation ∧ ∃ error,
      program'.resolve? .default exampleProperty = some (.error error) ∧
      Resolution.Adds exampleProperty (some (.error error)) (program.resolution .default)
        (program'.resolution .default) ∧
      (program'.plan .default).containers = (program.plan .default).containers := by
  intro program program'
  have ordinary : ¬ exampleProperty.DeclaresAnnotation := by decide
  have failed : program'.resolve? .default exampleProperty =
      some (.error (.unbindable "com.example.something" "property" "type-binding")) := by cbv
  obtain ⟨adds, undisturbed⟩ := resolution_adds .default [.type exampleStub] [] [] ordinary
  exact ⟨ordinary, _, failed, failed ▸ adds, undisturbed (.inr ⟨_, failed⟩)⟩

end BindingPlan
