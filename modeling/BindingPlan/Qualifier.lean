import BindingPlan.Program

/-! # Qualifiers

An annotation is a qualifier if its class carries one of the qualifier markers, or carries an
annotation whose class does, and so on along any chain of annotations on annotation classes. Chains
may run in circles; the search keeps the classes that it has met and does not go on from them again,
and so it ends. It keeps them from one annotation to the next: a class that was met without success
is not looked at twice. -/

namespace BindingPlan

/-- The entries of the classes that have not been met. -/
def entriesBeyond (met : List ClassName) (entries : List AnnotationEntry) : List AnnotationEntry :=
  entries.filter (·.name ∉ met)

theorem entriesBeyond_cons (name : ClassName) (met : List ClassName)
    (entries : List AnnotationEntry) :
    entriesBeyond (name :: met) entries = (entriesBeyond met entries).filter (·.name != name) := by
  simp only [entriesBeyond, List.filter_filter]
  refine List.filter_congr fun entry _ => ?_
  by_cases e : entry.name = name <;> simp [e]

theorem length_entriesBeyond_le (name : ClassName) (met : List ClassName)
    (entries : List AnnotationEntry) :
    (entriesBeyond (name :: met) entries).length ≤ (entriesBeyond met entries).length := by
  rw [entriesBeyond_cons]
  exact List.length_filter_le _ _

/-- A class that has an entry and is met for the first time takes one away. -/
theorem length_entriesBeyond_lt {name : ClassName} {met : List ClassName}
    {entries : List AnnotationEntry} {entry : AnnotationEntry} (new : name ∉ met)
    (found : entries.find? (·.name == name) = some entry) :
    (entriesBeyond (name :: met) entries).length < (entriesBeyond met entries).length := by
  have named : entry.name = name := by simpa using List.find?_some found
  have there : entry ∈ entriesBeyond met entries :=
    List.mem_filter.2 ⟨List.mem_of_find?_eq_some found, by simp [named, new]⟩
  rw [entriesBeyond_cons]
  exact List.length_filter_lt_length_iff_exists.2 ⟨entry, there, by simp [named]⟩

/-- What a search for a marker comes to. -/
inductive MarkerSearch where
  /-- There is a marker on one of the classes. -/
  | found
  /-- There is none, and these are the classes met by then. -/
  | exhausted (met : List ClassName)

/-- Looks for a marker on the pending classes and on all classes that they lead to, except for those
that were met before. Of the annotations on a class the last one is followed first. -/
def searchMarker (markers : List ClassName) (entries : List AnnotationEntry) :
    List ClassName → List ClassName → MarkerSearch
  | met, [] => .exhausted met
  | met, name :: pending =>
    if name ∈ met then searchMarker markers entries met pending
    else
      match _found : entries.find? (·.name == name) with
      | none => searchMarker markers entries (name :: met) pending
      | some entry =>
        let carried := entry.annotations.map (·.type)
        if carried.any (· ∈ markers) then .found
        else searchMarker markers entries (name :: met) (carried.reverse ++ pending)
termination_by met pending => ((entriesBeyond met entries).length, pending.length)
decreasing_by
  · exact Prod.Lex.right _ (by simp)
  · rcases Nat.lt_or_eq_of_le (length_entriesBeyond_le name met entries) with fewer | same
    · exact Prod.Lex.left _ _ fewer
    · rw [same]
      exact Prod.Lex.right _ (by simp)
  · exact Prod.Lex.left _ _ (length_entriesBeyond_lt ‹_› _found)

/-- The first qualifier among some annotations, after the search has met some classes. -/
def qualifierBeyond? (markers : List ClassName) (entries : List AnnotationEntry)
    (skip : AnnotationUse → Bool) : List ClassName → List AnnotationUse → Option AnnotationUse
  | _, [] => none
  | met, a :: rest =>
    if skip a then qualifierBeyond? markers entries skip met rest
    else
      match searchMarker markers entries met [a.type] with
      | .found => some a
      | .exhausted met => qualifierBeyond? markers entries skip met rest

/-- The first qualifier among some annotations, those for which `skip` holds left out. -/
def Program.qualifier? (program : Program) (markers : List ClassName) (skip : AnnotationUse → Bool)
    (annotations : List AnnotationUse) : Option AnnotationUse :=
  qualifierBeyond? markers program.entries skip [] annotations

end BindingPlan
