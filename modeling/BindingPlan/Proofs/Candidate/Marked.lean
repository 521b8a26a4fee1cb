import BindingPlan.Binding.OfCandidate
import BindingPlan.Proofs.Bucket.Partition
import BindingPlan.Proofs.Config.Usable

/-! # Marked declarations

What the markers on a declaration are, said of that declaration alone: those of the first marker,
then those of the second, and so on (`MarkerClasses.markersOn`). They are labelled marker annotations,
each once if no class has two markers (`map_markersOn_perm`). The first marker of a candidate counts
if all of them are alike (`Candidate.marker?_eq_some_iff`), which they are where the annotations hold
markers of one kind only (`marker?_of_only`). -/

namespace BindingPlan

/-- The annotations that are markers: those of the first marker, then those of the second, and so
on. -/
def MarkerClasses.markersOn (classes : MarkerClasses) (annotations : List AnnotationUse) :
    List (Marker × AnnotationUse) :=
  Marker.all.flatMap fun marker =>
    (annotations.filter (·.type == classes.classOf marker)).map (marker, ·)

/-- The candidate that a declaration is, if it has a marker. -/
def MarkerClasses.candidate? (classes : MarkerClasses) (declaration : Declaration) :
    Option Candidate :=
  match classes.markersOn declaration.annotations with
  | [] => none
  | markers => some ⟨declaration, markers⟩

/-- Whether a declaration carries an annotation of one of the marker classes. -/
def MarkerClasses.marks (classes : MarkerClasses) (declaration : Declaration) : Bool :=
  declaration.annotations.any classes.isMarker

/-- The marked declarations of a program, in the order of its traversal. -/
def Program.marked (program : Program) (classes : MarkerClasses) : List Declaration :=
  program.traversal.filter classes.marks

section Marked
variable {classes : MarkerClasses}

theorem isMarker_iff {usage : AnnotationUse} :
    classes.isMarker usage = true ↔ ∃ marker, classes.classOf marker = usage.type :=
  MarkerClasses.isSome_markerOf?

theorem mem_markersOn {annotations : List AnnotationUse} {marker : Marker}
    {usage : AnnotationUse} : (marker, usage) ∈ classes.markersOn annotations ↔
      usage ∈ annotations ∧ usage.type = classes.classOf marker := by
  simp [MarkerClasses.markersOn, Marker.mem_all]

theorem markersOn_eq_nil_iff {annotations : List AnnotationUse} :
    classes.markersOn annotations = [] ↔ annotations.any classes.isMarker = false := by
  rw [List.eq_nil_iff_forall_not_mem, List.any_eq_false]
  constructor
  · intro none usage husage h
    obtain ⟨marker, hmarker⟩ := isMarker_iff.mp h
    exact none (marker, usage) (mem_markersOn.mpr ⟨husage, hmarker.symm⟩)
  · rintro none ⟨marker, usage⟩ h
    obtain ⟨husage, hmarker⟩ := mem_markersOn.mp h
    exact none usage husage (isMarker_iff.mpr ⟨marker, hmarker.symm⟩)

theorem candidate?_of_marks {declaration : Declaration}
    (h : classes.marks declaration = true) : classes.candidate? declaration =
      some ⟨declaration, classes.markersOn declaration.annotations⟩ := by
  unfold MarkerClasses.candidate?
  split
  next none =>
    have unmarked : classes.marks declaration = false := markersOn_eq_nil_iff.mp none
    rw [h] at unmarked
    cases unmarked
  next => rfl

theorem candidate?_of_not_marks {declaration : Declaration}
    (h : classes.marks declaration = false) : classes.candidate? declaration = none := by
  have none : classes.markersOn declaration.annotations = [] := markersOn_eq_nil_iff.mpr h
  simp [MarkerClasses.candidate?, none]

theorem filter_filter_isMarker (annotations : List AnnotationUse) (marker : Marker) :
    (annotations.filter classes.isMarker).filter (·.type == classes.classOf marker) =
      annotations.filter (·.type == classes.classOf marker) := by
  rw [List.filter_filter]
  refine List.filter_congr fun a _ => ?_
  by_cases h : a.type = classes.classOf marker
  · simp [h, isMarker_iff.mpr ⟨marker, h.symm⟩]
  · simp [h]

/-- **Every marker annotation is found once**, if no class has two markers. -/
theorem map_markersOn_perm (distinct : Function.Injective classes.classOf)
    (annotations : List AnnotationUse) : ((classes.markersOn annotations).map (·.2)).Perm
      (annotations.filter classes.isMarker) := by
  have parts : (classes.markersOn annotations).map (·.2) =
      (Marker.all.map classes.classOf).flatMap fun name =>
        (annotations.filter classes.isMarker).filter (·.type == name) := by
    simp only [MarkerClasses.markersOn, List.map_flatMap, List.map_map, List.flatMap_map,
      filter_filter_isMarker]
    exact List.flatMap_congr fun marker _ => List.map_id _
  rw [parts]
  refine flatMap_filter_perm AnnotationUse.type (nodup_map_all_iff.mpr distinct) fun usage mem => ?_
  obtain ⟨marker, type⟩ := isMarker_iff.mp (List.mem_filter.mp mem).2
  exact List.mem_map.mpr ⟨marker, Marker.mem_all marker, type⟩

end Marked

/-! ### The marker that counts -/

namespace Candidate

/-- There is at least one marker, and all markers are alike. -/
def OneMarker (candidate : Candidate) : Prop :=
  candidate.markers ≠ [] ∧
    ∀ found ∈ candidate.markers, ∀ other ∈ candidate.markers, found.1 = other.1

variable {candidate : Candidate}

theorem marker?_of_oneMarker (h : candidate.OneMarker) :
    candidate.marker? = candidate.markers.head? := by
  obtain ⟨first, rest, markers⟩ := List.exists_cons_of_ne_nil h.1
  have alike : rest.all (·.1 == first.1) = true := by
    rw [List.all_eq_true]
    intro other mem
    rw [beq_iff_eq]
    exact h.2 other (by simp [markers, mem]) first (by simp [markers])
  simp [marker?, markers, alike]

theorem marker?_of_not_oneMarker (h : ¬ candidate.OneMarker) :
    candidate.marker? = none := by
  rw [marker?]
  split
  next => rfl
  next first rest markers =>
    refine if_neg fun alike => h ⟨by simp [markers], ?_⟩
    have first_alike : ∀ found ∈ candidate.markers, found.1 = first.1 := by
      simpa [markers] using alike
    intro found mem other mem'
    rw [first_alike found mem, first_alike other mem']

/-- The marker that counts is the first one, where all are alike. -/
theorem marker?_eq_some_iff {found : Marker × AnnotationUse} :
    candidate.marker? = some found ↔
      candidate.OneMarker ∧ candidate.markers.head? = some found := by
  by_cases one : candidate.OneMarker
  · simp [marker?_of_oneMarker one, one]
  · simp [marker?_of_not_oneMarker one, one]

end Candidate

/-! ### Markers of one kind -/

section Only
variable {classes : MarkerClasses} {marker : Marker} {annotations : List AnnotationUse}

theorem markersOn_of_no_others
    (others : ∀ m ≠ marker, annotations.filter (·.type == classes.classOf m) = []) :
    classes.markersOn annotations =
      (annotations.filter (·.type == classes.classOf marker)).map (marker, ·) := by
  obtain ⟨family, variant⟩ := marker
  cases family <;> cases variant <;>
    simp [MarkerClasses.markersOn, Marker.all, others]

theorem markersOn_of_only (distinct : Function.Injective classes.classOf)
    (only : ∀ a ∈ annotations, classes.isMarker a = true → a.type = classes.classOf marker) :
    classes.markersOn annotations =
      (annotations.filter (·.type == classes.classOf marker)).map (marker, ·) := by
  refine markersOn_of_no_others fun m hm => ?_
  rw [List.filter_eq_nil_iff]
  intro a ha h
  have type : a.type = classes.classOf m := by simpa using h
  have same := only a ha (isMarker_iff.mpr ⟨m, type.symm⟩)
  exact hm (distinct (type ▸ same))

theorem marker?_of_only (distinct : Function.Injective classes.classOf)
    (only : ∀ a ∈ annotations, classes.isMarker a = true → a.type = classes.classOf marker)
    (d : Declaration) : (Candidate.mk d (classes.markersOn annotations)).marker? =
      (annotations.filter (·.type == classes.classOf marker)).head?.map (marker, ·) := by
  rw [markersOn_of_only distinct only]
  cases annotations.filter (·.type == classes.classOf marker) with
  | nil => rfl
  | cons first rest => simp [Candidate.marker?]

end Only

end BindingPlan
