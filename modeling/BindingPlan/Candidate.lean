import BindingPlan.Marker
import BindingPlan.Program

/-! # Candidates

A declaration with at least one marker is a candidate for a binding. It may have markers too many;
a candidate keeps all of them, marker by marker and each in written order, so that whoever resolves
it can judge.

The markers are looked for one after the other, each through the whole traversal. What is found is
kept by position, so that a declaration with several markers is one candidate all the same, and the
candidates come in the order of the traversal. -/

namespace BindingPlan

/-- A declaration with the markers found on it. -/
structure Candidate where
  declaration : Declaration
  markers : List (Marker × AnnotationUse)

/-! ### Findings -/

/-- What has been found so far, by the positions of the declarations. A position has an entry only if
something was found there. -/
structure Findings where
  entries : List (Nat × List (Marker × AnnotationUse))
  ascending : entries.Pairwise (·.1 < ·.1)
  full : ∀ entry ∈ entries, entry.2 ≠ []

namespace Findings

/-- Entries with one more marker, behind those that are at its position already. -/
def insert (position : Nat) (found : Marker × AnnotationUse) :
    List (Nat × List (Marker × AnnotationUse)) → List (Nat × List (Marker × AnnotationUse))
  | [] => [(position, [found])]
  | entry :: rest =>
    if position < entry.1 then (position, [found]) :: entry :: rest
    else if position = entry.1 then (position, entry.2 ++ [found]) :: rest
    else entry :: insert position found rest

section Insert
variable {position : Nat} {found : Marker × AnnotationUse}

theorem position_of_mem_insert {entry : Nat × List (Marker × AnnotationUse)} :
    ∀ {entries : List (Nat × List (Marker × AnnotationUse))},
      entry ∈ insert position found entries →
        entry.1 = position ∨ ∃ other ∈ entries, other.1 = entry.1
  | [], h => by
    rw [insert, List.mem_singleton] at h
    exact .inl (h ▸ rfl)
  | first :: rest, h => by
    unfold insert at h
    split at h
    · rcases List.mem_cons.mp h with rfl | h
      · exact .inl rfl
      · exact .inr ⟨entry, h, rfl⟩
    · split at h
      · rcases List.mem_cons.mp h with rfl | h
        · exact .inl rfl
        · exact .inr ⟨entry, List.mem_cons_of_mem _ h, rfl⟩
      · rcases List.mem_cons.mp h with rfl | h
        · exact .inr ⟨entry, List.mem_cons_self, rfl⟩
        · rcases position_of_mem_insert h with own | ⟨other, mem, same⟩
          · exact .inl own
          · exact .inr ⟨other, List.mem_cons_of_mem _ mem, same⟩

theorem ascending_insert : ∀ {entries : List (Nat × List (Marker × AnnotationUse))},
    entries.Pairwise (·.1 < ·.1) → (insert position found entries).Pairwise (·.1 < ·.1)
  | [], _ => List.pairwise_singleton _ _
  | first :: rest, h => by
    obtain ⟨first_lt, rest_ascending⟩ := List.pairwise_cons.mp h
    unfold insert
    split
    next before =>
      refine List.pairwise_cons.mpr ⟨fun entry mem => ?_, h⟩
      rcases List.mem_cons.mp mem with rfl | mem
      · exact before
      · exact Nat.lt_trans before (first_lt entry mem)
    next not_before =>
      split
      next same => exact List.pairwise_cons.mpr ⟨same ▸ first_lt, rest_ascending⟩
      next other =>
        refine List.pairwise_cons.mpr ⟨fun entry mem => ?_, ascending_insert rest_ascending⟩
        rcases position_of_mem_insert mem with own | ⟨entry', mem', same⟩
        · omega
        · exact same ▸ first_lt entry' mem'

theorem full_insert : ∀ {entries : List (Nat × List (Marker × AnnotationUse))},
    (∀ entry ∈ entries, entry.2 ≠ []) → ∀ entry ∈ insert position found entries, entry.2 ≠ []
  | [], _ => by simp [insert]
  | first :: rest, h => by
    obtain ⟨first_full, rest_full⟩ := List.forall_mem_cons.mp h
    unfold insert
    split
    · exact List.forall_mem_cons.mpr ⟨by simp, h⟩
    · split
      · exact List.forall_mem_cons.mpr ⟨by simp, rest_full⟩
      · exact List.forall_mem_cons.mpr ⟨first_full, full_insert rest_full⟩

end Insert

/-- Nothing found yet. -/
def nothing : Findings :=
  ⟨[], .nil, nofun⟩

/-- The findings with one more marker at a position. -/
def add (findings : Findings) (position : Nat) (found : Marker × AnnotationUse) : Findings where
  entries := insert position found findings.entries
  ascending := ascending_insert findings.ascending
  full := full_insert findings.full

end Findings

/-! ### The search -/

namespace MarkerClasses

/-- Adds the annotations of one marker on the declaration at a position, in written order. -/
def searchAt (classes : MarkerClasses) (marker : Marker) (findings : Findings) :
    Declaration × Nat → Findings
  | (declaration, position) =>
    declaration.annotations.foldl
      (fun findings usage =>
        if usage.type = classes.classOf marker then findings.add position (marker, usage)
        else findings)
      findings

/-- Adds the annotations of one marker on all declarations of a traversal. -/
def search (classes : MarkerClasses) (traversal : List Declaration) (findings : Findings)
    (marker : Marker) : Findings :=
  traversal.zipIdx.foldl (classes.searchAt marker) findings

/-- What is found on the declarations of a traversal, marker by marker. -/
def scan (classes : MarkerClasses) (traversal : List Declaration) : Findings :=
  Marker.all.foldl (classes.search traversal) .nothing

end MarkerClasses

/-- The candidates of a program. -/
def Program.candidates (program : Program) (classes : MarkerClasses) : List Candidate :=
  let traversal := program.traversal
  (classes.scan traversal).entries.filterMap fun (position, markers) =>
    traversal[position]?.map (⟨·, markers⟩)

end BindingPlan
