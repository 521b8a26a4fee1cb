import BindingPlan.Binding.ContainerName
import Mathlib.Data.List.Infix

/-! # Tails of container names

The name of a container ends in a separator and the suffix of its marker, and before these come
another separator and the name of the scope. What stands in front has no bounds of its own, so a
name does not say where its tail begins. All that equal names give is that of two tails one ends in
the other (`scopeTails_of_containerName_eq`, `markerTails_of_containerName_eq`). -/

namespace BindingPlan

/-! ### Texts that end in others -/

/-- A text ends in a tail. -/
def EndsIn (tail text : String) : Prop :=
  ∃ start, text = start ++ tail

theorem endsIn_append (start tail : String) : EndsIn tail (start ++ tail) :=
  ⟨start, rfl⟩

theorem endsIn_iff {tail text : String} : EndsIn tail text ↔ tail.toList <:+ text.toList := by
  constructor
  · rintro ⟨start, rfl⟩
    rw [String.toList_append]
    exact List.suffix_append _ _
  · rintro ⟨start, h⟩
    refine ⟨String.ofList start, ?_⟩
    rw [← String.toList_inj, String.toList_append, String.toList_ofList, h]

instance (tail text : String) : Decidable (EndsIn tail text) :=
  decidable_of_iff _ endsIn_iff.symm

theorem endsIn_or_endsIn {a b text : String} (ha : EndsIn a text) (hb : EndsIn b text) :
    EndsIn a b ∨ EndsIn b a := by
  rw [endsIn_iff] at ha hb
  simpa only [endsIn_iff] using List.suffix_or_suffix_of_suffix ha hb

/-! ### The tails of a name -/

namespace Naming
variable (naming : Naming)

/-- The end of the names of all containers of a marker. -/
def markerTail (marker : Marker) : String :=
  naming.separator ++ naming.suffix marker

/-- The end of the names of all containers of a marker and a scope. -/
def scopeTail (scope : TypeRef) (marker : Marker) : String :=
  naming.separator ++ scope.raw.simpleName ++ naming.markerTail marker

end Naming

namespace ContainerIdentity

/-- The front of the names of an identity's containers. -/
def head (identity : ContainerIdentity) : String :=
  identity.exposed.stem ++ identity.suffix.getD ""

variable {naming : Naming} (identity : ContainerIdentity) (marker : Marker)

theorem simpleName_eq : identity.simpleName naming marker =
    identity.head ++ naming.scopeTail identity.scope marker := by
  simp only [simpleName, head, Naming.scopeTail, Naming.markerTail, String.append_assoc]

theorem endsIn_scopeTail :
    EndsIn (naming.scopeTail identity.scope marker) (identity.simpleName naming marker) := by
  rw [simpleName_eq]
  exact endsIn_append _ _

theorem endsIn_markerTail :
    EndsIn (naming.markerTail marker) (identity.simpleName naming marker) := by
  rw [simpleName_eq, Naming.scopeTail, ← String.append_assoc]
  exact endsIn_append _ _

variable {identity marker} {identity' : ContainerIdentity} {marker' : Marker}

theorem simpleName_eq_of_containerName_eq
    (same : identity.containerName naming marker = identity'.containerName naming marker') :
    identity.simpleName naming marker = identity'.simpleName naming marker' := by
  simp only [containerName, ClassName.mk.injEq, List.cons.injEq, and_true] at same
  exact same.2

/-- What makes the names of one marker equal makes those of every other one equal. -/
theorem containerName_congr
    (same : identity.containerName naming marker = identity'.containerName naming marker) :
    identity.containerName naming marker' = identity'.containerName naming marker' := by
  simp only [containerName, simpleName, ClassName.mk.injEq, List.cons.injEq, and_true,
    String.append_left_inj] at same ⊢
  exact same

/-- Of the tails of one name with marker and scope, one ends in the other. -/
theorem scopeTails_of_containerName_eq
    (same : identity.containerName naming marker = identity'.containerName naming marker') :
    EndsIn (naming.scopeTail identity.scope marker) (naming.scopeTail identity'.scope marker') ∨
      EndsIn (naming.scopeTail identity'.scope marker')
        (naming.scopeTail identity.scope marker) := by
  refine endsIn_or_endsIn (endsIn_scopeTail identity marker) ?_
  rw [simpleName_eq_of_containerName_eq same]
  exact endsIn_scopeTail identity' marker'

theorem markerTails_of_containerName_eq
    (same : identity.containerName naming marker = identity'.containerName naming marker') :
    EndsIn (naming.markerTail marker) (naming.markerTail marker') ∨
      EndsIn (naming.markerTail marker') (naming.markerTail marker) := by
  refine endsIn_or_endsIn (endsIn_markerTail identity marker) ?_
  rw [simpleName_eq_of_containerName_eq same]
  exact endsIn_markerTail identity' marker'

end ContainerIdentity

end BindingPlan
