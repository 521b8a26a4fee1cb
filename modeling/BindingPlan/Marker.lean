import BindingPlan.Name.ClassName

/-! # Markers

A declaration asks to be bound by a marker annotation. There are two families of markers, one for
types and one for factory functions, and each has a production and a test variant. Which annotation
class is which marker is a matter of configuration. -/

namespace BindingPlan

/-- What a marker is put on: a type to bind, or a function that makes the bound object. -/
inductive Marker.Family where
  | bind
  | factory
  deriving DecidableEq

/-- The words for a family. -/
def Marker.Family.word : Marker.Family → String
  | .bind => "type-binding"
  | .factory => "factory-binding"

/-- Whether a binding is for production or replaces one in tests. -/
inductive Marker.Variant where
  | production
  | test
  deriving DecidableEq

/-- The word for a variant. -/
def Marker.Variant.word : Marker.Variant → String
  | .production => "production"
  | .test => "test"

/-- A marker: a variant of a family. -/
structure Marker where
  family : Marker.Family
  variant : Marker.Variant
  deriving DecidableEq

namespace Marker

/-- The four markers in the order in which a declaration is searched for them. -/
def all : List Marker :=
  [⟨.bind, .production⟩, ⟨.bind, .test⟩, ⟨.factory, .production⟩, ⟨.factory, .test⟩]

/-- Whether the marker is for tests. -/
def isTest (marker : Marker) : Bool :=
  marker.variant == .test

/-- The production marker of the same family. -/
def production (marker : Marker) : Marker :=
  { marker with variant := .production }

theorem mem_all (marker : Marker) : marker ∈ all := by
  obtain ⟨family, variant⟩ := marker
  cases family <;> cases variant <;> decide

theorem production_eq_self_iff {marker : Marker} :
    marker.production = marker ↔ marker.isTest = false := by
  obtain ⟨family, variant⟩ := marker
  cases variant <;> simp [production, isTest]

end Marker

/-! ### The classes of the markers -/

/-- The annotation classes of the two variants of a family. -/
structure VariantClasses where
  production : ClassName
  test : ClassName
  deriving DecidableEq

/-- The annotation classes of all four markers. -/
structure MarkerClasses where
  bind : VariantClasses
  factory : VariantClasses
  deriving DecidableEq

namespace MarkerClasses

/-- The annotation class of a marker. -/
def classOf (classes : MarkerClasses) : Marker → ClassName
  | ⟨.bind, .production⟩ => classes.bind.production
  | ⟨.bind, .test⟩ => classes.bind.test
  | ⟨.factory, .production⟩ => classes.factory.production
  | ⟨.factory, .test⟩ => classes.factory.test

/-- The marker of an annotation class, the first if several markers share the class. -/
def markerOf? (classes : MarkerClasses) (name : ClassName) : Option Marker :=
  Marker.all.find? (classes.classOf · == name)

theorem isSome_markerOf? {classes : MarkerClasses} {name : ClassName} :
    (classes.markerOf? name).isSome = true ↔ ∃ marker, classes.classOf marker = name := by
  simp only [markerOf?, List.find?_isSome, beq_iff_eq]
  exact ⟨fun ⟨m, _, h⟩ => ⟨m, h⟩, fun ⟨m, h⟩ => ⟨m, Marker.mem_all m, h⟩⟩

end MarkerClasses

end BindingPlan
