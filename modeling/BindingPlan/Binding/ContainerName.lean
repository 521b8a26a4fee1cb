import BindingPlan.AnnotationUse.Canonical
import BindingPlan.Binding.Request
import BindingPlan.Qualifier

/-! # Names of containers

Bindings with the same container name share a container. The name is built from the stem of the
exposed type, a suffix that keeps apart what is qualified differently, the scope, and the suffix of
the marker: `Something_SingletonComponent_Module`. -/

namespace BindingPlan

/-- Whether an annotation is one of the markers. -/
def MarkerClasses.isMarker (classes : MarkerClasses) (usage : AnnotationUse) : Bool :=
  (classes.markerOf? usage.type).isSome

/-- The suffix for a request next to some annotations: its key, or else the token of the first
qualifier, those that `skip` holds for left out. -/
def BindingRequest.suffix? (program : Program) (qualifierMarkers : List ClassName)
    (skip : AnnotationUse → Bool) (request : BindingRequest) (annotations : List AnnotationUse) :
    Option String :=
  match request.key with
  | some key => some key
  | none => (program.qualifier? qualifierMarkers skip annotations).map AnnotationUse.token

/-- What the name of a container is built from, the marker left out. -/
structure ContainerIdentity where
  package : String
  exposed : TypeRef
  suffix : Option String
  scope : TypeRef

namespace ContainerIdentity

/-- The identity of the container for a request at a declaration with some annotations. -/
def ofRequest (config : Config) (program : Program) (request : BindingRequest)
    (annotations : List AnnotationUse) (location : Location) (exposed : TypeRef) :
    ContainerIdentity :=
  { package := location.package
    exposed
    suffix := request.suffix? program config.types.qualifierMarkers config.markers.isMarker
      annotations
    scope := request.scopeOrDefault config }

/-- The simple name of the container of a marker. -/
def simpleName (naming : Naming) (identity : ContainerIdentity) (marker : Marker) : String :=
  identity.exposed.stem ++ identity.suffix.getD "" ++ naming.separator ++
    identity.scope.raw.simpleName ++ naming.separator ++ naming.suffix marker

/-- The name of the container of a marker. -/
def containerName (naming : Naming) (identity : ContainerIdentity) (marker : Marker) : ClassName :=
  ⟨identity.package, [identity.simpleName naming marker]⟩

/-- For a test marker, the name of the production container that is replaced. -/
def replaces (naming : Naming) (identity : ContainerIdentity) (marker : Marker) :
    Option ClassName :=
  if marker.isTest then some (identity.containerName naming marker.production) else none

end ContainerIdentity

end BindingPlan
