import BindingPlan.Binding.Basic
import BindingPlan.Binding.ContainerName
import BindingPlan.Candidate
import BindingPlan.Text.Capital

/-! # From candidates to bindings

A candidate becomes a binding or an error. It needs one marker (repeats of it are allowed, and the
first one counts), decodable arguments, a declaration that fits the marker, a file, and then what
the family asks for: a class must be one that objects can be made of, a function needs a return type
of the right shape. The first condition that fails gives the error. -/

namespace BindingPlan

variable (config : Config) (program : Program)

/-- The annotations that are no markers, in written order. -/
def carriedAnnotations (annotations : List AnnotationUse) : List AnnotationUse :=
  annotations.filter fun a => !config.markers.isMarker a

/-! ### Classes -/

/-- The word for a class that cannot be bound: that of its form, unless it is abstract. -/
def ClassDeclaration.unbindableWord (declaration : ClassDeclaration) : String :=
  if declaration.isAbstract then "abstract class" else declaration.form.word

/-- The binding of a class that meets all conditions. -/
def Binding.forClass (declaration : ClassDeclaration) (request : BindingRequest)
    (location : Location) : Binding :=
  let exposed := request.exposed config declaration
  let identity := ContainerIdentity.ofRequest config program request
    declaration.annotations location exposed
  { origin := .type declaration
    marker := request.marker
    exposed
    scope := identity.scope
    containerForm := .interface
    containerName := identity.containerName config.naming request.marker
    isTest := request.marker.isTest
    replaces := identity.replaces config.naming request.marker
    memberName := config.naming.bindPrefix ++ declaration.name.simpleName
    carried := carriedAnnotations config declaration.annotations
    contribution := request.contribution
    visibility := declaration.visibility
    location
    supplier := .implementation (.ofClass declaration.name) }

/-- The binding of a class, or the first condition that it fails. -/
def Binding.ofClass (declaration : ClassDeclaration) (request : BindingRequest) :
    Except BindingError Binding :=
  let name := declaration.name.dotted
  match declaration.location with
  | none => .error (.missingFile name)
  | some location =>
    if !declaration.isConstructible then
      .error (.unbindable name declaration.unbindableWord request.marker.family.word)
    else if request.contribution.needsFactory then
      .error (.misfit name request.contribution.word (request.exposed config declaration).text
        .factoryOnly)
    else .ok (Binding.forClass config program declaration request location)

/-! ### Functions -/

/-- Why a return type does not fit a contribution, if it does not. -/
def SpecialTypes.misfit? (types : SpecialTypes) (contribution : Contribution) (type : TypeRef) :
    Option MisfitReason :=
  match contribution with
  | .setElements => if types.isSet type then none else some .setExpected
  | .collection => if types.isSet type || types.isMap type then none else some .setOrMapExpected
  | .single | .setElement | .mapEntry => none

/-- The parameters that a generated member takes over, each direct type argument with the annotation
that suppresses wildcards, if there is one. -/
def FrameworkClasses.forwarded (framework : FrameworkClasses) (parameters : List Parameter) :
    List Parameter :=
  match framework.suppressWildcards with
  | none => parameters
  | some suppress =>
    parameters.map fun p =>
      { p with type :=
          { p.type with arguments := p.type.arguments.map (·.annotatedWith suppress) } }

/-- A generated member is internal if its function is, and public otherwise. -/
def Visibility.ofFactory : Visibility → Visibility
  | .internalAccess => .internalAccess
  | _ => .publicAccess

/-- The binding of a function that meets all conditions, for its return type. -/
def Binding.forFunction (declaration : FunctionDeclaration) (request : BindingRequest)
    (location : Location) (exposed : TypeRef) : Binding :=
  let identity := ContainerIdentity.ofRequest config program request
    declaration.annotations location exposed
  { origin := .function declaration
    marker := request.marker
    exposed
    scope := identity.scope
    containerForm := .singletonObject
    containerName := identity.containerName config.naming request.marker
    isTest := request.marker.isTest
    replaces := identity.replaces config.naming request.marker
    memberName := config.naming.providePrefix ++ Text.capitalize declaration.name
    carried := carriedAnnotations config declaration.annotations
    contribution := request.contribution
    visibility := .ofFactory declaration.visibility
    location
    supplier := .factory declaration.name
      (config.framework.forwarded declaration.parameters) (.ofOwner declaration.owner) }

/-- The binding of a function, or the first condition that it fails. -/
def Binding.ofFunction (declaration : FunctionDeclaration) (request : BindingRequest) :
    Except BindingError Binding :=
  let name := declaration.dottedName
  match declaration.location with
  | none => .error (.missingFile name)
  | some location =>
    match declaration.returnType with
    | none => .error (.missingReturnType name)
    | some exposed =>
      match config.types.misfit? request.contribution exposed with
      | some reason => .error (.misfit name request.contribution.word exposed.text reason)
      | none => .ok (Binding.forFunction config program declaration request location exposed)

/-! ### Candidates -/

/-- The marker that counts, if all markers of a candidate are alike. -/
def Candidate.marker? (candidate : Candidate) : Option (Marker × AnnotationUse) :=
  match candidate.markers with
  | [] => none
  | first :: rest => if rest.all (·.1 == first.1) then some first else none

/-- The binding of a declaration for a request; the family of the marker has to fit the sort of the
declaration. -/
def Binding.ofDeclaration (declaration : Declaration) (request : BindingRequest) :
    Except BindingError Binding :=
  match request.marker.family, declaration with
  | .bind, .type declaration => Binding.ofClass config program declaration request
  | .factory, .function declaration => Binding.ofFunction config program declaration request
  | family, declaration =>
    .error (.unbindable declaration.reportName declaration.sortWord family.word)

/-- The binding that a candidate asks for. -/
def Binding.ofCandidate (candidate : Candidate) : Except BindingError Binding :=
  let name := candidate.declaration.reportName
  match candidate.marker? with
  | none => .error (.ambiguous name (candidate.markers.map (·.2.type.dotted)))
  | some (marker, usage) => do
    let request ← BindingRequest.ofMarker config marker usage name
    Binding.ofDeclaration config program candidate.declaration request

end BindingPlan
