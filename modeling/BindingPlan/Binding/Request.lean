import BindingPlan.Config.Basic
import BindingPlan.Contribution
import BindingPlan.Error

/-! # What a marker asks for

The arguments of a marker, decoded. An argument that is left out asks for nothing in particular,
and so does a scope or a target written with its declared default. Arguments are decoded in a fixed
order, and the first one with a wrong value is the one reported. -/

namespace BindingPlan

/-- The decoded arguments of a marker annotation. -/
structure BindingRequest where
  marker : Marker
  scope : Option TypeRef
  target : Option TypeRef
  contribution : Contribution
  key : Option String

namespace BindingRequest

/-! ### Single arguments -/

/-- The type of a class literal, the value of an argument at a declaration. -/
def expectType (declaration argument : String) (value : ArgumentValue) :
    Except BindingError TypeRef :=
  match value.type? with
  | some type => .ok type
  | none => .error (.badArgument declaration argument (.classLiteralExpected value.sortWord))

/-- The type that an argument chooses, if it chooses one. -/
def chosenType? (usage : AnnotationUse) (declaration argument : String) :
    Except BindingError (Option TypeRef) :=
  match usage.chosen? argument with
  | some value => (expectType declaration argument value).map some
  | none => .ok none

/-- The contribution that a value names. -/
def expectContribution (declaration argument : String) (value : ArgumentValue) :
    Except BindingError Contribution :=
  match value.constantName? with
  | none => .error (.badArgument declaration argument (.constantExpected value.sortWord))
  | some name =>
    match Contribution.ofWord? name with
    | some contribution => .ok contribution
    | none => .error (.badArgument declaration argument (.unknownContribution name))

/-- The text of a string, the value of an argument at a declaration. -/
def expectString (declaration argument : String) (value : ArgumentValue) :
    Except BindingError String :=
  match value.string? with
  | some text => .ok text
  | none => .error (.badArgument declaration argument (.stringExpected value.sortWord))

/-! ### The parts of a request -/

/-- The target of a marker: only a marker of types has one, and the sentinel is none. -/
def targetOf (config : Config) (marker : Marker) (usage : AnnotationUse) (declaration : String) :
    Except BindingError (Option TypeRef) :=
  match marker.family with
  | .bind => do
    let target ← chosenType? usage declaration config.arguments.target
    .ok (target.filter fun t => !config.types.isSentinel t)
  | .factory => .ok none

/-- The contribution of a marker. -/
def contributionOf (config : Config) (usage : AnnotationUse) (declaration : String) :
    Except BindingError Contribution :=
  match usage.argument? config.arguments.contribution with
  | some value => expectContribution declaration config.arguments.contribution value
  | none => .ok .single

/-- The key of a marker; an empty key is none. -/
def keyOf (config : Config) (usage : AnnotationUse) (declaration : String) :
    Except BindingError (Option String) :=
  match usage.argument? config.arguments.key with
  | some value => do
    let key ← expectString declaration config.arguments.key value
    .ok (if key = "" then none else some key)
  | none => .ok none

/-- What a marker annotation on a declaration asks for. -/
def ofMarker (config : Config) (marker : Marker) (usage : AnnotationUse) (declaration : String) :
    Except BindingError BindingRequest := do
  let scope ← chosenType? usage declaration config.arguments.scope
  let target ← targetOf config marker usage declaration
  let contribution ← contributionOf config usage declaration
  let key ← keyOf config usage declaration
  .ok { marker, scope, target, contribution, key }

/-! ### Defaults -/

/-- The scope asked for, or else the default scope. -/
def scopeOrDefault (config : Config) (request : BindingRequest) : TypeRef :=
  request.scope.getD (.ofClass config.types.defaultScope)

/-- The type under which a class becomes available: the target asked for, or else the first
supertype that is not the top type, or else the class itself. -/
def exposed (config : Config) (request : BindingRequest) (declaration : ClassDeclaration) :
    TypeRef :=
  match request.target with
  | some target => target
  | none =>
    (declaration.supertypes.find? (·.raw != config.types.topType)).getD
      (.ofClass declaration.name)

end BindingRequest

end BindingPlan
