import BindingPlan.Bucket
import BindingPlan.Config.Basic
import BindingPlan.Container.Basic

/-! # From buckets to containers

Each binding of a bucket gives one member. What concerns the container as a whole (its form and
where it is installed) is taken from the first binding; a container is internal only if all its
bindings are. -/

namespace BindingPlan

variable (config : Config)

/-! ### Annotations of members -/

/-- The annotation that says how a member provides its object. -/
def FrameworkClasses.provider (framework : FrameworkClasses) : Supplier → ClassName
  | .implementation _ => framework.binds
  | .factory _ _ _ => framework.provides

/-- The annotation for a contribution to a collection, if it takes one besides that of the
provider. -/
def FrameworkClasses.contributor? (framework : FrameworkClasses) : Contribution → Option ClassName
  | .setElement => some framework.intoSet
  | .mapEntry => some framework.intoMap
  | .setElements => some framework.elementsIntoSet
  | .single | .collection => none

/-- The framework's annotations on the member of a binding: how it provides its object, then what
it contributes to. The declaration of a collection has an annotation of its own instead. -/
def FrameworkClasses.memberClasses (framework : FrameworkClasses) (binding : Binding) :
    List ClassName :=
  if binding.contribution = .collection then [framework.multibinds]
  else framework.provider binding.supplier ::
    (framework.contributor? binding.contribution).toList

/-- All annotations on the member of a binding. -/
def memberAnnotations (binding : Binding) : List AnnotationUse :=
  (config.framework.memberClasses binding).map AnnotationUse.ofClass ++ binding.carried

/-! ### Calls -/

/-- The base, or the base with the least positive number behind it, whichever is not taken. One of
the first numbers is free, as many of them as there are taken names and one more. -/
def freshName (base : String) (taken : List String) : String :=
  if base ∈ taken then
    (((List.range (taken.length + 1)).map fun n => base ++ toString (n + 1)).find?
      (· ∉ taken)).getD base
  else base

/-- The name of the parameter for the instance that a function is called on, next to some
parameters. -/
def Naming.ownerName (naming : Naming) (parameters : List Parameter) : String :=
  freshName naming.ownerParameter (parameters.map (·.name))

/-- The parameter for the instance that a function is called on, if it is called on one. -/
def Naming.ownerParameter? (naming : Naming) (parameters : List Parameter) :
    FactoryHome → Option Parameter
  | .onInstance owner => some ⟨naming.ownerName parameters, .ofClass owner, []⟩
  | .onObject _ => none
  | .topLevel => none

/-- What a function is called on, next to some parameters. -/
def Naming.callTarget (naming : Naming) (parameters : List Parameter) : FactoryHome → CallTarget
  | .onInstance _ => .parameter (naming.ownerName parameters)
  | .onObject owner => .object owner
  | .topLevel => .nothing

/-- The member of a binding. -/
def Member.ofBinding (binding : Binding) : Member :=
  match binding.supplier with
  | .implementation type =>
    { name := binding.memberName
      isAbstract := true
      visibility := .publicAccess
      parameters := [⟨config.naming.implementationParameter, type, []⟩]
      returnType := binding.exposed
      body := .reference type
      annotations := memberAnnotations config binding }
  | .factory function parameters home =>
    { name := binding.memberName
      isAbstract := false
      visibility := binding.visibility
      parameters := (config.naming.ownerParameter? parameters home).toList ++ parameters
      returnType := binding.exposed
      body := .call (config.naming.callTarget parameters home) function (parameters.map (·.name))
      annotations := memberAnnotations config binding }

/-! ### Containers -/

/-- Where the container of a binding is installed. -/
def Installation.ofBinding (binding : Binding) : Installation :=
  match binding.replaces with
  | some replaces =>
    if binding.isTest then .test binding.scope replaces else .production binding.scope
  | none => .production binding.scope

/-- The value of an argument that lists one class. -/
def classList (type : TypeRef) : ArgumentValue :=
  .array [.type type]

/-- The annotation that installs a container. -/
def FrameworkClasses.installer (framework : FrameworkClasses) : Installation → AnnotationUse
  | .production scope =>
    (AnnotationUse.ofClass framework.installIn).withArgument "value" (classList scope)
  | .test scope replaces =>
    ((AnnotationUse.ofClass framework.testInstallIn).withArgument "components"
      (classList scope)).withArgument "replaces" (classList (.ofClass replaces))

/-- The list without later repetitions of an item. -/
def distinct : List String → List String
  | [] => []
  | item :: rest => item :: (distinct rest).filter (· != item)

/-- The visibility of the container of some bindings. -/
def Visibility.ofBindings (bindings : List Binding) : Visibility :=
  if bindings.all (·.visibility == .internalAccess) then .internalAccess else .publicAccess

/-- The container of a bucket; an empty bucket has none. -/
def Container.ofBucket? (bucket : Bucket) : Option Container :=
  match bucket.bindings with
  | [] => none
  | first :: _ =>
    let installation := Installation.ofBinding first
    some
      { form := first.containerForm
        name := bucket.name
        visibility := .ofBindings bucket.bindings
        installation
        annotations := [.ofClass config.framework.module, config.framework.installer installation]
        members := bucket.bindings.map (Member.ofBinding config)
        files := distinct (bucket.bindings.map (·.location.path)) }

end BindingPlan
