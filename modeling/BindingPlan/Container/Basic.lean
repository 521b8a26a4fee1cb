import BindingPlan.Binding.Basic

/-! # Containers

A container is the description of a generated class, ready for whoever writes it down as source
code: where it is installed, and its members, each of which provides one binding. -/

namespace BindingPlan

/-- Where a container is installed; a test container says which one it replaces. -/
inductive Installation where
  | production (scope : TypeRef)
  | test (scope : TypeRef) (replaces : ClassName)
  deriving DecidableEq

/-- The scope of an installation. -/
def Installation.scope : Installation → TypeRef
  | .production scope => scope
  | .test scope _ => scope

/-- What a function is called on. -/
inductive CallTarget where
  /-- A parameter of the member, with the given name. -/
  | parameter (name : String)
  /-- An object, by the name of its class. -/
  | object (owner : ClassName)
  /-- Nothing: the function is at top level. -/
  | nothing
  deriving DecidableEq

/-- What a member does. -/
inductive Body where
  /-- It declares that the implementation stands for the returned type. -/
  | reference (implementation : TypeRef)
  | call (target : CallTarget) (function : String) (arguments : List String)
  deriving DecidableEq

/-- A member of a container; the annotations of the framework come first. -/
structure Member where
  name : String
  isAbstract : Bool
  visibility : Visibility
  parameters : List Parameter
  returnType : TypeRef
  body : Body
  annotations : List AnnotationUse

/-- Whether an annotation of a class is on the member. -/
def Member.isAnnotatedWith (member : Member) (name : ClassName) : Bool :=
  member.annotations.any (·.type == name)

/-- A generated container; `files` are the files that its members come from, each once. -/
structure Container where
  form : ContainerForm
  name : ClassName
  visibility : Visibility
  installation : Installation
  annotations : List AnnotationUse
  members : List Member
  files : List String

namespace Container

/-- Whether the container is for tests. -/
def isTest (container : Container) : Bool :=
  match container.installation with
  | .test _ _ => true
  | .production _ => false

/-- The member of a name, the first if there are several. -/
def member? (container : Container) (name : String) : Option Member :=
  container.members.find? (·.name == name)

end Container

end BindingPlan
