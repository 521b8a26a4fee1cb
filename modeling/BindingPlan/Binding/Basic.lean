import BindingPlan.Contribution
import BindingPlan.Declaration
import BindingPlan.Marker

/-! # Bindings

A binding is what a marked declaration comes to: the type that becomes available, the scope it
lives in, the container that it belongs to, and how the object is obtained. What it says of its
container is kept beside the marker, since containers are made without a look at markers. -/

namespace BindingPlan

/-- What a container is generated as. -/
inductive ContainerForm where
  | interface
  | singletonObject
  deriving DecidableEq

/-- The word for a form of container. -/
def ContainerForm.word : ContainerForm → String
  | .interface => "interface"
  | .singletonObject => "singleton_object"

/-- Where a factory function is found. -/
inductive FactoryHome where
  /-- In a class: the function is called on an instance of it. -/
  | onInstance (owner : ClassName)
  /-- In an object: the function is called on the object itself. -/
  | onObject (owner : ClassName)
  | topLevel
  deriving DecidableEq

/-- The home of a function, from the class it is a member of. -/
def FactoryHome.ofOwner : Option Owner → FactoryHome
  | some owner => if owner.form.hasInstances then .onInstance owner.name else .onObject owner.name
  | none => .topLevel

/-- What supplies the bound object. -/
inductive Supplier where
  | implementation (type : TypeRef)
  | factory (function : String) (parameters : List Parameter) (home : FactoryHome)

/-- A binding, with the declaration it comes from. -/
structure Binding where
  origin : Declaration
  marker : Marker
  exposed : TypeRef
  scope : TypeRef
  containerForm : ContainerForm
  containerName : ClassName
  /-- Whether the binding stands in for another one in tests. -/
  isTest : Bool
  /-- The production container that the container of a test binding replaces. -/
  replaces : Option ClassName
  memberName : String
  /-- The annotations of the declaration that go onto the member. -/
  carried : List AnnotationUse
  contribution : Contribution
  visibility : Visibility
  location : Location
  supplier : Supplier

end BindingPlan
