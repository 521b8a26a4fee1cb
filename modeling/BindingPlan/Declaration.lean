import BindingPlan.AnnotationUse.Basic

/-! # Declarations

What a front end reports about a program: classes, functions, and everything else that can carry an
annotation. A declaration has a location, unless the front end does not know where it stands. -/

namespace BindingPlan

/-! ### Words of the declared language -/

/-- Who may use a declaration. -/
inductive Visibility where
  | publicAccess
  | internalAccess
  | protectedAccess
  | privateAccess
  | localAccess
  deriving DecidableEq

namespace Visibility

/-- All visibilities. -/
def all : List Visibility :=
  [.publicAccess, .internalAccess, .protectedAccess, .privateAccess, .localAccess]

/-- The word for a visibility. -/
def word : Visibility → String
  | .publicAccess => "public"
  | .internalAccess => "internal"
  | .protectedAccess => "protected"
  | .privateAccess => "private"
  | .localAccess => "local"

/-- The visibility that a word stands for. -/
def ofWord? (word : String) : Option Visibility :=
  all.find? (·.word == word)

end Visibility

/-- What form of class a declaration has. -/
inductive ClassForm where
  | plainClass
  | interface
  | object
  | enumClass
  | enumEntry
  | annotationClass
  deriving DecidableEq

namespace ClassForm

/-- All forms of classes. -/
def all : List ClassForm :=
  [.plainClass, .interface, .object, .enumClass, .enumEntry, .annotationClass]

/-- The word for a form of class. -/
def word : ClassForm → String
  | .plainClass => "class"
  | .interface => "interface"
  | .object => "object"
  | .enumClass => "enum_class"
  | .enumEntry => "enum_entry"
  | .annotationClass => "annotation_class"

/-- The form of class that a word stands for. -/
def ofWord? (word : String) : Option ClassForm :=
  all.find? (·.word == word)

/-- Whether members are called on an instance of the class. -/
def hasInstances : ClassForm → Bool
  | .plainClass | .interface | .enumClass | .enumEntry => true
  | .object | .annotationClass => false

end ClassForm

/-! ### Parts of declarations -/

/-- Where a declaration stands: a file and the package of that file. -/
structure Location where
  path : String
  package : String
  deriving DecidableEq

/-- A name inside the package of a location; without a location or a package it stands alone. -/
def Location.qualify (location : Option Location) (name : String) : String :=
  match location with
  | some location => if location.package = "" then name else location.package ++ "." ++ name
  | none => name

/-- The class that a function is a member of. -/
structure Owner where
  name : ClassName
  form : ClassForm
  deriving DecidableEq

/-- A parameter of a function. -/
structure Parameter where
  name : String
  type : TypeRef
  annotations : List AnnotationUse

/-! ### The three sorts of declarations -/

/-- The declaration of a class; the supertypes are in written order. -/
structure ClassDeclaration where
  name : ClassName
  form : ClassForm
  isAbstract : Bool
  supertypes : List TypeRef
  annotations : List AnnotationUse
  visibility : Visibility
  location : Option Location

/-- The declaration of a function; its return type may not be known. -/
structure FunctionDeclaration where
  name : String
  parameters : List Parameter
  returnType : Option TypeRef
  owner : Option Owner
  annotations : List AnnotationUse
  visibility : Visibility
  location : Option Location

/-- Any other declaration: a property, a type alias, whatever an annotation can be put on. -/
structure MiscDeclaration where
  name : String
  element : String
  annotations : List AnnotationUse
  location : Option Location

/-- A declaration of the program. -/
inductive Declaration where
  | type (declaration : ClassDeclaration)
  | function (declaration : FunctionDeclaration)
  | misc (declaration : MiscDeclaration)

/-- Whether objects of the class can be made. -/
def ClassDeclaration.isConstructible (declaration : ClassDeclaration) : Bool :=
  !declaration.isAbstract && declaration.form != .interface &&
    declaration.form != .annotationClass

/-- The name of a function inside its class, or else inside its package. -/
def FunctionDeclaration.dottedName (declaration : FunctionDeclaration) : String :=
  match declaration.owner with
  | some owner => owner.name.dotted ++ "." ++ declaration.name
  | none => Location.qualify declaration.location declaration.name

namespace Declaration

/-- The annotations in written order. -/
def annotations : Declaration → List AnnotationUse
  | .type d => d.annotations
  | .function d => d.annotations
  | .misc d => d.annotations

/-- Where the declaration stands, if that is known. -/
def location : Declaration → Option Location
  | .type d => d.location
  | .function d => d.location
  | .misc d => d.location

/-- The name under which the declaration is reported. -/
def reportName : Declaration → String
  | .type d => d.name.dotted
  | .function d => d.dottedName
  | .misc d => Location.qualify d.location d.name

/-- What sort of declaration it is, in words. -/
def sortWord : Declaration → String
  | .type d => d.form.word
  | .function _ => "function"
  | .misc d => d.element

end Declaration

end BindingPlan
