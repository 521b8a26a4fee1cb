import BindingPlan.Declaration
import BindingPlan.Document.AnnotationUse

/-! # Declarations in documents

A declaration is an object with its sort under `declaration`, at any place among its members. It may
also be an array that starts with the sort. All else in it is held until the sort is known, so no
part of a declaration may be unreadable. -/

namespace BindingPlan.Document

/-! ### Parts of declarations -/

/-- A visibility. -/
def visibility : Json → Decoded Visibility :=
  word (Visibility.all.map fun v => (v.word, v))

/-- A form of class. -/
def classForm : Json → Decoded ClassForm :=
  word (ClassForm.all.map fun f => (f.word, f))

/-- The parts of a location found so far. -/
structure LocationParts where
  path : Option String
  package : String

/-- The fields of a location. -/
def locationShape : Shape LocationParts :=
  { name := "SourceFile"
    fields := [
      Shape.field "path" string fun v l => { l with path := some v },
      Shape.field "package" string fun v l => { l with package := v }] }

/-- A location; a file without a package lies in none. -/
def location (value : Json) : Decoded Location := do
  let (parts, missing) ← locationShape.take .held ⟨none, ""⟩ value
  let path ← required missing "path" parts.path
  .ok ⟨path, parts.package⟩

/-- The parts of an owner found so far. -/
structure OwnerParts where
  name : Option ClassName
  form : Option ClassForm

/-- The fields of an owner. -/
def ownerShape : Shape OwnerParts :=
  { name := "Enclosing"
    fields := [
      Shape.field "name" className fun v o => { o with name := some v },
      Shape.field "class_kind" classForm fun v o => { o with form := some v }] }

/-- The class that a function is a member of. -/
def owner (value : Json) : Decoded Owner := do
  let (parts, missing) ← ownerShape.take .held ⟨none, none⟩ value
  let name ← required missing "name" parts.name
  let form ← required missing "class_kind" parts.form
  .ok ⟨name, form⟩

/-- The parts of a parameter found so far. -/
structure ParameterParts where
  name : Option String
  type : Option TypeRef
  annotations : List AnnotationUse

/-- The fields of a parameter. -/
def parameterShape : Shape ParameterParts :=
  { name := "Parameter"
    fields := [
      Shape.field "name" string fun v p => { p with name := some v },
      Shape.field "type" typeRef fun v p => { p with type := some v },
      Shape.field "annotations" (list (annotationUse .held))
        fun v p => { p with annotations := v }] }

/-- A parameter. -/
def parameter (value : Json) : Decoded Parameter := do
  let (parts, missing) ← parameterShape.take .held ⟨none, none, []⟩ value
  let name ← required missing "name" parts.name
  let type ← required missing "type" parts.type
  .ok ⟨name, type, parts.annotations⟩

/-! ### The three sorts of declarations -/

/-- The parts of a class declaration found so far. -/
structure ClassParts where
  name : Option ClassName
  form : ClassForm
  isAbstract : Bool
  supertypes : List TypeRef
  annotations : List AnnotationUse
  visibility : Visibility
  location : Option Location

/-- The fields of a class declaration. -/
def classShape : Shape ClassParts :=
  { name := "TypeDeclaration"
    fields := [
      Shape.field "name" className fun v d => { d with name := some v },
      Shape.field "class_kind" classForm fun v d => { d with form := v },
      Shape.field "is_abstract" bool fun v d => { d with isAbstract := v },
      Shape.field "supertypes" (list typeRef) fun v d => { d with supertypes := v },
      Shape.field "annotations" (list (annotationUse .held)) fun v d => { d with annotations := v },
      Shape.field "visibility" visibility fun v d => { d with visibility := v },
      Shape.field "file" (optional location) fun v d => { d with location := v }] }

/-- A class declaration; by default it is a public class that is not abstract. -/
def classDeclaration (value : Json) : Decoded ClassDeclaration := do
  let (parts, missing) ←
    classShape.take .held ⟨none, .plainClass, false, [], [], .publicAccess, none⟩ value
  let name ← required missing "name" parts.name
  .ok ⟨name, parts.form, parts.isAbstract, parts.supertypes, parts.annotations,
    parts.visibility, parts.location⟩

/-- The parts of a function declaration found so far. -/
structure FunctionParts where
  name : Option String
  parameters : List Parameter
  returnType : Option TypeRef
  owner : Option Owner
  annotations : List AnnotationUse
  visibility : Visibility
  location : Option Location

/-- The fields of a function declaration. -/
def functionShape : Shape FunctionParts :=
  { name := "FunctionDeclaration"
    fields := [
      Shape.field "name" string fun v d => { d with name := some v },
      Shape.field "parameters" (list parameter) fun v d => { d with parameters := v },
      Shape.field "return_type" (optional typeRef) fun v d => { d with returnType := v },
      Shape.field "enclosing" (optional owner) fun v d => { d with owner := v },
      Shape.field "annotations" (list (annotationUse .held)) fun v d => { d with annotations := v },
      Shape.field "visibility" visibility fun v d => { d with visibility := v },
      Shape.field "file" (optional location) fun v d => { d with location := v }] }

/-- A function declaration; by default it is public and a member of no class. -/
def functionDeclaration (value : Json) : Decoded FunctionDeclaration := do
  let (parts, missing) ←
    functionShape.take .held ⟨none, [], none, none, [], .publicAccess, none⟩ value
  let name ← required missing "name" parts.name
  .ok ⟨name, parts.parameters, parts.returnType, parts.owner, parts.annotations,
    parts.visibility, parts.location⟩

/-- The parts of another declaration found so far. -/
structure MiscParts where
  name : Option String
  element : Option String
  annotations : List AnnotationUse
  location : Option Location

/-- The fields of another declaration. -/
def miscShape : Shape MiscParts :=
  { name := "OtherDeclaration"
    fields := [
      Shape.field "name" string fun v d => { d with name := some v },
      Shape.field "element" string fun v d => { d with element := some v },
      Shape.field "annotations" (list (annotationUse .held)) fun v d => { d with annotations := v },
      Shape.field "file" (optional location) fun v d => { d with location := v }] }

/-- A declaration of any other sort. -/
def miscDeclaration (value : Json) : Decoded MiscDeclaration := do
  let (parts, missing) ← miscShape.take .held ⟨none, none, [], none⟩ value
  let name ← required missing "name" parts.name
  let element ← required missing "element" parts.element
  .ok ⟨name, element, parts.annotations, parts.location⟩

/-! ### The sort -/

/-- The key of the sort. -/
def sortKey : String := "declaration"

/-- The sort of a declaration. -/
inductive DeclarationSort where
  | type
  | function
  | misc

/-- The sorts by the words for them. -/
def declarationSorts : List (String × DeclarationSort) :=
  [("type", .type), ("function", .function), ("other", .misc)]

/-- The sort that a word stands for. -/
def declarationSort : Json → Decoded DeclarationSort
  | .string name =>
    match declarationSorts.lookup name with
    | some sort => .ok sort
    | none => .error (.unknownVariant name (declarationSorts.map (·.1)))
  | value => wrongType value "variant identifier"

/-- The sort among the members of an object, and the other members; `found` is the sort in front
of these members. -/
def splitSort (found : Option DeclarationSort) :
    List (String × Json) → Decoded (Option DeclarationSort × List (String × Json))
  | [] => .ok (found, [])
  | (key, value) :: rest =>
    if key = sortKey then
      if found.isSome then .error (.duplicateField sortKey)
      else do
        let sort ← declarationSort value
        splitSort (some sort) rest
    else do
      let (sort, others) ← splitSort found rest
      .ok (sort, (key, value) :: others)

/-- The sort of a declaration and what is held besides. -/
def tagged : Json → Decoded (DeclarationSort × Json)
  | .object members => do
    let (sort, others) ← splitSort none members
    match sort with
    | some sort => .ok (sort, .object others)
    | none => .error (.missingField sortKey)
  | .array [] => .error (.missingField sortKey)
  | .array (first :: rest) => do
    let sort ← declarationSort first
    .ok (sort, .array rest)
  | value => wrongType value "internally tagged enum Declaration"

/-- A declaration. -/
def declaration (value : Json) : Decoded Declaration :=
  if value.isReadable then do
    let (sort, held) ← tagged value
    match sort with
    | .type => (classDeclaration held).map .type
    | .function => (functionDeclaration held).map .function
    | .misc => (miscDeclaration held).map .misc
  else .error .notJson

end BindingPlan.Document

namespace BindingPlan

/-- A visibility in a document. -/
def Visibility.toJson (visibility : Visibility) : Json :=
  .string visibility.word

/-- A form of class in a document. -/
def ClassForm.toJson (form : ClassForm) : Json :=
  .string form.word

/-- A location in a document. -/
def Location.toJson (location : Location) : Json :=
  .object [("path", .string location.path), ("package", .string location.package)]

/-- An owner in a document. -/
def Owner.toJson (owner : Owner) : Json :=
  .object [("name", owner.name.toJson), ("class_kind", owner.form.toJson)]

/-- A parameter in a document. -/
def Parameter.toJson (parameter : Parameter) : Json :=
  .object [("name", .string parameter.name), ("type", parameter.type.toJson),
    ("annotations", annotationsToJson parameter.annotations)]

/-- A declaration in a document: its sort first, then all its fields. -/
def Declaration.toJson : Declaration → Json
  | .type d =>
    .object [(Document.sortKey, .string "type"), ("name", d.name.toJson),
      ("class_kind", d.form.toJson), ("is_abstract", .bool d.isAbstract),
      ("supertypes", .array (d.supertypes.map TypeRef.toJson)),
      ("annotations", annotationsToJson d.annotations), ("visibility", d.visibility.toJson),
      ("file", Json.ofOption Location.toJson d.location)]
  | .function d =>
    .object [(Document.sortKey, .string "function"), ("name", .string d.name),
      ("parameters", .array (d.parameters.map Parameter.toJson)),
      ("return_type", Json.ofOption TypeRef.toJson d.returnType),
      ("enclosing", Json.ofOption Owner.toJson d.owner),
      ("annotations", annotationsToJson d.annotations), ("visibility", d.visibility.toJson),
      ("file", Json.ofOption Location.toJson d.location)]
  | .misc d =>
    .object [(Document.sortKey, .string "other"), ("name", .string d.name),
      ("element", .string d.element), ("annotations", annotationsToJson d.annotations),
      ("file", Json.ofOption Location.toJson d.location)]

end BindingPlan
