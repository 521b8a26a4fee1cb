import BindingPlan.AnnotationUse.Basic
import BindingPlan.Document.Name

/-! # Annotations in documents

An annotation is an object with its class under `type` and lists of arguments and defaults. A value
is an object with one member whose key says what sort of value it is. The two nest, so the decoder
of values is bounded by a depth that the document provides. -/

namespace BindingPlan.Document

/-- The parts of an annotation found so far. -/
structure AnnotationParts where
  type : Option ClassName
  arguments : List Argument
  defaults : List Argument

/-- The fields of an annotation. -/
def annotationShape (argument : Json → Decoded Argument) : Shape AnnotationParts :=
  { name := "Annotation"
    fields := [
      Shape.field "type" className fun v a => { a with type := some v },
      Shape.field "arguments" (list argument) fun v a => { a with arguments := v },
      Shape.field "defaults" (list argument) fun v a => { a with defaults := v }] }

/-- An annotation, given how to decode its arguments. -/
def annotationOf (route : Route) (argument : Json → Decoded Argument) (value : Json) :
    Decoded AnnotationUse := do
  let (parts, missing) ← (annotationShape argument).take route ⟨none, [], []⟩ value
  let type ← required missing "type" parts.type
  .ok ⟨type, parts.arguments, parts.defaults⟩

/-- The parts of an argument found so far. -/
structure ArgumentParts where
  name : Option String
  value : Option ArgumentValue

/-- The fields of an argument. -/
def argumentShape (value : Json → Decoded ArgumentValue) : Shape ArgumentParts :=
  { name := "AnnotationArgument"
    fields := [
      Shape.field "name" string fun v a => { a with name := some v },
      Shape.field "value" value fun v a => { a with value := some v }] }

/-- An argument, given how to decode its value. -/
def argumentOf (route : Route) (decode : Json → Decoded ArgumentValue) (value : Json) :
    Decoded Argument := do
  let (parts, missing) ← (argumentShape decode).take route ⟨none, none⟩ value
  let name ← required missing "name" parts.name
  let value ← required missing "value" parts.value
  .ok ⟨name, value⟩

/-- The parts of an enumeration constant found so far. -/
structure EnumConstantParts where
  type : Option ClassName
  name : Option String

/-- The fields of an enumeration constant. -/
def enumConstantShape : Shape EnumConstantParts :=
  { name := "EnumEntry"
    fields := [
      Shape.field "type" className fun v a => { a with type := some v },
      Shape.field "entry" string fun v a => { a with name := some v }] }

/-- An enumeration constant. -/
def enumConstant (route : Route) (value : Json) : Decoded EnumConstant := do
  let (parts, missing) ← enumConstantShape.take route ⟨none, none⟩ value
  let type ← required missing "type" parts.type
  let name ← required missing "entry" parts.name
  .ok ⟨type, name⟩

/-- The keys that stand for the sorts of values. -/
def valueKeys : List String :=
  ["string", "bool", "int", "float", "char", "type", "enum", "annotation", "array"]

/-- The value under a key, given how to decode the values inside it. -/
def payload (route : Route) (inner : Json → Decoded ArgumentValue) (key : String)
    (value : Json) : Decoded ArgumentValue :=
  match key with
  | "string" => (string value).map .string
  | "bool" => (bool value).map .bool
  | "int" => (int value).map .int
  | "float" => (float value).map .float
  | "char" => (char value).map .char
  | "type" => (typeRef value).map .type
  | "enum" => (enumConstant route value).map .enum
  | "annotation" => (annotationOf route (argumentOf route inner) value).map .nested
  | "array" => (list inner value).map .array
  | _ => .error (.unknownVariant key valueKeys)

/-- A value in which other values are nested at most `depth` deep. -/
def valueWithin (route : Route) : Nat → Json → Decoded ArgumentValue
  | 0, _ => .error .notAVariant
  | depth + 1, value => variant route valueKeys (payload route (valueWithin route depth)) value

/-- The value of an argument. -/
def argumentValue (route : Route) (value : Json) : Decoded ArgumentValue :=
  valueWithin route (value.depth + 1) value

/-- An annotation. -/
def annotationUse (route : Route) (value : Json) : Decoded AnnotationUse :=
  annotationOf route (argumentOf route (valueWithin route (value.depth + 1))) value

end BindingPlan.Document

namespace BindingPlan

mutual

/-- A value in a document. -/
def ArgumentValue.toJson : ArgumentValue → Json
  | .string text => .object [("string", .string text)]
  | .bool value => .object [("bool", .bool value)]
  | .int value => .object [("int", .integer value.toInt)]
  | .float value => .object [("float", .decimal value)]
  | .char value => .object [("char", .string (String.ofList [value]))]
  | .type literal => .object [("type", literal.toJson)]
  | .enum constant =>
    .object [("enum", .object [("type", constant.type.toJson),
      ("entry", .string constant.name)])]
  | .nested nested => .object [("annotation", nested.toJson)]
  | .array items => .object [("array", .array (ArgumentValue.toJsons items))]

/-- Several values in a document. -/
def ArgumentValue.toJsons : List ArgumentValue → List Json
  | [] => []
  | value :: rest => value.toJson :: ArgumentValue.toJsons rest

/-- An annotation in a document; defaults are left out if there are none. -/
def AnnotationUse.toJson : AnnotationUse → Json
  | ⟨type, arguments, defaults⟩ =>
    .object (("type", type.toJson) :: ("arguments", .array (Argument.toJsons arguments)) ::
      if defaults.isEmpty then [] else [("defaults", .array (Argument.toJsons defaults))])

/-- Several arguments in a document. -/
def Argument.toJsons : List Argument → List Json
  | [] => []
  | argument :: rest => argument.toJson :: Argument.toJsons rest

/-- An argument in a document. -/
def Argument.toJson : Argument → Json
  | ⟨name, value⟩ => .object [("name", .string name), ("value", value.toJson)]

end

/-- The annotations of one place in a document. -/
def annotationsToJson (annotations : List AnnotationUse) : Json :=
  .array (annotations.map AnnotationUse.toJson)

end BindingPlan
