import BindingPlan.Document.Decoder
import BindingPlan.Name.TypeReader

/-! # Names in documents

A class or a type is one text in a document. Blanks around the name of a class do not count. -/

namespace BindingPlan.Document

/-- The class that a text names. -/
def className (value : Json) : Decoded ClassName := do
  let text ← string value
  (ClassName.ofDotted? (Text.trim text)).mapError .badName

/-- The type that a text names. -/
def typeRef (value : Json) : Decoded TypeRef := do
  let text ← string value
  (TypeRef.ofText? text).mapError .badName

end BindingPlan.Document

namespace BindingPlan

/-- A class name in a document. -/
def ClassName.toJson (name : ClassName) : Json :=
  .string name.dotted

/-- A type in a document. -/
def TypeRef.toJson (type : TypeRef) : Json :=
  .string type.text

end BindingPlan
