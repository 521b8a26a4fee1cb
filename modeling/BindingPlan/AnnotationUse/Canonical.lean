import BindingPlan.AnnotationUse.Basic
import BindingPlan.Decimal.Layout
import BindingPlan.Digest.Sha1

/-! # The canonical text of an annotation

Two annotations that mean the same get one text: `class(name:value;name:value)`, with the arguments
in the order of their names and the declared defaults in the place of arguments left out. The text
is not meant to be read back. The token of an annotation is a short hash of it, fit to be a part
of an identifier. -/

namespace BindingPlan

/-- Written arguments with the defaults of the names that are not among them, ordered by name; equal
names keep their order. -/
def mergeDefaults {α : Type} (written defaults : List (String × α)) : List (String × α) :=
  (written ++ defaults.filter fun d => !written.any (·.1 == d.1)).mergeSort
    fun a b => decide (a.1 ≤ b.1)

mutual

/-- The canonical text of a value. -/
def ArgumentValue.canonical : ArgumentValue → String
  | .string text => text
  | .bool true => "true"
  | .bool false => "false"
  | .int value => toString value.toInt
  | .float value => Decimal.Layout.plain.text value
  | .char value => String.ofList [value]
  | .type literal => literal.raw.dotted
  | .enum constant => constant.type.dotted ++ "." ++ constant.name
  | .nested nested => nested.canonical
  | .array items => String.intercalate "," (ArgumentValue.canonicals items)

/-- The canonical texts of several values. -/
def ArgumentValue.canonicals : List ArgumentValue → List String
  | [] => []
  | value :: rest => value.canonical :: ArgumentValue.canonicals rest

/-- The canonical text of an annotation. -/
def AnnotationUse.canonical : AnnotationUse → String
  | ⟨type, arguments, defaults⟩ =>
    let merged := mergeDefaults (Argument.canonicals arguments) (Argument.canonicals defaults)
    type.dotted ++ "(" ++
      String.intercalate ";" (merged.map fun a => a.1 ++ ":" ++ a.2) ++ ")"

/-- The names of several arguments with the canonical texts of their values. -/
def Argument.canonicals : List Argument → List (String × String)
  | [] => []
  | argument :: rest => argument.canonicalPair :: Argument.canonicals rest

/-- The name of an argument with the canonical text of its value. -/
def Argument.canonicalPair : Argument → String × String
  | ⟨name, value⟩ => (name, value.canonical)

end

/-- Two hexadecimal digits for a byte. -/
def hexByte (byte : UInt8) : List Char :=
  [Nat.digitChar (byte.toNat / 16), Nat.digitChar (byte.toNat % 16)]

/-- How many bytes of the digest go into a token. -/
def tokenBytes : Nat := 4

/-- Eight hexadecimal digits that stand for a text. -/
def hashToken (text : String) : String :=
  String.ofList (((Digest.sha1 text.toUTF8.toList).take tokenBytes).flatMap hexByte)

/-- Eight hexadecimal digits that stand for the canonical text of an annotation. -/
def AnnotationUse.token (usage : AnnotationUse) : String :=
  hashToken usage.canonical

end BindingPlan
