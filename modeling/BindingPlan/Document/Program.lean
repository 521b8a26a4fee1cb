import BindingPlan.Document.Declaration
import BindingPlan.Document.Text
import BindingPlan.Program

/-! # Programs in documents

A program is an object with a list of declarations and a list of annotation classes, either of
which may be left out. -/

namespace BindingPlan.Document

/-- The parts of an entry found so far. -/
structure AnnotationEntryParts where
  name : Option ClassName
  annotations : List AnnotationUse

/-- The fields of the entry of an annotation class. -/
def annotationEntryShape : Shape AnnotationEntryParts :=
  { name := "AnnotationClass"
    fields := [
      Shape.field "name" className fun v e => { e with name := some v },
      Shape.field "annotations" (list (annotationUse .read))
        fun v e => { e with annotations := v }] }

/-- The entry of an annotation class. -/
def annotationEntry (value : Json) : Decoded AnnotationEntry := do
  let (parts, missing) ← annotationEntryShape.take .read ⟨none, []⟩ value
  let name ← required missing "name" parts.name
  .ok ⟨name, parts.annotations⟩

/-- The fields of a program. -/
def programShape : Shape Program :=
  { name := "SourceSet"
    fields := [
      Shape.field "declarations" (list declaration) fun v p => { p with declarations := v },
      Shape.field "annotation_classes" (list annotationEntry)
        fun v p => { p with knownEntries := v }] }

/-- A program. -/
def program (value : Json) : Decoded Program :=
  programShape.overlay .read Program.empty value

end BindingPlan.Document

namespace BindingPlan

/-- The entry of an annotation class in a document. -/
def AnnotationEntry.toJson (entry : AnnotationEntry) : Json :=
  .object [("name", entry.name.toJson), ("annotations", annotationsToJson entry.annotations)]

/-- A program in a document. -/
def Program.toJson (program : Program) : Json :=
  .object [("declarations", .array (program.declarations.map Declaration.toJson)),
    ("annotation_classes", .array (program.knownEntries.map AnnotationEntry.toJson))]

/-- The program that the text of a document describes. -/
def Program.ofText? (text : String) : Except DecodeFault Program :=
  Document.ofText Document.program text

end BindingPlan
