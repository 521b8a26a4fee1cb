import BindingPlan.Document.Decoder
import BindingPlan.Json.Reader

/-! # Whole documents

A document is decoded from its text in two steps. A text that does not obey the grammar of JSON is
refused as a whole, before any of it is decoded. A document with an unreadable part may still be
decoded if that part is passed over; if not, it is no JSON, whatever else is wrong with it. -/

namespace BindingPlan.Document

/-- Decodes a document as a whole. -/
def ofJson {α : Type} (decode : Json → Decoded α) (value : Json) : Decoded α :=
  (decode value).mapError fun fault => if value.isReadable then fault else .notJson

/-- Decodes the document in a text. -/
def ofText {α : Type} (decode : Json → Decoded α) (text : String) : Decoded α :=
  match Json.read? text with
  | some value => ofJson decode value
  | none => .error .notJson

end BindingPlan.Document
