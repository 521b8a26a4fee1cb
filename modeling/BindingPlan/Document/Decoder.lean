import BindingPlan.Document.Fault

/-! # Decoding documents

The rules by which a JSON value becomes a value of the library, free of any particular type.

* An object is described by a `Shape`: its fields in order, each with a way to take its value over
  into the value under construction. It may be written as a JSON object, in any order and with
  unknown keys, or as a JSON array of the fields in their order.
* Faults are reported in the order in which the document is read; what is missing comes last.
* Most of a document is decoded as it is read. The parts of a tagged object are *held* until its
  tag has been found, and some faults inside a held part are worded differently: `Route` says which
  way a value came.
* No decoder takes an unreadable value, but one may stand under an unknown key. What is held must be
  readable throughout. -/

namespace BindingPlan.Document

/-- How a value came to its decoder: as the document was read, or held until a tag was found. -/
inductive Route where
  | read
  | held

/-- The result of decoding. -/
abbrev Decoded (α : Type) := Except DecodeFault α

/-! ### Plain values -/

/-- The value of the wrong type, where `wanted` was expected. -/
def wrongType {α : Type} (value : Json) (wanted : String) : Decoded α :=
  match value.found? with
  | some found => .error (.wrongType found wanted)
  | none => .error .notJson

/-- A text. -/
def string : Json → Decoded String
  | .string text => .ok text
  | value => wrongType value "a string"

/-- A truth value. -/
def bool : Json → Decoded Bool
  | .bool value => .ok value
  | value => wrongType value "a boolean"

/-- An integer of sixty-four bits with sign. -/
def int : Json → Decoded Int64
  | .integer n =>
    if Int64.minValue.toInt ≤ n ∧ n ≤ Int64.maxValue.toInt then .ok (Int64.ofInt n)
    else .error (.wrongValue (.integer n) "i64")
  | value => wrongType value "i64"

/-- A finite double; an integer is taken for the nearest one. -/
def float : Json → Decoded Decimal.Double
  | .decimal x => .ok x
  | .integer n =>
    match Decimal.Double.ofInt? n with
    | some x => .ok x
    | none => wrongType (.integer n) "f64"
  | value => wrongType value "f64"

/-- A text of one character. -/
def char : Json → Decoded Char
  | .string text =>
    match text.toList with
    | [c] => .ok c
    | _ => .error (.wrongValue (.string text) "a character")
  | value => wrongType value "a character"

/-- A list, each item decoded alike. -/
def list {α : Type} (item : Json → Decoded α) : Json → Decoded (List α)
  | .array items => items.mapM item
  | value => wrongType value "a sequence"

/-- A value that may be null. -/
def optional {α : Type} (decode : Json → Decoded α) : Json → Decoded (Option α)
  | .null => .ok none
  | value => (decode value).map some

/-! ### Objects -/

/-- How an object is decoded: its name in messages, and for each field its key and what its value
does to the value under construction. -/
structure Shape (α : Type) where
  name : String
  fields : List (String × (Json → α → Decoded α))

namespace Shape

variable {α : Type}

/-- A field that sets a part of the value under construction. -/
def field {β : Type} (key : String) (decode : Json → Decoded β) (set : β → α → α) :
    String × (Json → α → Decoded α) :=
  (key, fun value built => (decode value).map (set · built))

/-- The number of fields in words. -/
def count (shape : Shape α) : String :=
  let n := shape.fields.length
  toString n ++ if n = 1 then " element" else " elements"

/-- Takes over the members of an object in written order; `seen` has the keys before them. -/
def takeMembers (shape : Shape α) : List String → List (String × Json) → α → Decoded α
  | _, [], built => .ok built
  | seen, (key, value) :: rest, built =>
    match shape.fields.lookup key with
    | none => shape.takeMembers seen rest built
    | some take =>
      if key ∈ seen then .error (.duplicateField key)
      else do
        let built ← take value built
        shape.takeMembers (key :: seen) rest built

/-- Takes over the items of an array in the order of the fields. -/
def takeItems : List (String × (Json → α → Decoded α)) → List Json → α → Decoded α
  | (_, take) :: fields, value :: rest, built => do
    let built ← take value built
    takeItems fields rest built
  | _, _, built => .ok built

/-- The fault of an array with more items than fields. -/
def surplusFault (shape : Shape α) (items : Nat) : Route → DecodeFault
  | .read => .surplus
  | .held => .wrongLength items (shape.count ++ " in sequence")

/-- The fault of an array that ends before a field without default. -/
def shortFault (shape : Shape α) (key : String) : DecodeFault :=
  .wrongLength (shape.fields.findIdx (·.1 == key))
    ("struct " ++ shape.name ++ " with " ++ shape.count)

/-- Decodes an object on top of `start`, and answers besides the fault to report for a field that
turns out to be missing. -/
def take (shape : Shape α) (route : Route) (start : α) :
    Json → Decoded (α × (String → DecodeFault))
  | .object members => do
    let built ← shape.takeMembers [] members start
    .ok (built, .missingField)
  | .array items => do
    let built ← takeItems shape.fields items start
    if shape.fields.length < items.length then
      .error (shape.surplusFault items.length route)
    else .ok (built, shape.shortFault)
  | value => wrongType value ("struct " ++ shape.name)

/-- Decodes an object none of whose fields is required. -/
def overlay (shape : Shape α) (route : Route) (start : α) (value : Json) : Decoded α :=
  (shape.take route start value).map (·.1)

end Shape

/-- A field that must have been given. -/
def required {β : Type} (missing : String → DecodeFault) (key : String) : Option β → Decoded β
  | some value => .ok value
  | none => .error (missing key)

/-! ### Variants -/

/-- Fails unless the name is one of the known ones. -/
def knownVariant (known : List String) (name : String) : Decoded Unit :=
  if name ∈ known then .ok () else .error (.unknownVariant name known)

/-- An object with one member whose key names a variant and whose value belongs to it. -/
def variant {α : Type} (route : Route) (known : List String) (payload : String → Json → Decoded α) :
    Json → Decoded α
  | .string name => do
    knownVariant known name
    .error (.wrongType .unitVariant "newtype variant")
  | .object members =>
    match route, members with
    | .read, [] => .error .notAVariant
    | .read, (name, value) :: rest => do
      knownVariant known name
      let result ← payload name value
      if rest.isEmpty then .ok result else .error .notAVariant
    | .held, [(name, value)] => do
      knownVariant known name
      payload name value
    | .held, _ => .error (.wrongValue .map "map with a single key")
  | value =>
    match route with
    | .read => .error .notAVariant
    | .held => wrongType value "string or map"

/-- Nothing, written as null or as an object without members. -/
def unit : Json → Decoded Unit
  | .null => .ok ()
  | .object [] => .ok ()
  | value => wrongType value "unit"

/-- A held word for one of several values; it may also be the key of an object with no value. -/
def word {α : Type} (words : List (String × α)) : Json → Decoded α
  | .string name => choose name
  | .object [(name, value)] => do
    let result ← choose name
    unit value
    .ok result
  | .object _ => .error (.wrongValue .map "map with a single key")
  | value => wrongType value "string or map"
where
  /-- The value of a word. -/
  choose (name : String) : Decoded α :=
    match words.lookup name with
    | some result => .ok result
    | none => .error (.unknownVariant name (words.map (·.1)))

end BindingPlan.Document
