import BindingPlan.Decimal.Double

/-! # JSON values

A document is a JSON value. Two things that a value could forget are kept, because a decoder may
report them: the members of an object in their order, repeated keys included, and whether a number
was written as an integer.

A text may also obey the grammar of JSON and yet stand for nothing. Such a part of a document is
kept as unreadable, because it does no harm where nobody looks at it. -/

namespace BindingPlan

/-- A JSON value; the members of an object are in written order and may repeat a key. -/
inductive Json where
  /-- What is well formed but stands for no value: a text with half of a surrogate pair in it, a
  number too large for a double, or an object with such a text for a key. -/
  | unreadable
  | null
  | bool (value : Bool)
  | integer (value : Int)
  | decimal (value : Decimal.Double)
  | string (value : String)
  | array (items : List Json)
  | object (members : List (String × Json))

namespace Json

/-- What may be absent is null. -/
def ofOption {α : Type} (encode : α → Json) : Option α → Json
  | some value => encode value
  | none => null

/-! ### Readability -/

mutual

/-- Whether the value has no unreadable part. -/
def isReadable : Json → Bool
  | .unreadable => false
  | .array items => areReadable items
  | .object members => haveReadable members
  | _ => true

/-- Whether no item has an unreadable part. -/
def areReadable : List Json → Bool
  | [] => true
  | item :: rest => item.isReadable && areReadable rest

/-- Whether no member has an unreadable part. -/
def haveReadable : List (String × Json) → Bool
  | [] => true
  | (_, value) :: rest => value.isReadable && haveReadable rest

end

/-! ### Depth -/

mutual

/-- How deeply arrays and objects are nested. -/
def depth : Json → Nat
  | .array items => depthOfItems items + 1
  | .object members => depthOfMembers members + 1
  | _ => 0

/-- The depth of the deepest item. -/
def depthOfItems : List Json → Nat
  | [] => 0
  | item :: rest => max item.depth (depthOfItems rest)

/-- The depth of the deepest member. -/
def depthOfMembers : List (String × Json) → Nat
  | [] => 0
  | (_, value) :: rest => max value.depth (depthOfMembers rest)

end

/-! ### Objects -/

/-- The value of a key in a list of members; of repeated keys the last one counts. -/
def lookup (members : List (String × Json)) (key : String) : Option Json :=
  (members.reverse.find? (·.1 == key)).map (·.2)

/-- The value of a key of an object; none for a missing key and for any other value. -/
def get? (key : String) : Json → Option Json
  | .object members => lookup members key
  | _ => none

/-- The members in the order of their keys, of repeated keys only the last. -/
def sortMembers (members : List (String × Json)) : List (String × Json) :=
  (members.foldr (fun m kept => if kept.any (·.1 == m.1) then kept else m :: kept) []).mergeSort
    fun a b => decide (a.1 ≤ b.1)

mutual

/-- The value with the members of every object in the order of their keys, none repeated. -/
def sorted : Json → Json
  | .array items => .array (sortedItems items)
  | .object members => .object (sortMembers (sortedMembers members))
  | value => value

/-- `sorted` for each item. -/
def sortedItems : List Json → List Json
  | [] => []
  | item :: rest => item.sorted :: sortedItems rest

/-- `sorted` for the value of each member. -/
def sortedMembers : List (String × Json) → List (String × Json)
  | [] => []
  | (key, value) :: rest => (key, value.sorted) :: sortedMembers rest

end

end Json

end BindingPlan
