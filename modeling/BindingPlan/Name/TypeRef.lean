import BindingPlan.Name.ClassName

/-! # References to types

A type is a class with type arguments, annotations in front and a mark for null:
`@a.B pkg.Raw<pkg.First, pkg.Second>?`. Arguments are types again, to any depth. -/

namespace BindingPlan

/-- A reference to a type: a class, its arguments, and what is written around them. -/
structure TypeRef where
  raw : ClassName
  arguments : List TypeRef
  nullable : Bool
  annotations : List ClassName

namespace TypeRef

/-! ### Equality -/

mutual

/-- Two types are equal or not. -/
def decEq : (a b : TypeRef) → Decidable (a = b)
  | ⟨raw, arguments, nullable, annotations⟩, ⟨raw', arguments', nullable', annotations'⟩ =>
    match decEqList arguments arguments' with
    | .isFalse h => .isFalse fun e => h (TypeRef.mk.inj e).2.1
    | .isTrue h =>
      if h' : raw = raw' ∧ nullable = nullable' ∧ annotations = annotations' then
        .isTrue (by rw [h, h'.1, h'.2.1, h'.2.2])
      else
        .isFalse fun e =>
          let e := TypeRef.mk.inj e
          h' ⟨e.1, e.2.2.1, e.2.2.2⟩

/-- Two lists of types are equal or not. -/
def decEqList : (as bs : List TypeRef) → Decidable (as = bs)
  | [], [] => .isTrue rfl
  | [], _ :: _ => .isFalse nofun
  | _ :: _, [] => .isFalse nofun
  | a :: as, b :: bs =>
    match decEq a b with
    | .isFalse h => .isFalse fun e => h (List.cons.inj e).1
    | .isTrue h =>
      match decEqList as bs with
      | .isFalse h' => .isFalse fun e => h' (List.cons.inj e).2
      | .isTrue h' => .isTrue (by rw [h, h'])

end

instance : DecidableEq TypeRef := decEq

/-! ### Building -/

/-- The type of a class without arguments. -/
def ofClass (raw : ClassName) : TypeRef :=
  ⟨raw, [], false, []⟩

/-- A class applied to type arguments. -/
def apply (raw : ClassName) (arguments : List TypeRef) : TypeRef :=
  { ofClass raw with arguments }

/-- Whether the type has arguments. -/
def hasArguments (type : TypeRef) : Bool :=
  !type.arguments.isEmpty

/-- The type with one more annotation behind the others, unless it has that one already. -/
def annotatedWith (type : TypeRef) (name : ClassName) : TypeRef :=
  if name ∈ type.annotations then type
  else { type with annotations := type.annotations ++ [name] }

/-! ### Writing -/

mutual

/-- The text of a type. -/
def text : TypeRef → String
  | ⟨raw, arguments, nullable, annotations⟩ =>
    String.join (annotations.map fun a => "@" ++ a.dotted ++ " ") ++ raw.dotted ++
      (if arguments.isEmpty then ""
        else "<" ++ String.intercalate ", " (texts arguments) ++ ">") ++
      (if nullable then "?" else "")

/-- The texts of several types. -/
def texts : List TypeRef → List String
  | [] => []
  | type :: rest => type.text :: texts rest

end

mutual

/-- The simple names of a type and its arguments run together: `Map<String, Fruit>` gives
`MapStringFruit`. -/
def stem : TypeRef → String
  | ⟨raw, arguments, _, _⟩ => raw.simpleName ++ stems arguments

/-- The stems of several types run together. -/
def stems : List TypeRef → String
  | [] => ""
  | type :: rest => type.stem ++ stems rest

end

end TypeRef

end BindingPlan
