import BindingPlan.Decimal.Double
import BindingPlan.Name.TypeRef

/-! # Annotations

An annotation is a class with named arguments. Its class may have declared default values, which
come along as far as they are known: an argument written with its default means the same as one
left out. Values nest through arrays and further annotations. -/

namespace BindingPlan

/-- A constant of an enumeration class. -/
structure EnumConstant where
  type : ClassName
  name : String
  deriving DecidableEq

mutual

/-- An annotation as it is written, with the defaults that its class declares. -/
structure AnnotationUse where
  type : ClassName
  arguments : List Argument
  defaults : List Argument

/-- A named value. -/
structure Argument where
  name : String
  value : ArgumentValue

/-- The value of an argument. -/
inductive ArgumentValue where
  | string (text : String)
  | bool (value : Bool)
  | int (value : Int64)
  | float (value : Decimal.Double)
  | char (value : Char)
  /-- A class literal. -/
  | type (literal : TypeRef)
  | enum (constant : EnumConstant)
  | nested (usage : AnnotationUse)
  | array (items : List ArgumentValue)

end

/-! ### Equality

Values are equal as the annotated program would compare them: numbers as numbers, so that the two
zeros of a float are equal, and everything else part by part. -/

mutual

/-- Whether two values are equal. -/
def ArgumentValue.same : ArgumentValue → ArgumentValue → Bool
  | .string a, .string b => a == b
  | .bool a, .bool b => a == b
  | .int a, .int b => a == b
  | .float a, .float b => a.sameNumber b
  | .char a, .char b => a == b
  | .type a, .type b => a == b
  | .enum a, .enum b => a == b
  | .nested a, .nested b => a.same b
  | .array as, .array bs => ArgumentValue.sameAll as bs
  | _, _ => false

/-- Whether two lists of values are equal. -/
def ArgumentValue.sameAll : List ArgumentValue → List ArgumentValue → Bool
  | [], [] => true
  | a :: as, b :: bs => a.same b && ArgumentValue.sameAll as bs
  | _, _ => false

/-- Whether two annotations are equal. -/
def AnnotationUse.same : AnnotationUse → AnnotationUse → Bool
  | ⟨type, arguments, defaults⟩, ⟨type', arguments', defaults'⟩ =>
    type == type' && Argument.sameAll arguments arguments' && Argument.sameAll defaults defaults'

/-- Whether two lists of arguments are equal. -/
def Argument.sameAll : List Argument → List Argument → Bool
  | [], [] => true
  | a :: as, b :: bs => a.same b && Argument.sameAll as bs
  | _, _ => false

/-- Whether two arguments are equal. -/
def Argument.same : Argument → Argument → Bool
  | ⟨name, value⟩, ⟨name', value'⟩ => name == name' && value.same value'

end

namespace AnnotationUse

/-- An annotation without arguments. -/
def ofClass (type : ClassName) : AnnotationUse :=
  ⟨type, [], []⟩

/-- The annotation with one more argument behind the others. -/
def withArgument (usage : AnnotationUse) (name : String) (value : ArgumentValue) : AnnotationUse :=
  { usage with arguments := usage.arguments ++ [⟨name, value⟩] }

/-- The annotation with one more default behind the others. -/
def withDefault (usage : AnnotationUse) (name : String) (value : ArgumentValue) : AnnotationUse :=
  { usage with defaults := usage.defaults ++ [⟨name, value⟩] }

/-- The written argument of a name, the first if there are several. -/
def argument? (usage : AnnotationUse) (name : String) : Option ArgumentValue :=
  (usage.arguments.find? (·.name == name)).map (·.value)

/-- The declared default of a name, the first if there are several. -/
def default? (usage : AnnotationUse) (name : String) : Option ArgumentValue :=
  (usage.defaults.find? (·.name == name)).map (·.value)

/-- The written argument of a name, unless it is equal to the declared default. -/
def chosen? (usage : AnnotationUse) (name : String) : Option ArgumentValue :=
  match usage.argument? name, usage.default? name with
  | some value, some default => if default.same value then none else some value
  | value, _ => value

end AnnotationUse

namespace ArgumentValue

/-- The type of a class literal. -/
def type? : ArgumentValue → Option TypeRef
  | .type literal => some literal
  | _ => none

/-- The text of a string. -/
def string? : ArgumentValue → Option String
  | .string text => some text
  | _ => none

/-- The constant that a value names: an enumeration constant does so itself, a string with its part
after the last dot. -/
def constantName? : ArgumentValue → Option String
  | .enum constant => some constant.name
  | .string text => some ((ClassName.segments text).getLastD text)
  | _ => none

/-- What sort of value it is, in words. -/
def sortWord : ArgumentValue → String
  | .string _ => "string"
  | .bool _ => "bool"
  | .int _ => "int"
  | .float _ => "float"
  | .char _ => "char"
  | .type _ => "class literal"
  | .enum _ => "enum entry"
  | .nested _ => "annotation"
  | .array _ => "array"

end ArgumentValue

end BindingPlan
