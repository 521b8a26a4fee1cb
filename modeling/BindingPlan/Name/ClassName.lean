import BindingPlan.Name.Fault
import BindingPlan.Text.Uppercase

/-! # Class names

A class name has a package and the simple names of the class and the classes around it, outermost
first. Written down it is one dotted text, and reading it back has to guess where the package ends:
the class part starts at the first segment with an upper-case letter in front, or is the last
segment if there is none. Two class names are equal if their parts are, not if their texts are. -/

namespace BindingPlan

/-- A class, as its package and its simple names from the outermost class inwards. -/
structure ClassName where
  package : String
  simpleNames : List String
  deriving DecidableEq

namespace ClassName

/-! ### Writing -/

/-- The name of the innermost class. -/
def simpleName (name : ClassName) : String :=
  name.simpleNames.getLastD ""

/-- The dotted text of the name. -/
def dotted (name : ClassName) : String :=
  if name.package = "" then String.intercalate "." name.simpleNames
  else name.package ++ "." ++ String.intercalate "." name.simpleNames

/-! ### Reading -/

/-- The parts of a text between its dots. -/
def segments (text : String) : List String :=
  (text.toList.splitOn '.').map String.ofList

/-- Whether a segment begins the class part. -/
def startsClass (segment : String) : Bool :=
  segment.toList.head?.any Text.isUppercase

/-- The segments before the class part and those of the class part. -/
def splitSegments (parts : List String) : List String × List String :=
  match parts.dropWhile (!startsClass ·) with
  | [] => (parts.dropLast, parts.getLast?.toList)
  | classPart => (parts.takeWhile (!startsClass ·), classPart)

/-- The class name that a dotted text stands for. -/
def ofDotted? (text : String) : Except NameFault ClassName :=
  let parts := segments text
  if "" ∈ parts then .error (.notAClass text)
  else
    let (package, classPart) := splitSegments parts
    .ok ⟨String.intercalate "." package, classPart⟩

/-! ### Order -/

/-- Packages are compared first, then the lists of simple names. -/
def precedes (a b : ClassName) : Bool :=
  if a.package = b.package then !b.simpleNames.lex a.simpleNames (decide <| · < ·)
  else decide (a.package < b.package)

/-- The names in ascending order. -/
def sort (names : List ClassName) : List ClassName :=
  names.mergeSort precedes

end ClassName

end BindingPlan
