import BindingPlan.Name.TypeRef
import BindingPlan.Text.Alphanumeric
import BindingPlan.Text.Blank

/-! # Reading types

A type is read from left to right: annotations, each an `@` with a name, then the name of the class,
then arguments between angle brackets, then a question mark. Blanks may stand before any of these
but not between an `@` and its name. A name is taken as long as it goes, and only then judged.

The reader answers the type with the rest of the text. It is bounded by a count of steps that the
length of the text provides, because each annotation and each argument takes a character. A fault
keeps the rest at which it arose; how many bytes lie before that rest is worked out at the end. -/

namespace BindingPlan.TypeRef

/-- Why reading stopped: a name with an empty part, or something unexpected in front of the rest. -/
inductive Stop where
  | badName (text : String)
  | unexpected (expectation : Expectation) (rest : List Char)

/-- A character of a dotted name. -/
def isNameChar (c : Char) : Bool :=
  Text.isAlphanumeric c || c == '_' || c == '.' || c == '$'

/-- The text without the blanks at its start. -/
def skipBlanks (s : List Char) : List Char :=
  s.dropWhile Text.isBlank

/-- The class that the characters of a name stand for. -/
def className (chars : List Char) : Except Stop ClassName :=
  match ClassName.ofDotted? (String.ofList chars) with
  | .ok name => .ok name
  | .error _ => .error (.badName (String.ofList chars))

/-- The annotations in front of a type, and the rest from the name of its class on. -/
def readAnnotations : Nat → List Char → Except Stop (List ClassName × List Char)
  | 0, s => .ok ([], skipBlanks s)
  | steps + 1, s =>
    match skipBlanks s with
    | '@' :: rest => do
      let name ← className (rest.takeWhile isNameChar)
      let (annotations, rest) ← readAnnotations steps (rest.dropWhile isNameChar)
      .ok (name :: annotations, rest)
    | rest => .ok ([], rest)

/-- The name of a class in front of the text, and the rest. -/
def readClass (s : List Char) : Except Stop (ClassName × List Char) :=
  match s.takeWhile isNameChar with
  | [] => .error (.unexpected .typeRef s)
  | chars => do
    let name ← className chars
    .ok (name, s.dropWhile isNameChar)

/-- Whether a question mark follows, and the rest after it. -/
def readNullable (s : List Char) : Bool × List Char :=
  match skipBlanks s with
  | '?' :: rest => (true, rest)
  | rest => (false, rest)

mutual

/-- A type in front of the text, and the rest. -/
def readType : Nat → List Char → Except Stop (TypeRef × List Char)
  | 0, s => .error (.unexpected .typeRef s)
  | steps + 1, s => do
    let (annotations, s) ← readAnnotations steps s
    let (raw, s) ← readClass s
    let (arguments, s) ←
      match skipBlanks s with
      | '<' :: rest => readArguments steps rest
      | rest => .ok ([], rest)
    let (nullable, s) := readNullable s
    .ok (⟨raw, arguments, nullable, annotations⟩, s)

/-- Type arguments, at least one, up to the closing bracket, and the rest after it. -/
def readArguments : Nat → List Char → Except Stop (List TypeRef × List Char)
  | 0, s => .error (.unexpected .typeRef s)
  | steps + 1, s => do
    let (argument, s) ← readType steps s
    match skipBlanks s with
    | ',' :: rest => do
      let (arguments, s) ← readArguments steps rest
      .ok (argument :: arguments, s)
    | '>' :: rest => .ok ([argument], rest)
    | rest => .error (.unexpected .commaOrEnd rest)

end

/-- A type that takes the whole text, blanks at its ends aside. -/
def readWhole (s : List Char) : Except Stop TypeRef := do
  let (type, rest) ← readType (2 * s.length + 2) s
  match skipBlanks rest with
  | [] => .ok type
  | rest => .error (.unexpected .endOfInput rest)

/-- How many bytes the characters take in UTF-8. -/
def byteLength : List Char → Nat
  | [] => 0
  | c :: rest => c.utf8Size + byteLength rest

/-- The type that a text stands for. -/
def ofText? (text : String) : Except NameFault TypeRef :=
  match readWhole text.toList with
  | .ok type => .ok type
  | .error (.badName name) => .error (.notAClass name)
  | .error (.unexpected expectation rest) =>
    .error (.notAType text (byteLength text.toList - byteLength rest) expectation)

end BindingPlan.TypeRef
