import BindingPlan.Container.Basic
import BindingPlan.Document.Declaration
import BindingPlan.Error
import BindingPlan.Json.Writer

/-! # Containers in documents

A container is written as one object. In the form of JSON lines every container takes one line of
its own, which works because a written value has no line break in it. -/

namespace BindingPlan

/-- An installation in a document. -/
def Installation.toJson : Installation → Json
  | .production scope => .object [("mode", .string "production"), ("scope", scope.toJson)]
  | .test scope replaces =>
    .object [("mode", .string "test"), ("scope", scope.toJson), ("replaces", replaces.toJson)]

/-- What a function is called on, in a document. -/
def CallTarget.toJson : CallTarget → Json
  | .parameter name => .object [("receiver", .string "parameter"), ("name", .string name)]
  | .object owner => .object [("receiver", .string "qualified"), ("owner", owner.toJson)]
  | .nothing => .object [("receiver", .string "none")]

/-- The body of a member in a document. -/
def Body.toJson : Body → Json
  | .reference implementation =>
    .object [("body", .string "bind_reference"), ("implementation", implementation.toJson)]
  | .call target function arguments =>
    .object [("body", .string "call"), ("receiver", target.toJson),
      ("function", .string function), ("arguments", .array (arguments.map .string))]

/-- A member in a document. -/
def Member.toJson (member : Member) : Json :=
  .object [("name", .string member.name), ("is_abstract", .bool member.isAbstract),
    ("visibility", member.visibility.toJson),
    ("parameters", .array (member.parameters.map Parameter.toJson)),
    ("return_type", member.returnType.toJson), ("body", member.body.toJson),
    ("annotations", annotationsToJson member.annotations)]

/-- A container in a document. -/
def Container.toJson (container : Container) : Json :=
  .object [("kind", .string container.form.word), ("name", container.name.toJson),
    ("visibility", container.visibility.toJson), ("install", container.installation.toJson),
    ("annotations", annotationsToJson container.annotations),
    ("members", .array (container.members.map Member.toJson)),
    ("originating_files", .array (container.files.map .string))]

/-- A text to which lines are added; with a limit it takes no more than so many lines. -/
structure LineSink where
  text : List Char
  limit : Option Nat

namespace LineSink

/-- The sink without any line. -/
def empty (limit : Option Nat) : LineSink :=
  ⟨[], limit⟩

/-- How many lines the sink has. -/
def lines (sink : LineSink) : Nat :=
  sink.text.count '\n'

/-- Whether the sink takes no more lines. -/
def isFull (sink : LineSink) : Bool :=
  match sink.limit with
  | some limit => decide (limit ≤ sink.lines)
  | none => false

/-- The sink with a container as one more line. -/
def write (sink : LineSink) (container : Container) : Except BindingError LineSink :=
  if sink.isFull then .error (.config (.unreadable "sink is full"))
  else .ok { sink with text := sink.text ++ container.toJson.write ++ ['\n'] }

end LineSink

end BindingPlan
