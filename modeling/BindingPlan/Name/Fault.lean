/-! # What is wrong with a name

The two ways in which the text of a name can fail to be one, and the words for them. -/

namespace BindingPlan

/-- What the reader of a type looked for when it met something else. -/
inductive Expectation where
  | typeRef
  | commaOrEnd
  | endOfInput
  deriving DecidableEq

/-- The words for what was looked for. -/
def Expectation.message : Expectation → String
  | .typeRef => "expected a type name"
  | .commaOrEnd => "expected ',' or '>'"
  | .endOfInput => "unexpected trailing input"

/-- Why a text is no name: it has an empty part between its dots, or it breaks the form of a type
at some offset, counted in bytes of UTF-8. -/
inductive NameFault where
  | notAClass (text : String)
  | notAType (text : String) (offset : Nat) (expectation : Expectation)
  deriving DecidableEq

/-- The words for a fault. -/
def NameFault.message : NameFault → String
  | .notAClass text => "'" ++ text ++ "' is not a valid class name"
  | .notAType text offset expectation =>
    "invalid type '" ++ text ++ "' at offset " ++ toString offset ++ ": " ++ expectation.message

end BindingPlan
