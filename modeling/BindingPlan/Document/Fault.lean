import BindingPlan.Decimal.Layout
import BindingPlan.Json.Basic
import BindingPlan.Name.Fault
import BindingPlan.Text.Quoted

/-! # What is wrong with a document

A document may be no JSON at all, may have a value of the wrong kind somewhere, or may break a rule
of the object it describes. Each is a cause of its own; `DecodeFault.message` has the words. -/

namespace BindingPlan

/-- A value as a message describes it. -/
inductive Found where
  | null
  | bool (value : Bool)
  | integer (value : Int)
  | decimal (value : Decimal.Double)
  | string (text : String)
  | sequence
  | map
  /-- The bare name of a variant that needs a value. -/
  | unitVariant
  deriving DecidableEq

/-- The description of a JSON value; what is unreadable cannot be described. -/
def Json.found? : Json → Option Found
  | .unreadable => none
  | .null => some .null
  | .bool value => some (.bool value)
  | .integer value => some (.integer value)
  | .decimal value => some (.decimal value)
  | .string text => some (.string text)
  | .array _ => some .sequence
  | .object _ => some .map

/-- The words for a description. -/
def Found.message : Found → String
  | .null => "null"
  | .bool true => "boolean `true`"
  | .bool false => "boolean `false`"
  | .integer value => "integer `" ++ toString value ++ "`"
  | .decimal value => "floating point `" ++ Decimal.Layout.document.text value ++ "`"
  | .string text => "string " ++ Text.quote text
  | .sequence => "sequence"
  | .map => "map"
  | .unitVariant => "unit variant"

/-- Why a document could not be decoded. -/
inductive DecodeFault where
  | notJson
  | wrongType (found : Found) (wanted : String)
  | wrongValue (found : Found) (wanted : String)
  | wrongLength (length : Nat) (wanted : String)
  | missingField (key : String)
  | duplicateField (key : String)
  | unknownVariant (name : String) (known : List String)
  /-- An array with more items than the object it stands for has fields. -/
  | surplus
  /-- Something other than one variant with its value. -/
  | notAVariant
  | badName (fault : NameFault)
  deriving DecidableEq

/-- A name as a message shows it, between backquotes. -/
def backquoted (name : String) : String :=
  "`" ++ name ++ "`"

/-- What stands in front of every fault of the configuration and of names. -/
def configurationPrologue : String := "Configuration error: "

/-- The words for a fault. -/
def DecodeFault.message : DecodeFault → String
  | .notJson => "not JSON"
  | .wrongType found wanted => "invalid type: " ++ found.message ++ ", expected " ++ wanted
  | .wrongValue found wanted => "invalid value: " ++ found.message ++ ", expected " ++ wanted
  | .wrongLength length wanted => "invalid length " ++ toString length ++ ", expected " ++ wanted
  | .missingField key => "missing field " ++ backquoted key
  | .duplicateField key => "duplicate field " ++ backquoted key
  | .unknownVariant name known =>
    "unknown variant " ++ backquoted name ++ ", expected one of " ++
      String.intercalate ", " (known.map backquoted)
  | .surplus => "trailing characters"
  | .notAVariant => "expected value"
  | .badName fault => configurationPrologue ++ fault.message

end BindingPlan
