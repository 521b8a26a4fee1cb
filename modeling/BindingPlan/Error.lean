import BindingPlan.Config.Check
import BindingPlan.Declaration

/-! # Errors and diagnostics

Why a declaration cannot be bound, or a pass cannot be run at all. Each error names the declaration
that caused it, unless the configuration did. A diagnostic puts the error next to the declaration
and its file. -/

namespace BindingPlan

/-- Why an exposed type does not fit the contribution of its binding. -/
inductive MisfitReason where
  /-- A class was bound with a contribution for functions. -/
  | factoryOnly
  | setExpected
  | setOrMapExpected
  | stated (text : String)
  deriving DecidableEq

/-- The words for a reason. -/
def MisfitReason.message : MisfitReason → String
  | .factoryOnly => "only factory functions can provide collection elements or containers"
  | .setExpected => "expected a Set<T> return type"
  | .setOrMapExpected => "expected a Set<T> or Map<K, V> return type"
  | .stated text => text

/-- What is wrong with the value of a marker's argument; `found` is the sort of the value. -/
inductive ArgumentReason where
  | classLiteralExpected (found : String)
  | constantExpected (found : String)
  | stringExpected (found : String)
  | unknownContribution (name : String)
  | stated (text : String)
  deriving DecidableEq

/-- The words for a reason. -/
def ArgumentReason.message : ArgumentReason → String
  | .classLiteralExpected found => "expected a class literal, found " ++ found
  | .constantExpected found => "expected an enum entry, found " ++ found
  | .stringExpected found => "expected a string, found " ++ found
  | .unknownContribution name => "unknown target '" ++ name ++ "'"
  | .stated text => text

/-- Why a declaration cannot be bound, or a pass cannot be run. -/
inductive BindingError where
  /-- The family of the marker does not fit the sort of the declaration. -/
  | unbindable (declaration sort family : String)
  /-- The exposed type is not of the shape that the contribution needs. -/
  | misfit (declaration contribution exposed : String) (reason : MisfitReason)
  | missingFile (declaration : String)
  | missingReturnType (declaration : String)
  /-- The declaration does not have exactly one marker; `markers` are those it has. -/
  | ambiguous (declaration : String) (markers : List String)
  | badArgument (declaration argument : String) (reason : ArgumentReason)
  | config (fault : ConfigFault)
  deriving DecidableEq

/-- The words for an error. -/
def BindingError.message : BindingError → String
  | .unbindable declaration sort family =>
    "'" ++ declaration ++ "' is a " ++ sort ++ " and cannot carry a " ++ family ++ " marker"
  | .misfit declaration contribution exposed reason =>
    "'" ++ declaration ++ "' cannot use " ++ contribution ++ " with exposed type " ++
      exposed ++ ": " ++ reason.message
  | .missingFile declaration =>
    "'" ++ declaration ++ "' declaration is not contained in a file"
  | .missingReturnType declaration =>
    "'" ++ declaration ++ "' function declaration has no resolvable return type"
  | .ambiguous declaration markers =>
    "'" ++ declaration ++ "' carries more than one binding marker: " ++
      String.intercalate ", " markers
  | .badArgument declaration argument reason =>
    "'" ++ declaration ++ "' has an invalid '" ++ argument ++ "' marker argument: " ++
      reason.message
  | .config fault => configurationPrologue ++ fault.message

/-- An error next to the declaration that caused it. -/
structure Diagnostic where
  declaration : String
  path : Option String
  error : BindingError
  deriving DecidableEq

namespace Diagnostic

/-- The diagnostic of an error at a declaration. -/
def ofError (declaration : Declaration) (error : BindingError) : Diagnostic :=
  ⟨declaration.reportName, declaration.location.map (·.path), error⟩

/-- The error behind the path of its file, if there is one. -/
def text (diagnostic : Diagnostic) : String :=
  match diagnostic.path with
  | some path => path ++ ": " ++ diagnostic.error.message
  | none => diagnostic.error.message

end Diagnostic

end BindingPlan
