import BindingPlan.Config.Basic
import BindingPlan.Document.Fault

/-! # Usable configurations

A configuration can be used if containers of different markers cannot meet: the four markers have
different classes, names have a separator, and every marker has a suffix of its own. `Config.check`
reports the first rule that is broken. -/

namespace BindingPlan

/-- What is wrong with a configuration, or with the text it should be read from. -/
inductive ConfigFault where
  | repeatedMarker (name : ClassName)
  | emptySeparator
  | emptySuffix (marker : Marker)
  | sharedSuffix (marker other : Marker) (suffix : String)
  | badName (fault : NameFault)
  | malformed (fault : DecodeFault)
  /-- The text could not be had, for a reason given by the system. -/
  | unreadable (reason : String)
  /-- A fault that a user of the library states in words. -/
  | stated (text : String)
  deriving DecidableEq

/-- The key under which a configuration has the suffix of a marker. -/
def Naming.suffixKey : Marker → String
  | ⟨.bind, .production⟩ => "bind_suffix"
  | ⟨.bind, .test⟩ => "test_bind_suffix"
  | ⟨.factory, .production⟩ => "factory_suffix"
  | ⟨.factory, .test⟩ => "test_factory_suffix"

/-- The words for a fault. -/
def ConfigFault.message : ConfigFault → String
  | .repeatedMarker name => "marker " ++ name.dotted ++ " is registered more than once"
  | .emptySeparator => "container name separator must not be empty"
  | .emptySuffix marker => Naming.suffixKey marker ++ " must not be empty"
  | .sharedSuffix marker other suffix =>
    Naming.suffixKey marker ++ " and " ++ Naming.suffixKey other ++
      " share the container suffix '" ++ suffix ++ "'"
  | .badName fault => fault.message
  | .malformed fault => "Malformed configuration: " ++ fault.message
  | .unreadable reason => "Unable to read configuration: " ++ reason
  | .stated text => text

/-- The first class that comes again later in the list. -/
def firstRepeated? : List ClassName → Option ClassName
  | [] => none
  | name :: rest => if name ∈ rest then some name else firstRepeated? rest

/-- The first fault of the suffixes of some markers: an empty suffix, or one that a later marker
has too. -/
def Naming.suffixFault? (naming : Naming) : List Marker → Option ConfigFault
  | [] => none
  | marker :: rest =>
    if naming.suffix marker = "" then some (.emptySuffix marker)
    else match rest.find? (naming.suffix · == naming.suffix marker) with
      | some other => some (.sharedSuffix marker other (naming.suffix marker))
      | none => naming.suffixFault? rest

/-- The first rule that a configuration breaks, if it breaks any. -/
def Config.fault? (config : Config) : Option ConfigFault :=
  match firstRepeated? (Marker.all.map config.markers.classOf) with
  | some name => some (.repeatedMarker name)
  | none =>
    if config.naming.separator = "" then some .emptySeparator
    else config.naming.suffixFault? Marker.all

/-- The configuration itself, if it can be used. -/
def Config.check (config : Config) : Except ConfigFault Config :=
  match config.fault? with
  | some fault => .error fault
  | none => .ok config

end BindingPlan
