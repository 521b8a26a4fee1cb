import BindingPlan.Marker
import BindingPlan.Name.TypeRef

/-! # Configuration

Everything the library knows by name lies in the configuration: the markers it looks for, the
arguments it reads from them, the types with a special meaning, the annotations of the framework
that it writes, and the parts from which it builds names. The default configuration serves a program
that uses Dagger and Hilt. -/

namespace BindingPlan

/-- The names of the arguments of a marker. -/
structure ArgumentKeys where
  scope : String
  target : String
  contribution : String
  key : String
  deriving DecidableEq

/-- The types with a special meaning: `topType` is a supertype of every class and never exposed,
`targetSentinel` as the target of a marker stands for no target, and collections are known by the
listed classes. -/
structure SpecialTypes where
  topType : ClassName
  targetSentinel : ClassName
  defaultScope : ClassName
  qualifierMarkers : List ClassName
  setTypes : List ClassName
  mapTypes : List ClassName
  deriving DecidableEq

/-- The annotation classes of the framework, for containers and their members. -/
structure FrameworkClasses where
  module : ClassName
  installIn : ClassName
  testInstallIn : ClassName
  binds : ClassName
  provides : ClassName
  intoSet : ClassName
  intoMap : ClassName
  elementsIntoSet : ClassName
  multibinds : ClassName
  suppressWildcards : Option ClassName
  deriving DecidableEq

/-- The parts of generated names. -/
structure Naming where
  separator : String
  bindPrefix : String
  providePrefix : String
  bindSuffix : String
  testBindSuffix : String
  factorySuffix : String
  testFactorySuffix : String
  ownerParameter : String
  implementationParameter : String
  deriving DecidableEq

/-- The configuration of a pass. -/
structure Config where
  markers : MarkerClasses
  arguments : ArgumentKeys
  types : SpecialTypes
  framework : FrameworkClasses
  naming : Naming
  deriving DecidableEq

/-! ### Questions to the configuration -/

/-- Whether a type is a set of something. -/
def SpecialTypes.isSet (types : SpecialTypes) (type : TypeRef) : Bool :=
  decide (type.raw ∈ types.setTypes) && type.arguments.length == 1

/-- Whether a type is a map from something to something. -/
def SpecialTypes.isMap (types : SpecialTypes) (type : TypeRef) : Bool :=
  decide (type.raw ∈ types.mapTypes) && type.arguments.length == 2

/-- Whether a target stands for no target: it is the sentinel class without arguments. -/
def SpecialTypes.isSentinel (types : SpecialTypes) (target : TypeRef) : Bool :=
  target.raw == types.targetSentinel && !target.hasArguments

/-- The suffix of the containers of a marker. -/
def Naming.suffix (naming : Naming) : Marker → String
  | ⟨.bind, .production⟩ => naming.bindSuffix
  | ⟨.bind, .test⟩ => naming.testBindSuffix
  | ⟨.factory, .production⟩ => naming.factorySuffix
  | ⟨.factory, .test⟩ => naming.testFactorySuffix

/-! ### Defaults -/

/-- The markers of the default configuration. -/
def MarkerClasses.default : MarkerClasses :=
  { bind := ⟨⟨"com.herman.hiltautobind", ["AutoBind"]⟩,
      ⟨"com.herman.hiltautobind", ["TestAutoBind"]⟩⟩
    factory := ⟨⟨"com.herman.hiltautobind", ["AutoFactory"]⟩,
      ⟨"com.herman.hiltautobind", ["TestAutoFactory"]⟩⟩ }

/-- The names of arguments in the default configuration. -/
def ArgumentKeys.default : ArgumentKeys :=
  { scope := "component"
    target := "superType"
    contribution := "target"
    key := "uniqueKey" }

/-- The special types of the default configuration. -/
def SpecialTypes.default : SpecialTypes :=
  { topType := ⟨"kotlin", ["Any"]⟩
    targetSentinel := ⟨"kotlin", ["Any"]⟩
    defaultScope := ⟨"dagger.hilt.components", ["SingletonComponent"]⟩
    qualifierMarkers := [⟨"javax.inject", ["Qualifier"]⟩, ⟨"jakarta.inject", ["Qualifier"]⟩]
    setTypes := [⟨"kotlin.collections", ["Set"]⟩, ⟨"kotlin.collections", ["MutableSet"]⟩,
      ⟨"java.util", ["Set"]⟩]
    mapTypes := [⟨"kotlin.collections", ["Map"]⟩, ⟨"kotlin.collections", ["MutableMap"]⟩,
      ⟨"java.util", ["Map"]⟩] }

/-- The framework of the default configuration. -/
def FrameworkClasses.default : FrameworkClasses :=
  { module := ⟨"dagger", ["Module"]⟩
    installIn := ⟨"dagger.hilt", ["InstallIn"]⟩
    testInstallIn := ⟨"dagger.hilt.testing", ["TestInstallIn"]⟩
    binds := ⟨"dagger", ["Binds"]⟩
    provides := ⟨"dagger", ["Provides"]⟩
    intoSet := ⟨"dagger.multibindings", ["IntoSet"]⟩
    intoMap := ⟨"dagger.multibindings", ["IntoMap"]⟩
    elementsIntoSet := ⟨"dagger.multibindings", ["ElementsIntoSet"]⟩
    multibinds := ⟨"dagger.multibindings", ["Multibinds"]⟩
    suppressWildcards := some ⟨"kotlin.jvm", ["JvmSuppressWildcards"]⟩ }

/-- The parts of names of the default configuration. -/
def Naming.default : Naming :=
  { separator := "_"
    bindPrefix := "bind"
    providePrefix := "provide"
    bindSuffix := "Module"
    testBindSuffix := "TestModule"
    factorySuffix := "AutoFactoryModule"
    testFactorySuffix := "TestAutoFactoryModule"
    ownerParameter := "factory"
    implementationParameter := "implementation" }

/-- The default configuration. -/
def Config.default : Config :=
  ⟨.default, .default, .default, .default, .default⟩

end BindingPlan
