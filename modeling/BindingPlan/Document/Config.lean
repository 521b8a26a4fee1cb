import BindingPlan.Config.Check
import BindingPlan.Document.Name
import BindingPlan.Document.Text

/-! # Configurations in documents

A document of a configuration overlays the defaults: sections and fields that it leaves out keep
their default values. Only the two variants of a marker have to be given together. -/

namespace BindingPlan.Document

/-- The classes of two variants found so far. -/
structure VariantClassesParts where
  production : Option ClassName
  test : Option ClassName

/-- The fields of the classes of two variants. -/
def variantClassesShape : Shape VariantClassesParts :=
  { name := "MarkerPair"
    fields := [
      Shape.field "production" className fun v p => { p with production := some v },
      Shape.field "test" className fun v p => { p with test := some v }] }

/-- The classes of two variants. -/
def variantClasses (value : Json) : Decoded VariantClasses := do
  let (parts, missing) ← variantClassesShape.take .read ⟨none, none⟩ value
  let production ← required missing "production" parts.production
  let test ← required missing "test" parts.test
  .ok ⟨production, test⟩

/-- The fields of the markers. -/
def markersShape : Shape MarkerClasses :=
  { name := "MarkerRegistry"
    fields := [
      Shape.field "bind" variantClasses fun v r => { r with bind := v },
      Shape.field "factory" variantClasses fun v r => { r with factory := v }] }

/-- The fields of the names of arguments. -/
def argumentKeysShape : Shape ArgumentKeys :=
  { name := "ArgumentNames"
    fields := [
      Shape.field "scope" string fun v a => { a with scope := v },
      Shape.field "target_type" string fun v a => { a with target := v },
      Shape.field "multiplicity" string fun v a => { a with contribution := v },
      Shape.field "disambiguation_key" string fun v a => { a with key := v }] }

/-- The fields of the special types. -/
def specialTypesShape : Shape SpecialTypes :=
  { name := "TypeConfig"
    fields := [
      Shape.field "top_type" className fun v t => { t with topType := v },
      Shape.field "target_sentinel" className fun v t => { t with targetSentinel := v },
      Shape.field "default_scope" className fun v t => { t with defaultScope := v },
      Shape.field "qualifier_markers" (list className) fun v t => { t with qualifierMarkers := v },
      Shape.field "set_types" (list className) fun v t => { t with setTypes := v },
      Shape.field "map_types" (list className) fun v t => { t with mapTypes := v }] }

/-- The fields of the framework's annotation classes. -/
def frameworkShape : Shape FrameworkClasses :=
  { name := "OutputAnnotations"
    fields := [
      Shape.field "module" className fun v o => { o with module := v },
      Shape.field "install_in" className fun v o => { o with installIn := v },
      Shape.field "test_install_in" className fun v o => { o with testInstallIn := v },
      Shape.field "binds" className fun v o => { o with binds := v },
      Shape.field "provides" className fun v o => { o with provides := v },
      Shape.field "into_set" className fun v o => { o with intoSet := v },
      Shape.field "into_map" className fun v o => { o with intoMap := v },
      Shape.field "elements_into_set" className fun v o => { o with elementsIntoSet := v },
      Shape.field "multibinds" className fun v o => { o with multibinds := v },
      Shape.field "suppress_wildcards" (optional className)
        fun v o => { o with suppressWildcards := v }] }

/-- The fields of the parts of names. -/
def namingShape : Shape Naming :=
  { name := "NamingConfig"
    fields := [
      Shape.field "separator" string fun v n => { n with separator := v },
      Shape.field "bind_prefix" string fun v n => { n with bindPrefix := v },
      Shape.field "provide_prefix" string fun v n => { n with providePrefix := v },
      Shape.field "bind_suffix" string fun v n => { n with bindSuffix := v },
      Shape.field "test_bind_suffix" string fun v n => { n with testBindSuffix := v },
      Shape.field "factory_suffix" string fun v n => { n with factorySuffix := v },
      Shape.field "test_factory_suffix" string fun v n => { n with testFactorySuffix := v },
      Shape.field "owner_parameter" string fun v n => { n with ownerParameter := v },
      Shape.field "implementation_parameter" string
        fun v n => { n with implementationParameter := v }] }

/-- The sections of a configuration. -/
def configShape : Shape Config :=
  { name := "GeneratorConfig"
    fields := [
      Shape.field "markers" (markersShape.overlay .read .default)
        fun v c => { c with markers := v },
      Shape.field "arguments" (argumentKeysShape.overlay .read .default)
        fun v c => { c with arguments := v },
      Shape.field "types" (specialTypesShape.overlay .read .default)
        fun v c => { c with types := v },
      Shape.field "output" (frameworkShape.overlay .read .default)
        fun v c => { c with framework := v },
      Shape.field "naming" (namingShape.overlay .read .default) fun v c => { c with naming := v }] }

/-- A configuration, which may or may not be usable. -/
def config (value : Json) : Decoded Config :=
  configShape.overlay .read Config.default value

end BindingPlan.Document

namespace BindingPlan.Config

/-- The configuration that a document describes, if it can be used. -/
def ofJson? (value : Json) : Except ConfigFault Config :=
  match Document.ofJson Document.config value with
  | .error fault => .error (.malformed fault)
  | .ok config => config.check

/-- The configuration that the text of a document describes, if it can be used. -/
def ofText? (text : String) : Except ConfigFault Config :=
  match Document.ofText Document.config text with
  | .error fault => .error (.malformed fault)
  | .ok config => config.check

/-- The configuration from a text that had to be fetched; it may have come to nothing, with a
reason. -/
def ofFetched? : Except String String → Except ConfigFault Config
  | .error reason => .error (.unreadable reason)
  | .ok text => ofText? text

end BindingPlan.Config

namespace BindingPlan

/-- Several classes in a document. -/
def classesToJson (names : List ClassName) : Json :=
  .array (names.map ClassName.toJson)

/-- The classes of two variants in a document. -/
def VariantClasses.toJson (classes : VariantClasses) : Json :=
  .object [("production", classes.production.toJson), ("test", classes.test.toJson)]

/-- The classes of the markers in a document. -/
def MarkerClasses.toJson (classes : MarkerClasses) : Json :=
  .object [("bind", classes.bind.toJson), ("factory", classes.factory.toJson)]

/-- The names of arguments in a document. -/
def ArgumentKeys.toJson (keys : ArgumentKeys) : Json :=
  .object [("scope", .string keys.scope), ("target_type", .string keys.target),
    ("multiplicity", .string keys.contribution), ("disambiguation_key", .string keys.key)]

/-- The special types in a document. -/
def SpecialTypes.toJson (types : SpecialTypes) : Json :=
  .object [("top_type", types.topType.toJson), ("target_sentinel", types.targetSentinel.toJson),
    ("default_scope", types.defaultScope.toJson),
    ("qualifier_markers", classesToJson types.qualifierMarkers),
    ("set_types", classesToJson types.setTypes), ("map_types", classesToJson types.mapTypes)]

/-- The framework's annotation classes in a document. -/
def FrameworkClasses.toJson (framework : FrameworkClasses) : Json :=
  .object [("module", framework.module.toJson), ("install_in", framework.installIn.toJson),
    ("test_install_in", framework.testInstallIn.toJson), ("binds", framework.binds.toJson),
    ("provides", framework.provides.toJson), ("into_set", framework.intoSet.toJson),
    ("into_map", framework.intoMap.toJson),
    ("elements_into_set", framework.elementsIntoSet.toJson),
    ("multibinds", framework.multibinds.toJson),
    ("suppress_wildcards", Json.ofOption ClassName.toJson framework.suppressWildcards)]

/-- The parts of names in a document. -/
def Naming.toJson (naming : Naming) : Json :=
  .object [("separator", .string naming.separator), ("bind_prefix", .string naming.bindPrefix),
    ("provide_prefix", .string naming.providePrefix), ("bind_suffix", .string naming.bindSuffix),
    ("test_bind_suffix", .string naming.testBindSuffix),
    ("factory_suffix", .string naming.factorySuffix),
    ("test_factory_suffix", .string naming.testFactorySuffix),
    ("owner_parameter", .string naming.ownerParameter),
    ("implementation_parameter", .string naming.implementationParameter)]

/-- A configuration in a document, section by section. -/
def Config.toJson (config : Config) : Json :=
  .object [("markers", config.markers.toJson), ("arguments", config.arguments.toJson),
    ("types", config.types.toJson), ("output", config.framework.toJson),
    ("naming", config.naming.toJson)]

end BindingPlan
