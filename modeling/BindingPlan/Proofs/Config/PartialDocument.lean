import BindingPlan.Document.Config
import BindingPlan.Proofs.Document.Overlay
import BindingPlan.Proofs.Json.ReadBack

/-! # Configurations given in part

A document of a configuration may leave out sections, and fields of sections. Each section is
listed with its fields, how they are given, and the defaults that hold otherwise (`Config.parts` and
the lists before it); only the two variants of a marker have to be given together. The decoder
follows these lists (`decodes_config`), so a document describes the defaults with just the given
fields replaced, and a known key that is repeated anywhere is a fault (`Config.overlay_exactly`). -/

namespace BindingPlan

open Document

/-! ### The parts of a configuration -/

/-- The classes of two variants, each with its key. -/
def VariantClasses.parts : List (RecordPart VariantClasses) :=
  [⟨"production", VariantClasses.production, .plain ReadsName⟩,
    ⟨"test", VariantClasses.test, .plain ReadsName⟩]

/-- The format of the classes of two variants, both of which have to be given. -/
def VariantClasses.format : Format VariantClasses :=
  .object VariantClasses.parts none

/-- The classes of the markers. -/
def MarkerClasses.parts : List (RecordPart MarkerClasses) :=
  [⟨"bind", MarkerClasses.bind, VariantClasses.format⟩,
    ⟨"factory", MarkerClasses.factory, VariantClasses.format⟩]

/-- The names of arguments. -/
def ArgumentKeys.parts : List (RecordPart ArgumentKeys) :=
  [⟨"scope", ArgumentKeys.scope, .plain ReadsText⟩,
    ⟨"target_type", ArgumentKeys.target, .plain ReadsText⟩,
    ⟨"multiplicity", ArgumentKeys.contribution, .plain ReadsText⟩,
    ⟨"disambiguation_key", ArgumentKeys.key, .plain ReadsText⟩]

/-- The special types. -/
def SpecialTypes.parts : List (RecordPart SpecialTypes) :=
  [⟨"top_type", SpecialTypes.topType, .plain ReadsName⟩,
    ⟨"target_sentinel", SpecialTypes.targetSentinel, .plain ReadsName⟩,
    ⟨"default_scope", SpecialTypes.defaultScope, .plain ReadsName⟩,
    ⟨"qualifier_markers", SpecialTypes.qualifierMarkers, .plain (ReadsList ReadsName)⟩,
    ⟨"set_types", SpecialTypes.setTypes, .plain (ReadsList ReadsName)⟩,
    ⟨"map_types", SpecialTypes.mapTypes, .plain (ReadsList ReadsName)⟩]

/-- The annotation classes of the framework; only the last one may be null. -/
def FrameworkClasses.parts : List (RecordPart FrameworkClasses) :=
  [⟨"module", FrameworkClasses.module, .plain ReadsName⟩,
    ⟨"install_in", FrameworkClasses.installIn, .plain ReadsName⟩,
    ⟨"test_install_in", FrameworkClasses.testInstallIn, .plain ReadsName⟩,
    ⟨"binds", FrameworkClasses.binds, .plain ReadsName⟩,
    ⟨"provides", FrameworkClasses.provides, .plain ReadsName⟩,
    ⟨"into_set", FrameworkClasses.intoSet, .plain ReadsName⟩,
    ⟨"into_map", FrameworkClasses.intoMap, .plain ReadsName⟩,
    ⟨"elements_into_set", FrameworkClasses.elementsIntoSet, .plain ReadsName⟩,
    ⟨"multibinds", FrameworkClasses.multibinds, .plain ReadsName⟩,
    ⟨"suppress_wildcards", FrameworkClasses.suppressWildcards, .plain (ReadsOptional ReadsName)⟩]

/-- The parts of generated names. -/
def Naming.parts : List (RecordPart Naming) :=
  [⟨"separator", Naming.separator, .plain ReadsText⟩,
    ⟨"bind_prefix", Naming.bindPrefix, .plain ReadsText⟩,
    ⟨"provide_prefix", Naming.providePrefix, .plain ReadsText⟩,
    ⟨"bind_suffix", Naming.bindSuffix, .plain ReadsText⟩,
    ⟨"test_bind_suffix", Naming.testBindSuffix, .plain ReadsText⟩,
    ⟨"factory_suffix", Naming.factorySuffix, .plain ReadsText⟩,
    ⟨"test_factory_suffix", Naming.testFactorySuffix, .plain ReadsText⟩,
    ⟨"owner_parameter", Naming.ownerParameter, .plain ReadsText⟩,
    ⟨"implementation_parameter", Naming.implementationParameter, .plain ReadsText⟩]

/-- The sections of a configuration, each over its own defaults. -/
def Config.parts : List (RecordPart Config) :=
  [⟨"markers", Config.markers, .object MarkerClasses.parts (some .default)⟩,
    ⟨"arguments", Config.arguments, .object ArgumentKeys.parts (some .default)⟩,
    ⟨"types", Config.types, .object SpecialTypes.parts (some .default)⟩,
    ⟨"output", Config.framework, .object FrameworkClasses.parts (some .default)⟩,
    ⟨"naming", Config.naming, .object Naming.parts (some .default)⟩]

/-- The format of a configuration: the defaults, overlaid with what is given. -/
def Config.format : Format Config :=
  .object Config.parts (some .default)

/-! ### The decoders of fields -/

theorem decodes_text : Decodes string (.plain ReadsText) :=
  decodes_plain fun _ _ => string_eq_ok_iff

theorem decodes_name : Decodes className (.plain ReadsName) :=
  decodes_plain fun _ _ => className_eq_ok_iff

theorem decodes_names : Decodes (list className) (.plain (ReadsList ReadsName)) :=
  decodes_plain fun _ _ => list_eq_ok_iff fun _ _ => className_eq_ok_iff

theorem decodes_optionalName : Decodes (optional className) (.plain (ReadsOptional ReadsName)) :=
  decodes_plain fun _ _ => optional_eq_ok_iff (fun _ _ => className_eq_ok_iff) (by rintro _ ⟨⟩)

theorem follows_argumentKeys : argumentKeysShape.Follows ArgumentKeys.parts where
  distinct := by decide
  fields := by
    repeat refine .cons (RecordPart.takenBy_field decodes_text (fun _ _ => rfl)
      (by simp [ArgumentKeys.parts])) ?_
    exact .nil
  ext := by
    rintro ⟨⟩ ⟨⟩ same
    simpa [ArgumentKeys.parts] using same

theorem follows_specialTypes : specialTypesShape.Follows SpecialTypes.parts where
  distinct := by decide
  fields := by
    repeat refine .cons (RecordPart.takenBy_field decodes_name (fun _ _ => rfl)
      (by simp [SpecialTypes.parts])) ?_
    repeat refine .cons (RecordPart.takenBy_field decodes_names (fun _ _ => rfl)
      (by simp [SpecialTypes.parts])) ?_
    exact .nil
  ext := by
    rintro ⟨⟩ ⟨⟩ same
    simpa [SpecialTypes.parts] using same

theorem follows_framework : frameworkShape.Follows FrameworkClasses.parts where
  distinct := by decide
  fields := by
    repeat refine .cons (RecordPart.takenBy_field decodes_name (fun _ _ => rfl)
      (by simp [FrameworkClasses.parts])) ?_
    refine .cons (RecordPart.takenBy_field decodes_optionalName (fun _ _ => rfl)
      (by simp [FrameworkClasses.parts])) .nil
  ext := by
    rintro ⟨⟩ ⟨⟩ same
    simpa [FrameworkClasses.parts] using same

theorem follows_naming : namingShape.Follows Naming.parts where
  distinct := by decide
  fields := by
    repeat refine .cons (RecordPart.takenBy_field decodes_text (fun _ _ => rfl)
      (by simp [Naming.parts])) ?_
    exact .nil
  ext := by
    rintro ⟨⟩ ⟨⟩ same
    simpa [Naming.parts] using same

/-! ### Two variants -/

/-- A value that was given stands for what it is. -/
inductive ReadsGiven {β : Type} (reads : Json → β → Prop) : Json → Option β → Prop
  | given {value : Json} {b : β} (read : reads value b) : ReadsGiven reads value (some b)

/-- The classes of two variants found so far, each with its key. -/
def foundVariants : List (RecordPart VariantClassesParts) :=
  [⟨"production", VariantClassesParts.production, .plain (ReadsGiven ReadsName)⟩,
    ⟨"test", VariantClassesParts.test, .plain (ReadsGiven ReadsName)⟩]

/-- The format of what is found of two variants. -/
def foundFormat : Format VariantClassesParts :=
  .object foundVariants (some ⟨none, none⟩)

section Given
variable {α β γ : Type} {key : String} {get : α → β} {get' : γ → Option β}
  {reads : Json → β → Prop} {members : List (String × Json)} {a : α} {start c : γ}

theorem typedIn_given (typed : RecordPart.TypedIn members ⟨key, get, .plain reads⟩) :
    RecordPart.TypedIn members ⟨key, get', .plain (ReadsGiven reads)⟩ := by
  intro value given
  obtain ⟨b, read⟩ := typed value given
  exact ⟨some b, .given read⟩

theorem exists_of_given (there : key ∈ members.map (·.1))
    (read : RecordPart.ReadIn members (some start) c ⟨key, get', .plain (ReadsGiven reads)⟩) :
    ∃ b, get' c = some b := by
  obtain ⟨⟨_, value⟩, given, rfl⟩ := List.mem_map.mp there
  have found : ReadsGiven reads value (get' c) := read.given value given
  generalize get' c = b at found
  obtain ⟨read⟩ := found
  exact ⟨_, rfl⟩

/-- A part that is given is read alike, whether it has to be given or may be left out. -/
theorem readIn_given_iff (there : key ∈ members.map (·.1)) (same : get' c = some (get a)) :
    RecordPart.ReadIn members none a ⟨key, get, .plain reads⟩ ↔
      RecordPart.ReadIn members (some start) c ⟨key, get', .plain (ReadsGiven reads)⟩ := by
  constructor
  · intro read
    refine ⟨fun value given => ?_, fun absent => absurd there absent⟩
    change ReadsGiven reads value (get' c)
    rw [same]
    exact .given (read.given value given)
  · intro read
    refine ⟨fun value given => ?_, fun absent => absurd there absent⟩
    have found : ReadsGiven reads value (get' c) := read.given value given
    rw [same] at found
    obtain ⟨read⟩ := found
    exact read

end Given

section Variants
variable {value : Json} {classes : VariantClasses} {found : VariantClassesParts}

theorem repeats_variants_iff {key : String} :
    VariantClasses.format.Repeats key value ↔ foundFormat.Repeats key value := by
  simp only [VariantClasses.format, foundFormat, Format.object, VariantClasses.parts,
    foundVariants, List.exists_mem_cons_iff, RecordPart.repeatedIn_plain_iff, List.not_mem_nil,
    false_and, exists_false]

theorem typed_foundVariants (typed : VariantClasses.format.Typed value) :
    foundFormat.Typed value := by
  obtain ⟨members, rfl, typed⟩ := typed
  obtain ⟨⟨production, -⟩, ⟨test, -⟩, -⟩ := by
    simpa only [VariantClasses.parts, List.forall_mem_cons] using typed
  refine ⟨members, rfl, ?_⟩
  simp only [foundVariants, List.forall_mem_cons]
  exact ⟨⟨typedIn_given production, nofun⟩, ⟨typedIn_given test, nofun⟩, nofun⟩

theorem keys_of_typed {members : List (String × Json)}
    (typed : VariantClasses.format.Typed (.object members)) :
    "production" ∈ members.map (·.1) ∧ "test" ∈ members.map (·.1) := by
  obtain ⟨_, ⟨⟩, typed⟩ := typed
  obtain ⟨⟨-, production⟩, ⟨-, test⟩, -⟩ := by
    simpa only [VariantClasses.parts, List.forall_mem_cons] using typed
  exact ⟨production trivial, test trivial⟩

theorem found_of_typed (typed : VariantClasses.format.Typed value)
    (read : foundFormat.Reads value found) :
    ∃ classes : VariantClasses, found = ⟨some classes.production, some classes.test⟩ := by
  obtain ⟨members, rfl, read⟩ := read
  obtain ⟨read_production, read_test, -⟩ := by
    simpa only [foundVariants, List.forall_mem_cons] using read
  obtain ⟨production, hproduction⟩ := exists_of_given (keys_of_typed typed).1 read_production
  obtain ⟨test, htest⟩ := exists_of_given (keys_of_typed typed).2 read_test
  exact ⟨⟨production, test⟩, by rw [← hproduction, ← htest]⟩

theorem reads_variants_iff (typed : VariantClasses.format.Typed value) :
    VariantClasses.format.Reads value classes ↔
      foundFormat.Reads value ⟨some classes.production, some classes.test⟩ := by
  refine exists_congr fun members => and_congr_right ?_
  rintro rfl
  simp only [VariantClasses.parts, foundVariants, List.forall_mem_cons]
  refine and_congr ?_ (and_congr ?_ (by simp))
  · exact readIn_given_iff (keys_of_typed typed).1 rfl
  · exact readIn_given_iff (keys_of_typed typed).2 rfl

end Variants

theorem decodes_givenName :
    Decodes (fun value => (className value).map some) (.plain (ReadsGiven ReadsName)) := by
  refine decodes_plain fun value given => ?_
  rw [map_eq_ok_iff]
  simp only [className_eq_ok_iff]
  constructor
  · rintro ⟨name, read, rfl⟩
    exact .given read
  · rintro ⟨read⟩
    exact ⟨_, read, rfl⟩

theorem follows_foundVariants : variantClassesShape.Follows foundVariants where
  distinct := by decide
  fields := by
    have given (key : String) (set : Option ClassName → VariantClassesParts → VariantClassesParts) :
        Shape.field key className (fun v p => set (some v) p) =
          Shape.field key (fun value => (className value).map some) set := by
      refine congrArg (Prod.mk key) (funext fun value => funext fun p => ?_)
      dsimp only
      cases className value <;> rfl
    rw [variantClassesShape, given "production" fun v p => { p with production := v },
      given "test" fun v p => { p with test := v }]
    repeat refine .cons (RecordPart.takenBy_field decodes_givenName (fun _ _ => rfl)
      (by simp [foundVariants])) ?_
    exact .nil
  ext := by
    rintro ⟨⟩ ⟨⟩ same
    simpa [foundVariants] using same

/-- Two variants are found exactly if both of them are. -/
theorem variantClasses_eq_ok_iff {value : Json} {classes : VariantClasses} :
    variantClasses value = .ok classes ↔ variantClassesShape.overlay .read ⟨none, none⟩ value =
      .ok ⟨some classes.production, some classes.test⟩ := by
  rw [variantClasses, bind_eq_ok_iff, Shape.overlay, map_eq_ok_iff]
  constructor
  · rintro ⟨⟨found, missing⟩, taken, h⟩
    simp only [bind_eq_ok_iff, required_eq_ok_iff] at h
    obtain ⟨production, hproduction, test, htest, ⟨⟩⟩ := h
    exact ⟨_, taken, by rw [← hproduction, ← htest]⟩
  · rintro ⟨⟨_, missing⟩, taken, rfl⟩
    exact ⟨_, taken, rfl⟩

theorem variantClasses_eq_error {value : Json} {fault : DecodeFault}
    (failed : variantClasses value = .error fault) :
    variantClassesShape.overlay .read ⟨none, none⟩ value = .error fault ∨
      ∃ found, variantClassesShape.overlay .read ⟨none, none⟩ value = .ok found ∧
        (found.production = none ∨ found.test = none) := by
  rw [variantClasses] at failed
  rcases bind_eq_error_iff.mp failed with failed | ⟨⟨found, missing⟩, taken, absent⟩
  · exact .inl (map_eq_error_iff.mpr failed)
  · refine .inr ⟨found, map_eq_ok_iff.mpr ⟨_, taken, rfl⟩, ?_⟩
    obtain ⟨production, test⟩ := found
    cases production with
    | none => exact .inl rfl
    | some production =>
      cases test with
      | none => exact .inr rfl
      | some test => cases absent

theorem decodes_variants : Decodes variantClasses VariantClasses.format where
  clean decoded key repeated := (follows_foundVariants.decodes _).clean
    (variantClasses_eq_ok_iff.mp decoded) key (repeats_variants_iff.mp repeated)
  fault := by
    intro value fault typed failed
    have decodes : Decodes _ foundFormat := follows_foundVariants.decodes ⟨none, none⟩
    rcases variantClasses_eq_error failed with failed | ⟨found, decoded, absent⟩
    · obtain ⟨key, repeated, rfl⟩ := decodes.fault (typed_foundVariants typed) failed
      exact ⟨key, repeats_variants_iff.mpr repeated, rfl⟩
    · have read := (decodes.reads (typed_foundVariants typed) decoded found).mpr rfl
      obtain ⟨classes, rfl⟩ := found_of_typed typed read
      simp at absent
  reads := by
    intro value classes typed decoded classes'
    have decodes : Decodes _ foundFormat := follows_foundVariants.decodes ⟨none, none⟩
    rw [reads_variants_iff typed,
      decodes.reads (typed_foundVariants typed) (variantClasses_eq_ok_iff.mp decoded)]
    obtain ⟨production, test⟩ := classes
    obtain ⟨production', test'⟩ := classes'
    simp

/-! ### Sections -/

theorem follows_markers : markersShape.Follows MarkerClasses.parts where
  distinct := by decide
  fields := by
    repeat refine .cons (RecordPart.takenBy_field decodes_variants (fun _ _ => rfl)
      (by simp [MarkerClasses.parts])) ?_
    exact .nil
  ext := by
    rintro ⟨⟩ ⟨⟩ same
    simpa [MarkerClasses.parts] using same

theorem follows_config : configShape.Follows Config.parts where
  distinct := by decide
  fields := by
    refine .cons (RecordPart.takenBy_field (follows_markers.decodes _) (fun _ _ => rfl)
      (by simp [Config.parts])) ?_
    refine .cons (RecordPart.takenBy_field (follows_argumentKeys.decodes _) (fun _ _ => rfl)
      (by simp [Config.parts])) ?_
    refine .cons (RecordPart.takenBy_field (follows_specialTypes.decodes _) (fun _ _ => rfl)
      (by simp [Config.parts])) ?_
    refine .cons (RecordPart.takenBy_field (follows_framework.decodes _) (fun _ _ => rfl)
      (by simp [Config.parts])) ?_
    refine .cons (RecordPart.takenBy_field (follows_naming.decodes _) (fun _ _ => rfl)
      (by simp [Config.parts])) .nil
  ext := by
    rintro ⟨⟩ ⟨⟩ same
    simpa [Config.parts] using same

/-- **A configuration overlays the defaults**, section by section and part by part. -/
theorem decodes_config : Decodes Document.config Config.format :=
  follows_config.decodes Config.default

namespace Config
variable {text : String} {value : Json}

theorem ofText?_of_read (read : Json.read? text = some value) : ofText? text = ofJson? value := by
  rw [ofText?, Document.ofText, read]
  rfl

theorem ofJson?_of_ok {config : Config} (decoded : Document.config value = .ok config) :
    ofJson? value = config.check := by
  rw [ofJson?, Document.ofJson, decoded]
  rfl

theorem ofJson?_of_error {fault : DecodeFault} (failed : Document.config value = .error fault) :
    ofJson? value = .error (.malformed (if value.isReadable then fault else .notJson)) := by
  rw [ofJson?, Document.ofJson, failed]
  rfl

/-- **A document overlays the defaults.** Where all that it gives is well typed and no known key is
repeated, it describes exactly one configuration, which is the result if it can be used. Where a
known key is repeated, at any level, there is none; and if all the rest is well typed, the fault is
such a key, unless a part that nobody looks at is unreadable. -/
theorem overlay_exactly (read : Json.read? text = some value) :
    (Config.format.Typed value → (∀ key, ¬ Config.format.Repeats key value) →
      ∃ config, (∀ c, Config.format.Reads value c ↔ c = config) ∧ ofText? text = config.check) ∧
    ∀ key, Config.format.Repeats key value →
      (∃ fault, ofText? text = .error (.malformed fault)) ∧
      (Config.format.Typed value → ∃ other, Config.format.Repeats other value ∧
        ofText? text = .error (.malformed
          (if value.isReadable then .duplicateField other else .notJson))) := by
  rw [ofText?_of_read read]
  refine ⟨fun typed clean => ?_, fun key repeated => ?_⟩
  · cases decoded : Document.config value with
    | ok config => exact ⟨config, decodes_config.reads typed decoded, ofJson?_of_ok decoded⟩
    | error fault =>
      obtain ⟨key, repeated, -⟩ := decodes_config.fault typed decoded
      exact absurd repeated (clean key)
  · cases decoded : Document.config value with
    | ok config => exact absurd repeated (decodes_config.clean decoded key)
    | error fault =>
      refine ⟨⟨_, ofJson?_of_error decoded⟩, fun typed => ?_⟩
      obtain ⟨other, repeated', rfl⟩ := decodes_config.fault typed decoded
      exact ⟨other, repeated', ofJson?_of_error decoded⟩

/-- A document that gives the separator of names, and something that nobody asks for. -/
def exampleOverlay : Json :=
  .object [("version", .array [.null]), ("naming", .object [("separator", .string "-")])]

/-- A document that gives the separator twice. -/
def exampleTwice : Json :=
  .object [("naming", .object [("separator", .string "-"), ("separator", .string "-")])]

/-- The document replaces the separator and nothing else. If it gives the separator twice, it
describes no configuration. -/
theorem overlay_exactly_exampleOverlay :
    ofText? exampleOverlay.toText =
      .ok { Config.default with naming := { Naming.default with separator := "-" } } ∧
    ∃ fault, ofText? exampleTwice.toText = .error (.malformed fault) := by
  constructor
  · let overlaid := { Config.default with naming := { Naming.default with separator := "-" } }
    have read : Json.read? exampleOverlay.toText = some exampleOverlay :=
      Json.read?_toText (by simp [exampleOverlay, Json.IsPlain, Json.ArePlain, Json.HavePlain])
        (by simp [exampleOverlay, Json.decimals, Json.decimalsOfMembers, Json.decimalsOfItems])
    have text : ∃ b, ReadsText (.string "-") b := ⟨_, .text _⟩
    have naming : (Format.object Naming.parts (some .default)).Typed
        (.object [("separator", .string "-")]) :=
      ⟨_, rfl, by simpa [Naming.parts, RecordPart.TypedIn, Format.plain] using text⟩
    have typed : Config.format.Typed exampleOverlay :=
      ⟨_, rfl, by simpa [Config.parts, RecordPart.TypedIn] using naming⟩
    have decoded : Document.config exampleOverlay = .ok overlaid := rfl
    obtain ⟨config, reads, checked⟩ :=
      (overlay_exactly read).1 typed (decodes_config.clean decoded)
    have same : overlaid = config := (reads _).mp ((decodes_config.reads typed decoded _).mpr rfl)
    rw [checked, ← same]
    rfl
  · have read : Json.read? exampleTwice.toText = some exampleTwice :=
      Json.read?_toText (by simp [exampleTwice, Json.IsPlain, Json.HavePlain])
        (by simp [exampleTwice, Json.decimals, Json.decimalsOfMembers])
    have twice : (Format.object Naming.parts (some .default)).Repeats "separator"
        (.object [("separator", .string "-"), ("separator", .string "-")]) :=
      ⟨_, rfl, ⟨"separator", Naming.separator, .plain ReadsText⟩, by simp [Naming.parts],
        .here (List.Mem.duplicate_cons_self (by simp))⟩
    have repeated : Config.format.Repeats "separator" exampleTwice :=
      ⟨_, rfl, ⟨"naming", Config.naming, .object Naming.parts (some .default)⟩,
        by simp [Config.parts], .inside List.mem_cons_self twice⟩
    exact ((overlay_exactly read).2 "separator" repeated).1

end Config

end BindingPlan
