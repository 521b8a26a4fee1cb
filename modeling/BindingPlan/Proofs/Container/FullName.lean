import BindingPlan.Proofs.Binding.Asked
import BindingPlan.Proofs.Config.Usable
import BindingPlan.Proofs.Pass.Account
import BindingPlan.Proofs.Pass.Placed

/-! # When full names tell containers apart

Bindings are grouped by the name of their container, which is a package and a simple name, but the
name is handed on as one text. The texts are different just if no two bindings have container names
that are different but have one text (`fullNamesDistinct_iff`).

Such names need a dot in a simple name. The stem of a type from a document and a token have none, so
it takes a dot in the configuration or in the key of a marker, which is taken over as it is. A key
with a dot does suffice: whatever it is, the part before its last dot may be the end of the package
of another class (`fullNames_exactly`). -/

namespace BindingPlan

/-- The containers of a pass have different full names. -/
def FullNamesDistinct (config : Config) (program : Program) : Prop :=
  ((program.plan config).containers.map (·.name.dotted)).Nodup

/-- The keys that the marker annotations of a program have. -/
def Program.keys (config : Config) (program : Program) : List String :=
  program.declarations.flatMap fun declaration =>
    (declaration.annotations.filter config.markers.isMarker).filterMap fun usage =>
      (usage.argument? config.arguments.key).bind ArgumentValue.string?

/-- The separator and the suffixes of containers have no dot in them. -/
def Naming.IsDotless (naming : Naming) : Prop :=
  Dotless naming.separator ∧ ∀ marker ∈ Marker.all, Dotless (naming.suffix marker)

instance (naming : Naming) : Decidable naming.IsDotless :=
  inferInstanceAs (Decidable (_ ∧ _))

variable {config : Config} {program : Program}

theorem mem_keys {declaration : Declaration} {usage : AnnotationUse} {key : String}
    (h : declaration ∈ program.declarations) (h' : usage ∈ declaration.annotations)
    (marker : config.markers.isMarker usage = true)
    (written : usage.argument? config.arguments.key = some (.string key)) :
    key ∈ program.keys config := by
  refine List.mem_flatMap.mpr ⟨declaration, h, List.mem_filterMap.mpr ⟨usage, ?_, ?_⟩⟩
  · exact List.mem_filter.mpr ⟨h', marker⟩
  · rw [written]
    rfl

/-! ### One text for one name -/

/-- **Full names are different** just if container names with one text are one name, and so to group
by the name is to group by its text. -/
theorem fullNamesDistinct_iff : FullNamesDistinct config program ↔
    ∀ b ∈ (program.resolution config).bindings, ∀ b' ∈ (program.resolution config).bindings,
      b.containerName.dotted = b'.containerName.dotted → b.containerName = b'.containerName := by
  have names := (takesUp_ofBindings config (program.resolution config).bindings).names
  have texts : (program.plan config).containers.map (·.name.dotted) =
      (Bucket.namesOf (program.resolution config).bindings).map ClassName.dotted := by
    rw [Bucket.namesOf, ← names, List.map_map]
    rfl
  rw [FullNamesDistinct, texts, List.nodup_map_iff_inj_on (Bucket.nodup_namesOf _)]
  constructor
  · intro apart b hb b' hb' same
    exact apart _ (Bucket.mem_namesOf.mpr ⟨b, hb, rfl⟩) _ (Bucket.mem_namesOf.mpr ⟨b', hb', rfl⟩) same
  · intro apart name hname name' hname' same
    obtain ⟨b, hb, rfl⟩ := Bucket.mem_namesOf.mp hname
    obtain ⟨b', hb', rfl⟩ := Bucket.mem_namesOf.mp hname'
    exact apart b hb b' hb' same

/-! ### Where no dot can come from -/

theorem AnnotationUse.Expressible.isNamed {usage : AnnotationUse} (h : usage.Expressible)
    {name : String} {type : TypeRef} (written : usage.argument? name = some (.type type)) :
    type.IsNamed := by
  obtain ⟨argument, mem, value⟩ := AnnotationUse.exists_argument written
  obtain ⟨_, arguments, _⟩ := usage
  have expressible : argument.Expressible := Argument.allExpressible_iff.mp h.2.1 argument mem
  obtain ⟨name, x⟩ := argument
  obtain rfl : x = .type type := value
  exact expressible

section Dotless
variable {b : Binding} {declaration : Declaration} {usage : AnnotationUse}
  {request : BindingRequest}

theorem dotless_simpleName (naming : config.naming.IsDotless) {exposed : TypeRef}
    (stem : Dotless exposed.stem) (scope : Dotless (request.scopeOrDefault config).raw.simpleName)
    (key : ∀ text ∈ request.key, Dotless text) (annotations : List AnnotationUse)
    (location : Location) (marker : Marker) :
    Dotless ((ContainerIdentity.ofRequest config program request annotations location
      exposed).simpleName config.naming marker) := by
  have suffix : Dotless ((request.suffix? program config.types.qualifierMarkers
      config.markers.isMarker annotations).getD "") := by
    unfold BindingRequest.suffix?
    split
    next text written => exact key text written
    next =>
      cases program.qualifier? config.types.qualifierMarkers config.markers.isMarker annotations with
      | none => exact dotless_empty
      | some usage => exact dotless_hashToken _
  simp only [ContainerIdentity.simpleName, ContainerIdentity.ofRequest, dotless_append_iff]
  exact ⟨⟨⟨⟨⟨stem, suffix⟩, naming.1⟩, scope⟩, naming.1⟩, naming.2 marker (Marker.mem_all marker)⟩

theorem dotless_exposed {d : ClassDeclaration} (h : d.Expressible)
    (target : ∀ type ∈ request.target, type.IsNamed) : Dotless (request.exposed config d).stem := by
  unfold BindingRequest.exposed
  split
  next type chosen => exact (target type chosen).dotless_stem
  next =>
    cases found : d.supertypes.find? (·.raw != config.types.topType) with
    | none => simpa [TypeRef.ofClass, TypeRef.stem, TypeRef.stems] using h.name.dotless
    | some type => exact (h.supertypes type (List.mem_of_find?_eq_some found)).dotless_stem

/-- **The container name of a binding from a document** has one simple name, without a dot. -/
theorem Binding.AskedBy.exists_dotless (asked : b.AskedBy config program declaration usage request)
    (expressible : program.Expressible) (naming : config.naming.IsDotless)
    (scope : Dotless config.types.defaultScope.simpleName)
    (keys : ∀ key ∈ program.keys config, Dotless key) :
    ∃ package simple, b.containerName = ⟨package, [simple]⟩ ∧ Dotless simple := by
  obtain ⟨marker, read⟩ := asked.asked
  have stated := expressible.declarations declaration asked.mem
  have named : ∀ {name type}, usage.argument? name = some (.type type) → type.IsNamed :=
    (stated.annotations usage asked.usage_mem).isNamed
  have key : ∀ text ∈ request.key, Dotless text := fun text mem =>
    keys text (mem_keys asked.mem asked.usage_mem asked.isMarker (read.key text mem))
  have scope : Dotless (request.scopeOrDefault config).raw.simpleName := by
    cases chosen : request.scope with
    | none => simpa [BindingRequest.scopeOrDefault, chosen, TypeRef.ofClass] using scope
    | some type =>
      simpa [BindingRequest.scopeOrDefault, chosen] using (named (read.scope type chosen)).dotless_raw
  obtain ⟨d, rfl, -, bound⟩ | ⟨d, rfl, -, bound⟩ := ofDeclaration_ok asked.bound
  · obtain ⟨location, -, -, -, rfl⟩ := ofClass_eq_ok_iff.mp bound
    have stem : Dotless (request.exposed config d).stem :=
      dotless_exposed stated fun type mem => named (read.target type mem)
    exact ⟨_, _, rfl, dotless_simpleName naming stem scope key _ _ _⟩
  · obtain ⟨location, exposed, -, returns, -, rfl⟩ := ofFunction_eq_ok_iff.mp bound
    have stem : Dotless exposed.stem :=
      (FunctionDeclaration.Expressible.returnType stated exposed returns).dotless_stem
    exact ⟨_, _, rfl, dotless_simpleName naming stem scope key _ _ _⟩

theorem fullNamesDistinct_of_dotless (naming : config.naming.IsDotless)
    (scope : Dotless config.types.defaultScope.simpleName) (expressible : program.Expressible)
    (keys : ∀ key ∈ program.keys config, Dotless key) : FullNamesDistinct config program := by
  rw [fullNamesDistinct_iff]
  intro b hb b' hb' same
  obtain ⟨_, _, _, asked⟩ := bindings_asked hb
  obtain ⟨_, _, _, asked'⟩ := bindings_asked hb'
  obtain ⟨package, simple, name, dotless⟩ := asked.exists_dotless expressible naming scope keys
  obtain ⟨package', simple', name', dotless'⟩ := asked'.exists_dotless expressible naming scope keys
  rw [name, name'] at same ⊢
  exact ClassName.eq_of_dotted_eq dotless dotless' same

end Dotless

/-! ### Where a dot comes from -/

namespace Placed

theorem not_fullNamesDistinct (distinct : Function.Injective config.markers.classOf)
    (arguments : config.arguments.Distinct) {placed placed' : Placed}
    (family : placed.order.marker.family = .bind) (family' : placed'.order.marker.family = .bind)
    (same : (placed.containerName config.naming).dotted =
      (placed'.containerName config.naming).dotted) (ne : placed.package ≠ placed'.package) :
    ¬ FullNamesDistinct config (programOf config [placed, placed']) := by
  rw [fullNamesDistinct_iff]
  intro apart
  obtain ⟨b, hb, b', hb', boundAs, boundAs'⟩ := exists_boundAs_both distinct arguments family family'
  have equal := apart b hb b' hb' (by rw [boundAs.containerName, boundAs'.containerName, same])
  rw [boundAs.containerName, boundAs'.containerName] at equal
  exact ne (congrArg ClassName.package equal)

theorem keys_programOf (arguments : config.arguments.Distinct) {classes : List Placed} :
    ∀ key ∈ (programOf config classes).keys config, ∃ placed ∈ classes, key = placed.order.key := by
  intro key of_program
  obtain ⟨_, of_class, of_usage⟩ := List.mem_flatMap.mp of_program
  obtain ⟨placed, mem, rfl⟩ := List.mem_map.mp of_class
  obtain ⟨usage, mem_filter, written⟩ := List.mem_filterMap.mp of_usage
  obtain rfl : usage = placed.order.usage config :=
    List.mem_singleton.mp (List.mem_of_mem_filter mem_filter)
  rw [Order.argument?_key_usage arguments] at written
  exact ⟨placed, mem, (Option.some.inj written).symm⟩

/-- A class whose key has a dot in it, between two given texts. -/
def keyed (naming : Naming) (front back : String) : Placed :=
  { order := ⟨⟨.bind, .production⟩,
      .ofClass ⟨Order.package, ["X" ++ naming.separator ++ "Scope"]⟩, front ++ "." ++ back, "Things"⟩
    name := ⟨Order.package, ["Thing"]⟩
    package := Order.package }

/-- A class without a key, in the package that the other name has in front of that dot. -/
def beyond (naming : Naming) (front back : String) : Placed :=
  { order := ⟨⟨.bind, .production⟩, .ofClass ⟨Order.package, ["Scope"]⟩, "", "Things"⟩
    name := ⟨Order.package, [back ++ naming.separator ++ "X"]⟩
    package := Order.package ++ "." ++ "Thing" ++ front }

variable {naming : Naming} {front back : String}

/-- Their containers have one full name: what is the package of the one is in the key of the other, and
what is the class of the one is in the scope of the other. -/
theorem dotted_keyed : ((keyed naming front back).containerName naming).dotted =
    ((beyond naming front back).containerName naming).dotted := by
  have ne : (beyond naming front back).package ≠ "" := by
    intro e
    simpa [beyond, Order.package] using congrArg String.toList e
  have ne' : (keyed naming front back).package ≠ "" := show Order.package ≠ "" by decide
  have scope : (keyed naming front back).order.scope.raw.simpleName =
      "X" ++ naming.separator ++ "Scope" := rfl
  have scope' : (beyond naming front back).order.scope.raw.simpleName = "Scope" := rfl
  have name : (keyed naming front back).name.simpleName = "Thing" := rfl
  have name' : (beyond naming front back).name.simpleName = back ++ naming.separator ++ "X" := rfl
  rw [containerName, containerName, ClassName.dotted_of_package ne, ClassName.dotted_of_package ne',
    Naming.scopeTail, Naming.scopeTail, scope, scope', name, name']
  simp only [keyed, beyond, String.append_assoc, String.empty_append]

theorem package_keyed_ne : (keyed naming front back).package ≠ (beyond naming front back).package := by
  intro e
  have length := congrArg String.length e
  have dot : ".".length = 1 := rfl
  simp only [keyed, beyond, String.length_append, dot] at length
  omega

theorem isWritable_keyed (marker : (config.markers.classOf ⟨.bind, .production⟩).Expressible)
    (separator : ∀ c ∈ config.naming.separator.toList, TypeRef.isNameChar c = true)
    (dotless : Dotless config.naming.separator) :
    (keyed config.naming front back).IsWritable config where
  marker := marker
  scope := by
    refine isNamed_ofClass ?_ ?_ ?_
    · simp only [String.toList_append, List.forall_mem_append]
      exact ⟨⟨List.all_eq_true.mp (by decide), separator⟩, List.all_eq_true.mp (by decide)⟩
    · simp only [dotless_append_iff]
      exact ⟨⟨by decide, dotless⟩, by decide⟩
    · intro e
      simpa using congrArg String.toList e
  name := show (⟨Order.package, ["Thing"]⟩ : ClassName).Expressible by decide +kernel

theorem isWritable_beyond (marker : (config.markers.classOf ⟨.bind, .production⟩).Expressible)
    (clean : Dotless back) (dotless : Dotless config.naming.separator) :
    (beyond config.naming front back).IsWritable config where
  marker := marker
  scope := isNamed_ofClass (List.all_eq_true.mp (by decide)) (by decide) (by decide)
  name := by
    refine expressible_class ?_ ?_ ?_
    · simp only [dotless_append_iff]
      exact ⟨⟨clean, dotless⟩, by decide⟩
    · have last : Text.isBlank 'X' = false := by decide
      simpa using last
    · intro e
      simpa using congrArg String.toList e

end Placed

/-- **Any key with a dot in it** can give two containers one full name. -/
theorem exists_not_fullNamesDistinct (usable : config.fault? = none)
    (arguments : config.arguments.Distinct)
    (marker : (config.markers.classOf ⟨.bind, .production⟩).Expressible)
    (separator : ∀ c ∈ config.naming.separator.toList, TypeRef.isNameChar c = true)
    (dotless : Dotless config.naming.separator) {key : String} (dot : ¬ Dotless key) :
    ∃ program : Program, program.FromText ∧ (∀ k ∈ program.keys config, k = key ∨ k = "") ∧
      ¬ FullNamesDistinct config program := by
  obtain ⟨front, back, rfl, clean⟩ := exists_last_dot dot
  have distinct := (Config.fault?_eq_none_iff.mp usable).1
  refine ⟨Placed.programOf config
    [.keyed config.naming front back, .beyond config.naming front back], ?_, ?_, ?_⟩
  · exact Placed.fromText_programOf (Placed.isWritable_keyed marker separator dotless)
      (Placed.isWritable_beyond marker clean dotless)
  · intro k mem
    obtain ⟨placed, of_class, rfl⟩ := Placed.keys_programOf arguments k mem
    rcases List.mem_cons.mp of_class with rfl | of_class
    · exact .inl rfl
    · rw [List.mem_singleton.mp of_class]
      exact .inr rfl
  · exact Placed.not_fullNamesDistinct distinct arguments rfl rfl Placed.dotted_keyed
      Placed.package_keyed_ne

/-- **Full names tell containers apart** in a program just if container names with one text are one
name. For programs from documents they do wherever no part of the configured names and no key has a
dot in it, but each key that has one is a key of a program where they do not. -/
theorem fullNames_exactly (config : Config) :
    (∀ program, FullNamesDistinct config program ↔
      ∀ b ∈ (program.resolution config).bindings, ∀ b' ∈ (program.resolution config).bindings,
        b.containerName.dotted = b'.containerName.dotted → b.containerName = b'.containerName) ∧
    (config.naming.IsDotless → Dotless config.types.defaultScope.simpleName →
      ∀ program : Program, program.FromText → (∀ key ∈ program.keys config, Dotless key) →
        FullNamesDistinct config program) ∧
    (config.fault? = none → config.arguments.Distinct →
      (config.markers.classOf ⟨.bind, .production⟩).Expressible →
      (∀ c ∈ config.naming.separator.toList, TypeRef.isNameChar c = true) →
      Dotless config.naming.separator → ∀ key, ¬ Dotless key →
        ∃ program : Program, program.FromText ∧
          (∀ k ∈ program.keys config, k = key ∨ k = "") ∧ ¬ FullNamesDistinct config program) :=
  ⟨fun _ => fullNamesDistinct_iff,
    fun naming scope _ ⟨_, read⟩ keys =>
      fullNamesDistinct_of_dotless naming scope (Program.expressible_of_ofText? read) keys,
    fun usable arguments marker separator dotless _ dot =>
      exists_not_fullNamesDistinct usable arguments marker separator dotless dot⟩

theorem fullNames_default :
    let program := Placed.programOf .default [.exampleThing, .exampleThings]
    program.FromText ∧ (∀ key ∈ program.keys .default, Dotless key) ∧
      FullNamesDistinct .default program ∧
      ∃ other : Program, other.FromText ∧ (∀ k ∈ other.keys .default, k = "s.Other" ∨ k = "") ∧
        ¬ FullNamesDistinct .default other := by
  intro program
  have from_text : program.FromText :=
    Placed.fromText_programOf (Placed.isWritable_ofNames (by decide +kernel) _ _)
      (Placed.isWritable_ofNames (by decide +kernel) _ _)
  have keys : ∀ key ∈ program.keys .default, Dotless key := by
    intro key mem
    obtain ⟨placed, of_class, rfl⟩ := Placed.keys_programOf (by decide) key mem
    revert placed
    decide
  exact ⟨from_text, keys,
    (fullNames_exactly .default).2.1 (by decide) (by decide) program from_text keys,
    (fullNames_exactly .default).2.2 Config.fault?_default (by decide) (by decide +kernel)
      (List.all_eq_true.mp (by decide)) (by decide) "s.Other" (by decide)⟩

/-- A class with a key that makes the rest of its name the name of another class. -/
def Placed.exampleDotted : Placed :=
  .ofNames ["Thing"] "s.Other" Order.package

/-- A class of that name in the package that the first name gets by it. -/
def Placed.exampleOther : Placed :=
  .ofNames ["Other"] "" "com.example.Things"

/-- Under the default configuration two containers of a document can have one full name. -/
theorem not_fullNamesDistinct_dottedKey : Config.default.fault? = none ∧
    (Placed.programOf .default [.exampleDotted, .exampleOther]).FromText ∧
    ¬ FullNamesDistinct .default (Placed.programOf .default [.exampleDotted, .exampleOther]) := by
  have distinct := (Config.fault?_eq_none_iff.mp Config.fault?_default).1
  exact ⟨Config.fault?_default,
    Placed.fromText_programOf (Placed.isWritable_ofNames (by decide +kernel) _ _)
      (Placed.isWritable_ofNames (by decide +kernel) _ _),
    Placed.not_fullNamesDistinct distinct (by decide) rfl rfl (by decide) (by decide)⟩

end BindingPlan
