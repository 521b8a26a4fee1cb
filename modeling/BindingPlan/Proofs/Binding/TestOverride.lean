import BindingPlan.Proofs.Binding.Resolved
import BindingPlan.Proofs.Config.Usable

/-! # Test overrides name the container they disable

A declaration under a test marker, and the same declaration under the production marker of the
family, resolve alike, each in the program where it stands: they fail with one error, or they come
to bindings that differ in nothing but the marker and what follows from it, and the test binding
replaces just the container of the production binding (`resolve_testOverride`).

The annotations of a declaration matter in three places: the markers found on it, the annotations
carried on, and the search for a qualifier. Promoting a marker changes the first in the way intended
and the other two not at all, since both leave markers out. The search also reads the annotations on
annotation classes; only an annotation class could change these, and such a declaration fails before
it comes to the search. -/

namespace BindingPlan

/-! ### Promoting a marker -/

/-- The annotation, under the production marker of the family if it was under the marker. -/
def MarkerClasses.promote (classes : MarkerClasses) (marker : Marker) (usage : AnnotationUse) :
    AnnotationUse :=
  if usage.type = classes.classOf marker then
    { usage with type := classes.classOf marker.production }
  else usage

/-- The declaration with every annotation changed. -/
def Declaration.mapAnnotations (f : AnnotationUse → AnnotationUse) : Declaration → Declaration
  | .type d => .type { d with annotations := d.annotations.map f }
  | .function d => .function { d with annotations := d.annotations.map f }
  | .misc d => .misc { d with annotations := d.annotations.map f }

section Promote
variable {classes : MarkerClasses} {marker : Marker}

theorem promote_of_eq {usage : AnnotationUse} (h : usage.type = classes.classOf marker) :
    classes.promote marker usage = { usage with type := classes.classOf marker.production } :=
  if_pos h

theorem promote_of_ne {usage : AnnotationUse} (h : usage.type ≠ classes.classOf marker) :
    classes.promote marker usage = usage :=
  if_neg h

theorem promote_of_not_isMarker {usage : AnnotationUse} (h : classes.isMarker usage = false) :
    classes.promote marker usage = usage := by
  refine promote_of_ne fun e => ?_
  have mark : classes.isMarker usage = true := isMarker_iff.mpr ⟨marker, e.symm⟩
  rw [h] at mark
  cases mark

theorem isMarker_promote (usage : AnnotationUse) :
    classes.isMarker (classes.promote marker usage) = classes.isMarker usage := by
  by_cases h : usage.type = classes.classOf marker
  · rw [promote_of_eq h, isMarker_iff.mpr ⟨marker, h.symm⟩]
    exact isMarker_iff.mpr ⟨marker.production, rfl⟩
  · rw [promote_of_ne h]

theorem promote_arguments (usage : AnnotationUse) :
    (classes.promote marker usage).arguments = usage.arguments := by
  unfold MarkerClasses.promote; split_ifs <;> rfl

theorem promote_defaults (usage : AnnotationUse) :
    (classes.promote marker usage).defaults = usage.defaults := by
  unfold MarkerClasses.promote; split_ifs <;> rfl

end Promote

section MapAnnotations
variable (f : AnnotationUse → AnnotationUse) (d : Declaration)

theorem annotations_mapAnnotations : (d.mapAnnotations f).annotations = d.annotations.map f := by
  cases d <;> rfl

theorem reportName_mapAnnotations : (d.mapAnnotations f).reportName = d.reportName := by
  cases d <;> rfl

end MapAnnotations

/-! ### The markers found -/

section Markers
variable {classes : MarkerClasses} {marker : Marker} {annotations : List AnnotationUse}

theorem only_promote
    (only : ∀ a ∈ annotations, classes.isMarker a = true → a.type = classes.classOf marker) :
    ∀ a ∈ annotations.map (classes.promote marker), classes.isMarker a = true →
      a.type = classes.classOf marker.production := by
  intro a' ha' mark
  obtain ⟨a, ha, rfl⟩ := List.mem_map.mp ha'
  rw [isMarker_promote] at mark
  rw [promote_of_eq (only a ha mark)]

theorem filter_map_promote
    (only : ∀ a ∈ annotations, classes.isMarker a = true → a.type = classes.classOf marker) :
    (annotations.map (classes.promote marker)).filter
        (·.type == classes.classOf marker.production) =
      (annotations.filter (·.type == classes.classOf marker)).map (classes.promote marker) := by
  rw [List.filter_map]
  refine congrArg _ (List.filter_congr fun a ha => ?_)
  by_cases h : a.type = classes.classOf marker
  · simp [promote_of_eq h, h]
  · have ne : a.type ≠ classes.classOf marker.production := fun e =>
      h (only a ha (isMarker_iff.mpr ⟨_, e.symm⟩))
    simp [promote_of_ne h, h, ne]

end Markers

/-! ### What leaves markers out -/

section Skipping
variable {skip : AnnotationUse → Bool} {f : AnnotationUse → AnnotationUse}

theorem filter_map_of_skipping (kept : ∀ a, skip (f a) = skip a)
    (fixed : ∀ a, skip a = false → f a = a) (annotations : List AnnotationUse) :
    (annotations.map f).filter (!skip ·) = annotations.filter (!skip ·) := by
  induction annotations with
  | nil => rfl
  | cons a rest ih =>
    cases h : skip a with
    | true => simp [kept, h, ih]
    | false => simp [fixed a h, h, ih]

theorem qualifier?_map_of_skipping (kept : ∀ a, skip (f a) = skip a)
    (fixed : ∀ a, skip a = false → f a = a) {program program' : Program}
    (entries : program'.entries = program.entries) (markers : List ClassName)
    (annotations : List AnnotationUse) :
    program'.qualifier? markers skip (annotations.map f) =
      program.qualifier? markers skip annotations := by
  have found : ∀ met, qualifierBeyond? markers program.entries skip met (annotations.map f) =
      qualifierBeyond? markers program.entries skip met annotations := by
    induction annotations with
    | nil => exact fun _ => rfl
    | cons a rest ih =>
      intro met
      cases h : skip a with
      | true => simp [qualifierBeyond?, kept, h, ih]
      | false => simp only [List.map_cons, qualifierBeyond?, fixed a h, ih]
  rw [Program.qualifier?, Program.qualifier?, entries, found]

end Skipping

/-! ### Requests and names -/

theorem ofMarker_of_sameFamily {config : Config} {marker marker' : Marker}
    {usage usage' : AnnotationUse} (family : marker'.family = marker.family)
    (arguments : usage'.arguments = usage.arguments) (defaults : usage'.defaults = usage.defaults)
    (name : String) : BindingRequest.ofMarker config marker' usage' name =
      (BindingRequest.ofMarker config marker usage name).map fun request =>
        { request with marker := marker' } := by
  obtain ⟨type, args, defs⟩ := usage
  obtain ⟨type', args', defs'⟩ := usage'
  cases arguments
  cases defaults
  have scope : BindingRequest.chosenType? ⟨type', args, defs⟩ name config.arguments.scope =
      BindingRequest.chosenType? ⟨type, args, defs⟩ name config.arguments.scope := rfl
  have target : BindingRequest.targetOf config marker' ⟨type', args, defs⟩ name =
      BindingRequest.targetOf config marker ⟨type, args, defs⟩ name := by
    simp only [BindingRequest.targetOf, family]
    rfl
  have contribution : BindingRequest.contributionOf config ⟨type', args, defs⟩ name =
      BindingRequest.contributionOf config ⟨type, args, defs⟩ name := rfl
  have key : BindingRequest.keyOf config ⟨type', args, defs⟩ name =
      BindingRequest.keyOf config ⟨type, args, defs⟩ name := rfl
  rw [BindingRequest.ofMarker, BindingRequest.ofMarker, scope, target, contribution, key]
  cases BindingRequest.chosenType? ⟨type, args, defs⟩ name config.arguments.scope <;>
    cases BindingRequest.targetOf config marker ⟨type, args, defs⟩ name <;>
    cases BindingRequest.contributionOf config ⟨type, args, defs⟩ name <;>
    cases BindingRequest.keyOf config ⟨type, args, defs⟩ name <;> rfl

/-- Containers of different markers have different names, whatever else the names are built from. -/
theorem containerName_ne {naming : Naming} (suffixes : Function.Injective naming.suffix)
    {marker marker' : Marker} (ne : marker ≠ marker') (identity : ContainerIdentity) :
    identity.containerName naming marker ≠ identity.containerName naming marker' := by
  intro e
  simp only [ContainerIdentity.containerName, ContainerIdentity.simpleName, ClassName.mk.injEq,
    List.cons.injEq, and_true, true_and, String.append_right_inj] at e
  exact ne (suffixes e)

theorem entries_exchange {d d' : Declaration}
    (same : Program.declaredEntry? d' = Program.declaredEntry? d)
    (before after : List Declaration) (known : List AnnotationEntry) :
    Program.entries ⟨before ++ d' :: after, known⟩ =
      Program.entries ⟨before ++ d :: after, known⟩ := by
  simp only [Program.entries, List.filterMap_append, List.filterMap_cons, same]

/-! ### Overriding -/

/-- A test binding overrides a production binding: it makes the same thing available in the same
way, and it replaces just the container of the other one. -/
structure Binding.Overrides (test production : Binding) : Prop where
  exposed : test.exposed = production.exposed
  scope : test.scope = production.scope
  containerForm : test.containerForm = production.containerForm
  memberName : test.memberName = production.memberName
  carried : test.carried = production.carried
  contribution : test.contribution = production.contribution
  visibility : test.visibility = production.visibility
  location : test.location = production.location
  supplier : test.supplier = production.supplier
  isTest : test.isTest = true
  replaces : test.replaces = some production.containerName
  isTest_production : production.isTest = false
  replaces_production : production.replaces = none
  containerName_ne : test.containerName ≠ production.containerName

/-- The binding of another declaration under the production marker of the family, in the container
that this marker makes of an identity. -/
def Binding.promotedTo (naming : Naming) (identity : ContainerIdentity) (declaration : Declaration)
    (binding : Binding) : Binding :=
  { binding with
    origin := declaration
    marker := binding.marker.production
    containerName := identity.containerName naming binding.marker.production
    isTest := false
    replaces := none }

/-- Two results are alike: errors that are the same, or values that are related. -/
inductive Alike {ε α : Type} (Related : α → α → Prop) : Except ε α → Except ε α → Prop where
  | ok {a b : α} (related : Related a b) : Alike Related (.ok a) (.ok b)
  | error (e : ε) : Alike Related (.error e) (.error e)

theorem Alike.imp {ε α : Type} {Related Related' : α → α → Prop} {x y : Except ε α}
    (h : Alike Related x y)
    (imp : ∀ a b, x = .ok a → y = .ok b → Related a b → Related' a b) : Alike Related' x y := by
  cases h with
  | ok related => exact .ok (imp _ _ rfl rfl related)
  | error e => exact .error e

section Overriding
variable {config : Config} {program program' : Program} {marker : Marker}

/-- A class that objects can be made of is no annotation class, and no search reads what is on it. -/
theorem declaredEntry?_of_isConstructible {d : ClassDeclaration}
    (h : d.isConstructible = true) : Program.declaredEntry? (.type d) = none := by
  have form : d.form ≠ .annotationClass := by
    intro e
    simp [ClassDeclaration.isConstructible, e] at h
  rw [Program.declaredEntry?, if_neg form]

theorem carriedAnnotations_promote (annotations : List AnnotationUse) :
    carriedAnnotations config (annotations.map (config.markers.promote marker)) =
      carriedAnnotations config annotations :=
  filter_map_of_skipping isMarker_promote (fun _ => promote_of_not_isMarker) annotations

theorem ofRequest_promote (config : Config) (marker marker' : Marker)
    (entries : program'.entries = program.entries) (request : BindingRequest)
    (annotations : List AnnotationUse) (location : Location) (exposed : TypeRef) :
    ContainerIdentity.ofRequest config program' { request with marker := marker' }
        (annotations.map (config.markers.promote marker)) location exposed =
      ContainerIdentity.ofRequest config program request annotations location exposed := by
  have search : program'.qualifier? config.types.qualifierMarkers config.markers.isMarker
      (annotations.map (config.markers.promote marker)) =
      program.qualifier? config.types.qualifierMarkers config.markers.isMarker annotations :=
    qualifier?_map_of_skipping isMarker_promote (fun _ => promote_of_not_isMarker) entries _ _
  simp only [ContainerIdentity.ofRequest, BindingRequest.suffix?, search,
    BindingRequest.scopeOrDefault]

theorem forClass_promote (entries : program'.entries = program.entries) (d : ClassDeclaration)
    (request : BindingRequest) (location : Location) :
    let d' := { d with annotations := d.annotations.map (config.markers.promote marker) }
    Binding.forClass config program' d' { request with marker := request.marker.production }
        location =
      (Binding.forClass config program d request location).promotedTo config.naming
        (.ofRequest config program request d.annotations location (request.exposed config d))
        (.type d') := by
  intro d'
  have identity := ofRequest_promote config marker request.marker.production entries request
    d.annotations location (request.exposed config d)
  have carried : carriedAnnotations config d'.annotations =
      carriedAnnotations config d.annotations := carriedAnnotations_promote d.annotations
  simp only [Binding.forClass, Binding.promotedTo]
  rw [← identity, ← carried]
  rfl

theorem forFunction_promote (entries : program'.entries = program.entries)
    (d : FunctionDeclaration) (request : BindingRequest) (location : Location)
    (exposed : TypeRef) :
    let d' := { d with annotations := d.annotations.map (config.markers.promote marker) }
    Binding.forFunction config program' d' { request with marker := request.marker.production }
        location exposed =
      (Binding.forFunction config program d request location exposed).promotedTo config.naming
        (.ofRequest config program request d.annotations location exposed) (.function d') := by
  intro d'
  have identity := ofRequest_promote config marker request.marker.production entries request
    d.annotations location exposed
  have carried : carriedAnnotations config d'.annotations =
      carriedAnnotations config d.annotations := carriedAnnotations_promote d.annotations
  simp only [Binding.forFunction, Binding.promotedTo]
  rw [← identity, ← carried]
  rfl

/-- **A test binding overrides** the one that stands in its place under the production marker. -/
theorem overrides_promotedTo {naming : Naming} (suffixes : Function.Injective naming.suffix)
    {b : Binding} {identity : ContainerIdentity} (test : b.marker.isTest = true)
    (isTest : b.isTest = b.marker.isTest) (h : b.HasIdentity naming identity) (d : Declaration) :
    b.Overrides (b.promotedTo naming identity d) where
  exposed := rfl
  scope := rfl
  containerForm := rfl
  memberName := rfl
  carried := rfl
  contribution := rfl
  visibility := rfl
  location := rfl
  supplier := rfl
  isTest := isTest.trans test
  replaces := by
    rw [h.replaces, ContainerIdentity.replaces, if_pos test]
    rfl
  isTest_production := rfl
  replaces_production := rfl
  containerName_ne := by
    rw [h.containerName]
    refine containerName_ne suffixes (fun e => ?_) identity
    rw [Marker.production_eq_self_iff.mp e.symm] at test
    cases test

/-- Under a test marker and under the production marker of its family, one request comes to results
that are alike at a class. -/
theorem ofClass_alike (suffixes : Function.Injective config.naming.suffix) (d : ClassDeclaration)
    (before after : List Declaration) (known : List AnnotationEntry) {request : BindingRequest}
    (test : request.marker.isTest = true) :
    let d' := { d with annotations := d.annotations.map (config.markers.promote marker) }
    Alike Binding.Overrides
      (Binding.ofClass config ⟨before ++ .type d :: after, known⟩ d request)
      (Binding.ofClass config ⟨before ++ .type d' :: after, known⟩ d'
        { request with marker := request.marker.production }) := by
  intro d'
  have location' : d'.location = d.location := rfl
  have constructible' : d'.isConstructible = d.isConstructible := rfl
  have exposed' : { request with marker := request.marker.production }.exposed config d' =
      request.exposed config d := rfl
  rw [Binding.ofClass, Binding.ofClass, location', constructible', exposed']
  cases d.location with
  | none => exact .error _
  | some location =>
    dsimp only
    split_ifs with made factory
    · exact .error _
    · exact .error _
    · have made : d.isConstructible = true := by simpa using made
      have silent : Program.declaredEntry? (.type d) = none :=
        declaredEntry?_of_isConstructible made
      have silent' : Program.declaredEntry? (.type d') = none :=
        declaredEntry?_of_isConstructible (constructible'.trans made)
      -- neither class is an annotation class, so a search sees the same entries in both programs
      have entries := entries_exchange (silent'.trans silent.symm) before after known
      rw [forClass_promote entries d request location]
      exact .ok (overrides_promotedTo suffixes test rfl ⟨rfl, rfl, rfl, rfl, rfl⟩ _)

theorem ofFunction_alike (suffixes : Function.Injective config.naming.suffix)
    (d : FunctionDeclaration) (before after : List Declaration) (known : List AnnotationEntry)
    {request : BindingRequest} (test : request.marker.isTest = true) :
    let d' := { d with annotations := d.annotations.map (config.markers.promote marker) }
    Alike Binding.Overrides
      (Binding.ofFunction config ⟨before ++ .function d :: after, known⟩ d request)
      (Binding.ofFunction config ⟨before ++ .function d' :: after, known⟩ d'
        { request with marker := request.marker.production }) := by
  intro d'
  have location' : d'.location = d.location := rfl
  have returnType' : d'.returnType = d.returnType := rfl
  rw [Binding.ofFunction, Binding.ofFunction, location', returnType']
  cases d.location with
  | none => exact .error _
  | some location =>
    cases d.returnType with
    | none => exact .error _
    | some exposed =>
      cases misfit : config.types.misfit? request.contribution exposed with
      | some reason =>
        simp only [misfit]
        exact .error _
      | none =>
        simp only [misfit]
        have silent : Program.declaredEntry? (.function d') =
          Program.declaredEntry? (.function d) := rfl
        have entries := entries_exchange silent before after known
        rw [forFunction_promote entries d request location exposed]
        exact .ok (overrides_promotedTo suffixes test rfl ⟨rfl, rfl, rfl, rfl, rfl⟩ _)

theorem ofDeclaration_alike (suffixes : Function.Injective config.naming.suffix) (d : Declaration)
    (before after : List Declaration) (known : List AnnotationEntry) {request : BindingRequest}
    (test : request.marker.isTest = true) :
    let d' := d.mapAnnotations (config.markers.promote marker)
    Alike Binding.Overrides
      (Binding.ofDeclaration config ⟨before ++ d :: after, known⟩ d request)
      (Binding.ofDeclaration config ⟨before ++ d' :: after, known⟩ d'
        { request with marker := request.marker.production }) := by
  intro d'
  have family' : request.marker.production.family = request.marker.family := rfl
  simp only [Binding.ofDeclaration, family']
  cases d with
  | type d =>
    cases request.marker.family with
    | bind => exact ofClass_alike suffixes d before after known test
    | factory => exact .error _
  | function d =>
    cases request.marker.family with
    | bind => exact .error _
    | factory => exact ofFunction_alike suffixes d before after known test
  | misc d => cases request.marker.family <;> exact .error _

end Overriding

/-! ### Resolving both -/

section Resolving
variable {config : Config} {marker : Marker} {d : Declaration}

/-- **A test override names the container it disables.** Where all markers of a declaration are of
one kind, one for tests, resolving it and resolving it under the production marker of the family
either fail with the same error or give bindings of which the first overrides the second. -/
theorem resolve_testOverride (usable : config.fault? = none) (test : marker.isTest = true)
    (before after : List Declaration) (known : List AnnotationEntry)
    (marked : ∃ a ∈ d.annotations, a.type = config.markers.classOf marker)
    (only : ∀ a ∈ d.annotations, config.markers.isMarker a = true →
      a.type = config.markers.classOf marker) :
    let d' := d.mapAnnotations (config.markers.promote marker)
    ∃ r r', Program.resolve? config ⟨before ++ d :: after, known⟩ d = some r ∧
      Program.resolve? config ⟨before ++ d' :: after, known⟩ d' = some r' ∧
      Alike (fun b b' => b.origin = d ∧ b'.origin = d' ∧ b.Overrides b') r r' := by
  intro d'
  obtain ⟨distinct, -, -, suffixes⟩ := Config.fault?_eq_none_iff.mp usable
  obtain ⟨usage, rest, found⟩ : ∃ usage rest,
      d.annotations.filter (·.type == config.markers.classOf marker) = usage :: rest := by
    obtain ⟨a, ha, type⟩ := marked
    exact List.exists_cons_of_ne_nil
      (List.ne_nil_of_mem (List.mem_filter.mpr ⟨ha, beq_iff_eq.mpr type⟩))
  have annotations' : d'.annotations = d.annotations.map (config.markers.promote marker) :=
    annotations_mapAnnotations _ d
  have only' : ∀ a ∈ d'.annotations, config.markers.isMarker a = true →
      a.type = config.markers.classOf marker.production := by
    rw [annotations']
    exact only_promote only
  have found' : d'.annotations.filter (·.type == config.markers.classOf marker.production) =
      config.markers.promote marker usage :: rest.map (config.markers.promote marker) := by
    rw [annotations', filter_map_promote only, found, List.map_cons]
  refine ⟨_, _, resolve?_of_only distinct only found _, resolve?_of_only distinct only' found' _, ?_⟩
  have family : marker.production.family = marker.family := rfl
  have decoding : BindingRequest.ofMarker config marker.production
      (config.markers.promote marker usage) d.reportName =
      (BindingRequest.ofMarker config marker usage d.reportName).map fun request =>
        { request with marker := marker.production } :=
    ofMarker_of_sameFamily family (promote_arguments usage) (promote_defaults usage) _
  rw [reportName_mapAnnotations, decoding]
  cases decoded : BindingRequest.ofMarker config marker usage d.reportName with
  | error e => exact .error e
  | ok request =>
    have asked : request.marker = marker := ofMarker_ok decoded
    subst asked
    refine (ofDeclaration_alike suffixes d before after known test).imp ?_
    intro b b' hb hb' overrides
    exact ⟨(ofDeclaration_spec hb).1, (ofDeclaration_spec hb').1, overrides⟩

end Resolving

/-- A class for tests whose marker has a key. -/
def exampleStub : ClassDeclaration :=
  { name := ⟨"com.example", ["Stub"]⟩
    form := .plainClass
    isAbstract := false
    supertypes := [.ofClass ⟨"com.example", ["Something"]⟩]
    annotations :=
      [(AnnotationUse.ofClass (MarkerClasses.default.classOf ⟨.bind, .test⟩)).withArgument
        ArgumentKeys.default.key (.string "Fast")]
    visibility := .publicAccess
    location := some ⟨"Stub.kt", "com.example"⟩ }

/-- The stub is bound under either marker, and it replaces what it would be bound to itself. -/
theorem resolve_testOverride_exampleStub :
    let d := Declaration.type exampleStub
    let d' := d.mapAnnotations (MarkerClasses.default.promote ⟨.bind, .test⟩)
    Config.default.fault? = none ∧ Marker.isTest ⟨.bind, .test⟩ = true ∧
      (∃ a ∈ d.annotations, a.type = MarkerClasses.default.classOf ⟨.bind, .test⟩) ∧
      (∀ a ∈ d.annotations, MarkerClasses.default.isMarker a = true →
        a.type = MarkerClasses.default.classOf ⟨.bind, .test⟩) ∧
      ∃ b b', Program.resolve? .default ⟨[d], []⟩ d = some (.ok b) ∧
        Program.resolve? .default ⟨[d'], []⟩ d' = some (.ok b') ∧ b.Overrides b' := by
  intro d d'
  have marked : ∃ a ∈ d.annotations, a.type = MarkerClasses.default.classOf ⟨.bind, .test⟩ := by
    decide
  have only : ∀ a ∈ d.annotations, MarkerClasses.default.isMarker a = true →
      a.type = MarkerClasses.default.classOf ⟨.bind, .test⟩ := by decide
  obtain ⟨r, r', hr, hr', alike⟩ :=
    resolve_testOverride Config.fault?_default rfl [] [] [] marked only
  refine ⟨Config.fault?_default, rfl, marked, only, ?_⟩
  cases alike with
  | ok related => exact ⟨_, _, hr, hr', related.2.2⟩
  | error e =>
    have name : (Program.resolve? .default ⟨[d], []⟩ d).map (·.toOption.map (·.containerName.dotted)) =
        some (some "com.example.SomethingFast_SingletonComponent_TestModule") := by cbv
    rw [List.nil_append] at hr
    rw [hr] at name
    cases name

end BindingPlan
