import BindingPlan.Proofs.Binding.OtherAnnotations
import BindingPlan.Proofs.Binding.WrittenDefault

/-! # The exposed type

A class becomes available under the target of its marker, or else under its first supertype that is
not the top type, or else under itself (`ClassDeclaration.ExposedAs`). A target counts only if it is
meant: the declared default and the bare sentinel leave the target open. So supertypes that are the
top type may come and go, and an open target may be written in any way or left out. No more than the
origin of the binding changes, and an error not at all (`exposed_exactly`).

A declaration with one marker annotation is resolved by what that annotation asks for
(`resolve?_of_single`), and annotations that agree on all arguments ask for the same
(`ofMarker_of_alike`). The search for a qualifier and the annotations carried on leave markers
out. -/

namespace BindingPlan

/-! ### The target of a marker -/

namespace AnnotationUse

/-- The annotation targets a type: it is written as the target, differs from the declared default,
and is not the sentinel class without arguments. -/
structure Targets (config : Config) (usage : AnnotationUse) (type : TypeRef) : Prop where
  written : usage.argument? config.arguments.target = some (.type type)
  undeclared : usage.default? config.arguments.target ≠ some (.type type)
  meant : ¬ (type.raw = config.types.targetSentinel ∧ type.arguments = [])

/-- The annotation leaves the target open. -/
inductive TargetOpen (config : Config) (usage : AnnotationUse) : Prop
  | unwritten (unwritten : usage.argument? config.arguments.target = none)
  | declared {value default : ArgumentValue}
      (written : usage.argument? config.arguments.target = some value)
      (declared : usage.default? config.arguments.target = some default)
      (same : default.same value = true)
  | sentinel {type : TypeRef}
      (written : usage.argument? config.arguments.target = some (.type type))
      (raw : type.raw = config.types.targetSentinel) (bare : type.arguments = [])

/-- The annotations are of one class with the same defaults and the same arguments but for the
target, and the target is the same, or open in both. -/
structure AlikeButForOpenTarget (config : Config) (usage usage' : AnnotationUse) : Prop where
  type : usage'.type = usage.type
  defaults : usage'.defaults = usage.defaults
  others : usage'.arguments.filter (·.name != config.arguments.target) =
    usage.arguments.filter (·.name != config.arguments.target)
  target : usage'.argument? config.arguments.target = usage.argument? config.arguments.target ∨
    usage.TargetOpen config ∧ usage'.TargetOpen config

end AnnotationUse

/-- The type under which a class becomes available. -/
inductive ClassDeclaration.ExposedAs (config : Config) (usage : AnnotationUse)
    (d : ClassDeclaration) : TypeRef → Prop
  | target {type : TypeRef} (targeted : usage.Targets config type) : ExposedAs config usage d type
  | supertype {front back : List TypeRef} {type : TypeRef}
      (untargeted : ∀ target, ¬ usage.Targets config target)
      (supertypes : d.supertypes = front ++ type :: back)
      (passed : ∀ above ∈ front, above.raw = config.types.topType)
      (lower : type.raw ≠ config.types.topType) : ExposedAs config usage d type
  | self (untargeted : ∀ target, ¬ usage.Targets config target)
      (passed : ∀ above ∈ d.supertypes, above.raw = config.types.topType) :
      ExposedAs config usage d (.ofClass d.name)

section Target
variable {config : Config} {marker : Marker} {usage usage' : AnnotationUse} {name : String}

theorem ArgumentValue.same_type_iff {value : ArgumentValue} {type : TypeRef} :
    value.same (.type type) = true ↔ value = .type type := by
  cases value <;> simp [ArgumentValue.same]

theorem SpecialTypes.isSentinel_iff {types : SpecialTypes} {type : TypeRef} :
    types.isSentinel type = true ↔ type.raw = types.targetSentinel ∧ type.arguments = [] := by
  simp [isSentinel, TypeRef.hasArguments]

theorem AnnotationUse.chosen?_eq_some_type_iff {type : TypeRef} {argument : String} :
    usage.chosen? argument = some (.type type) ↔
      usage.argument? argument = some (.type type) ∧
        usage.default? argument ≠ some (.type type) := by
  unfold AnnotationUse.chosen?
  cases written : usage.argument? argument with
  | none => simp
  | some value =>
    cases declared : usage.default? argument with
    | none => simp
    | some default =>
      by_cases same : default.same value = true
      · simp only [same, if_true, reduceCtorEq, Option.some_inj, false_iff, not_and, not_not]
        rintro rfl
        exact ArgumentValue.same_type_iff.mp same
      · simp only [same, Bool.false_eq_true, if_false, Option.some_inj, iff_self_and]
        rintro rfl e
        exact same (ArgumentValue.same_type_iff.mpr (Option.some_inj.mp e))

theorem chosenType?_eq_some_iff {argument : String} {chosen : Option TypeRef} {type : TypeRef}
    (decoded : BindingRequest.chosenType? usage name argument = .ok chosen) :
    chosen = some type ↔ usage.chosen? argument = some (.type type) := by
  unfold BindingRequest.chosenType? at decoded
  cases written : usage.chosen? argument with
  | none =>
    rw [written] at decoded
    cases decoded
    simp
  | some value =>
    rw [written] at decoded
    cases value <;> cases decoded
    simp

/-- **The target asked for** by a marker of types is the type that its annotation targets. -/
theorem target_eq_some_iff {target : Option TypeRef} (family : marker.family = .bind)
    (decoded : BindingRequest.targetOf config marker usage name = .ok target) {type : TypeRef} :
    target = some type ↔ usage.Targets config type := by
  rw [BindingRequest.targetOf, family] at decoded
  obtain ⟨chosen, hchosen, ⟨⟩⟩ := bind_eq_ok_iff.mp decoded
  rw [Option.filter_eq_some_iff, chosenType?_eq_some_iff hchosen,
    AnnotationUse.chosen?_eq_some_type_iff, Bool.not_eq_true', ← Bool.not_eq_true,
    SpecialTypes.isSentinel_iff]
  constructor
  · rintro ⟨⟨written, undeclared⟩, meant⟩
    exact ⟨written, undeclared, meant⟩
  · rintro ⟨written, undeclared, meant⟩
    exact ⟨⟨written, undeclared⟩, meant⟩

theorem targetOf_of_open (targetOpen : usage.TargetOpen config) :
    BindingRequest.targetOf config marker usage name = .ok none := by
  unfold BindingRequest.targetOf
  cases marker.family with
  | factory => rfl
  | bind =>
    unfold BindingRequest.chosenType? AnnotationUse.chosen?
    cases targetOpen with
    | unwritten unwritten =>
      rw [unwritten]
      rfl
    | declared written declared same =>
      simp only [written, declared, same]
      rfl
    | @sentinel type written raw bare =>
      have sentinel : (some type).filter (fun t => !config.types.isSentinel t) = none := by
        simp [SpecialTypes.isSentinel_iff.mpr ⟨raw, bare⟩]
      rw [written]
      cases usage.default? config.arguments.target with
      | none => exact congrArg Except.ok sentinel
      | some default =>
        cases same : default.same (.type type) with
        | true =>
          simp only [same]
          rfl
        | false =>
          simp only [same]
          exact congrArg Except.ok sentinel

/-! ### Alike annotations -/

theorem AnnotationUse.AlikeButForOpenTarget.argument?
    (alike : usage.AlikeButForOpenTarget config usage') {other : String}
    (ne : other ≠ config.arguments.target) :
    usage'.argument? other = usage.argument? other := by
  have found (a : AnnotationUse) : a.arguments.find? (·.name == other) =
      (a.arguments.filter (·.name != config.arguments.target)).find? (·.name == other) := by
    rw [List.find?_filter]
    congr 1
    funext argument
    by_cases e : argument.name = other
    · simp [e, ne]
    · simp [e]
  rw [AnnotationUse.argument?, AnnotationUse.argument?, found, found, alike.others]

theorem AnnotationUse.AlikeButForOpenTarget.chosen?
    (alike : usage.AlikeButForOpenTarget config usage') {other : String}
    (ne : other ≠ config.arguments.target) :
    usage'.chosen? other = usage.chosen? other := by
  have default : usage'.default? other = usage.default? other := by
    rw [AnnotationUse.default?, AnnotationUse.default?, alike.defaults]
  rw [AnnotationUse.chosen?, AnnotationUse.chosen?, alike.argument? ne, default]

/-- **Annotations that are alike** but for an open target ask for the same under any marker. -/
theorem ofMarker_of_alike (distinct : Function.Injective config.arguments.nameOf)
    (alike : usage.AlikeButForOpenTarget config usage') :
    BindingRequest.ofMarker config marker usage' name =
      BindingRequest.ofMarker config marker usage name := by
  refine BindingRequest.ofMarker_of_agreeOn fun argument => ?_
  have ne (other : argument ≠ .target) :
      config.arguments.nameOf argument ≠ config.arguments.target := distinct.ne other
  cases argument with
  | scope => exact BindingRequest.chosenType?_congr (alike.chosen? (ne nofun))
  | contribution => exact BindingRequest.contributionOf_congr (alike.argument? (ne nofun))
  | key => exact BindingRequest.keyOf_congr (alike.argument? (ne nofun))
  | target =>
    rcases alike.target with same | ⟨targetOpen, targetOpen'⟩
    · refine BindingRequest.targetOf_congr ?_
      rw [AnnotationUse.chosen?, AnnotationUse.chosen?, same, AnnotationUse.default?,
        AnnotationUse.default?, alike.defaults]
    · exact (targetOf_of_open targetOpen').trans (targetOf_of_open targetOpen).symm

end Target

/-! ### The exposed type -/

section Exposed
variable {config : Config} {usage : AnnotationUse} {d : ClassDeclaration}
  {request : BindingRequest}

theorem target_eq_none (targets : ∀ type, request.target = some type ↔ usage.Targets config type)
    (untargeted : ∀ target, ¬ usage.Targets config target) : request.target = none :=
  Option.eq_none_iff_forall_ne_some.mpr fun target asked =>
    untargeted target ((targets target).mp asked)

theorem exposedAs_exposed
    (targets : ∀ type, request.target = some type ↔ usage.Targets config type) :
    d.ExposedAs config usage (request.exposed config d) := by
  unfold BindingRequest.exposed
  cases asked : request.target with
  | some target => exact .target ((targets target).mp asked)
  | none =>
    have untargeted (target : TypeRef) : ¬ usage.Targets config target := fun targeted =>
      Option.some_ne_none target (((targets target).mpr targeted).symm.trans asked)
    cases first : d.supertypes.find? (·.raw != config.types.topType) with
    | none => exact .self untargeted (by simpa using first)
    | some supertype =>
      obtain ⟨lower, front, back, supertypes, passed⟩ := List.find?_eq_some_iff_append.mp first
      exact .supertype untargeted supertypes (by simpa using passed) (by simpa using lower)

theorem ClassDeclaration.ExposedAs.eq_exposed {type : TypeRef}
    (targets : ∀ type, request.target = some type ↔ usage.Targets config type)
    (exposed : d.ExposedAs config usage type) : type = request.exposed config d := by
  unfold BindingRequest.exposed
  cases exposed with
  | target targeted => rw [(targets type).mpr targeted]
  | supertype untargeted supertypes passed lower =>
    have first : d.supertypes.find? (·.raw != config.types.topType) = some type :=
      List.find?_eq_some_iff_append.mpr
        ⟨by simpa using lower, _, _, supertypes, by simpa using passed⟩
    rw [target_eq_none targets untargeted, first]
    rfl
  | self untargeted passed =>
    have none : d.supertypes.find? (·.raw != config.types.topType) = none :=
      List.find?_eq_none.mpr (by simpa using passed)
    rw [target_eq_none targets untargeted, none]
    rfl

/-- **The type that is exposed** for a request is the one that its annotation exposes. -/
theorem exposedAs_iff {marker : Marker} (family : marker.family = .bind)
    (decoded : BindingRequest.ofMarker config marker usage d.name.dotted = .ok request)
    {type : TypeRef} : d.ExposedAs config usage type ↔ type = request.exposed config d := by
  obtain ⟨-, -, target, -, -⟩ := ofMarker_eq_ok_iff.mp decoded
  have targets (type : TypeRef) : request.target = some type ↔ usage.Targets config type :=
    target_eq_some_iff family target
  refine ⟨fun exposed => exposed.eq_exposed targets, ?_⟩
  rintro rfl
  exact exposedAs_exposed targets

/-- Supertypes that are the top type do not show in the exposed type. -/
theorem exposed_congr {d' : ClassDeclaration} (name : d'.name = d.name)
    (supertypes : d'.supertypes.filter (·.raw != config.types.topType) =
      d.supertypes.filter (·.raw != config.types.topType)) :
    request.exposed config d' = request.exposed config d := by
  unfold BindingRequest.exposed
  rw [← List.head?_filter, ← List.head?_filter, supertypes, name]

end Exposed

/-! ### Declarations with one marker annotation -/

section Single
variable {config : Config} {program program' : Program} {usage usage' : AnnotationUse}

theorem markersOn_of_single {annotations : List AnnotationUse}
    (single : annotations.filter config.markers.isMarker = [usage]) :
    config.markers.markersOn annotations =
      (Marker.all.filter (config.markers.classOf · == usage.type)).map (·, usage) := by
  unfold MarkerClasses.markersOn
  induction Marker.all with
  | nil => rfl
  | cons marker rest ih =>
    rw [List.flatMap_cons, List.filter_cons, ih, ← filter_filter_isMarker, single]
    by_cases same : config.markers.classOf marker = usage.type
    · simp [same]
    · simp [same, Ne.symm same]

theorem exists_marker_of_single {annotations : List AnnotationUse}
    (single : annotations.filter config.markers.isMarker = [usage]) : ∃ first rest,
      Marker.all.filter (config.markers.classOf · == usage.type) = first :: rest := by
  have mem : usage ∈ annotations.filter config.markers.isMarker := by simp [single]
  obtain ⟨marker, type⟩ := isMarker_iff.mp (List.mem_filter.mp mem).2
  exact List.exists_cons_of_ne_nil (List.ne_nil_of_mem
    (List.mem_filter.mpr ⟨marker.mem_all, beq_iff_eq.mpr type⟩))

/-- **One marker annotation** is resolved under the marker of its class. If its class has several
markers, they are too many. -/
theorem resolve?_of_single {d : Declaration} {first : Marker} {rest : List Marker}
    (single : d.annotations.filter config.markers.isMarker = [usage])
    (markers : Marker.all.filter (config.markers.classOf · == usage.type) = first :: rest) :
    Program.resolve? config program d = some (
      if rest.all (· == first) then do
        let request ← BindingRequest.ofMarker config first usage d.reportName
        Binding.ofDeclaration config program d request
      else .error (.ambiguous d.reportName ((first :: rest).map fun _ => usage.type.dotted))) := by
  have found : config.markers.markersOn d.annotations = (first :: rest).map (·, usage) := by
    rw [markersOn_of_single single, markers]
  have counts : (Candidate.mk d ((first :: rest).map (·, usage))).marker? =
      if rest.all (· == first) then some (first, usage) else none := by
    simp [Candidate.marker?, Function.comp_def]
  rw [Program.resolve?, MarkerClasses.candidate?, found]
  change some (Binding.ofCandidate config program ⟨d, (first :: rest).map (·, usage)⟩) = _
  rw [Binding.ofCandidate, counts]
  cases rest.all (· == first) with
  | true => rfl
  | false => simp [Function.comp_def]

theorem qualifierBeyond?_filter (markers : List ClassName) (entries : List AnnotationEntry)
    (skip : AnnotationUse → Bool) : ∀ (met : List ClassName) (annotations : List AnnotationUse),
      qualifierBeyond? markers entries skip met (annotations.filter (!skip ·)) =
        qualifierBeyond? markers entries skip met annotations
  | _, [] => rfl
  | met, a :: rest => by
    cases skipped : skip a with
    | true =>
      have rest := qualifierBeyond?_filter markers entries skip met rest
      simp [qualifierBeyond?, skipped, rest]
    | false =>
      simp only [List.filter_cons, skipped, Bool.not_false, if_true, qualifierBeyond?,
        qualifierBeyond?_filter markers entries skip _ rest]

theorem qualifierText?_congr {annotations annotations' : List AnnotationUse}
    (entries : program'.entries = program.entries)
    (carried : carriedAnnotations config annotations' = carriedAnnotations config annotations) :
    program'.qualifierText? config annotations' = program.qualifierText? config annotations := by
  rw [qualifierText?_of_entries entries]
  unfold Program.qualifierText? Program.qualifier?
  rw [← qualifierBeyond?_filter _ _ _ _ annotations', ← qualifierBeyond?_filter _ _ _ _ annotations]
  exact congrArg (fun kept => (qualifierBeyond? _ _ _ _ kept).map _) carried

end Single

/-! ### Edits that do not show -/

/-- The class with other supertypes and annotations, where no more was changed than supertypes that
are the top type, and the way in which the marker leaves its target open. -/
structure ClassDeclaration.AlikeButForTopTypes (config : Config) (usage usage' : AnnotationUse)
    (d d' : ClassDeclaration) : Prop where
  rest : d' = { d with supertypes := d'.supertypes, annotations := d'.annotations }
  supertypes : d'.supertypes.filter (·.raw != config.types.topType) =
    d.supertypes.filter (·.raw != config.types.topType)
  carried : carriedAnnotations config d'.annotations = carriedAnnotations config d.annotations
  marker : d'.annotations.filter config.markers.isMarker = [usage']
  alike : usage.AlikeButForOpenTarget config usage'

section Edits
variable {config : Config} {program program' : Program} {usage usage' : AnnotationUse}
  {d d' : ClassDeclaration} {request : BindingRequest}

theorem ofClass_of_alike (entries : d.isConstructible = true → program'.entries = program.entries)
    (edit : d.AlikeButForTopTypes config usage usage' d') :
    Binding.ofClass config program' d' request =
      (Binding.ofClass config program d request).map ({ · with origin := .type d' }) := by
  have name' : d'.name = d.name := by rw [edit.rest]
  have location' : d'.location = d.location := by rw [edit.rest]
  have constructible' : d'.isConstructible = d.isConstructible := by rw [edit.rest]; rfl
  have word' : d'.unbindableWord = d.unbindableWord := by rw [edit.rest]; rfl
  have visibility' : d'.visibility = d.visibility := by rw [edit.rest]
  have exposed' : request.exposed config d' = request.exposed config d :=
    exposed_congr name' edit.supertypes
  rw [Binding.ofClass, Binding.ofClass, name', location', constructible', word', exposed']
  cases d.location with
  | none => rfl
  | some location =>
    dsimp only
    split_ifs with unmade factory
    · rfl
    · rfl
    · have made : d.isConstructible = true := by simpa using unmade
      have suffix : request.suffixAt config program' d'.annotations =
          request.suffixAt config program d.annotations :=
        suffixAt_congr (qualifierText?_congr (entries made) edit.carried)
      have identity := ofRequest_of_suffixAt suffix location (request.exposed config d)
      rw [Binding.forClass, exposed', identity, edit.carried, name', visibility']
      rfl

theorem ofDeclaration_of_alike
    (entries : d.isConstructible = true → program'.entries = program.entries)
    (edit : d.AlikeButForTopTypes config usage usage' d') :
    Binding.ofDeclaration config program' (.type d') request =
      (Binding.ofDeclaration config program (.type d) request).map
        ({ · with origin := .type d' }) := by
  unfold Binding.ofDeclaration
  cases request.marker.family with
  | bind => exact ofClass_of_alike entries edit
  | factory =>
    rw [edit.rest]
    rfl

/-- **An edit that does not show** leaves what a class resolves to as it is, up to the origin. -/
theorem resolve?_of_alike (distinct : Function.Injective config.arguments.nameOf)
    (single : d.annotations.filter config.markers.isMarker = [usage])
    (edit : d.AlikeButForTopTypes config usage usage' d') (before after : List Declaration)
    (known : List AnnotationEntry) :
    Program.resolve? config ⟨before ++ .type d' :: after, known⟩ (.type d') =
      (Program.resolve? config ⟨before ++ .type d :: after, known⟩ (.type d)).map
        (Except.map ({ · with origin := .type d' })) := by
  have name' : (Declaration.type d').reportName = (Declaration.type d).reportName := by
    rw [edit.rest]
    rfl
  have entries (made : d.isConstructible = true) :
      Program.entries ⟨before ++ .type d' :: after, known⟩ =
        Program.entries ⟨before ++ .type d :: after, known⟩ := by
    have made' : d'.isConstructible = true := by
      rw [edit.rest]
      exact made
    have silent := declaredEntry?_of_isConstructible made
    exact entries_exchange ((declaredEntry?_of_isConstructible made').trans silent.symm) _ _ _
  obtain ⟨first, rest, markers⟩ := exists_marker_of_single single
  rw [resolve?_of_single (d := .type d) single markers,
    resolve?_of_single (d := .type d') edit.marker (edit.alike.type ▸ markers), name',
    edit.alike.type, ofMarker_of_alike distinct edit.alike, Option.map_some]
  refine congrArg some ?_
  cases rest.all (· == first) with
  | false => rfl
  | true =>
    cases BindingRequest.ofMarker config first usage (Declaration.type d).reportName with
    | error e => rfl
    | ok request => exact ofDeclaration_of_alike entries edit

end Edits

/-! ### Resolving a class -/

section Resolving
variable {config : Config} {program : Program} {marker : Marker} {usage : AnnotationUse}
  {d : ClassDeclaration} {request : BindingRequest}

theorem exposed_of_resolve? {b : Binding}
    (single : d.annotations.filter config.markers.isMarker = [usage])
    (bound : Program.resolve? config program (.type d) = some (.ok b)) (type : TypeRef) :
    d.ExposedAs config usage type ↔ type = b.exposed := by
  obtain ⟨first, rest, markers⟩ := exists_marker_of_single single
  rw [resolve?_of_single (d := .type d) single markers, Option.some_inj] at bound
  split_ifs at bound
  obtain ⟨request, decoded, bound⟩ := bind_eq_ok_iff.mp bound
  obtain ⟨_, ⟨⟩, family, bound⟩ | ⟨_, ⟨⟩, -, -⟩ := ofDeclaration_ok bound
  obtain ⟨location, -, -, -, rfl⟩ := ofClass_eq_ok_iff.mp bound
  exact exposedAs_iff (ofMarker_ok decoded ▸ family) decoded

/-- Under a marker of types that shares its class with no other, a class is bound as it asks for. -/
theorem resolve?_of_decoded (single : d.annotations.filter config.markers.isMarker = [usage])
    (counts : ∀ m, config.markers.classOf m = usage.type ↔ m = marker)
    (family : marker.family = .bind)
    (decoded : BindingRequest.ofMarker config marker usage d.name.dotted = .ok request) :
    Program.resolve? config program (.type d) =
      some (Binding.ofClass config program d request) := by
  have own : Marker.all.filter (config.markers.classOf · == usage.type) =
      Marker.all.filter (· == marker) := by
    refine List.filter_congr fun m _ => ?_
    rw [Bool.eq_iff_iff, beq_iff_eq, beq_iff_eq, counts]
  have markers : Marker.all.filter (· == marker) = [marker] := by
    obtain ⟨sort, variant⟩ := marker
    cases sort <;> cases variant <;> rfl
  have asked : request.marker.family = .bind := ofMarker_ok decoded ▸ family
  rw [resolve?_of_single (d := .type d) single (own.trans markers), List.all_nil, if_pos rfl]
  simp only [Declaration.reportName, decoded, bind, Except.bind, Binding.ofDeclaration, asked]

end Resolving

/-- **What a class is exposed as.** A class under one marker annotation, for types, becomes
available under the type that the annotation targets, or else under its first supertype that is not
the top type, or else under itself; an error about the shape names the same type. Neither
supertypes that are the top type nor the way in which the target is left open show in what the class
resolves to. -/
theorem exposed_exactly {config : Config} (distinct : Function.Injective config.arguments.nameOf)
    {d : ClassDeclaration} (made : d.isConstructible = true) {location : Location}
    (placed : d.location = some location) {usage : AnnotationUse}
    (single : d.annotations.filter config.markers.isMarker = [usage]) :
    (∀ program b, Program.resolve? config program (.type d) = some (.ok b) →
      ∀ type, d.ExposedAs config usage type ↔ type = b.exposed) ∧
    (∀ program marker request, (∀ m, config.markers.classOf m = usage.type ↔ m = marker) →
      marker.family = .bind →
      BindingRequest.ofMarker config marker usage d.name.dotted = .ok request →
      (request.contribution.needsFactory = false →
        ∃ b, Program.resolve? config program (.type d) = some (.ok b)) ∧
      (request.contribution.needsFactory = true →
        ∃ exposed, (∀ type, d.ExposedAs config usage type ↔ type = exposed) ∧
          Program.resolve? config program (.type d) = some (.error (.misfit d.name.dotted
            request.contribution.word exposed.text .factoryOnly)))) ∧
    ∀ before after known usage' d', d.AlikeButForTopTypes config usage usage' d' →
      Program.resolve? config ⟨before ++ .type d' :: after, known⟩ (.type d') =
        (Program.resolve? config ⟨before ++ .type d :: after, known⟩ (.type d)).map
          (Except.map ({ · with origin := .type d' })) := by
  refine ⟨fun program b bound => exposed_of_resolve? single bound,
    fun program marker request counts family decoded => ⟨fun one => ?_, fun factory => ?_⟩,
    fun before after known usage' d' edit =>
      resolve?_of_alike distinct single edit before after known⟩
  · refine ⟨Binding.forClass config program d request location, ?_⟩
    rw [resolve?_of_decoded single counts family decoded,
      ofClass_eq_ok_iff.mpr ⟨location, placed, made, one, rfl⟩]
  · refine ⟨request.exposed config d, fun type => exposedAs_iff family decoded, ?_⟩
    rw [resolve?_of_decoded single counts family decoded]
    simp [Binding.ofClass, placed, made, factory]

/-- The stub with the top type in front of its supertype, and with the sentinel as its target. -/
def exampleOpenStub : ClassDeclaration :=
  { exampleStub with
    supertypes := .ofClass Config.default.types.topType :: exampleStub.supertypes
    annotations := exampleStub.annotations.map fun usage =>
      usage.withArgument ArgumentKeys.default.target
        (.type { TypeRef.ofClass Config.default.types.targetSentinel with nullable := true }) }

/-- The stub is exposed as its supertype, and it stays so. -/
theorem exposed_exactly_exampleStub :
    let d := Declaration.type exampleStub
    let d' := Declaration.type exampleOpenStub
    ∃ b, Program.resolve? .default ⟨[d], []⟩ d = some (.ok b) ∧
      b.exposed = .ofClass ⟨"com.example", ["Something"]⟩ ∧
      Program.resolve? .default ⟨[d'], []⟩ d' = some (.ok { b with origin := d' }) := by
  intro d d'
  obtain ⟨b, bound⟩ : ∃ b, Program.resolve? .default ⟨[d], []⟩ d = some (.ok b) := ⟨_, rfl⟩
  obtain ⟨exposed, -, edited⟩ := @exposed_exactly .default
    BindingRequest.nameOf_default_injective exampleStub rfl _ rfl _ rfl
  refine ⟨b, bound, ?_, ?_⟩
  · have first : exampleStub.supertypes = [] ++ .ofClass ⟨"com.example", ["Something"]⟩ :: [] := rfl
    refine ((exposed _ b bound _).mp (.supertype ?_ first nofun (by decide))).symm
    rintro target ⟨written, -, -⟩
    cases written
  · refine (edited [] [] [] _ exampleOpenStub ⟨rfl, rfl, rfl, rfl, rfl, rfl, rfl, ?_⟩).trans ?_
    · exact .inr ⟨.unwritten rfl, .sentinel rfl rfl rfl⟩
    · rw [List.nil_append, bound]
      rfl

end BindingPlan
