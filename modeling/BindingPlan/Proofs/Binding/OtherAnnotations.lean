import BindingPlan.Proofs.Binding.Decoded
import BindingPlan.Proofs.Binding.TestOverride

/-! # Annotations that are no markers

The annotations of a declaration that are no markers go onto the member that is generated, and the
first qualifier among them becomes part of the container's name, unless the marker has a key. That
is all they do: under other annotations with the same markers, a declaration fails with the same
error, or its binding differs in nothing but its origin and the annotations that it carries on,
provided that there is a key or that the qualifiers have one canonical text
(`resolve?_withAnnotations`). Where there is a key, the annotations on annotation classes do not
matter either. -/

namespace BindingPlan

/-! ### Declarations under other annotations -/

/-- The declaration with other annotations. -/
def Declaration.withAnnotations (annotations : List AnnotationUse) : Declaration → Declaration
  | .type d => .type { d with annotations }
  | .function d => .function { d with annotations }
  | .misc d => .misc { d with annotations }

theorem annotations_withAnnotations (annotations : List AnnotationUse) (d : Declaration) :
    (d.withAnnotations annotations).annotations = annotations := by
  cases d <;> rfl

theorem reportName_withAnnotations (annotations : List AnnotationUse) (d : Declaration) :
    (d.withAnnotations annotations).reportName = d.reportName := by
  cases d <;> rfl

/-- The binding moved to another declaration, whose annotations it carries on. -/
def Binding.movedTo (config : Config) (declaration : Declaration) (binding : Binding) : Binding :=
  { binding with
    origin := declaration
    carried := carriedAnnotations config declaration.annotations }

/-- The first marker has a key that is not empty. -/
def Config.Keyed (config : Config) (annotations : List AnnotationUse) : Prop :=
  ∃ usage text, annotations.find? config.markers.isMarker = some usage ∧
    usage.argument? config.arguments.key = some (.string text) ∧ text ≠ ""

/-- The canonical text of the first qualifier that is no marker. -/
def Program.qualifierText? (config : Config) (program : Program)
    (annotations : List AnnotationUse) : Option String :=
  (program.qualifier? config.types.qualifierMarkers config.markers.isMarker annotations).map
    AnnotationUse.canonical

/-- Only the entries of annotation classes have a say in what is a qualifier. -/
theorem qualifierText?_of_entries {program program' : Program}
    (entries : program'.entries = program.entries) (config : Config)
    (annotations : List AnnotationUse) :
    program'.qualifierText? config annotations = program.qualifierText? config annotations := by
  rw [Program.qualifierText?, Program.qualifierText?, Program.qualifier?, Program.qualifier?,
    entries]

theorem declaredEntry?_withAnnotations {d : Declaration}
    (plain : Program.declaredEntry? d = none) (annotations : List AnnotationUse) :
    Program.declaredEntry? (d.withAnnotations annotations) = none := by
  cases d with
  | type d =>
    have form : d.form ≠ .annotationClass := by
      intro e
      simp [Program.declaredEntry?, e] at plain
    exact if_neg form
  | _ => rfl

/-! ### Markers -/

section Markers
variable {classes : MarkerClasses} {annotations annotations' : List AnnotationUse}

theorem markersOn_congr
    (same : annotations'.filter classes.isMarker = annotations.filter classes.isMarker) :
    classes.markersOn annotations' = classes.markersOn annotations := by
  unfold MarkerClasses.markersOn
  refine List.flatMap_congr fun marker _ => ?_
  rw [← filter_filter_isMarker annotations', same, filter_filter_isMarker]

theorem find?_isMarker_of_marker? {d : Declaration} {marker : Marker} {usage : AnnotationUse}
    (h : (Candidate.mk d (classes.markersOn annotations)).marker? = some (marker, usage)) :
    annotations.find? classes.isMarker = some usage := by
  obtain ⟨one, head⟩ := Candidate.marker?_eq_some_iff.mp h
  have alone : ∀ found ∈ classes.markersOn annotations, found.1 = marker := fun found mem =>
    one.2 found mem (marker, usage) (List.mem_of_head? head)
  have others : ∀ m ≠ marker, annotations.filter (·.type == classes.classOf m) = [] := by
    intro m hm
    rw [List.filter_eq_nil_iff]
    intro a ha type
    exact hm (alone (m, a) (mem_markersOn.mpr ⟨ha, beq_iff_eq.mp type⟩))
  have kind : annotations.filter classes.isMarker =
      annotations.filter (·.type == classes.classOf marker) := by
    rw [← filter_filter_isMarker, eq_comm, List.filter_eq_self]
    intro a ha
    obtain ⟨ha, mark⟩ := List.mem_filter.mp ha
    obtain ⟨m, type⟩ := isMarker_iff.mp mark
    rw [← alone (m, a) (mem_markersOn.mpr ⟨ha, type.symm⟩)]
    exact beq_iff_eq.mpr type.symm
  dsimp only at head
  rw [markersOn_of_no_others others, List.head?_map] at head
  obtain ⟨first, first_eq, ⟨⟩⟩ := Option.map_eq_some_iff.mp head
  rw [← List.head?_filter, kind, first_eq]

end Markers

/-! ### What tells containers apart -/

section Suffix
variable {config : Config} {program program' : Program} {request : BindingRequest}
  {annotations annotations' : List AnnotationUse}

theorem key_of_ofMarker {marker : Marker} {usage : AnnotationUse} {name text : String}
    (decoded : BindingRequest.ofMarker config marker usage name = .ok request)
    (written : usage.argument? config.arguments.key = some (.string text)) (ne : text ≠ "") :
    request.key = some text := by
  rw [BindingRequest.eq_reading decoded]
  simp [BindingRequest.reading, written, ArgumentValue.string?, ne]

/-- The suffix for a request at a declaration that has these annotations. -/
def BindingRequest.suffixAt (config : Config) (program : Program) (request : BindingRequest)
    (annotations : List AnnotationUse) : Option String :=
  request.suffix? program config.types.qualifierMarkers config.markers.isMarker annotations

theorem suffixAt_of_key {key : String} (h : request.key = some key) :
    request.suffixAt config program annotations = some key := by
  rw [BindingRequest.suffixAt, BindingRequest.suffix?, h]

theorem suffixAt_congr
    (same : program'.qualifierText? config annotations' =
      program.qualifierText? config annotations) :
    request.suffixAt config program' annotations' =
      request.suffixAt config program annotations := by
  have token : AnnotationUse.token = hashToken ∘ AnnotationUse.canonical := rfl
  unfold BindingRequest.suffixAt BindingRequest.suffix?
  cases request.key with
  | some key => rfl
  | none =>
    simp only [token, ← Option.map_map]
    exact congrArg (Option.map hashToken) same

end Suffix

/-! ### Resolving under other annotations -/

section Resolving
variable {config : Config} {program program' : Program} {request : BindingRequest}
  {annotations : List AnnotationUse}

theorem ofRequest_of_suffixAt {annotations' : List AnnotationUse}
    (suffix : request.suffixAt config program' annotations' =
      request.suffixAt config program annotations) (location : Location) (exposed : TypeRef) :
    ContainerIdentity.ofRequest config program' request annotations' location exposed =
      ContainerIdentity.ofRequest config program request annotations location exposed := by
  unfold BindingRequest.suffixAt at suffix
  rw [ContainerIdentity.ofRequest, ContainerIdentity.ofRequest, suffix]

theorem ofClass_withAnnotations (d : ClassDeclaration)
    (suffix : d.isConstructible = true → request.suffixAt config program' annotations =
      request.suffixAt config program d.annotations) :
    let d' := { d with annotations }
    Binding.ofClass config program' d' request =
      (Binding.ofClass config program d request).map (Binding.movedTo config (.type d')) := by
  intro d'
  have location' : d'.location = d.location := rfl
  have constructible' : d'.isConstructible = d.isConstructible := rfl
  have word' : d'.unbindableWord = d.unbindableWord := rfl
  have exposed' : request.exposed config d' = request.exposed config d := rfl
  rw [Binding.ofClass, Binding.ofClass, location', constructible', exposed', word']
  cases d.location with
  | none => rfl
  | some location =>
    dsimp only
    split_ifs with unmade factory
    · rfl
    · rfl
    · have made : d.isConstructible = true := by simpa using unmade
      have identity := ofRequest_of_suffixAt (suffix made) location (request.exposed config d)
      rw [Binding.forClass, exposed', identity]
      rfl

theorem ofFunction_withAnnotations (d : FunctionDeclaration)
    (suffix : request.suffixAt config program' annotations =
      request.suffixAt config program d.annotations) :
    let d' := { d with annotations }
    Binding.ofFunction config program' d' request =
      (Binding.ofFunction config program d request).map
        (Binding.movedTo config (.function d')) := by
  intro d'
  have location' : d'.location = d.location := rfl
  have returnType' : d'.returnType = d.returnType := rfl
  rw [Binding.ofFunction, Binding.ofFunction, location', returnType']
  cases d.location with
  | none => rfl
  | some location =>
    cases d.returnType with
    | none => rfl
    | some exposed =>
      cases misfit : config.types.misfit? request.contribution exposed with
      | some reason =>
        simp only [misfit]
        rfl
      | none =>
        simp only [misfit]
        rw [Binding.forFunction, ofRequest_of_suffixAt suffix]
        rfl

/-- An annotation class is not bound, so for all that are, the suffix decides. -/
theorem ofDeclaration_withAnnotations (d : Declaration)
    (suffix : Program.declaredEntry? d = none → request.suffixAt config program' annotations =
      request.suffixAt config program d.annotations) :
    Binding.ofDeclaration config program' (d.withAnnotations annotations) request =
      (Binding.ofDeclaration config program d request).map
        (Binding.movedTo config (d.withAnnotations annotations)) := by
  simp only [Binding.ofDeclaration]
  cases d with
  | type d =>
    cases request.marker.family with
    | bind =>
      exact ofClass_withAnnotations d fun made => suffix (declaredEntry?_of_isConstructible made)
    | factory => rfl
  | function d =>
    cases request.marker.family with
    | bind => rfl
    | factory => exact ofFunction_withAnnotations d (suffix rfl)
  | misc d => cases request.marker.family <;> rfl

theorem ofCandidate_withAnnotations (d : Declaration) (markers : List (Marker × AnnotationUse))
    (suffix : ∀ marker usage request, (Candidate.mk d markers).marker? = some (marker, usage) →
      BindingRequest.ofMarker config marker usage d.reportName = .ok request →
      Program.declaredEntry? d = none → request.suffixAt config program' annotations =
        request.suffixAt config program d.annotations) :
    Binding.ofCandidate config program' ⟨d.withAnnotations annotations, markers⟩ =
      (Binding.ofCandidate config program ⟨d, markers⟩).map
        (Binding.movedTo config (d.withAnnotations annotations)) := by
  have marker' : (Candidate.mk (d.withAnnotations annotations) markers).marker? =
      (Candidate.mk d markers).marker? := rfl
  rw [Binding.ofCandidate, Binding.ofCandidate, marker']
  dsimp only
  rw [reportName_withAnnotations]
  cases counts : (Candidate.mk d markers).marker? with
  | none => rfl
  | some found =>
    obtain ⟨marker, usage⟩ := found
    dsimp only
    cases decoded : BindingRequest.ofMarker config marker usage d.reportName with
    | error e => rfl
    | ok request =>
      exact ofDeclaration_withAnnotations d (suffix marker usage request counts decoded)

/-- **A declaration under other annotations.** Where the markers stay the same, and there is a key
or the first qualifier keeps its canonical text, the declaration fails with the same error, or it
comes to the same binding up to the origin and the annotations carried on. Under a key, what is
known of annotation classes may change as well. -/
theorem resolve?_withAnnotations {d : Declaration} (before after : List Declaration)
    {known known' : List AnnotationEntry}
    (markers : annotations.filter config.markers.isMarker =
      d.annotations.filter config.markers.isMarker)
    (identified : config.Keyed d.annotations ∨ known' = known ∧
      Program.qualifierText? config ⟨before ++ d :: after, known⟩ annotations =
        Program.qualifierText? config ⟨before ++ d :: after, known⟩ d.annotations) :
    let d' := d.withAnnotations annotations
    Program.resolve? config ⟨before ++ d' :: after, known'⟩ d' =
      (Program.resolve? config ⟨before ++ d :: after, known⟩ d).map
        (Except.map (Binding.movedTo config d')) := by
  intro d'
  have found : config.markers.markersOn d'.annotations =
      config.markers.markersOn d.annotations := by
    rw [annotations_withAnnotations]
    exact markersOn_congr markers
  rw [Program.resolve?, Program.resolve?, MarkerClasses.candidate?, MarkerClasses.candidate?, found]
  cases on_d : config.markers.markersOn d.annotations with
  | nil => rfl
  | cons first rest =>
    refine congrArg some (ofCandidate_withAnnotations d (first :: rest) ?_)
    intro marker usage request counts decoded plain
    rcases identified with ⟨keyed, text, front, written, ne⟩ | ⟨rfl, same⟩
    · rw [← on_d] at counts
      obtain rfl : keyed = usage :=
        Option.some_inj.mp (front.symm.trans (find?_isMarker_of_marker? counts))
      have key := key_of_ofMarker decoded written ne
      rw [suffixAt_of_key key, suffixAt_of_key key]
    · -- neither declaration is an annotation class, so both programs have the same entries
      have plain' := declaredEntry?_withAnnotations plain annotations
      have entries := entries_exchange (plain'.trans plain.symm) before after known'
      exact suffixAt_congr ((qualifierText?_of_entries entries config annotations).trans same)

end Resolving

/-- A qualifier, where its class is known to be one. -/
def exampleNamed : AnnotationUse :=
  .ofClass ⟨"javax.inject", ["Named"]⟩

/-- The stub has a key, so under a qualifier it is bound as before. -/
theorem resolve?_withAnnotations_exampleStub :
    let d := Declaration.type exampleStub
    let d' := d.withAnnotations (exampleNamed :: exampleStub.annotations)
    let entry : AnnotationEntry :=
      ⟨exampleNamed.type, [.ofClass ⟨"javax.inject", ["Qualifier"]⟩]⟩
    ∃ b, Program.resolve? .default ⟨[d], []⟩ d = some (.ok b) ∧
      Program.resolve? .default ⟨[d'], [entry]⟩ d' = some (.ok (b.movedTo .default d')) := by
  intro d d' entry
  have keyed : Config.default.Keyed d.annotations := ⟨_, "Fast", rfl, rfl, by decide⟩
  have moved := @resolve?_withAnnotations .default (exampleNamed :: exampleStub.annotations) d
    [] [] [] [entry] rfl (.inl keyed)
  obtain ⟨b, bound⟩ : ∃ b, Program.resolve? .default ⟨[d], []⟩ d = some (.ok b) := ⟨_, rfl⟩
  exact ⟨b, bound, moved.trans (congrArg (Option.map _) bound)⟩

end BindingPlan
