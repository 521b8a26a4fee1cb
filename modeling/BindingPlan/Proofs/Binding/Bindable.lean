import BindingPlan.Proofs.Binding.Decoded

/-! # What can be bound

A candidate is bound exactly if it keeps all rules, and otherwise the first rule that it breaks
gives the error (`ofCandidate_rules`). The rules stand in one list, in the order in which they
count: one marker, the arguments of the marker, the sort of the declaration, its file, and then what
the family asks for. All of them speak of the candidate alone; the program has a say in what a
binding looks like, never in whether there is one. -/

namespace BindingPlan

/-! ### The rules for declarations -/

/-- Whether markers of a family are for declarations of this sort. -/
def Declaration.Suits : Declaration → Marker.Family → Prop
  | .type _, .bind => True
  | .function _, .factory => True
  | _, _ => False

/-- The type is a class listed for sets, with one argument. -/
def SpecialTypes.SetShaped (types : SpecialTypes) (type : TypeRef) : Prop :=
  type.raw ∈ types.setTypes ∧ type.arguments.length = 1

/-- The type is a class listed for maps, with two arguments. -/
def SpecialTypes.MapShaped (types : SpecialTypes) (type : TypeRef) : Prop :=
  type.raw ∈ types.mapTypes ∧ type.arguments.length = 2

/-- The type has the shape that a contribution asks of a return type. -/
def SpecialTypes.Fits (types : SpecialTypes) (type : TypeRef) : Contribution → Prop
  | .setElements => types.SetShaped type
  | .collection => types.SetShaped type ∨ types.MapShaped type
  | .single | .setElement | .mapEntry => True

/-- What is said of a return type without the shape that a contribution asks for. -/
def Contribution.misfit : Contribution → MisfitReason
  | .collection => .setOrMapExpected
  | _ => .setExpected

/-- The rules for a class: objects of it can be made, and it contributes no more than one object. -/
def ClassDeclaration.rules (config : Config) (request : BindingRequest)
    (declaration : ClassDeclaration) : List Rule :=
  [{ holds := declaration.isAbstract = false ∧ declaration.form ≠ .interface ∧
        declaration.form ≠ .annotationClass
     error := .unbindable declaration.name.dotted declaration.unbindableWord
       request.marker.family.word },
    { holds := request.contribution ≠ .setElements ∧ request.contribution ≠ .collection
      error := .misfit declaration.name.dotted request.contribution.word
        (request.exposed config declaration).text .factoryOnly }]

/-- The rules for a function: it has a return type, of the shape that the contribution asks for. -/
def FunctionDeclaration.rules (types : SpecialTypes) (request : BindingRequest)
    (declaration : FunctionDeclaration) : List Rule :=
  [{ holds := declaration.returnType ≠ none
     error := .missingReturnType declaration.dottedName },
    { holds := ∀ type ∈ declaration.returnType, types.Fits type request.contribution
      error := .misfit declaration.dottedName request.contribution.word
        (declaration.returnType.elim "" (·.text)) request.contribution.misfit }]

/-- The rules for a declaration: the marker is for its sort, it stands in a file, and then the rules
of its sort. -/
def Declaration.rules (config : Config) (request : BindingRequest) (declaration : Declaration) :
    List Rule :=
  { holds := declaration.Suits request.marker.family
    error := .unbindable declaration.reportName declaration.sortWord request.marker.family.word } ::
  { holds := declaration.location ≠ none
    error := .missingFile declaration.reportName } ::
  match declaration with
  | .type d => d.rules config request
  | .function d => d.rules config.types request
  | .misc _ => []

section Declarations
variable {config : Config} {program : Program} {request : BindingRequest}

theorem ClassDeclaration.isConstructible_iff {d : ClassDeclaration} : d.isConstructible = true ↔
    d.isAbstract = false ∧ d.form ≠ .interface ∧ d.form ≠ .annotationClass := by
  simp [isConstructible, and_assoc]

theorem Contribution.needsFactory_eq_false_iff {contribution : Contribution} :
    contribution.needsFactory = false ↔
      contribution ≠ .setElements ∧ contribution ≠ .collection := by
  cases contribution <;> simp [needsFactory]

theorem checks_ofClass (d : ClassDeclaration) (family : request.marker.family = .bind) :
    Checks ((Declaration.type d).rules config request)
      (Binding.ofClass config program d request) := by
  have suits : (Declaration.type d).Suits request.marker.family := family ▸ trivial
  unfold Binding.ofClass
  cases h : d.location with
  | none => exact .cons suits (.error _ fun kept => kept h)
  | some location =>
    have placed : (Declaration.type d).location ≠ none := by simp [Declaration.location, h]
    refine .cons suits (.cons placed ?_)
    dsimp only
    rw [ClassDeclaration.rules]
    split_ifs with unmade factory
    · exact .error _ fun kept => by simp [ClassDeclaration.isConstructible_iff.mpr kept] at unmade
    · have made := ClassDeclaration.isConstructible_iff.mp (by simpa using unmade)
      refine .cons made (.error _ fun kept => ?_)
      rw [Contribution.needsFactory_eq_false_iff.mpr kept] at factory
      cases factory
    · have made := ClassDeclaration.isConstructible_iff.mp (by simpa using unmade)
      have single := Contribution.needsFactory_eq_false_iff.mp (by simpa using factory)
      exact .cons made (.ok_single _ single)

theorem SpecialTypes.isSet_iff {types : SpecialTypes} {type : TypeRef} :
    types.isSet type = true ↔ types.SetShaped type := by
  simp [isSet, SetShaped]

theorem SpecialTypes.isMap_iff {types : SpecialTypes} {type : TypeRef} :
    types.isMap type = true ↔ types.MapShaped type := by
  simp [isMap, MapShaped]

theorem SpecialTypes.misfit?_of_fits {types : SpecialTypes} {type : TypeRef}
    {contribution : Contribution} (h : types.Fits type contribution) :
    types.misfit? contribution type = none := by
  cases contribution with
  | setElements => exact if_pos (isSet_iff.mpr h)
  | collection => exact if_pos (by simpa [isSet_iff, isMap_iff, Fits] using h)
  | _ => rfl

theorem SpecialTypes.misfit?_of_not_fits {types : SpecialTypes} {type : TypeRef}
    {contribution : Contribution} (h : ¬ types.Fits type contribution) :
    types.misfit? contribution type = some contribution.misfit := by
  cases contribution with
  | setElements => exact if_neg fun set => h (isSet_iff.mp set)
  | collection => exact if_neg fun shaped => h (by simpa [isSet_iff, isMap_iff, Fits] using shaped)
  | _ => exact absurd trivial h

theorem checks_ofFunction (d : FunctionDeclaration) (family : request.marker.family = .factory) :
    Checks ((Declaration.function d).rules config request)
      (Binding.ofFunction config program d request) := by
  have suits : (Declaration.function d).Suits request.marker.family := family ▸ trivial
  unfold Binding.ofFunction
  cases h : d.location with
  | none => exact .cons suits (.error _ fun kept => kept h)
  | some location =>
    have placed : (Declaration.function d).location ≠ none := by simp [Declaration.location, h]
    refine .cons suits (.cons placed ?_)
    dsimp only
    rw [FunctionDeclaration.rules]
    cases d.returnType with
    | none => exact .error _ fun kept => kept rfl
    | some exposed =>
      refine .cons (by simp) ?_
      dsimp only
      by_cases fits : config.types.Fits exposed request.contribution
      · rw [SpecialTypes.misfit?_of_fits fits]
        exact .ok_single _ fun type h => Option.mem_some.mp h ▸ fits
      · rw [SpecialTypes.misfit?_of_not_fits fits]
        exact .error _ fun kept => fits (kept exposed rfl)

/-- **Binding a declaration** checks the rules for it. -/
theorem checks_ofDeclaration (config : Config) (program : Program) (request : BindingRequest)
    (declaration : Declaration) :
    Checks (declaration.rules config request)
      (Binding.ofDeclaration config program declaration request) := by
  unfold Binding.ofDeclaration
  split
  next d family => exact checks_ofClass d family
  next d family => exact checks_ofFunction d family
  next declaration _ _ noClass noFunction =>
    refine .error _ fun suits => ?_
    cases declaration with
    | type d =>
      cases family : request.marker.family with
      | bind => exact noClass d family rfl
      | factory => rw [family] at suits; exact suits
    | function d =>
      cases family : request.marker.family with
      | bind => rw [family] at suits; exact suits
      | factory => exact noFunction d family rfl
    | misc d => exact suits

end Declarations

/-! ### Every rule names the declaration -/

/-- The declaration that an error names; one of the configuration names none. -/
def BindingError.declaration? : BindingError → Option String
  | .unbindable declaration _ _ => some declaration
  | .misfit declaration _ _ _ => some declaration
  | .missingFile declaration => some declaration
  | .missingReturnType declaration => some declaration
  | .ambiguous declaration _ => some declaration
  | .badArgument declaration _ _ => some declaration
  | .config _ => none

theorem AnnotationUse.declaration?_of_mem_rules (config : Config) (marker : Marker)
    (usage : AnnotationUse) (name : String) :
    ∀ rule ∈ usage.rules config marker name, rule.error.declaration? = some name := by
  unfold AnnotationUse.rules AnnotationUse.targetRules
  cases marker.family <;>
    simp [Rule.literal, Rule.constant, Rule.contribution, Rule.string, BindingError.declaration?]

theorem Declaration.declaration?_of_mem_rules (config : Config) (request : BindingRequest)
    (declaration : Declaration) : ∀ rule ∈ declaration.rules config request,
      rule.error.declaration? = some declaration.reportName := by
  unfold Declaration.rules
  cases declaration <;>
    simp [ClassDeclaration.rules, FunctionDeclaration.rules, reportName, BindingError.declaration?]

/-! ### The rules for candidates -/

/-- **The rules for a candidate**, in the order in which they count. Those behind the first one
speak of the first marker. -/
def Candidate.rules (config : Config) (candidate : Candidate) : List Rule :=
  { holds := candidate.OneMarker
    error := .ambiguous candidate.declaration.reportName
      (candidate.markers.map (·.2.type.dotted)) } ::
  match candidate.markers with
  | [] => []
  | (marker, usage) :: _ =>
    usage.rules config marker candidate.declaration.reportName ++
      candidate.declaration.rules config (.reading config marker usage)

/-- **Resolving a candidate** checks all its rules. -/
theorem checks_ofCandidate (config : Config) (program : Program) (candidate : Candidate) :
    Checks (candidate.rules config) (Binding.ofCandidate config program candidate) := by
  unfold Binding.ofCandidate
  by_cases one : candidate.OneMarker
  · refine .cons one ?_
    rw [Candidate.marker?_of_oneMarker one]
    obtain ⟨first, rest, markers⟩ := List.exists_cons_of_ne_nil one.1
    rw [markers, List.head?_cons]
    refine (BindingRequest.checks_ofMarker config first.1 first.2 _).bind fun request decoded => ?_
    rw [← BindingRequest.eq_reading decoded]
    exact checks_ofDeclaration config program request candidate.declaration
  · rw [Candidate.marker?_of_not_oneMarker one]
    exact .error _ one

theorem Candidate.declaration?_of_mem_rules (config : Config) (candidate : Candidate) :
    ∀ rule ∈ candidate.rules config,
      rule.error.declaration? = some candidate.declaration.reportName := by
  refine List.forall_mem_cons.mpr ⟨rfl, ?_⟩
  split
  next => simp
  next marker usage _ _ =>
    refine List.forall_mem_append.mpr ⟨?_, ?_⟩
    · exact AnnotationUse.declaration?_of_mem_rules config marker usage _
    · exact Declaration.declaration?_of_mem_rules config _ candidate.declaration

/-- **A candidate that fails** does so with an error that names its declaration. -/
theorem declaration?_of_ofCandidate {config : Config} {program : Program} {candidate : Candidate}
    {error : BindingError} (h : Binding.ofCandidate config program candidate = .error error) :
    error.declaration? = some candidate.declaration.reportName := by
  have broken := (checks_ofCandidate config program candidate).broken error h
  obtain ⟨rule, mem, rfl⟩ := broken.exists_mem
  exact candidate.declaration?_of_mem_rules config rule mem

/-- **Resolution succeeds exactly if all rules hold**, and otherwise it fails with the error of the
first rule that does not. Every such error names the declaration. -/
theorem ofCandidate_rules (config : Config) (program : Program) (candidate : Candidate) :
    ((∃ binding, Binding.ofCandidate config program candidate = .ok binding) ↔
      ∀ rule ∈ candidate.rules config, rule.holds) ∧
    (∀ error, Binding.ofCandidate config program candidate = .error error ↔
      FirstBroken (candidate.rules config) error) ∧
    ∀ rule ∈ candidate.rules config,
      rule.error.declaration? = some candidate.declaration.reportName := by
  have checks := checks_ofCandidate config program candidate
  exact ⟨checks.exists_ok_iff, fun _ => checks.error_iff,
    candidate.declaration?_of_mem_rules config⟩

end BindingPlan
