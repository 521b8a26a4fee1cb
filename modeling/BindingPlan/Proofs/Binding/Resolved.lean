import BindingPlan.Pass
import BindingPlan.Proofs.Candidate.Scan
import BindingPlan.Proofs.Sequence
import Mathlib.Data.List.Basic
import Mathlib.Tactic.SplitIfs

/-! # What resolution comes to

A candidate that does not fail becomes a binding of its declaration under its one marker
(`ofCandidate_eq_ok_iff`). Whatever concerns the container of the binding is read off one identity
(`ofCandidate_hasIdentity`), but for the form of the container and whether it is for tests, which are
read off the marker (`ofCandidate_kindFromMarker`). Later proofs take bindings apart by these
statements and do not open the functions again. -/

namespace BindingPlan

variable {config : Config} {program : Program}

/-- What resolving a declaration in a program comes to, if the declaration has a marker. -/
def Program.resolve? (config : Config) (program : Program) (declaration : Declaration) :
    Option (Except BindingError Binding) :=
  (config.markers.candidate? declaration).map (Binding.ofCandidate config program)

/-! ### Bindings -/

theorem ofMarker_eq_ok_iff {marker : Marker} {usage : AnnotationUse} {name : String}
    {request : BindingRequest} :
    BindingRequest.ofMarker config marker usage name = .ok request ↔ request.marker = marker ∧
      BindingRequest.chosenType? usage name config.arguments.scope = .ok request.scope ∧
      BindingRequest.targetOf config marker usage name = .ok request.target ∧
      BindingRequest.contributionOf config usage name = .ok request.contribution ∧
      BindingRequest.keyOf config usage name = .ok request.key := by
  unfold BindingRequest.ofMarker
  simp only [bind_eq_ok_iff, Except.ok.injEq]
  constructor
  · rintro ⟨_, scope, _, target, _, contribution, _, key, rfl⟩
    exact ⟨rfl, scope, target, contribution, key⟩
  · rintro ⟨rfl, scope, target, contribution, key⟩
    exact ⟨_, scope, _, target, _, contribution, _, key, rfl⟩

theorem ofMarker_ok {marker : Marker} {usage : AnnotationUse} {name : String}
    {request : BindingRequest}
    (h : BindingRequest.ofMarker config marker usage name = .ok request) :
    request.marker = marker :=
  (ofMarker_eq_ok_iff.mp h).1

theorem ofClass_eq_ok_iff {declaration : ClassDeclaration} {request : BindingRequest}
    {b : Binding} : Binding.ofClass config program declaration request = .ok b ↔
      ∃ location, declaration.location = some location ∧ declaration.isConstructible = true ∧
        request.contribution.needsFactory = false ∧
        b = Binding.forClass config program declaration request location := by
  unfold Binding.ofClass
  cases declaration.location with
  | none => simp
  | some location =>
    cases declaration.isConstructible <;> cases request.contribution.needsFactory <;>
      simp [eq_comm]

theorem ofFunction_eq_ok_iff {declaration : FunctionDeclaration} {request : BindingRequest}
    {b : Binding} : Binding.ofFunction config program declaration request = .ok b ↔
      ∃ location exposed, declaration.location = some location ∧
        declaration.returnType = some exposed ∧
        config.types.misfit? request.contribution exposed = none ∧
        b = Binding.forFunction config program declaration request location exposed := by
  unfold Binding.ofFunction
  cases declaration.location with
  | none => simp
  | some location =>
    cases declaration.returnType with
    | none => simp
    | some exposed =>
      cases h : config.types.misfit? request.contribution exposed <;> simp [h, eq_comm]

/-- Only a class under a marker for types and a function under one for factories become bindings. -/
theorem ofDeclaration_ok {declaration : Declaration} {request : BindingRequest} {b : Binding}
    (h : Binding.ofDeclaration config program declaration request = .ok b) :
    (∃ d, declaration = .type d ∧ request.marker.family = .bind ∧
        Binding.ofClass config program d request = .ok b) ∨
      ∃ d, declaration = .function d ∧ request.marker.family = .factory ∧
        Binding.ofFunction config program d request = .ok b := by
  unfold Binding.ofDeclaration at h
  split at h
  next d family => exact .inl ⟨d, rfl, family, h⟩
  next d family => exact .inr ⟨d, rfl, family, h⟩
  next => cases h

/-- The parts of a binding that concern its container are those of an identity. -/
structure Binding.HasIdentity (naming : Naming) (b : Binding) (identity : ContainerIdentity) :
    Prop where
  containerName : b.containerName = identity.containerName naming b.marker
  replaces : b.replaces = identity.replaces naming b.marker
  scope : b.scope = identity.scope
  exposed : b.exposed = identity.exposed
  package : b.location.package = identity.package

/-- **A declaration that is bound** is the origin of its binding, under the marker asked for. -/
theorem ofDeclaration_spec {declaration : Declaration} {request : BindingRequest} {b : Binding}
    (h : Binding.ofDeclaration config program declaration request = .ok b) :
    b.origin = declaration ∧ b.marker = request.marker ∧
      ∃ identity, b.HasIdentity config.naming identity := by
  obtain ⟨d, rfl, -, hd⟩ | ⟨d, rfl, -, hd⟩ := ofDeclaration_ok h
  · obtain ⟨location, -, -, -, rfl⟩ := ofClass_eq_ok_iff.mp hd
    exact ⟨rfl, rfl, _, rfl, rfl, rfl, rfl, rfl⟩
  · obtain ⟨location, exposed, -, -, -, rfl⟩ := ofFunction_eq_ok_iff.mp hd
    exact ⟨rfl, rfl, _, rfl, rfl, rfl, rfl, rfl⟩

/-- Types are bound in interfaces, factories are called from singleton objects. -/
def Marker.Family.containerForm : Marker.Family → ContainerForm
  | .bind => .interface
  | .factory => .singletonObject

/-- The form of the container and the flag for tests are those of the marker. -/
structure Binding.KindFromMarker (b : Binding) : Prop where
  containerForm : b.containerForm = b.marker.family.containerForm
  isTest : b.isTest = b.marker.isTest

theorem ofDeclaration_kindFromMarker {declaration : Declaration} {request : BindingRequest}
    {b : Binding} (h : Binding.ofDeclaration config program declaration request = .ok b) :
    b.KindFromMarker := by
  obtain ⟨d, -, family, hd⟩ | ⟨d, -, family, hd⟩ := ofDeclaration_ok h
  · obtain ⟨location, -, -, -, rfl⟩ := ofClass_eq_ok_iff.mp hd
    have form : ContainerForm.interface = request.marker.family.containerForm := by
      rw [family]
      rfl
    exact ⟨form, rfl⟩
  · obtain ⟨location, exposed, -, -, -, rfl⟩ := ofFunction_eq_ok_iff.mp hd
    have form : ContainerForm.singletonObject = request.marker.family.containerForm := by
      rw [family]
      rfl
    exact ⟨form, rfl⟩

/-- **A candidate that is bound** has one marker, arguments that can be decoded, and a declaration
that meets the conditions of the request. -/
theorem ofCandidate_eq_ok_iff {candidate : Candidate} {b : Binding} :
    Binding.ofCandidate config program candidate = .ok b ↔
      ∃ marker usage request, candidate.marker? = some (marker, usage) ∧
        BindingRequest.ofMarker config marker usage candidate.declaration.reportName =
          .ok request ∧
        Binding.ofDeclaration config program candidate.declaration request = .ok b := by
  unfold Binding.ofCandidate
  cases candidate.marker? with
  | none => simp
  | some found =>
    constructor
    · intro h
      obtain ⟨request, hrequest, hb⟩ := bind_eq_ok_iff.mp h
      exact ⟨found.1, found.2, request, rfl, hrequest, hb⟩
    · rintro ⟨_, _, request, ⟨⟩, hrequest, hb⟩
      exact bind_eq_ok_iff.mpr ⟨request, hrequest, hb⟩

theorem ofCandidate_origin {candidate : Candidate} {b : Binding}
    (h : Binding.ofCandidate config program candidate = .ok b) :
    b.origin = candidate.declaration := by
  obtain ⟨_, _, _, _, _, h⟩ := ofCandidate_eq_ok_iff.mp h
  exact (ofDeclaration_spec h).1

theorem ofCandidate_hasIdentity {candidate : Candidate} {b : Binding}
    (h : Binding.ofCandidate config program candidate = .ok b) :
    ∃ identity, b.HasIdentity config.naming identity := by
  obtain ⟨_, _, _, _, _, h⟩ := ofCandidate_eq_ok_iff.mp h
  exact (ofDeclaration_spec h).2.2

/-- **Resolution takes the form of the container and the flag for tests from the marker.** -/
theorem ofCandidate_kindFromMarker {candidate : Candidate} {b : Binding}
    (h : Binding.ofCandidate config program candidate = .ok b) : b.KindFromMarker := by
  obtain ⟨_, _, _, _, _, h⟩ := ofCandidate_eq_ok_iff.mp h
  exact ofDeclaration_kindFromMarker h

/-! ### Declarations -/

theorem resolve?_of_only {marker : Marker} {d : Declaration}
    (distinct : Function.Injective config.markers.classOf)
    (only : ∀ a ∈ d.annotations, config.markers.isMarker a = true →
      a.type = config.markers.classOf marker)
    {usage : AnnotationUse} {rest : List AnnotationUse}
    (found : d.annotations.filter (·.type == config.markers.classOf marker) = usage :: rest)
    (program : Program) : Program.resolve? config program d = some (do
      let request ← BindingRequest.ofMarker config marker usage d.reportName
      Binding.ofDeclaration config program d request) := by
  have first : (Candidate.mk d (config.markers.markersOn d.annotations)).marker? =
      some (marker, usage) := by
    rw [marker?_of_only distinct only, found]
    rfl
  have marked : config.markers.marks d = true := by
    have mem : usage ∈ d.annotations.filter (·.type == config.markers.classOf marker) := by
      rw [found]
      exact List.mem_cons_self
    obtain ⟨mem, type⟩ := List.mem_filter.mp mem
    exact List.any_eq_true.mpr
      ⟨usage, mem, isMarker_iff.mpr ⟨marker, (beq_iff_eq.mp type).symm⟩⟩
  rw [Program.resolve?, candidate?_of_marks marked, Option.map_some, Binding.ofCandidate]
  dsimp only
  rw [first]

/-- The bindings of a pass are those that its declarations resolve to, in the order of traversal. -/
theorem bindings_eq (config : Config) (program : Program) :
    (program.resolution config).bindings = program.traversal.filterMap fun d =>
      (Program.resolve? config program d).bind Except.toOption := by
  rw [Program.resolution, candidates_eq_filterMap, List.filterMap_filterMap]
  refine List.filterMap_congr fun d _ => ?_
  rw [Program.resolve?]
  cases config.markers.candidate? d <;> rfl

theorem exists_candidate_of_mem {b : Binding} (h : b ∈ (program.resolution config).bindings) :
    ∃ candidate, Binding.ofCandidate config program candidate = .ok b := by
  obtain ⟨candidate, -, hb⟩ := List.mem_filterMap.mp h
  refine ⟨candidate, ?_⟩
  rw [Candidate.binding?] at hb
  cases result : Binding.ofCandidate config program candidate with
  | error e => rw [result] at hb; cases hb
  | ok b' => rw [result] at hb; cases hb; rfl

theorem bindings_hasIdentity {b : Binding} (h : b ∈ (program.resolution config).bindings) :
    ∃ identity, b.HasIdentity config.naming identity := by
  obtain ⟨_, bound⟩ := exists_candidate_of_mem h
  exact ofCandidate_hasIdentity bound

theorem bindings_kindFromMarker {b : Binding} (h : b ∈ (program.resolution config).bindings) :
    b.KindFromMarker := by
  obtain ⟨_, bound⟩ := exists_candidate_of_mem h
  exact ofCandidate_kindFromMarker bound

end BindingPlan
