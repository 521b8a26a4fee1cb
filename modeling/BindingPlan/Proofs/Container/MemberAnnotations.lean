import BindingPlan.Proofs.Binding.Bindable
import BindingPlan.Proofs.Binding.WrittenDefault
import BindingPlan.Proofs.Container.FactoryCall

/-! # The annotations on a member

The member of a binding has annotations of the framework in front, its lead, and behind them the
annotations of its declaration that are no markers, in written order. The lead is a row of a small
table (`MemberRole.Lead`): the family of the marker says which annotation comes first, and the
contribution that the marker asks for says whether another one follows it. The declaration of a
collection has one annotation of its own. No row of the table is for a class that contributes a
collection or its elements, and a function comes to such a row only if its return type has the shape
of one (`memberAnnotations_exactly`). -/

namespace BindingPlan

/-! ### The lead -/

/-- What an annotation of the framework says of a member. Roles are told apart even where a
configuration has one class for two of them. -/
inductive MemberRole where
  | binds
  | provides
  | intoSet
  | intoMap
  | elementsIntoSet
  | multibinds
  deriving DecidableEq

/-- The annotation for a role. -/
def FrameworkClasses.annotationFor (framework : FrameworkClasses) (role : MemberRole) :
    AnnotationUse :=
  .ofClass <| match role with
    | .binds => framework.binds
    | .provides => framework.provides
    | .intoSet => framework.intoSet
    | .intoMap => framework.intoMap
    | .elementsIntoSet => framework.elementsIntoSet
    | .multibinds => framework.multibinds

/-- The annotations of the framework on a member, by the family of its marker and by what it
contributes. -/
inductive MemberRole.Lead : Marker.Family → Contribution → List MemberRole → Prop
  | bound : Lead .bind .single [.binds]
  | boundInSet : Lead .bind .setElement [.binds, .intoSet]
  | boundInMap : Lead .bind .mapEntry [.binds, .intoMap]
  | made : Lead .factory .single [.provides]
  | madeInSet : Lead .factory .setElement [.provides, .intoSet]
  | madeInMap : Lead .factory .mapEntry [.provides, .intoMap]
  | elements : Lead .factory .setElements [.provides, .elementsIntoSet]
  | collection : Lead .factory .collection [.multibinds]

/-- The marker asks for the contribution: an argument names it, or there is no argument and it is a
single object. -/
def AnnotationUse.AsksFor (keys : ArgumentKeys) (usage : AnnotationUse)
    (contribution : Contribution) : Prop :=
  match usage.argument? keys.contribution with
  | some value => value.Names contribution.word
  | none => contribution = .single

/-- What a binding is agrees with its marker: the container and the supplier with the family, and
what is replaced with the variant. -/
structure Binding.FollowsMarker (b : Binding) : Prop where
  form : b.containerForm = .interface ↔ b.marker.family = .bind
  supplier : b.marker.family = .bind ↔ ∃ type, b.supplier = .implementation type
  isTest : b.isTest = true ↔ b.marker.variant = .test
  replaces : b.replaces.isSome = true ↔ b.marker.variant = .test

/-- The declaration is a function that returns a type with a property. -/
def Declaration.Returns (p : TypeRef → Prop) (declaration : Declaration) : Prop :=
  ∃ f type, declaration = .function f ∧ f.returnType = some type ∧ p type

/-- The annotations on a member are those of a lead and those of the declaration that are of no
marker class. A lead for collections needs a return type of their shape. -/
structure Member.LedBy (config : Config) (declaration : Declaration) (member : Member)
    (lead : List MemberRole) : Prop where
  annotations : member.annotations = lead.map config.framework.annotationFor ++
    declaration.annotations.filter fun a => a.type ∉ Marker.all.map config.markers.classOf
  elements : .elementsIntoSet ∈ lead → declaration.Returns config.types.SetShaped
  collection : .multibinds ∈ lead →
    declaration.Returns fun type => config.types.SetShaped type ∨ config.types.MapShaped type

variable {config : Config} {program : Program}

namespace MemberRole.Lead
variable {family : Marker.Family} {contribution : Contribution} {lead : List MemberRole}

theorem eq_setElements (row : Lead family contribution lead) (mem : .elementsIntoSet ∈ lead) :
    family = .factory ∧ contribution = .setElements := by
  cases row <;> simp at mem ⊢

theorem eq_collection (row : Lead family contribution lead) (mem : .multibinds ∈ lead) :
    family = .factory ∧ contribution = .collection := by
  cases row <;> simp at mem ⊢

end MemberRole.Lead

/-! ### From markers to bindings -/

theorem asksFor_of_ofMarker {marker : Marker} {usage : AnnotationUse} {name : String}
    {request : BindingRequest}
    (decoded : BindingRequest.ofMarker config marker usage name = .ok request) :
    usage.AsksFor config.arguments request.contribution := by
  obtain ⟨-, -, -, contribution, -⟩ := ofMarker_eq_ok_iff.mp decoded
  unfold BindingRequest.contributionOf at contribution
  unfold AnnotationUse.AsksFor
  cases written : usage.argument? config.arguments.contribution with
  | some value =>
    rw [written] at contribution
    exact BindingRequest.expectContribution_eq_ok_iff.mp contribution
  | none =>
    rw [written] at contribution
    exact (Except.ok.inj contribution).symm

theorem Marker.isTest_iff {marker : Marker} : marker.isTest = true ↔ marker.variant = .test := by
  simp [isTest]

theorem Binding.HasIdentity.isSome_replaces {naming : Naming} {b : Binding}
    {identity : ContainerIdentity} (h : b.HasIdentity naming identity) :
    b.replaces.isSome = true ↔ b.marker.variant = .test := by
  rw [h.replaces, ContainerIdentity.replaces, ← Marker.isTest_iff]
  split_ifs with test <;> simp [test]

theorem Marker.Family.containerForm_eq_interface_iff {family : Marker.Family} :
    family.containerForm = .interface ↔ family = .bind := by
  cases family <;> decide

/-- **A binding agrees with its marker.** -/
theorem followsMarker_of_ofDeclaration {declaration : Declaration} {request : BindingRequest}
    {b : Binding} (h : Binding.ofDeclaration config program declaration request = .ok b) :
    b.FollowsMarker := by
  obtain ⟨-, marker, identity, hidentity⟩ := ofDeclaration_spec h
  have kind := ofDeclaration_kindFromMarker h
  have supplier : b.marker.family = .bind ↔ ∃ type, b.supplier = .implementation type := by
    rw [marker]
    obtain ⟨d, -, family, bound⟩ | ⟨d, -, family, bound⟩ := ofDeclaration_ok h
    · obtain ⟨location, -, -, -, rfl⟩ := ofClass_eq_ok_iff.mp bound
      exact iff_of_true family ⟨_, rfl⟩
    · obtain ⟨location, exposed, -, -, -, rfl⟩ := ofFunction_eq_ok_iff.mp bound
      exact iff_of_false (by simp [family]) nofun
  refine ⟨?_, supplier, ?_, hidentity.isSome_replaces⟩
  · rw [kind.containerForm]
    exact Marker.Family.containerForm_eq_interface_iff
  · rw [kind.isTest]
    exact Marker.isTest_iff

theorem contribution_of_ofDeclaration {declaration : Declaration} {request : BindingRequest}
    {b : Binding} (h : Binding.ofDeclaration config program declaration request = .ok b) :
    b.contribution = request.contribution := by
  obtain ⟨d, -, -, bound⟩ | ⟨d, -, -, bound⟩ := ofDeclaration_ok h
  · obtain ⟨location, -, -, -, rfl⟩ := ofClass_eq_ok_iff.mp bound
    rfl
  · obtain ⟨location, exposed, -, -, -, rfl⟩ := ofFunction_eq_ok_iff.mp bound
    rfl

/-! ### From bindings to members -/

theorem carriedAnnotations_eq (annotations : List AnnotationUse) :
    carriedAnnotations config annotations =
      annotations.filter fun a => a.type ∉ Marker.all.map config.markers.classOf := by
  refine List.filter_congr fun a _ => ?_
  rw [Bool.eq_iff_iff, Bool.not_eq_true', ← Bool.not_eq_true, isMarker_iff, decide_eq_true_iff,
    List.mem_map]
  simp [Marker.mem_all]

theorem exists_lead_of_class (framework : FrameworkClasses) {b : Binding} {type : TypeRef}
    (supplier : b.supplier = .implementation type) (single : b.contribution.needsFactory = false) :
    ∃ lead, MemberRole.Lead .bind b.contribution lead ∧
      (framework.memberClasses b).map AnnotationUse.ofClass = lead.map framework.annotationFor := by
  rw [FrameworkClasses.memberClasses, supplier]
  cases contribution : b.contribution with
  | single => exact ⟨_, .bound, rfl⟩
  | setElement => exact ⟨_, .boundInSet, rfl⟩
  | mapEntry => exact ⟨_, .boundInMap, rfl⟩
  | setElements => simp [contribution, Contribution.needsFactory] at single
  | collection => simp [contribution, Contribution.needsFactory] at single

theorem exists_lead_of_function (framework : FrameworkClasses) {b : Binding} {function : String}
    {parameters : List Parameter} {home : FactoryHome}
    (supplier : b.supplier = .factory function parameters home) :
    ∃ lead, MemberRole.Lead .factory b.contribution lead ∧
      (framework.memberClasses b).map AnnotationUse.ofClass = lead.map framework.annotationFor := by
  rw [FrameworkClasses.memberClasses, supplier]
  cases b.contribution with
  | single => exact ⟨_, .made, rfl⟩
  | setElement => exact ⟨_, .madeInSet, rfl⟩
  | mapEntry => exact ⟨_, .madeInMap, rfl⟩
  | setElements => exact ⟨_, .elements, rfl⟩
  | collection => exact ⟨_, .collection, rfl⟩

theorem SpecialTypes.fits_of_misfit? {types : SpecialTypes} {type : TypeRef}
    {contribution : Contribution} (h : types.misfit? contribution type = none) :
    types.Fits type contribution := by
  by_contra not_fits
  rw [misfit?_of_not_fits not_fits] at h
  cases h

/-- **The member of a binding has a lead** from the table. -/
theorem exists_ledBy_of_ofDeclaration {declaration : Declaration} {request : BindingRequest}
    {b : Binding} (h : Binding.ofDeclaration config program declaration request = .ok b) :
    ∃ lead, MemberRole.Lead b.marker.family b.contribution lead ∧
      (Member.ofBinding config b).LedBy config declaration lead := by
  rw [(ofDeclaration_spec h).2.1]
  obtain ⟨d, rfl, family, bound⟩ | ⟨d, rfl, family, bound⟩ := ofDeclaration_ok h
  · obtain ⟨location, -, -, single, rfl⟩ := ofClass_eq_ok_iff.mp bound
    obtain ⟨lead, row, classes⟩ := exists_lead_of_class config.framework
      (b := Binding.forClass config program d request location) rfl single
    refine ⟨lead, family ▸ row, ?_, fun mem => ?_, fun mem => ?_⟩
    · rw [annotations_ofBinding, memberAnnotations, classes]
      exact congrArg _ (carriedAnnotations_eq d.annotations)
    · cases (row.eq_setElements mem).1
    · cases (row.eq_collection mem).1
  · obtain ⟨location, exposed, -, returned, fitting, rfl⟩ := ofFunction_eq_ok_iff.mp bound
    have fits := SpecialTypes.fits_of_misfit? fitting
    obtain ⟨lead, row, classes⟩ := exists_lead_of_function config.framework
      (b := Binding.forFunction config program d request location exposed) rfl
    refine ⟨lead, family ▸ row, ?_, fun mem => ?_, fun mem => ?_⟩
    · rw [annotations_ofBinding, memberAnnotations, classes]
      exact congrArg _ (carriedAnnotations_eq d.annotations)
    · have asked : request.contribution = .setElements := (row.eq_setElements mem).2
      rw [asked] at fits
      exact ⟨d, exposed, rfl, returned, fits⟩
    · have asked : request.contribution = .collection := (row.eq_collection mem).2
      rw [asked] at fits
      exact ⟨d, exposed, rfl, returned, fits⟩

/-- **The annotations of generated members.** A declaration that resolves has a binding that agrees
with the marker that counts. Its member carries the annotations of the framework for the family and
the contribution of this marker and then the annotations of the declaration that are no markers; an
annotation for a whole collection is there only if the return type is one. The member stands in the
container of the binding if the declaration was found in the program. -/
theorem memberAnnotations_exactly (config : Config) (program : Program) {candidate : Candidate}
    {b : Binding} (resolved : Binding.ofCandidate config program candidate = .ok b) :
    let member := Member.ofBinding config b
    b.FollowsMarker ∧
    (∃ usage, candidate.markers.head? = some (b.marker, usage) ∧
      usage.AsksFor config.arguments b.contribution) ∧
    (∃ lead, MemberRole.Lead b.marker.family b.contribution lead ∧
      member.LedBy config candidate.declaration lead) ∧
    (candidate ∈ program.candidates config.markers →
      ∃ container ∈ (program.plan config).containers,
        container.name = b.containerName ∧ member ∈ container.members) := by
  intro member
  obtain ⟨marker, usage, request, counts, decoded, bound⟩ := ofCandidate_eq_ok_iff.mp resolved
  have same_marker : b.marker = marker :=
    (ofDeclaration_spec bound).2.1.trans (ofMarker_ok decoded)
  have same_contribution : b.contribution = request.contribution :=
    contribution_of_ofDeclaration bound
  refine ⟨followsMarker_of_ofDeclaration bound, ⟨usage, ?_, ?_⟩,
    exists_ledBy_of_ofDeclaration bound,
    fun found => exists_member_of_mem (List.mem_filterMap.mpr ⟨candidate, found, ?_⟩)⟩
  · rw [same_marker]
    exact (Candidate.marker?_eq_some_iff.mp counts).2
  · rw [same_contribution]
    exact asksFor_of_ofMarker decoded
  · rw [Candidate.binding?, resolved]
    rfl

/-- A function for tests that makes the elements of a set, with annotations around its marker. -/
def exampleElements : FunctionDeclaration :=
  { name := "things"
    parameters := []
    returnType := some (.apply ⟨"kotlin.collections", ["Set"]⟩
      [.ofClass ⟨"com.example", ["Thing"]⟩])
    owner := none
    annotations := [.ofClass ⟨"javax.inject", ["Named"]⟩,
      ⟨MarkerClasses.default.classOf ⟨.factory, .test⟩,
        [⟨"target", .string "AutoBindTarget.SET_VALUES"⟩], []⟩,
      .ofClass ⟨"com.example", ["Fast"]⟩]
    visibility := .publicAccess
    location := some ⟨"Things.kt", "com.example"⟩ }

/-- Its member provides the elements of the set, and its marker is the only annotation left out. -/
theorem memberAnnotations_exampleElements :
    let program := Program.ofDeclarations [.function exampleElements]
    let candidate : Candidate := ⟨.function exampleElements,
      Config.default.markers.markersOn exampleElements.annotations⟩
    ∃ b, Binding.ofCandidate .default program candidate = .ok b ∧ b.replaces.isSome = true ∧
      (Member.ofBinding .default b).annotations =
        [.ofClass ⟨"dagger", ["Provides"]⟩,
          .ofClass ⟨"dagger.multibindings", ["ElementsIntoSet"]⟩,
          .ofClass ⟨"javax.inject", ["Named"]⟩, .ofClass ⟨"com.example", ["Fast"]⟩] ∧
      ∃ container ∈ (program.plan .default).containers,
        Member.ofBinding .default b ∈ container.members := by
  intro program candidate
  obtain ⟨b, resolved, marker, contribution⟩ :
      ∃ b, Binding.ofCandidate .default program candidate = .ok b ∧
        b.marker = ⟨.factory, .test⟩ ∧ b.contribution = .setElements := ⟨_, rfl, rfl, rfl⟩
  have found : candidate ∈ program.candidates Config.default.markers := by
    have declared : .function exampleElements ∈ program.traversal :=
      (Program.traversal_perm program).mem_iff.mpr (List.mem_singleton_self _)
    rw [candidates_eq_filterMap]
    exact List.mem_filterMap.mpr ⟨_, declared, rfl⟩
  obtain ⟨follows, -, ⟨lead, row, led⟩, emitted⟩ :=
    memberAnnotations_exactly .default program resolved
  obtain ⟨container, hcontainer, -, mem⟩ := emitted found
  refine ⟨b, resolved, follows.replaces.mpr (by rw [marker]), ?_, container, hcontainer, mem⟩
  rw [marker, contribution] at row
  cases row
  rw [led.annotations]
  rfl

end BindingPlan
