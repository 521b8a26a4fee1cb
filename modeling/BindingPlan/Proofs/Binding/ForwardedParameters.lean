import BindingPlan.Binding.OfCandidate
import Mathlib.Data.List.Forall2

/-! # Forwarded parameters

The parameters of a factory function are handed on to the member that calls it. Where the
configuration names an annotation that suppresses wildcards, each direct type argument bears it then:
behind its own annotations, or where it stands already. All else is kept, in particular what stands
deeper inside of the arguments (`Parameter.ForwardedAs.at?_eq`). Each list of parameters has one
forwarded list (`forall₂_forwardedAs_iff`). To forward that one again changes nothing, and without the
annotations that came in addition it is the list from before (`forwarded_exactly`). -/

namespace BindingPlan

theorem forall₂_iff_eq_map {α β : Type} {Related : α → β → Prop} {f : α → β}
    (h : ∀ a b, Related a b ↔ b = f a) {as : List α} {bs : List β} :
    List.Forall₂ Related as bs ↔ bs = as.map f := by
  induction as generalizing bs with
  | nil => rw [List.forall₂_nil_left_iff, List.map_nil]
  | cons a as ih =>
    rw [List.forall₂_cons_left_iff, List.map_cons]
    constructor
    · rintro ⟨b, rest, related, others, rfl⟩
      rw [(h a b).mp related, ih.mp others]
    · rintro rfl
      exact ⟨f a, as.map f, (h a _).mpr rfl, ih.mpr rfl, rfl⟩

/-! ### Type arguments -/

namespace TypeRef

/-- The type at a position: one of the arguments, one of the arguments of that, and so on. -/
def at? (type : TypeRef) : List Nat → Option TypeRef
  | [] => some type
  | n :: position => type.arguments[n]?.bind (at? · position)

/-- What a direct type argument is forwarded as where `suppress` is the annotation that suppresses
wildcards, if there is one. -/
inductive ForwardedAs (suppress : Option ClassName) (argument : TypeRef) : TypeRef → Prop
  | kept (present : ∀ name ∈ suppress, name ∈ argument.annotations) :
    ForwardedAs suppress argument argument
  | appended {name : ClassName} (suppresses : suppress = some name)
    (absent : name ∉ argument.annotations) :
    ForwardedAs suppress argument { argument with annotations := argument.annotations ++ [name] }

/-- The type with an annotation, if there is one to add. -/
def annotatedWith? (type : TypeRef) (name : Option ClassName) : TypeRef :=
  name.elim type type.annotatedWith

/-- Whether there is an annotation to add that the type does not have. -/
def lacks (type : TypeRef) (name : Option ClassName) : Bool :=
  name.any (· ∉ type.annotations)

/-- The type without its last annotation. -/
def dropAnnotation (type : TypeRef) : TypeRef :=
  { type with annotations := type.annotations.dropLast }

section ForwardedAs
variable {suppress : Option ClassName} {argument forwarded : TypeRef}

theorem annotatedWith?_of_present (present : ∀ name ∈ suppress, name ∈ argument.annotations) :
    argument.annotatedWith? suppress = argument := by
  cases suppress with
  | none => rfl
  | some name => exact if_pos (present name rfl)

theorem annotatedWith?_of_absent {name : ClassName} (absent : name ∉ argument.annotations) :
    argument.annotatedWith? (some name) =
      { argument with annotations := argument.annotations ++ [name] } :=
  if_neg absent

theorem forwardedAs_annotatedWith? (argument : TypeRef) (suppress : Option ClassName) :
    argument.ForwardedAs suppress (argument.annotatedWith? suppress) := by
  by_cases present : ∀ name ∈ suppress, name ∈ argument.annotations
  · rw [annotatedWith?_of_present present]
    exact .kept present
  · push Not at present
    obtain ⟨name, rfl, absent⟩ := present
    rw [annotatedWith?_of_absent absent]
    exact .appended rfl absent

theorem forwardedAs_iff :
    argument.ForwardedAs suppress forwarded ↔ forwarded = argument.annotatedWith? suppress := by
  constructor
  · rintro (present | ⟨rfl, absent⟩)
    · exact (annotatedWith?_of_present present).symm
    · exact (annotatedWith?_of_absent absent).symm
  · rintro rfl
    exact forwardedAs_annotatedWith? argument suppress

theorem ForwardedAs.again (h : argument.ForwardedAs suppress forwarded) :
    forwarded.ForwardedAs suppress forwarded := by
  rcases h with present | ⟨rfl, -⟩
  · exact .kept present
  · refine .kept ?_
    rintro name ⟨⟩
    exact List.mem_append_right _ (List.mem_singleton_self _)

theorem lacks_iff : argument.lacks suppress = true ↔
    ∃ name ∈ suppress, name ∉ argument.annotations := by
  cases suppress <;> simp [lacks]

theorem ForwardedAs.arguments (h : argument.ForwardedAs suppress forwarded) :
    forwarded.arguments = argument.arguments := by
  cases h <;> rfl

/-- An argument comes back when the annotation is dropped that it has been lacking. -/
theorem ForwardedAs.restored (h : argument.ForwardedAs suppress forwarded) :
    (if argument.lacks suppress then forwarded.dropAnnotation else forwarded) = argument := by
  rcases h with present | ⟨rfl, absent⟩
  · refine if_neg fun lacking => ?_
    obtain ⟨name, mem, absent⟩ := lacks_iff.mp lacking
    exact absent (present name mem)
  · rw [if_pos (lacks_iff.mpr ⟨_, rfl, absent⟩), dropAnnotation, List.dropLast_concat]
    cases argument
    rfl

end ForwardedAs

end TypeRef

/-! ### Parameters -/

namespace Parameter

/-- What a parameter is forwarded as: only its direct type arguments may change. -/
structure ForwardedAs (suppress : Option ClassName) (p forwarded : Parameter) : Prop where
  name : forwarded.name = p.name
  annotations : forwarded.annotations = p.annotations
  raw : forwarded.type.raw = p.type.raw
  nullable : forwarded.type.nullable = p.type.nullable
  typeAnnotations : forwarded.type.annotations = p.type.annotations
  arguments :
    List.Forall₂ (TypeRef.ForwardedAs suppress) p.type.arguments forwarded.type.arguments

/-- The parameter with an annotation on each direct type argument, if there is one to add. -/
def forwardedWith (p : Parameter) (suppress : Option ClassName) : Parameter :=
  { p with type :=
      { p.type with arguments := p.type.arguments.map (·.annotatedWith? suppress) } }

/-- For each direct type argument, whether there is an annotation to add that it does not have. -/
def lacking (p : Parameter) (suppress : Option ClassName) : List Bool :=
  p.type.arguments.map (·.lacks suppress)

/-- The parameter without the last annotations of the direct type arguments that are marked. -/
def dropAnnotations (p : Parameter) (marks : List Bool) : Parameter :=
  { p with type :=
      { p.type with arguments :=
          p.type.arguments.zipWith (fun a marked => if marked then a.dropAnnotation else a) marks } }

variable {suppress : Option ClassName} {p forwarded : Parameter}

theorem forwardedAs_iff : p.ForwardedAs suppress forwarded ↔ forwarded = p.forwardedWith suppress := by
  have arguments_iff {arguments : List TypeRef} :
      List.Forall₂ (TypeRef.ForwardedAs suppress) p.type.arguments arguments ↔
        arguments = p.type.arguments.map (·.annotatedWith? suppress) := by
    refine forall₂_iff_eq_map fun a b => ?_
    exact TypeRef.forwardedAs_iff
  constructor
  · intro h
    obtain ⟨name, ⟨raw, arguments, nullable, typeAnnotations⟩, annotations⟩ := forwarded
    obtain ⟨rfl, rfl, rfl, rfl, rfl, each⟩ := h
    rw [forwardedWith, ← arguments_iff.mp each]
  · rintro rfl
    exact ⟨rfl, rfl, rfl, rfl, rfl, arguments_iff.mpr rfl⟩

theorem ForwardedAs.again (h : p.ForwardedAs suppress forwarded) :
    forwarded.ForwardedAs suppress forwarded := by
  refine ⟨rfl, rfl, rfl, rfl, rfl, List.forall₂_same.mpr ?_⟩
  obtain rfl := forwardedAs_iff.mp h
  exact List.forall_mem_map.mpr fun a _ => (a.forwardedAs_annotatedWith? suppress).again

/-- **Deeper inside** of the type arguments nothing changes. -/
theorem ForwardedAs.at?_eq (h : p.ForwardedAs suppress forwarded) (n m : Nat)
    (position : List Nat) :
    forwarded.type.at? (n :: m :: position) = p.type.at? (n :: m :: position) := by
  obtain rfl := forwardedAs_iff.mp h
  have inside (a : TypeRef) : (a.annotatedWith? suppress).arguments = a.arguments :=
    (a.forwardedAs_annotatedWith? suppress).arguments
  simp only [TypeRef.at?, forwardedWith, List.getElem?_map, Option.bind_map, Function.comp_def,
    inside]

theorem ForwardedAs.restored (h : p.ForwardedAs suppress forwarded) :
    forwarded.dropAnnotations (p.lacking suppress) = p := by
  obtain rfl := forwardedAs_iff.mp h
  obtain ⟨name, ⟨raw, arguments, nullable, typeAnnotations⟩, annotations⟩ := p
  have each (a : TypeRef) := (a.forwardedAs_annotatedWith? suppress).restored
  simp only [dropAnnotations, forwardedWith, lacking, List.zipWith_map, List.zipWith_self, each,
    List.map_id']

end Parameter

/-! ### Lists of parameters -/

theorem forwarded_eq_map (framework : FrameworkClasses) (parameters : List Parameter) :
    framework.forwarded parameters =
      parameters.map (·.forwardedWith framework.suppressWildcards) := by
  unfold FrameworkClasses.forwarded Parameter.forwardedWith
  cases framework.suppressWildcards with
  | none =>
    refine (List.map_id'' (fun p => ?_) parameters).symm
    obtain ⟨name, ⟨raw, arguments, nullable, typeAnnotations⟩, annotations⟩ := p
    simp [TypeRef.annotatedWith?]
  | some name => rfl

theorem map_name_forwarded (framework : FrameworkClasses) (parameters : List Parameter) :
    (framework.forwarded parameters).map (·.name) = parameters.map (·.name) := by
  rw [forwarded_eq_map, List.map_map]
  rfl

theorem FrameworkClasses.forwarded_of_none {framework : FrameworkClasses}
    (unset : framework.suppressWildcards = none) (parameters : List Parameter) :
    framework.forwarded parameters = parameters := by
  rw [forwarded, unset]

/-- **The forwarded parameters** are the only ones that each parameter can be forwarded as. -/
theorem forall₂_forwardedAs_iff {framework : FrameworkClasses} {parameters others : List Parameter} :
    List.Forall₂ (Parameter.ForwardedAs framework.suppressWildcards) parameters others ↔
      others = framework.forwarded parameters := by
  rw [forwarded_eq_map]
  refine forall₂_iff_eq_map fun p p' => ?_
  exact Parameter.forwardedAs_iff

theorem forwarded_forwarded (framework : FrameworkClasses) (parameters : List Parameter) :
    framework.forwarded (framework.forwarded parameters) = framework.forwarded parameters := by
  refine (forall₂_forwardedAs_iff.mp (List.forall₂_same.mpr ?_)).symm
  rw [forwarded_eq_map]
  exact List.forall_mem_map.mpr fun p _ => (Parameter.forwardedAs_iff.mpr rfl).again

theorem restored_forwarded (framework : FrameworkClasses) (parameters : List Parameter) :
    (framework.forwarded parameters).zipWith Parameter.dropAnnotations
      (parameters.map (·.lacking framework.suppressWildcards)) = parameters := by
  -- the marks are those of the parameters as they have been, so both lists are images of that one
  have each (p : Parameter) :
      (p.forwardedWith framework.suppressWildcards).dropAnnotations
        (p.lacking framework.suppressWildcards) = p := (Parameter.forwardedAs_iff.mpr rfl).restored
  simp only [forwarded_eq_map, List.zipWith_map, List.zipWith_self, each, List.map_id']

/-- **Forwarding adds an annotation and nothing else.** Each parameter keeps its place, its name, its
annotations and its type but for the annotations of the direct type arguments. An argument gets the
annotation that suppresses wildcards behind its own ones if it goes without, and deeper inside of it
nothing changes. Without such an annotation the parameters stay as they are. To forward parameters
again changes nothing, and to drop what has been added brings them back. -/
theorem forwarded_exactly (config : Config) (parameters : List Parameter) :
    let suppress := config.framework.suppressWildcards
    let forwarded := config.framework.forwarded parameters
    (∀ others, List.Forall₂ (Parameter.ForwardedAs suppress) parameters others ↔
      others = forwarded) ∧
    List.Forall₂ (fun p p' => ∀ n m position,
      p'.type.at? (n :: m :: position) = p.type.at? (n :: m :: position)) parameters forwarded ∧
    (suppress = none → forwarded = parameters) ∧
    config.framework.forwarded forwarded = forwarded ∧
    forwarded.zipWith Parameter.dropAnnotations (parameters.map (·.lacking suppress)) =
      parameters := by
  intro suppress forwarded
  have each : List.Forall₂ (Parameter.ForwardedAs suppress) parameters forwarded :=
    forall₂_forwardedAs_iff.mpr rfl
  refine ⟨fun _ => forall₂_forwardedAs_iff, each.imp fun _ _ h => h.at?_eq, fun unset => ?_,
    forwarded_forwarded _ _, restored_forwarded _ _⟩
  exact FrameworkClasses.forwarded_of_none unset parameters

/-- A parameter with the annotation that suppresses wildcards on its first type argument, in front of
another one, and with some annotations on its second type argument. -/
def exampleThings (annotations : List ClassName) : Parameter :=
  { name := "things"
    type := .apply ⟨"kotlin.collections", ["Map"]⟩
      [⟨⟨"kotlin", ["String"]⟩, [], false,
          [⟨"kotlin.jvm", ["JvmSuppressWildcards"]⟩, ⟨"com.example", ["Fast"]⟩]⟩,
        ⟨⟨"kotlin.collections", ["List"]⟩, [.ofClass ⟨"com.example", ["Thing"]⟩], true, annotations⟩]
    annotations := [.ofClass ⟨"javax.inject", ["Named"]⟩] }

/-- The second type argument gets the annotation and can lose it again. -/
theorem forwarded_exactly_exampleThings :
    let suppress : ClassName := ⟨"kotlin.jvm", ["JvmSuppressWildcards"]⟩
    let forwarded := Config.default.framework.forwarded
    forwarded [exampleThings []] = [exampleThings [suppress]] ∧
      forwarded [exampleThings [suppress]] = [exampleThings [suppress]] ∧
      [exampleThings [suppress]].zipWith Parameter.dropAnnotations [[false, true]] =
        [exampleThings []] := by
  intro suppress forwarded
  obtain ⟨only, -, -, again, back⟩ := forwarded_exactly .default [exampleThings []]
  have first : TypeRef.ForwardedAs (some suppress)
      ⟨⟨"kotlin", ["String"]⟩, [], false, [suppress, ⟨"com.example", ["Fast"]⟩]⟩
      ⟨⟨"kotlin", ["String"]⟩, [], false, [suppress, ⟨"com.example", ["Fast"]⟩]⟩ :=
    .kept (by simp)
  have done : [exampleThings [suppress]] = forwarded [exampleThings []] :=
    (only _).mp (.cons ⟨rfl, rfl, rfl, rfl, rfl, .cons first (.cons (.appended rfl nofun) .nil)⟩ .nil)
  refine ⟨done.symm, ?_, ?_⟩
  · rw [done]
    exact again
  · rw [done]
    exact back

end BindingPlan
