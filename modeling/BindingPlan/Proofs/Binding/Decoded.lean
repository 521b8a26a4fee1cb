import BindingPlan.Proofs.Binding.Resolved
import BindingPlan.Proofs.Binding.Rule
import BindingPlan.Proofs.Name.Dotless

/-! # Decoding the arguments of a marker

Each argument of a marker has rules of its own, and decoding checks them in order
(`BindingRequest.checks_ofMarker`): the scope and the target are class literals unless they are left
at their defaults, the contribution names a constant that is one of the contributions, and the key
is a string. A request that is decoded is what can be read off the marker without any checks
(`BindingRequest.eq_reading`), so whoever comes after the decoding can speak of the marker alone. -/

namespace BindingPlan

/-! ### The arguments of a marker -/

/-- The value names a constant of an enumeration: it is one, or it is a string with the name behind
its last dot. -/
inductive ArgumentValue.Names : ArgumentValue → String → Prop
  | constant (constant : EnumConstant) : Names (.enum constant) constant.name
  | bare {word : String} (dotless : Dotless word) : Names (.string word) word
  | qualified (front : String) {word : String} (dotless : Dotless word) :
      Names (.string (front ++ "." ++ word)) word

theorem ArgumentValue.constantName?_eq_some_iff {value : ArgumentValue} {word : String} :
    value.constantName? = some word ↔ value.Names word := by
  constructor
  · intro h
    cases value with
    | enum constant =>
      cases h
      exact .constant constant
    | string text =>
      rw [constantName?, Option.some_inj] at h
      subst h
      by_cases dotless : Dotless text
      · rw [ClassName.segments_of_dotless dotless]
        exact .bare dotless
      · obtain ⟨front, back, rfl, clean⟩ := exists_last_dot dotless
        rw [ClassName.segments_append_dot front clean, List.getLastD_concat]
        exact .qualified front clean
    | _ => cases h
  · rintro (constant | dotless | ⟨front, dotless⟩)
    · rfl
    · rw [constantName?, ClassName.segments_of_dotless dotless]
      rfl
    · rw [constantName?, ClassName.segments_append_dot front dotless, List.getLastD_concat]

/-! ### The rules -/

namespace Rule

/-- A class literal is asked for; an argument that is left at its default may hold anything. -/
def literal (declaration argument : String) (written declared : Option ArgumentValue) : Rule where
  holds := ∀ value ∈ written,
    (∃ default ∈ declared, default.same value = true) ∨ ∃ type, value = .type type
  error := .badArgument declaration argument
    (.classLiteralExpected (written.elim "" (·.sortWord)))

/-- The name of a constant is asked for. -/
def constant (declaration argument : String) (written : Option ArgumentValue) : Rule where
  holds := ∀ value ∈ written, ∃ word, value.Names word
  error := .badArgument declaration argument (.constantExpected (written.elim "" (·.sortWord)))

/-- The constant has to be one of the contributions. -/
def contribution (declaration argument : String) (written : Option ArgumentValue) : Rule where
  holds := ∀ value ∈ written, ∀ word, value.Names word → ∃ c : Contribution, c.word = word
  error := .badArgument declaration argument
    (.unknownContribution ((written.bind (·.constantName?)).getD ""))

/-- A string is asked for. -/
def string (declaration argument : String) (written : Option ArgumentValue) : Rule where
  holds := ∀ value ∈ written, ∃ text, value = .string text
  error := .badArgument declaration argument (.stringExpected (written.elim "" (·.sortWord)))

end Rule

/-- The rules for the target of a marker; only a marker of types has one. -/
def AnnotationUse.targetRules (config : Config) (marker : Marker) (usage : AnnotationUse)
    (declaration : String) : List Rule :=
  let key := config.arguments.target
  match marker.family with
  | .bind => [.literal declaration key (usage.argument? key) (usage.default? key)]
  | .factory => []

/-- The rules for the arguments of a marker, in the order of decoding. -/
def AnnotationUse.rules (config : Config) (marker : Marker) (usage : AnnotationUse)
    (declaration : String) : List Rule :=
  let keys := config.arguments
  [.literal declaration keys.scope (usage.argument? keys.scope) (usage.default? keys.scope)] ++
    (usage.targetRules config marker declaration ++
      ([.constant declaration keys.contribution (usage.argument? keys.contribution),
        .contribution declaration keys.contribution (usage.argument? keys.contribution)] ++
      [.string declaration keys.key (usage.argument? keys.key)]))

/-! ### Decoding checks the rules for arguments -/

namespace BindingRequest
variable {config : Config} {marker : Marker} {usage : AnnotationUse} {name argument : String}
  {value : ArgumentValue}

theorem checks_expectType {declared : Option ArgumentValue}
    (other : ¬ ∃ default ∈ declared, default.same value = true) :
    Checks [.literal name argument (some value) declared] (expectType name argument value) := by
  cases value with
  | type literal => exact .ok_single _ fun _ h => .inr ⟨literal, (Option.mem_some.mp h).symm⟩
  | _ => exact .error _ fun kept => (kept _ rfl).elim other nofun

theorem checks_chosenType? :
    Checks [.literal name argument (usage.argument? argument) (usage.default? argument)]
      (chosenType? usage name argument) := by
  unfold chosenType? AnnotationUse.chosen?
  cases usage.argument? argument with
  | none => exact .ok_single _ nofun
  | some value =>
    cases usage.default? argument with
    | none => exact (checks_expectType (by simp)).map some
    | some default =>
      cases same : default.same value with
      | true =>
        simp only [same, if_true]
        exact .ok_single _ fun _ h => .inl ⟨default, rfl, Option.mem_some.mp h ▸ same⟩
      | false =>
        simp only [same, Bool.false_eq_true, if_false]
        exact (checks_expectType (by simp [same])).map some

theorem checks_targetOf :
    Checks (usage.targetRules config marker name) (targetOf config marker usage name) := by
  unfold targetOf AnnotationUse.targetRules
  cases marker.family with
  | bind => exact checks_chosenType?.bind fun _ _ => .ok _
  | factory => exact .ok _

theorem checks_expectContribution :
    Checks [.constant name argument (some value), .contribution name argument (some value)]
      (expectContribution name argument value) := by
  unfold expectContribution
  cases named : value.constantName? with
  | none =>
    refine .error _ fun kept => ?_
    obtain ⟨word, names⟩ := kept value rfl
    rw [← ArgumentValue.constantName?_eq_some_iff, named] at names
    cases names
  | some word =>
    -- a value names one word at most, so the second rule is about this word
    have names : ∀ word', value.Names word' ↔ word = word' := fun word' => by
      rw [← ArgumentValue.constantName?_eq_some_iff, named, Option.some_inj]
    refine .cons (fun _ h => ⟨word, Option.mem_some.mp h ▸ (names word).mpr rfl⟩) ?_
    dsimp only
    cases known : Contribution.ofWord? word with
    | some contribution =>
      refine .ok_single _ fun value' h word' names' => ⟨contribution, ?_⟩
      obtain rfl := Option.mem_some.mp h
      rw [← (names word').mp names']
      exact Contribution.ofWord?_eq_some_iff.mp known
    | none =>
      have error : (Rule.contribution name argument (some value)).error =
          .badArgument name argument (.unknownContribution word) := by
        simp [Rule.contribution, named]
      rw [← error]
      refine .error _ fun kept => ?_
      obtain ⟨contribution, rfl⟩ := kept value rfl word ((names word).mpr rfl)
      rw [Contribution.ofWord?_word] at known
      cases known

theorem checks_contributionOf :
    let written := usage.argument? config.arguments.contribution
    Checks [.constant name config.arguments.contribution written,
      .contribution name config.arguments.contribution written]
      (contributionOf config usage name) := by
  unfold contributionOf
  cases usage.argument? config.arguments.contribution with
  | none => exact .cons nofun (.ok_single _ nofun)
  | some value => exact checks_expectContribution

theorem checks_expectString :
    Checks [.string name argument (some value)] (expectString name argument value) := by
  cases value with
  | string text => exact .ok_single _ fun _ h => ⟨text, (Option.mem_some.mp h).symm⟩
  | _ => exact .error _ fun kept => by simpa using kept _ rfl

theorem checks_keyOf :
    Checks [.string name config.arguments.key (usage.argument? config.arguments.key)]
      (keyOf config usage name) := by
  unfold keyOf
  cases usage.argument? config.arguments.key with
  | none => exact .ok_single _ nofun
  | some value => exact checks_expectString.bind fun _ _ => .ok _

/-- **Decoding a marker** checks the rules for its arguments. -/
theorem checks_ofMarker (config : Config) (marker : Marker) (usage : AnnotationUse)
    (name : String) : Checks (usage.rules config marker name) (ofMarker config marker usage name) :=
  checks_chosenType?.bind fun _ _ => checks_targetOf.bind fun _ _ =>
    checks_contributionOf.bind fun _ _ => checks_keyOf.bind fun _ _ => .ok _

/-! ### What is decoded -/

/-- What a marker asks for as far as it can be read: an argument with a wrong value counts as one
that is left out. -/
def reading (config : Config) (marker : Marker) (usage : AnnotationUse) : BindingRequest where
  marker
  scope := (usage.chosen? config.arguments.scope).bind (·.type?)
  target :=
    match marker.family with
    | .bind => ((usage.chosen? config.arguments.target).bind (·.type?)).filter
        fun target => !config.types.isSentinel target
    | .factory => none
  contribution :=
    (((usage.argument? config.arguments.contribution).bind (·.constantName?)).bind
      Contribution.ofWord?).getD .single
  key := ((usage.argument? config.arguments.key).bind (·.string?)).bind fun text =>
    if text = "" then none else some text

theorem eq_of_chosenType? {chosen : Option TypeRef}
    (h : chosenType? usage name argument = .ok chosen) :
    chosen = (usage.chosen? argument).bind (·.type?) := by
  revert h
  unfold chosenType?
  cases usage.chosen? argument with
  | none =>
    rintro ⟨⟩
    rfl
  | some value =>
    cases value with
    | type literal =>
      rintro ⟨⟩
      rfl
    | _ => nofun

theorem eq_of_targetOf {target : Option TypeRef}
    (h : targetOf config marker usage name = .ok target) :
    target = (reading config marker usage).target := by
  revert h
  unfold targetOf reading
  cases marker.family with
  | bind =>
    intro h
    obtain ⟨chosen, read, h⟩ := bind_eq_ok_iff.mp h
    cases h
    rw [eq_of_chosenType? read]
  | factory =>
    rintro ⟨⟩
    rfl

theorem eq_of_contributionOf (marker : Marker) {contribution : Contribution}
    (h : contributionOf config usage name = .ok contribution) :
    contribution = (reading config marker usage).contribution := by
  revert h
  unfold contributionOf expectContribution reading
  cases usage.argument? config.arguments.contribution with
  | none =>
    rintro ⟨⟩
    rfl
  | some value =>
    rw [Option.bind_some]
    dsimp only
    cases value.constantName? with
    | none => nofun
    | some word =>
      rw [Option.bind_some]
      dsimp only
      cases Contribution.ofWord? word with
      | none => nofun
      | some c =>
        rintro ⟨⟩
        rfl

theorem eq_of_keyOf (marker : Marker) {key : Option String}
    (h : keyOf config usage name = .ok key) :
    key = (reading config marker usage).key := by
  revert h
  unfold keyOf reading
  cases usage.argument? config.arguments.key with
  | none =>
    rintro ⟨⟩
    rfl
  | some value =>
    cases value with
    | string text =>
      rintro ⟨⟩
      rfl
    | _ => nofun

/-- **A request that is decoded** is what can be read. -/
theorem eq_reading {request : BindingRequest}
    (h : ofMarker config marker usage name = .ok request) :
    request = reading config marker usage := by
  obtain ⟨marker_eq, scope, target, contribution, key⟩ := ofMarker_eq_ok_iff.mp h
  calc request
    _ = ⟨request.marker, request.scope, request.target, request.contribution, request.key⟩ := rfl
    _ = reading config marker usage := by
      rw [marker_eq, eq_of_chosenType? scope, eq_of_targetOf target,
        eq_of_contributionOf marker contribution, eq_of_keyOf marker key]
      rfl

end BindingRequest

end BindingPlan
