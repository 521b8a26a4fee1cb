import BindingPlan.Proofs.Binding.Decoded

/-! # Defaults that are written out

The class of a marker may declare a default for an argument. To write that default out changes
nothing for the scope and the target, which are compared with their defaults. The contribution and
the key are not: a written one counts, whatever the class declares, and one that is left out asks
for nothing in particular. So the two come to the same exactly if the default asks for nothing
itself (`BindingRequest.writtenDefault_exactly`). -/

namespace BindingPlan

/-! ### Values are equal to themselves -/

mutual

theorem ArgumentValue.same_self : ∀ value : ArgumentValue, value.same value = true
  | .string _ | .bool _ | .int _ | .char _ | .type _ | .enum _ => by simp [ArgumentValue.same]
  | .float _ => by simp [ArgumentValue.same, Decimal.Double.sameNumber]
  | .nested usage => by
    rw [ArgumentValue.same]
    exact usage.same_self
  | .array items => by
    rw [ArgumentValue.same]
    exact ArgumentValue.sameAll_self items

theorem ArgumentValue.sameAll_self :
    ∀ items : List ArgumentValue, ArgumentValue.sameAll items items = true
  | [] => by rw [ArgumentValue.sameAll]
  | value :: rest => by
    rw [ArgumentValue.sameAll, value.same_self, ArgumentValue.sameAll_self rest]
    rfl

theorem AnnotationUse.same_self : ∀ usage : AnnotationUse, usage.same usage = true
  | ⟨type, arguments, defaults⟩ => by
    rw [AnnotationUse.same, Argument.sameAll_self arguments, Argument.sameAll_self defaults,
      beq_self_eq_true]
    rfl

theorem Argument.sameAll_self :
    ∀ arguments : List Argument, Argument.sameAll arguments arguments = true
  | [] => by rw [Argument.sameAll]
  | argument :: rest => by
    rw [Argument.sameAll, argument.same_self, Argument.sameAll_self rest]
    rfl

theorem Argument.same_self : ∀ argument : Argument, argument.same argument = true
  | ⟨name, value⟩ => by
    rw [Argument.same, value.same_self, beq_self_eq_true]
    rfl

end

/-! ### One more argument -/

namespace AnnotationUse
variable {usage : AnnotationUse} {name other : String} {value : ArgumentValue}

theorem argument?_withArgument (unwritten : usage.argument? name = none) :
    (usage.withArgument name value).argument? name = some value := by
  rw [argument?, Option.map_eq_none_iff] at unwritten
  simp [argument?, withArgument, List.find?_append, unwritten]

theorem argument?_withArgument_of_ne (h : name ≠ other) :
    (usage.withArgument name value).argument? other = usage.argument? other := by
  simp [argument?, withArgument, List.find?_append, h]

theorem chosen?_withArgument_of_ne (h : name ≠ other) :
    (usage.withArgument name value).chosen? other = usage.chosen? other := by
  unfold chosen?
  rw [argument?_withArgument_of_ne h]
  rfl

theorem chosen?_withArgument_default (declared : usage.default? name = some value)
    (unwritten : usage.argument? name = none) :
    (usage.withArgument name value).chosen? name = usage.chosen? name := by
  have there : (usage.withArgument name value).default? name = some value := declared
  simp [chosen?, argument?_withArgument unwritten, there, value.same_self, unwritten]

end AnnotationUse

/-! ### The arguments one by one -/

/-- The arguments that a marker is decoded from. -/
inductive MarkerArgument where
  | scope
  | target
  | contribution
  | key

/-- The name of an argument. -/
def ArgumentKeys.nameOf (keys : ArgumentKeys) : MarkerArgument → String
  | .scope => keys.scope
  | .target => keys.target
  | .contribution => keys.contribution
  | .key => keys.key

/-- The value asks for nothing in particular where it is the default of the argument. -/
def MarkerArgument.Idle (value : ArgumentValue) : MarkerArgument → Prop
  | .scope | .target => True
  | .contribution => value.Names Contribution.single.word
  | .key => value = .string ""

namespace BindingRequest

/-- Two annotations come to the same as far as one argument goes. -/
def AgreeOn (config : Config) (marker : Marker) (name : String) (usage usage' : AnnotationUse) :
    MarkerArgument → Prop
  | .scope => chosenType? usage name config.arguments.scope =
      chosenType? usage' name config.arguments.scope
  | .target => targetOf config marker usage name = targetOf config marker usage' name
  | .contribution => contributionOf config usage name = contributionOf config usage' name
  | .key => keyOf config usage name = keyOf config usage' name

section AgreeOn
variable {config : Config} {marker : Marker} {name : String} {usage usage' : AnnotationUse}

theorem ofMarker_of_agreeOn (h : ∀ argument, AgreeOn config marker name usage usage' argument) :
    ofMarker config marker usage name = ofMarker config marker usage' name := by
  have scope : chosenType? usage name _ = chosenType? usage' name _ := h .scope
  have target : targetOf config marker usage name = _ := h .target
  have contribution : contributionOf config usage name = _ := h .contribution
  have key : keyOf config usage name = _ := h .key
  rw [ofMarker, ofMarker, scope, target, contribution, key]

theorem agreeOn_of_ofMarker {request : BindingRequest}
    (h : ofMarker config marker usage name = .ok request)
    (h' : ofMarker config marker usage' name = .ok request) (argument : MarkerArgument) :
    AgreeOn config marker name usage usage' argument := by
  obtain ⟨-, scope, target, contribution, key⟩ := ofMarker_eq_ok_iff.mp h
  obtain ⟨-, scope', target', contribution', key'⟩ := ofMarker_eq_ok_iff.mp h'
  cases argument with
  | scope => exact scope.trans scope'.symm
  | target => exact target.trans target'.symm
  | contribution => exact contribution.trans contribution'.symm
  | key => exact key.trans key'.symm

theorem chosenType?_congr {argument : String}
    (h : usage.chosen? argument = usage'.chosen? argument) :
    chosenType? usage name argument = chosenType? usage' name argument := by
  rw [chosenType?, chosenType?, h]

theorem targetOf_congr
    (h : usage.chosen? config.arguments.target = usage'.chosen? config.arguments.target) :
    targetOf config marker usage name = targetOf config marker usage' name := by
  rw [targetOf, targetOf, chosenType?_congr h]

theorem contributionOf_congr
    (h : usage.argument? config.arguments.contribution =
      usage'.argument? config.arguments.contribution) :
    contributionOf config usage name = contributionOf config usage' name := by
  rw [contributionOf, contributionOf, h]

theorem keyOf_congr
    (h : usage.argument? config.arguments.key = usage'.argument? config.arguments.key) :
    keyOf config usage name = keyOf config usage' name := by
  rw [keyOf, keyOf, h]

theorem agreeOn_withArgument_of_ne {argument : MarkerArgument} {other : String}
    (h : other ≠ config.arguments.nameOf argument) (value : ArgumentValue) :
    AgreeOn config marker name (usage.withArgument other value) usage argument := by
  cases argument with
  | scope => exact chosenType?_congr (AnnotationUse.chosen?_withArgument_of_ne h)
  | target => exact targetOf_congr (AnnotationUse.chosen?_withArgument_of_ne h)
  | contribution => exact contributionOf_congr (AnnotationUse.argument?_withArgument_of_ne h)
  | key => exact keyOf_congr (AnnotationUse.argument?_withArgument_of_ne h)

theorem expectContribution_eq_ok_iff {argument : String} {value : ArgumentValue}
    {contribution : Contribution} :
    expectContribution name argument value = .ok contribution ↔ value.Names contribution.word := by
  rw [← ArgumentValue.constantName?_eq_some_iff, expectContribution]
  cases value.constantName? with
  | none => simp
  | some word =>
    rw [Option.some_inj, @eq_comm _ word, ← Contribution.ofWord?_eq_some_iff]
    dsimp only
    cases Contribution.ofWord? word <;> simp

theorem expectKey_eq_none_iff {argument : String} {value : ArgumentValue} :
    (do
      let key ← expectString name argument value
      .ok (if key = "" then none else some key)) = Except.ok (ε := BindingError) none ↔
      value = .string "" := by
  cases value <;> simp [expectString, ArgumentValue.string?, bind, Except.bind]

variable {argument : MarkerArgument} {value : ArgumentValue}

/-- **One argument**: to write its default out comes to the same as to leave the argument out
exactly if the default asks for nothing. -/
theorem agreeOn_withDefault_iff
    (declared : usage.default? (config.arguments.nameOf argument) = some value)
    (unwritten : usage.argument? (config.arguments.nameOf argument) = none) :
    AgreeOn config marker name
      (usage.withArgument (config.arguments.nameOf argument) value) usage argument ↔
      argument.Idle value := by
  cases argument with
  | scope =>
    have same := AnnotationUse.chosen?_withArgument_default declared unwritten
    exact iff_of_true (chosenType?_congr same) trivial
  | target =>
    have same := AnnotationUse.chosen?_withArgument_default declared unwritten
    exact iff_of_true (targetOf_congr same) trivial
  | contribution =>
    have missing : usage.argument? config.arguments.contribution = none := unwritten
    rw [AgreeOn, ArgumentKeys.nameOf, contributionOf, contributionOf,
      AnnotationUse.argument?_withArgument missing, missing]
    exact expectContribution_eq_ok_iff
  | key =>
    have missing : usage.argument? config.arguments.key = none := unwritten
    rw [AgreeOn, ArgumentKeys.nameOf, keyOf, keyOf,
      AnnotationUse.argument?_withArgument missing, missing]
    exact expectKey_eq_none_iff

end AgreeOn

/-- **A default that is written out** comes to the same as an argument that is left out if the
default asks for nothing. For an annotation that can be decoded without the argument, this is the
only case. -/
theorem writtenDefault_exactly {config : Config} (marker : Marker) (name : String)
    {usage : AnnotationUse} {argument : MarkerArgument} {value : ArgumentValue}
    (distinct : Function.Injective config.arguments.nameOf)
    (declared : usage.default? (config.arguments.nameOf argument) = some value)
    (unwritten : usage.argument? (config.arguments.nameOf argument) = none) :
    let written := usage.withArgument (config.arguments.nameOf argument) value
    (argument.Idle value →
      ofMarker config marker written name = ofMarker config marker usage name) ∧
    ∀ request, ofMarker config marker usage name = .ok request →
      (ofMarker config marker written name = .ok request ↔ argument.Idle value) := by
  intro written
  have same (idle : argument.Idle value) :
      ofMarker config marker written name = ofMarker config marker usage name := by
    refine ofMarker_of_agreeOn fun other => ?_
    by_cases e : argument = other
    · subst e
      exact (agreeOn_withDefault_iff declared unwritten).mpr idle
    · exact agreeOn_withArgument_of_ne (distinct.ne e) value
  refine ⟨same, fun request decoded => ⟨fun h => ?_, fun idle => (same idle).trans decoded⟩⟩
  exact (agreeOn_withDefault_iff declared unwritten).mp (agreeOn_of_ofMarker h decoded argument)

/-! ### A marker with defaults -/

theorem nameOf_default_injective : Function.Injective ArgumentKeys.default.nameOf := by
  intro argument other same
  cases argument <;> cases other <;> first | rfl | exact absurd same (by decide)

/-- The literal of a class for scopes. -/
def exampleScope : ArgumentValue :=
  .type (.ofClass ⟨"com.example", ["AppScope"]⟩)

/-- The constant for elements of sets. -/
def exampleSet : ArgumentValue :=
  .enum ⟨⟨"com.herman.hiltautobind.annotations.autobind", ["AutoBindTarget"]⟩, "SET"⟩

/-- A marker without arguments; its class declares a scope and a contribution as defaults. -/
def exampleDefaulted : AnnotationUse :=
  ⟨⟨"com.herman.hiltautobind", ["AutoBind"]⟩, [],
    [⟨"component", exampleScope⟩, ⟨"target", exampleSet⟩]⟩

theorem writtenDefault_exactly_exampleDefaulted :
    let decoded (usage : AnnotationUse) :=
      ofMarker .default ⟨.bind, .production⟩ usage "com.example.Thing"
    decoded (exampleDefaulted.withArgument "component" exampleScope) = decoded exampleDefaulted ∧
      ∃ request, decoded exampleDefaulted = .ok request ∧
        decoded (exampleDefaulted.withArgument "target" exampleSet) ≠ .ok request := by
  intro decoded
  have scope := @writtenDefault_exactly .default ⟨.bind, .production⟩ "com.example.Thing"
    exampleDefaulted .scope exampleScope nameOf_default_injective rfl rfl
  have contribution := @writtenDefault_exactly .default ⟨.bind, .production⟩ "com.example.Thing"
    exampleDefaulted .contribution exampleSet nameOf_default_injective rfl rfl
  obtain ⟨request, omitted⟩ : ∃ request, decoded exampleDefaulted = .ok request := ⟨_, rfl⟩
  refine ⟨scope.1 trivial, request, omitted, fun written => ?_⟩
  have idle := (contribution.2 request omitted).mp written
  exact absurd (ArgumentValue.constantName?_eq_some_iff.mpr idle) (by decide)

/-- The one default for the contribution changes what is decoded once it is written out. -/
theorem not_decodedAsOmitted_exampleDefaulted :
    Function.Injective Config.default.arguments.nameOf ∧
    exampleDefaulted.defaults.filter (·.name == Config.default.arguments.contribution) =
      [⟨Config.default.arguments.contribution, exampleSet⟩] ∧
    exampleDefaulted.argument? Config.default.arguments.contribution = none ∧
    ofMarker .default ⟨.bind, .production⟩
        (exampleDefaulted.withArgument Config.default.arguments.contribution exampleSet)
        "com.example.Thing" ≠
      ofMarker .default ⟨.bind, .production⟩ exampleDefaulted "com.example.Thing" := by
  refine ⟨nameOf_default_injective, rfl, rfl, fun same => ?_⟩
  have contributions := congrArg (fun r => r.toOption.map (·.contribution)) same
  exact absurd contributions (by decide)

end BindingRequest

end BindingPlan
