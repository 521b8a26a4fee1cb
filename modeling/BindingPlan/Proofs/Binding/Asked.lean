import BindingPlan.Proofs.Binding.Resolved

/-! # What a binding was asked for

Every binding of a pass comes from a declaration of the program and from a marker on it
(`bindings_asked`), and whatever its request holds stands in the arguments of that marker
(`BindingRequest.ofMarker_asked`). -/

namespace BindingPlan

variable {config : Config} {program : Program}

theorem AnnotationUse.exists_argument {usage : AnnotationUse} {name : String}
    {value : ArgumentValue} (h : usage.argument? name = some value) :
    ∃ argument ∈ usage.arguments, argument.value = value := by
  obtain ⟨argument, found, value_eq⟩ := Option.map_eq_some_iff.mp h
  exact ⟨argument, List.mem_of_find?_eq_some found, value_eq⟩

theorem AnnotationUse.argument?_of_chosen? {usage : AnnotationUse} {name : String}
    {value : ArgumentValue} (h : usage.chosen? name = some value) :
    usage.argument? name = some value := by
  unfold chosen? at h
  split at h
  next written _ is_written _ =>
    split_ifs at h
    rwa [is_written]
  next => exact h

namespace BindingRequest

/-- What a request holds stands in the arguments of a marker. -/
structure Asked (config : Config) (marker : Marker) (usage : AnnotationUse)
    (request : BindingRequest) : Prop where
  marker : request.marker = marker
  scope : ∀ type ∈ request.scope, usage.argument? config.arguments.scope = some (.type type)
  target : ∀ type ∈ request.target, usage.argument? config.arguments.target = some (.type type)
  key : ∀ text ∈ request.key, usage.argument? config.arguments.key = some (.string text)

theorem argument?_of_chosenType? {usage : AnnotationUse} {name argument : String}
    {chosen : Option TypeRef} (h : chosenType? usage name argument = .ok chosen) :
    ∀ type ∈ chosen, usage.argument? argument = some (.type type) := by
  rintro type ⟨⟩
  unfold chosenType? at h
  split at h
  next value is_chosen =>
    unfold expectType at h
    cases value with
    | type literal =>
      cases h
      exact AnnotationUse.argument?_of_chosen? is_chosen
    | _ => cases h
  next => cases h

theorem argument?_of_targetOf {marker : Marker} {usage : AnnotationUse} {name : String}
    {target : Option TypeRef} (h : targetOf config marker usage name = .ok target) :
    ∀ type ∈ target, usage.argument? config.arguments.target = some (.type type) := by
  unfold targetOf at h
  split at h
  · obtain ⟨chosen, read, h⟩ := bind_eq_ok_iff.mp h
    cases h
    intro type mem
    exact argument?_of_chosenType? read type (Option.filter_eq_some_iff.mp mem).1
  · cases h
    simp

theorem argument?_of_keyOf {usage : AnnotationUse} {name : String} {key : Option String}
    (h : keyOf config usage name = .ok key) :
    ∀ text ∈ key, usage.argument? config.arguments.key = some (.string text) := by
  unfold keyOf at h
  split at h
  next value is_written =>
    obtain ⟨text, read, h⟩ := bind_eq_ok_iff.mp h
    unfold expectString at read
    cases value with
    | string written =>
      cases read
      cases h
      intro key mem
      by_cases empty : text = ""
      · simp [empty] at mem
      · rw [if_neg empty] at mem
        rwa [← Option.mem_some.mp mem]
    | _ => cases read
  next =>
    cases h
    simp

theorem ofMarker_asked {marker : Marker} {usage : AnnotationUse} {name : String}
    {request : BindingRequest} (h : ofMarker config marker usage name = .ok request) :
    request.Asked config marker usage := by
  obtain ⟨marker_eq, scope, target, -, key⟩ := ofMarker_eq_ok_iff.mp h
  exact ⟨marker_eq, argument?_of_chosenType? scope, argument?_of_targetOf target,
    argument?_of_keyOf key⟩

end BindingRequest

/-- A binding was asked for by a marker on a declaration. -/
structure Binding.AskedBy (config : Config) (program : Program) (b : Binding)
    (declaration : Declaration) (usage : AnnotationUse) (request : BindingRequest) : Prop where
  mem : declaration ∈ program.declarations
  usage_mem : usage ∈ declaration.annotations
  isMarker : config.markers.isMarker usage = true
  asked : ∃ marker, request.Asked config marker usage
  bound : Binding.ofDeclaration config program declaration request = .ok b

theorem Candidate.mem_of_marker? {candidate : Candidate} {found : Marker × AnnotationUse}
    (h : candidate.marker? = some found) : found ∈ candidate.markers :=
  List.mem_of_head? (marker?_eq_some_iff.mp h).2

theorem ofCandidate_of_resolve? {declaration : Declaration} {b : Binding}
    (h : (Program.resolve? config program declaration).bind Except.toOption = some b) :
    Binding.ofCandidate config program
      ⟨declaration, config.markers.markersOn declaration.annotations⟩ = .ok b := by
  obtain ⟨result, resolved, ok⟩ := Option.bind_eq_some_iff.mp h
  obtain ⟨candidate, found, rfl⟩ := Option.map_eq_some_iff.mp resolved
  obtain rfl : candidate = ⟨declaration, config.markers.markersOn declaration.annotations⟩ := by
    cases marked : config.markers.marks declaration with
    | true => simpa [candidate?_of_marks marked, eq_comm] using found
    | false => simp [candidate?_of_not_marks marked] at found
  cases result : Binding.ofCandidate config program
      ⟨declaration, config.markers.markersOn declaration.annotations⟩ with
  | error e => simp [result, Except.toOption] at ok
  | ok other => simpa [result, Except.toOption] using ok

/-- **Every binding of a pass was asked for** by a marker on a declaration of the program. -/
theorem bindings_asked {b : Binding} (h : b ∈ (program.resolution config).bindings) :
    ∃ declaration usage request, b.AskedBy config program declaration usage request := by
  rw [bindings_eq, List.mem_filterMap] at h
  obtain ⟨declaration, mem, h⟩ := h
  obtain ⟨marker, usage, request, first, read, bound⟩ :=
    ofCandidate_eq_ok_iff.mp (ofCandidate_of_resolve? h)
  obtain ⟨usage_mem, type⟩ := mem_markersOn.mp (Candidate.mem_of_marker? first)
  exact ⟨declaration, usage, request, (Program.traversal_perm program).mem_iff.mp mem, usage_mem,
    isMarker_iff.mpr ⟨marker, type.symm⟩, ⟨marker, BindingRequest.ofMarker_asked read⟩, bound⟩

/-- The declarations of the bindings stand in the order of the traversal, each as often at most as it
does there. -/
theorem origins_sublist (config : Config) (program : Program) :
    ((program.resolution config).bindings.map (·.origin)).Sublist program.traversal := by
  rw [bindings_eq]
  induction program.traversal with
  | nil => exact .slnil
  | cons d rest ih =>
    rw [List.filterMap_cons]
    split
    next => exact .cons d ih
    next b bound =>
      have origin : b.origin = d := ofCandidate_origin (ofCandidate_of_resolve? bound)
      rw [List.map_cons, origin]
      exact .cons_cons d ih

end BindingPlan
