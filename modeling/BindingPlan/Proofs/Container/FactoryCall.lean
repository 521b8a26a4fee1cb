import BindingPlan.Proofs.Binding.Asked
import BindingPlan.Proofs.Binding.ForwardedParameters
import BindingPlan.Proofs.Pass.Account
import BindingPlan.Proofs.Text.Numeral

/-! # Calls of factory functions

The member of a factory function calls it with its own parameters, which are those of the function
under their names (`Member.CallsFunction`). A function of a class with instances is called on one more
parameter, in front of the others. Its name is the configured one if that is free, or else the first
free one of those with a number behind it (`isFirstFree_freshName`): not all of the numbers that are
tried can be taken, since they make more names than there are parameters. So it is never the name of
another parameter, and parameters with names of their own stay so. Every function that can be bound
has such a call in the containers of a pass (`factoryMembers_exactly`), and there are no other calls
there (`exists_function_of_call`). -/

namespace BindingPlan

/-! ### Free names -/

/-- The base with a number behind it. -/
def numbered (base : String) (n : Nat) : String :=
  base ++ toString n

/-- The base where it is free, or else the base with the least positive number that makes a free
name. -/
def IsFirstFree (base : String) (taken : List String) (name : String) : Prop :=
  if base ∈ taken then
    ∃ n, 1 ≤ n ∧ name = numbered base n ∧ numbered base n ∉ taken ∧
      ∀ m, 1 ≤ m → m < n → numbered base m ∈ taken
  else name = base

section Free
variable {base name : String} {taken : List String}

theorem numbered_injective (base : String) : Function.Injective (numbered base) := by
  intro m n same
  exact Text.natNumeral_injective ((String.append_right_inj base).mp same)

/-- Among the first positive numbers, one more than there are taken names, one makes a free name. -/
theorem exists_numbered_not_mem (base : String) (taken : List String) :
    ∃ n ∈ List.range (taken.length + 1), numbered base (n + 1) ∉ taken := by
  by_contra none
  push Not at none
  let tried := (List.range (taken.length + 1)).map fun n => numbered base (n + 1)
  have different : tried.Nodup :=
    List.nodup_range.map fun _ _ same => Nat.succ_injective (numbered_injective base same)
  have all_taken : tried ⊆ taken := by
    intro name mem
    obtain ⟨n, hn, rfl⟩ := List.mem_map.mp mem
    exact none n hn
  have few := different.length_le_of_subset all_taken
  simp only [tried, List.length_map, List.length_range] at few
  omega

/-- **The search for a free name finds the first one.** -/
theorem isFirstFree_freshName (base : String) (taken : List String) :
    IsFirstFree base taken (freshName base taken) := by
  unfold IsFirstFree freshName
  split_ifs with base_taken
  · obtain ⟨free, hfree, not_taken⟩ := exists_numbered_not_mem base taken
    rw [List.find?_map]
    cases found : (List.range (taken.length + 1)).find?
        ((decide <| · ∉ taken) ∘ fun n => base ++ toString (n + 1)) with
    | none => exact absurd not_taken (by simpa [numbered] using List.find?_eq_none.mp found free hfree)
    | some n =>
      obtain ⟨not_taken, -, before⟩ := List.find?_range_eq_some.mp found
      refine ⟨n + 1, by omega, rfl, by simpa [numbered] using not_taken, fun m pos lt => ?_⟩
      obtain ⟨k, rfl⟩ := Nat.exists_eq_add_of_le' pos
      simpa [numbered] using before k (by omega)
  · rfl

theorem IsFirstFree.not_mem (h : IsFirstFree base taken name) : name ∉ taken := by
  unfold IsFirstFree at h
  split_ifs at h with base_taken
  · obtain ⟨n, -, rfl, free, -⟩ := h
    exact free
  · rw [h]
    exact base_taken

theorem IsFirstFree.unique {other : String} (h : IsFirstFree base taken name)
    (h' : IsFirstFree base taken other) : name = other := by
  unfold IsFirstFree at h h'
  split_ifs at h h' with base_taken
  · obtain ⟨m, m_pos, rfl, m_free, m_least⟩ := h
    obtain ⟨n, n_pos, rfl, n_free, n_least⟩ := h'
    rcases Nat.lt_trichotomy m n with lt | rfl | gt
    · exact absurd (n_least m m_pos lt) m_free
    · rfl
    · exact absurd (m_least n n_pos gt) n_free
  · rw [h, h']

end Free

/-! ### The member of a function -/

/-- Whether a function is declared in a class that has instances. -/
def FunctionDeclaration.InInstances (f : FunctionDeclaration) : Prop :=
  ∃ owner, f.owner = some owner ∧
    owner.form ∈ [ClassForm.plainClass, .interface, .enumClass, .enumEntry]

/-- What a function is called on. A function of a class with instances is called on a parameter of that
class, which is only there then, under the first free name; a function of another class is called on
that class, and a function on top level on nothing. -/
structure FunctionDeclaration.CalledOn (naming : Naming) (f : FunctionDeclaration)
    (owner? : Option Parameter) (target : CallTarget) : Prop where
  owned : owner?.isSome ↔ f.InInstances
  onInstance : ∀ p, owner? = some p → target = .parameter p.name ∧
    IsFirstFree naming.ownerParameter (f.parameters.map (·.name)) p.name ∧
    ∃ owner, f.owner = some owner ∧ p.type = .ofClass owner.name
  onObject : ∀ owner, f.owner = some owner → ¬ f.InInstances → target = .object owner.name
  topLevel : f.owner = none → target = .nothing

/-- A member calls a function with the parameters that are forwarded to it. These are the parameters of
the function, in their order and under their names; the one that the function is called on stands in
front of them. -/
structure Member.CallsFunction (naming : Naming) (f : FunctionDeclaration) (member : Member)
    (owner? : Option Parameter) (target : CallTarget) (forwarded : List Parameter) : Prop where
  body : member.body = .call target f.name (f.parameters.map (·.name))
  parameters : member.parameters = owner?.toList ++ forwarded
  forwarded : forwarded.map (·.name) = f.parameters.map (·.name)
  on : f.CalledOn naming owner? target

namespace Member.CallsFunction
variable {naming : Naming} {f : FunctionDeclaration} {member : Member} {owner? : Option Parameter}
  {target : CallTarget} {forwarded : List Parameter}

theorem owner_not_mem (h : member.CallsFunction naming f owner? target forwarded) :
    ∀ p, owner? = some p → p.name ∉ f.parameters.map (·.name) :=
  fun p own => (h.on.onInstance p own).2.1.not_mem

/-- **Parameters with names of their own** make a member whose parameters have names of their own. -/
theorem nodup (h : member.CallsFunction naming f owner? target forwarded)
    (distinct : (f.parameters.map (·.name)).Nodup) : (member.parameters.map (·.name)).Nodup := by
  rw [h.parameters, List.map_append, h.forwarded]
  cases own : owner? with
  | none => exact distinct
  | some p => exact List.nodup_cons.mpr ⟨h.owner_not_mem p own, distinct⟩

end Member.CallsFunction

/-! ### From bindings to members -/

variable {config : Config} {program : Program}

theorem ClassForm.hasInstances_iff {form : ClassForm} : form.hasInstances = true ↔
    form ∈ [ClassForm.plainClass, .interface, .enumClass, .enumEntry] := by
  cases form <;> decide

theorem FactoryHome.ofOwner_cases (f : FunctionDeclaration) :
    (f.owner = none ∧ ¬ f.InInstances ∧ ofOwner f.owner = .topLevel) ∨
    ∃ owner, f.owner = some owner ∧
      ((¬ f.InInstances ∧ ofOwner f.owner = .onObject owner.name) ∨
        (f.InInstances ∧ ofOwner f.owner = .onInstance owner.name)) := by
  unfold FunctionDeclaration.InInstances
  cases inside : f.owner with
  | none => exact .inl ⟨rfl, by simp, rfl⟩
  | some owner =>
    refine .inr ⟨owner, rfl, ?_⟩
    unfold ofOwner
    simp only [Option.some.injEq, exists_eq_left', ← ClassForm.hasInstances_iff]
    split_ifs with instances
    · exact .inr ⟨instances, rfl⟩
    · exact .inl ⟨instances, rfl⟩

theorem calledOn_ofOwner (naming : Naming) (f : FunctionDeclaration) {parameters : List Parameter}
    (names : parameters.map (·.name) = f.parameters.map (·.name)) :
    f.CalledOn naming (naming.ownerParameter? parameters (.ofOwner f.owner))
      (naming.callTarget parameters (.ofOwner f.owner)) := by
  have first_free : IsFirstFree naming.ownerParameter (f.parameters.map (·.name))
      (naming.ownerName parameters) := names ▸ isFirstFree_freshName _ _
  obtain ⟨top, apart, home⟩ | ⟨owner, inside, ⟨apart, home⟩ | ⟨instances, home⟩⟩ :=
    FactoryHome.ofOwner_cases f
  · rw [home]
    exact ⟨by simp [Naming.ownerParameter?, apart], nofun, by simp [top], fun _ => rfl⟩
  · rw [home]
    exact ⟨by simp [Naming.ownerParameter?, apart], nofun,
      by simp [Naming.callTarget, inside], by simp [inside]⟩
  · rw [home]
    refine ⟨by simp [Naming.ownerParameter?, instances], ?_, fun _ _ apart => absurd instances apart,
      by simp [inside]⟩
    rintro p ⟨⟩
    exact ⟨rfl, first_free, owner, inside, rfl⟩

/-- **The member of a function calls it.** -/
theorem callsFunction_forFunction (f : FunctionDeclaration) (request : BindingRequest)
    (location : Location) (exposed : TypeRef) :
    let forwarded := config.framework.forwarded f.parameters
    let home := FactoryHome.ofOwner f.owner
    (Member.ofBinding config (Binding.forFunction config program f request location
      exposed)).CallsFunction config.naming f (config.naming.ownerParameter? forwarded home)
        (config.naming.callTarget forwarded home) forwarded := by
  intro forwarded home
  have names : forwarded.map (·.name) = f.parameters.map (·.name) := map_name_forwarded _ _
  exact ⟨names ▸ rfl, rfl, names, calledOn_ofOwner config.naming f names⟩

theorem callsFunction_of_ofDeclaration {f : FunctionDeclaration} {request : BindingRequest}
    {b : Binding} (h : Binding.ofDeclaration config program (.function f) request = .ok b) :
    ∃ owner? target forwarded,
      (Member.ofBinding config b).CallsFunction config.naming f owner? target forwarded := by
  obtain ⟨d, ⟨⟩, -, -⟩ | ⟨d, ⟨⟩, -, bound⟩ := ofDeclaration_ok h
  obtain ⟨location, exposed, -, -, -, rfl⟩ := ofFunction_eq_ok_iff.mp bound
  exact ⟨_, _, _, callsFunction_forFunction f request location exposed⟩

theorem body_of_ofDeclaration {d : ClassDeclaration} {request : BindingRequest} {b : Binding}
    (h : Binding.ofDeclaration config program (.type d) request = .ok b) :
    (Member.ofBinding config b).body = .reference (.ofClass d.name) := by
  obtain ⟨d, ⟨⟩, -, bound⟩ | ⟨d, ⟨⟩, -, -⟩ := ofDeclaration_ok h
  obtain ⟨location, -, -, -, rfl⟩ := ofClass_eq_ok_iff.mp bound
  rfl

/-! ### The calls of a pass -/

theorem exists_member_of_mem {b : Binding} (h : b ∈ (program.resolution config).bindings) :
    ∃ container ∈ (program.plan config).containers, container.name = b.containerName ∧
      Member.ofBinding config b ∈ container.members := by
  have up : TakesUp config (program.resolution config).bindings (program.plan config).containers :=
    takesUp_ofBindings config _
  have named : b.containerName ∈ (program.plan config).containers.map (·.name) := by
    rw [up.names, List.mem_eraseDups]
    exact List.mem_map_of_mem h
  obtain ⟨container, mem, name⟩ := List.mem_map.mp named
  refine ⟨container, mem, name, ?_⟩
  rw [up.members container mem]
  exact List.mem_map_of_mem (List.mem_filter.mpr ⟨h, beq_iff_eq.mpr name.symm⟩)

/-- Every call in a container of a pass is the call of a function of the program. -/
theorem exists_function_of_call {container : Container} {member : Member} {target : CallTarget}
    {function : String} {arguments : List String}
    (h : container ∈ (program.plan config).containers) (mem : member ∈ container.members)
    (call : member.body = .call target function arguments) :
    ∃ f, .function f ∈ program.declarations ∧ ∃ owner? forwarded,
      member.CallsFunction config.naming f owner? target forwarded := by
  rw [(takesUp_ofBindings config _).members container h] at mem
  obtain ⟨b, hb, rfl⟩ := List.mem_map.mp mem
  obtain ⟨d, _, _, asked⟩ := bindings_asked (List.mem_filter.mp hb).1
  obtain ⟨d, rfl, -, -⟩ | ⟨f, rfl, -, -⟩ := ofDeclaration_ok asked.bound
  · rw [body_of_ofDeclaration asked.bound] at call
    cases call
  · obtain ⟨owner?, target', forwarded, calls⟩ := callsFunction_of_ofDeclaration asked.bound
    obtain rfl : target' = target := by
      have same := calls.body.symm.trans call
      injection same
    exact ⟨f, asked.mem, owner?, forwarded, calls⟩

/-- **The call of a factory function is well-scoped.** A function that resolves has a member in the
container of its binding if it is one of the program. The member calls it with its own parameters,
forwarded in order, on a parameter of its class if that has instances; this one is not mistaken for
another, and parameters with names of their own stay so. -/
theorem factoryMembers_exactly (config : Config) (program : Program) {f : FunctionDeclaration}
    {b : Binding} (resolved : Program.resolve? config program (.function f) = some (.ok b)) :
    let member := Member.ofBinding config b
    (.function f ∈ program.declarations → ∃ container ∈ (program.plan config).containers,
      container.name = b.containerName ∧ member ∈ container.members) ∧
    ∃ owner? target forwarded, member.CallsFunction config.naming f owner? target forwarded ∧
      (∀ p, owner? = some p → p.name ∉ forwarded.map (·.name)) ∧
      ((f.parameters.map (·.name)).Nodup → (member.parameters.map (·.name)).Nodup) := by
  intro member
  have is_bound : (Program.resolve? config program (.function f)).bind Except.toOption = some b := by
    rw [resolved]
    rfl
  obtain ⟨_, _, request, -, -, bound⟩ := ofCandidate_eq_ok_iff.mp (ofCandidate_of_resolve? is_bound)
  obtain ⟨owner?, target, forwarded, calls⟩ := callsFunction_of_ofDeclaration bound
  refine ⟨fun declared => exists_member_of_mem ?_, owner?, target, forwarded, calls, ?_, calls.nodup⟩
  · rw [bindings_eq, List.mem_filterMap]
    exact ⟨.function f, (Program.traversal_perm program).mem_iff.mpr declared, is_bound⟩
  · rw [calls.forwarded]
    exact calls.owner_not_mem

/-- A function of a class whose parameters have the names that would be chosen first. -/
def exampleMake : FunctionDeclaration :=
  { name := "make"
    parameters := [⟨"factory1", .ofClass ⟨"com.example", ["Part"]⟩, []⟩,
      ⟨"factory", .ofClass ⟨"com.example", ["Part"]⟩, []⟩]
    returnType := some (.ofClass ⟨"com.example", ["Thing"]⟩)
    owner := some ⟨⟨"com.example", ["Maker"]⟩, .interface⟩
    annotations := [.ofClass (MarkerClasses.default.classOf ⟨.factory, .production⟩)]
    visibility := .publicAccess
    location := some ⟨"Maker.kt", "com.example"⟩ }

/-- The instance is called `factory2` there. -/
theorem factoryMembers_exampleMake :
    let program := Program.ofDeclarations [.function exampleMake]
    ∃ b, Program.resolve? .default program (.function exampleMake) = some (.ok b) ∧
      (exampleMake.parameters.map (·.name)).Nodup ∧
      ((Member.ofBinding .default b).parameters.map (·.name)).Nodup ∧
      (Member.ofBinding .default b).parameters.map (·.name) = ["factory2", "factory1", "factory"] ∧
      (Member.ofBinding .default b).body =
        .call (.parameter "factory2") "make" ["factory1", "factory"] ∧
      ∃ container ∈ (program.plan .default).containers,
        Member.ofBinding .default b ∈ container.members := by
  intro program
  obtain ⟨b, resolved⟩ : ∃ b, Program.resolve? .default program (.function exampleMake) =
      some (.ok b) := ⟨_, rfl⟩
  obtain ⟨emitted, owner?, target, forwarded, calls, -, nodup⟩ :=
    factoryMembers_exactly .default program resolved
  have distinct : (exampleMake.parameters.map (·.name)).Nodup := by decide
  obtain ⟨container, hcontainer, -, mem⟩ := emitted (List.mem_singleton_self _)
  obtain ⟨p, rfl⟩ := Option.isSome_iff_exists.mp (calls.on.owned.mpr ⟨_, rfl, by decide⟩)
  obtain ⟨rfl, first_free, -⟩ := calls.on.onInstance p rfl
  have name : p.name = "factory2" :=
    (first_free.unique (isFirstFree_freshName _ _)).trans (by decide)
  refine ⟨b, resolved, distinct, nodup distinct, ?_, ?_, container, hcontainer, mem⟩
  · rw [calls.parameters, List.map_append, calls.forwarded, Option.toList_some, List.map_singleton,
      name]
    rfl
  · rw [calls.body, name]
    rfl

end BindingPlan
