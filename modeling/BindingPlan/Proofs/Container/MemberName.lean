import BindingPlan.Proofs.Binding.Asked
import BindingPlan.Proofs.Config.Usable
import BindingPlan.Proofs.Container.Replacement
import BindingPlan.Proofs.Pass.Account
import BindingPlan.Proofs.Pass.Placed
import BindingPlan.Proofs.Program.LookUp

/-! # When the members of a container have names of their own

The name of a member says of a class its innermost name and of a function its name with a capital, and
nothing of where they stand. So two members have one name just if their declarations are homonyms
(`memberName_eq_iff`), and the members of a container can be told apart by their names just if no two
of its declarations are (`memberNames_exactly`). Names for reports that are all different do not do:
they tell nested classes apart by their owners. They do for classes that stand directly in the package
of their file. -/

namespace BindingPlan

/-- Declarations whose members get one name. -/
def Declaration.Homonyms (naming : Naming) : Declaration → Declaration → Prop
  | .type d, .type d' => d.name.simpleName = d'.name.simpleName
  | .function d, .function d' => Text.capitalize d.name = Text.capitalize d'.name
  | .type d, .function d' | .function d', .type d =>
    naming.bindPrefix ++ d.name.simpleName = naming.providePrefix ++ Text.capitalize d'.name
  | .misc _, _ | _, .misc _ => False

/-- A class that stands directly in the package of its file. -/
def Declaration.IsTopLevelClass : Declaration → Prop
  | .type d => ∃ location simple, d.location = some location ∧ d.name = ⟨location.package, [simple]⟩
  | .function _ | .misc _ => False

/-- The members of a container have names of their own. -/
def Container.MemberNamesDistinct (container : Container) : Prop :=
  (container.members.map (·.name)).Nodup

/-- Each member of a container is found by its name. -/
def Container.FindsMembers (container : Container) : Prop :=
  ∀ member ∈ container.members, container.member? member.name = some member

instance (naming : Naming) : ∀ d d' : Declaration, Decidable (d.Homonyms naming d')
  | .type d, .type d' => inferInstanceAs (Decidable (d.name.simpleName = d'.name.simpleName))
  | .function d, .function d' =>
    inferInstanceAs (Decidable (Text.capitalize d.name = Text.capitalize d'.name))
  | .type d, .function d' | .function d', .type d =>
    inferInstanceAs (Decidable (naming.bindPrefix ++ d.name.simpleName =
      naming.providePrefix ++ Text.capitalize d'.name))
  | .misc _, .type _ | .misc _, .function _ | .misc _, .misc _ | .type _, .misc _
  | .function _, .misc _ => inferInstanceAs (Decidable False)

variable {config : Config} {program : Program}

theorem Declaration.Homonyms.symm {naming : Naming} {d d' : Declaration}
    (h : d.Homonyms naming d') : d'.Homonyms naming d := by
  cases d <;> cases d' <;> first | exact h | exact Eq.symm h

/-! ### The name of a member -/

theorem Binding.AskedBy.memberName {b : Binding} {declaration : Declaration} {usage : AnnotationUse}
    {request : BindingRequest} (asked : b.AskedBy config program declaration usage request) :
    (∃ d, b.origin = .type d ∧ d.location = some b.location ∧
        b.memberName = config.naming.bindPrefix ++ d.name.simpleName) ∨
      ∃ d, b.origin = .function d ∧
        b.memberName = config.naming.providePrefix ++ Text.capitalize d.name := by
  obtain ⟨d, rfl, -, bound⟩ | ⟨d, rfl, -, bound⟩ := ofDeclaration_ok asked.bound
  · obtain ⟨location, known, -, -, rfl⟩ := ofClass_eq_ok_iff.mp bound
    exact .inl ⟨d, rfl, known, rfl⟩
  · obtain ⟨location, exposed, -, -, -, rfl⟩ := ofFunction_eq_ok_iff.mp bound
    exact .inr ⟨d, rfl, rfl⟩

/-- **Two members have one name** just if their declarations are homonyms. -/
theorem memberName_eq_iff {b b' : Binding} (hb : b ∈ (program.resolution config).bindings)
    (hb' : b' ∈ (program.resolution config).bindings) :
    b.memberName = b'.memberName ↔ b.origin.Homonyms config.naming b'.origin := by
  obtain ⟨_, _, _, asked⟩ := bindings_asked hb
  obtain ⟨_, _, _, asked'⟩ := bindings_asked hb'
  obtain ⟨d, origin, -, name⟩ | ⟨d, origin, name⟩ := asked.memberName <;>
    obtain ⟨d', origin', -, name'⟩ | ⟨d', origin', name'⟩ := asked'.memberName <;>
    rw [name, name', origin, origin', Declaration.Homonyms]
  · exact String.append_right_inj _
  · exact eq_comm
  · exact String.append_right_inj _

/-! ### The members of a container -/

theorem members_eq {container : Container} (h : container ∈ (program.plan config).containers) :
    container.members = (program.groupedIn config container).map (Member.ofBinding config) :=
  (takesUp_ofBindings config (program.resolution config).bindings).members container h

theorem groupedIn_sublist (container : Container) :
    (program.groupedIn config container).Sublist (program.resolution config).bindings :=
  List.filter_sublist

/-- **The members of a container have names of their own** just if no two of its declarations are
homonyms. -/
theorem memberNamesDistinct_iff {container : Container}
    (h : container ∈ (program.plan config).containers) : container.MemberNamesDistinct ↔
      (program.groupedIn config container).Pairwise fun b b' =>
        ¬ b.origin.Homonyms config.naming b'.origin := by
  rw [Container.MemberNamesDistinct, members_eq h, List.map_map, List.nodup_iff_pairwise_ne,
    List.pairwise_map]
  refine List.Pairwise.iff_of_mem fun {b b'} hb hb' => not_congr ?_
  rw [Function.comp_apply, Function.comp_apply, name_ofBinding, name_ofBinding]
  exact memberName_eq_iff ((groupedIn_sublist container).subset hb)
    ((groupedIn_sublist container).subset hb')

theorem Container.MemberNamesDistinct.findsMembers {container : Container}
    (distinct : container.MemberNamesDistinct) : container.FindsMembers :=
  fun _ mem => (find?_eq_some_iff_of_nodup distinct).mpr ⟨mem, rfl⟩

theorem origins_groupedIn_sublist (container : Container) :
    ((program.groupedIn config container).map (·.origin)).Sublist program.traversal :=
  ((groupedIn_sublist container).map _).trans (origins_sublist config program)

/-- What no two declarations of a program have in common, no two of a container have. -/
theorem pairwise_groupedIn {Apart : Declaration → Declaration → Prop}
    (symm : ∀ {d d'}, Apart d d' → Apart d' d) (apart : program.declarations.Pairwise Apart)
    (container : Container) :
    (program.groupedIn config container).Pairwise fun b b' => Apart b.origin b'.origin := by
  have traversed : program.traversal.Pairwise Apart :=
    ((Program.traversal_perm program).pairwise_iff symm).mpr apart
  exact List.pairwise_map.mp (traversed.sublist (origins_groupedIn_sublist container))

/-! ### Classes that stand directly in a package -/

theorem package_of_groupedIn {container : Container} {b : Binding}
    (hb : b ∈ program.groupedIn config container) : b.location.package = container.name.package := by
  obtain ⟨identity, h, own⟩ := Program.exists_identity_of_groupedIn hb
  rw [own, h.package]
  rfl

theorem reportName_eq_of_homonyms {container : Container} {b b' : Binding}
    (hb : b ∈ program.groupedIn config container) (hb' : b' ∈ program.groupedIn config container)
    (top : b.origin.IsTopLevelClass) (top' : b'.origin.IsTopLevelClass)
    (homonyms : b.origin.Homonyms config.naming b'.origin) :
    b.origin.reportName = b'.origin.reportName := by
  obtain ⟨_, _, _, asked⟩ := bindings_asked ((groupedIn_sublist container).subset hb)
  obtain ⟨_, _, _, asked'⟩ := bindings_asked ((groupedIn_sublist container).subset hb')
  obtain ⟨d, origin, known, -⟩ | ⟨d, origin, -⟩ := asked.memberName
  · obtain ⟨d', origin', known', -⟩ | ⟨d', origin', -⟩ := asked'.memberName
    · rw [origin] at top homonyms ⊢
      rw [origin'] at top' homonyms ⊢
      obtain ⟨location, simple, stands, name⟩ := top
      obtain ⟨location', simple', stands', name'⟩ := top'
      obtain rfl : b.location = location := Option.some.inj (known.symm.trans stands)
      obtain rfl : b'.location = location' := Option.some.inj (known'.symm.trans stands')
      have same : simple = simple' := by
        simpa [Declaration.Homonyms, name, name', ClassName.simpleName] using homonyms
      rw [Declaration.reportName, Declaration.reportName, name, name', same, package_of_groupedIn hb,
        package_of_groupedIn hb']
    · rw [origin'] at top'
      exact top'.elim
  · rw [origin] at top
    exact top.elim

/-- **Names for reports do** for the classes that stand directly in the package of a container. -/
theorem memberNamesDistinct_of_topLevel
    (distinct : (program.declarations.map (·.reportName)).Nodup) {container : Container}
    (h : container ∈ (program.plan config).containers)
    (top : ∀ b ∈ program.groupedIn config container, b.origin.IsTopLevelClass) :
    container.MemberNamesDistinct := by
  have reported : (program.groupedIn config container).Pairwise fun b b' =>
      b.origin.reportName ≠ b'.origin.reportName :=
    pairwise_groupedIn Ne.symm (List.pairwise_map.mp distinct) container
  rw [memberNamesDistinct_iff h]
  exact reported.imp_of_mem fun {b b'} hb hb' ne homonyms =>
    ne (reportName_eq_of_homonyms hb hb' (top b hb) (top b' hb') homonyms)

/-! ### Two classes of one container -/

theorem Placed.exists_members (distinct : Function.Injective config.markers.classOf)
    (arguments : config.arguments.Distinct) (placed placed' : Placed)
    (family : placed.order.marker.family = .bind) (family' : placed'.order.marker.family = .bind)
    (same : placed.containerName config.naming = placed'.containerName config.naming) :
    ∃ container ∈ ((programOf config [placed, placed']).plan config).containers,
      ∃ member ∈ container.members, ∃ member' ∈ container.members,
        (member.name = config.naming.bindPrefix ++ placed.name.simpleName ∧
          member.returnType = .ofClass placed.name) ∧
        member'.name = config.naming.bindPrefix ++ placed'.name.simpleName ∧
          member'.returnType = .ofClass placed'.name := by
  obtain ⟨b, hb, b', hb', boundAs, boundAs'⟩ := exists_boundAs_both distinct arguments family family'
  obtain ⟨bucket, hbucket, mem, mem'⟩ := Bucket.exists_bucket hb hb'
    (by rw [boundAs.containerName, boundAs'.containerName, same])
  obtain ⟨container, hcontainer, -, _, -, taken⟩ := Container.exists_takenFrom config hbucket
  refine ⟨container, hcontainer, .ofBinding config b, ?_, .ofBinding config b', ?_, ⟨?_, ?_⟩, ?_, ?_⟩
  · exact taken.members ▸ List.mem_map_of_mem mem
  · exact taken.members ▸ List.mem_map_of_mem mem'
  · rw [name_ofBinding, boundAs.memberName]
  · rw [returnType_ofBinding, boundAs.exposed]
  · rw [name_ofBinding, boundAs'.memberName]
  · rw [returnType_ofBinding, boundAs'.exposed]

/-- **The members of a container can be told apart by name** just if no two of its declarations are
homonyms, and then each is found by its name. So it is for all containers if no two declarations of
the program are homonyms, and for a container of classes that stand directly in their package if the
declarations of the program have names of their own in reports. -/
theorem memberNames_exactly (config : Config) (program : Program) :
    (∀ container ∈ (program.plan config).containers, (container.MemberNamesDistinct ↔
      (program.groupedIn config container).Pairwise fun b b' =>
        ¬ b.origin.Homonyms config.naming b'.origin)) ∧
    (∀ container ∈ (program.plan config).containers,
      container.MemberNamesDistinct → container.FindsMembers) ∧
    ((program.declarations.Pairwise fun d d' => ¬ d.Homonyms config.naming d') →
      ∀ container ∈ (program.plan config).containers,
        container.MemberNamesDistinct ∧ container.FindsMembers) ∧
    ((program.declarations.map (·.reportName)).Nodup →
      ∀ container ∈ (program.plan config).containers,
        (∀ b ∈ program.groupedIn config container, b.origin.IsTopLevelClass) →
          container.MemberNamesDistinct ∧ container.FindsMembers) := by
  refine ⟨fun _ => memberNamesDistinct_iff, fun _ _ => Container.MemberNamesDistinct.findsMembers,
    ?_, ?_⟩
  · intro apart container h
    have distinct : container.MemberNamesDistinct := (memberNamesDistinct_iff h).mpr
      (pairwise_groupedIn (fun apart homonyms => apart homonyms.symm) apart container)
    exact ⟨distinct, distinct.findsMembers⟩
  · intro reported container h top
    have distinct := memberNamesDistinct_of_topLevel reported h top
    exact ⟨distinct, distinct.findsMembers⟩

theorem memberNames_exampleThing :
    let program := Placed.programOf .default [.exampleThing, .exampleThings]
    (program.declarations.Pairwise fun d d' => ¬ d.Homonyms Config.default.naming d') ∧
      (program.declarations.map (·.reportName)).Nodup ∧
      (∀ d ∈ program.declarations, d.IsTopLevelClass) ∧
      ∃ container ∈ (program.plan .default).containers, ∃ member ∈ container.members,
        ∃ member' ∈ container.members, member.name = "bindThing" ∧ member'.name = "bindThings" ∧
          container.MemberNamesDistinct ∧ container.member? "bindThing" = some member ∧
          container.member? "bindThings" = some member' := by
  intro program
  have distinct := (Config.fault?_eq_none_iff.mp Config.fault?_default).1
  have apart : program.declarations.Pairwise fun d d' => ¬ d.Homonyms Config.default.naming d' := by
    decide
  have reported : (program.declarations.map (·.reportName)).Nodup := by decide
  have top : ∀ d ∈ program.declarations, d.IsTopLevelClass :=
    List.forall_mem_cons.mpr ⟨⟨_, _, rfl, rfl⟩, List.forall_mem_singleton.mpr ⟨_, _, rfl, rfl⟩⟩
  obtain ⟨container, h, member, mem, member', mem', ⟨name, -⟩, name', -⟩ :=
    Placed.exists_members distinct (by decide) .exampleThing .exampleThings rfl rfl (by decide)
  replace name : member.name = "bindThing" := name
  replace name' : member'.name = "bindThings" := name'
  have grouped : ∀ b ∈ program.groupedIn .default container, b.origin.IsTopLevelClass :=
    fun b hb => top _ ((Program.traversal_perm program).subset
      ((origins_groupedIn_sublist container).subset (List.mem_map_of_mem hb)))
  obtain ⟨-, -, of_apart, of_top⟩ := memberNames_exactly .default program
  have finds := (of_apart apart container h).2
  exact ⟨apart, reported, top, container, h, member, mem, member', mem', name, name',
    (of_top reported container h grouped).1, name ▸ finds member mem, name' ▸ finds member' mem'⟩

/-- A class in another one. -/
def Placed.exampleFirst : Placed :=
  .ofNames ["First", "Thing"] "" Order.package

/-- A class of the same innermost name elsewhere. -/
def Placed.exampleSecond : Placed :=
  .ofNames ["Second", "Thing"] "" Order.package

/-- Under the default configuration different names for reports do not make different names for the
members of a container. -/
theorem not_memberNamesDistinct_nested : Config.default.fault? = none ∧
    let program := Placed.programOf .default [.exampleFirst, .exampleSecond]
    program.FromText ∧ (program.declarations.map (·.reportName)).Nodup ∧
      ∃ container ∈ (program.plan .default).containers,
        ¬ container.MemberNamesDistinct ∧ ¬ container.FindsMembers := by
  have distinct := (Config.fault?_eq_none_iff.mp Config.fault?_default).1
  obtain ⟨container, h, member, mem, member', mem', ⟨name, type⟩, name', type'⟩ :=
    Placed.exists_members distinct (by decide) .exampleFirst .exampleSecond rfl rfl (by decide)
  have names : member.name = member'.name := name.trans name'.symm
  have ne : member ≠ member' := by
    intro e
    rw [e, type'] at type
    exact absurd type (by decide)
  have lost : ¬ container.FindsMembers := by
    intro finds
    have found := finds member mem
    rw [names, finds member' mem'] at found
    exact ne (Option.some.inj found).symm
  exact ⟨Config.fault?_default,
    Placed.fromText_programOf (Placed.isWritable_ofNames (by decide +kernel) _ _)
      (Placed.isWritable_ofNames (by decide +kernel) _ _),
    by decide, container, h, fun distinct => lost distinct.findsMembers, lost⟩

end BindingPlan
