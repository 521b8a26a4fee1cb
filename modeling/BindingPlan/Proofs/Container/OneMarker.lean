import BindingPlan.Proofs.Config.Usable
import BindingPlan.Proofs.Container.FromBucket
import BindingPlan.Proofs.Pass.MadeToOrder
import Mathlib.Tactic.Push

/-! # When the containers of different markers are kept apart

The form of a container and what it replaces are taken from its first binding. They are right for
its other bindings just if all are under one marker (`mergesNoMarkers_iff`).

Different suffixes do not suffice for that. They keep the markers apart in every program if no
suffix, with the separator in front of it, is the end of another one; otherwise what one suffix has
in front of the other can be the end of a scope, and a class and a function, or a binding and its
override, come into one container (`mergesNoMarkers_exactly`). -/

namespace BindingPlan

/-! ### Bindings of one kind -/

/-- Two bindings have the same marker, and with it the same form of container and the same place to
be installed, but for the scope. -/
structure Binding.SameKind (b b' : Binding) : Prop where
  marker : b.marker = b'.marker
  containerForm : b.containerForm = b'.containerForm
  isTest : b.isTest = b'.isTest
  replaces : b.replaces = b'.replaces

/-- The container that an installation replaces. -/
def Installation.replaces? : Installation → Option ClassName
  | .production _ => none
  | .test _ replaces => some replaces

/-- What a container says of its bindings is right for a binding. -/
structure Container.Suits (container : Container) (b : Binding) : Prop where
  form : container.form = b.containerForm
  isTest : container.isTest = b.isTest
  replaces : container.installation.replaces? = b.replaces

/-- No bindings of different markers are merged in a program: the bindings of each bucket are of one
kind, and the bucket has a container that suits all of them. -/
def MergesNoMarkers (config : Config) (program : Program) : Prop :=
  ∀ bucket ∈ Bucket.ofBindings (program.resolution config).bindings,
    (∀ b ∈ bucket.bindings, ∀ b' ∈ bucket.bindings, b.SameKind b') ∧
      ∃ container ∈ (program.plan config).containers,
        Container.ofBucket? config bucket = some container ∧
          ∀ b ∈ bucket.bindings, container.Suits b

section Kinds
variable {config : Config} {b b' : Binding} {identity identity' : ContainerIdentity}

theorem sameKind_of_marker (h : b.HasIdentity config.naming identity)
    (h' : b'.HasIdentity config.naming identity') (kind : b.KindFromMarker)
    (kind' : b'.KindFromMarker) (marker : b.marker = b'.marker)
    (name : b.containerName = b'.containerName) : b.SameKind b' := by
  have replaces : b.replaces = b'.replaces := by
    rw [h.containerName, h'.containerName, ← marker] at name
    rw [h.replaces, h'.replaces, ← marker, ContainerIdentity.replaces, ContainerIdentity.replaces,
      ContainerIdentity.containerName_congr name]
  refine ⟨marker, ?_, ?_, replaces⟩
  · rw [kind.containerForm, kind'.containerForm, marker]
  · rw [kind.isTest, kind'.isTest, marker]

theorem Container.TakenFrom.suits {container : Container} {bucket : Bucket}
    (taken : container.TakenFrom config bucket b) (h : b.HasIdentity config.naming identity)
    (kind : b.KindFromMarker) : container.Suits b := by
  have replaces := h.replaces
  rw [ContainerIdentity.replaces] at replaces
  cases test : b.marker.isTest with
  | true =>
    rw [test, if_pos rfl] at replaces
    have installation : container.installation = .test b.scope
        (identity.containerName config.naming b.marker.production) := by
      rw [taken.installation, Installation.ofBinding, replaces]
      exact if_pos (kind.isTest.trans test)
    refine ⟨taken.form, ?_, ?_⟩
    · rw [Container.isTest, installation, kind.isTest, test]
    · rw [installation, replaces]
      rfl
  | false =>
    rw [test] at replaces
    have none : b.replaces = none := replaces
    have installation : container.installation = .production b.scope := by
      rw [taken.installation, Installation.ofBinding, none]
    refine ⟨taken.form, ?_, ?_⟩
    · rw [Container.isTest, installation, kind.isTest, test]
    · rw [installation, none]
      rfl

theorem Container.Suits.of_sameKind {container : Container} (h : container.Suits b)
    (same : b.SameKind b') : container.Suits b' :=
  ⟨h.form.trans same.containerForm, h.isTest.trans same.isTest, h.replaces.trans same.replaces⟩

end Kinds

/-! ### What it depends on -/

/-- No suffix of a marker, with the separator in front of it, is the end of another one. -/
def Naming.SuffixesApart (naming : Naming) : Prop :=
  ∀ m ∈ Marker.all, ∀ m' ∈ Marker.all, m ≠ m' →
    ¬ EndsIn (naming.markerTail m) (naming.markerTail m')

instance (naming : Naming) : Decidable naming.SuffixesApart :=
  inferInstanceAs (Decidable (∀ m ∈ Marker.all, ∀ m' ∈ Marker.all, m ≠ m' →
    ¬ EndsIn (naming.markerTail m) (naming.markerTail m')))

theorem suffixesApart_default : Naming.default.SuffixesApart := by decide

section OneMarker
variable {config : Config} {program : Program}

/-- Bindings of different markers are not merged if no two of them have one container name. -/
theorem mergesNoMarkers_iff : MergesNoMarkers config program ↔
    ∀ b ∈ (program.resolution config).bindings, ∀ b' ∈ (program.resolution config).bindings,
      b.containerName = b'.containerName → b.marker = b'.marker := by
  rw [← Bucket.agree_iff]
  constructor
  · intro merges bucket hbucket b hb b' hb'
    exact ((merges bucket hbucket).1 b hb b' hb').marker
  · intro agree bucket hbucket
    have kinds : ∀ b ∈ bucket.bindings, ∀ b' ∈ bucket.bindings, b.SameKind b' := by
      intro b hb b' hb'
      obtain ⟨mem, name⟩ := Bucket.mem_bindings_of_mem hbucket hb
      obtain ⟨mem', name'⟩ := Bucket.mem_bindings_of_mem hbucket hb'
      obtain ⟨identity, h⟩ := bindings_hasIdentity mem
      obtain ⟨identity', h'⟩ := bindings_hasIdentity mem'
      exact sameKind_of_marker h h' (bindings_kindFromMarker mem) (bindings_kindFromMarker mem')
        (agree bucket hbucket b hb b' hb') (name.trans name'.symm)
    obtain ⟨container, hcontainer, made, first, hfirst, taken⟩ :=
      Container.exists_takenFrom config hbucket
    have mem := (Bucket.mem_bindings_of_mem hbucket hfirst).1
    obtain ⟨identity, h⟩ := bindings_hasIdentity mem
    refine ⟨kinds, container, hcontainer, made, fun b hb => ?_⟩
    exact (taken.suits h (bindings_kindFromMarker mem)).of_sameKind (kinds first hfirst b hb)

theorem mergesNoMarkers_of_suffixesApart (apart : config.naming.SuffixesApart)
    (program : Program) : MergesNoMarkers config program := by
  rw [mergesNoMarkers_iff]
  intro b hb b' hb' same
  obtain ⟨identity, h⟩ := bindings_hasIdentity hb
  obtain ⟨identity', h'⟩ := bindings_hasIdentity hb'
  rw [h.containerName, h'.containerName] at same
  by_contra ne
  rcases ContainerIdentity.markerTails_of_containerName_eq same with ends | ends
  · exact apart _ (Marker.mem_all _) _ (Marker.mem_all _) ne ends
  · exact apart _ (Marker.mem_all _) _ (Marker.mem_all _) (Ne.symm ne) ends

theorem not_mergesNoMarkers_madeToOrder (distinct : Function.Injective config.markers.classOf)
    (arguments : config.arguments.Distinct) {orders : List Order} {o o' : Order} (ho : o ∈ orders)
    (ho' : o' ∈ orders) (same : o.key ++ config.naming.scopeTail o.scope o.marker =
      o'.key ++ config.naming.scopeTail o'.scope o'.marker) (ne : o.marker ≠ o'.marker) :
    ¬ MergesNoMarkers config (madeToOrder config orders) := by
  intro kinds
  obtain ⟨bucket, hbucket, b, hb, b', hb', met, met'⟩ :=
    exists_bucket_madeToOrder distinct arguments ho ho' same
  have marker := ((kinds bucket hbucket).1 b hb b' hb').marker
  rw [met.marker, met'.marker] at marker
  exact ne marker

/-- Suffixes that are not apart let markers meet: what one suffix has in front of the other can be
the end of the name of a scope. -/
theorem exists_not_mergesNoMarkers (usable : config.fault? = none)
    (arguments : config.arguments.Distinct) (meet : ¬ config.naming.SuffixesApart) :
    ∃ program, ¬ MergesNoMarkers config program := by
  unfold Naming.SuffixesApart at meet
  push Not at meet
  obtain ⟨m, -, m', -, ne, front, tail⟩ := meet
  have distinct := (Config.fault?_eq_none_iff.mp usable).1
  let o : Order := ⟨m, .ofClass ⟨Order.package, ["Scope" ++ front]⟩, "", "First"⟩
  let o' : Order := ⟨m', .ofClass ⟨Order.package, ["Scope"]⟩, "", "Second"⟩
  have same : o.key ++ config.naming.scopeTail o.scope o.marker =
      o'.key ++ config.naming.scopeTail o'.scope o'.marker := by
    have name : o.scope.raw.simpleName = "Scope" ++ front := rfl
    have name' : o'.scope.raw.simpleName = "Scope" := rfl
    rw [Naming.scopeTail, Naming.scopeTail, name, name', tail]
    simp only [o, o', String.append_assoc]
  exact ⟨madeToOrder config [o, o'],
    not_mergesNoMarkers_madeToOrder distinct arguments (by simp) (by simp) same ne⟩

/-- **Containers of different markers are kept apart** in a program just if container names tell the
markers of its bindings apart. They are in every program if no suffix behind its separator is the end
of another one, and if one is, there is a program where they are merged. -/
theorem mergesNoMarkers_exactly (config : Config) :
    (∀ program, MergesNoMarkers config program ↔
      ∀ b ∈ (program.resolution config).bindings, ∀ b' ∈ (program.resolution config).bindings,
        b.containerName = b'.containerName → b.marker = b'.marker) ∧
    (config.naming.SuffixesApart → ∀ program, MergesNoMarkers config program) ∧
    (config.fault? = none → config.arguments.Distinct → ¬ config.naming.SuffixesApart →
      ∃ program, ¬ MergesNoMarkers config program) :=
  ⟨fun _ => mergesNoMarkers_iff, mergesNoMarkers_of_suffixesApart, exists_not_mergesNoMarkers⟩

end OneMarker

/-- The default configuration never merges containers of different markers. -/
theorem mergesNoMarkers_default : Naming.default.SuffixesApart ∧
    ∀ program, MergesNoMarkers .default program :=
  ⟨suffixesApart_default, (mergesNoMarkers_exactly .default).2.1 suffixesApart_default⟩

/-- The default configuration, but for a suffix for factories that ends like the one for types. -/
def Config.withEqualEnds : Config :=
  { Config.default with naming := { Naming.default with factorySuffix := "X_Module" } }

/-- A configuration can have different suffixes and yet merge the containers of types and of
factories. -/
theorem not_mergesNoMarkers_withEqualEnds :
    Config.withEqualEnds.fault? = none ∧
      ¬ MergesNoMarkers .withEqualEnds (madeToOrder .withEqualEnds
        [⟨⟨.bind, .production⟩, .ofClass ⟨"com.example", ["Scope_X"]⟩, "", "First"⟩,
          ⟨⟨.factory, .production⟩, .ofClass ⟨"com.example", ["Scope"]⟩, "", "Second"⟩]) := by
  have usable : Config.withEqualEnds.fault? = none := by decide
  have distinct := (Config.fault?_eq_none_iff.mp usable).1
  exact ⟨usable, not_mergesNoMarkers_madeToOrder distinct (by decide) List.mem_cons_self
    (List.mem_cons_of_mem _ List.mem_cons_self) (by decide) (by decide)⟩

end BindingPlan
