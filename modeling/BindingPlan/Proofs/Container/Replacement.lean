import BindingPlan.Proofs.Container.OneMarker

/-! # What a test container replaces

A test container names the container that it replaces, and nothing checks that there is one. If a
container of the pass has that name, it is the right one: it is for production, has the same form,
and every binding in it has the production marker of the family that the test container is for
(`replaces_production`). Names are compared as texts here, because that is how they are handed on.

This takes suffixes that are apart. The text of a name may have separators everywhere, and all that
it says of the marker is how it ends. -/

namespace BindingPlan

variable {config : Config} {program : Program}

/-- The bindings that a pass groups in a container. -/
def Program.groupedIn (config : Config) (program : Program) (container : Container) :
    List Binding :=
  Bucket.share (program.resolution config).bindings container.name

/-! ### Containers and their bindings -/

theorem Program.exists_bucket_of_mem {container : Container}
    (h : container ∈ (program.plan config).containers) :
    ∃ bucket ∈ Bucket.ofBindings (program.resolution config).bindings,
      Container.ofBucket? config bucket = some container ∧
        bucket.bindings = program.groupedIn config container := by
  obtain ⟨bucket, hbucket, made⟩ := List.mem_filterMap.mp h
  obtain ⟨first, taken⟩ := Container.ofBucket?_spec made
  refine ⟨bucket, hbucket, made, ?_⟩
  rw [groupedIn, taken.name]
  exact (Bucket.mem_ofBindings.mp hbucket).2

theorem Program.groupedIn_ne_nil {container : Container}
    (h : container ∈ (program.plan config).containers) :
    program.groupedIn config container ≠ [] := by
  obtain ⟨bucket, hbucket, -, grouped⟩ := Program.exists_bucket_of_mem h
  rw [← grouped]
  exact Bucket.bindings_ne_nil hbucket

theorem MergesNoMarkers.suits (merges : MergesNoMarkers config program) {container : Container}
    (h : container ∈ (program.plan config).containers) {b : Binding}
    (hb : b ∈ program.groupedIn config container) : container.Suits b := by
  obtain ⟨bucket, hbucket, made, grouped⟩ := Program.exists_bucket_of_mem h
  obtain ⟨-, other, -, made', suits⟩ := merges bucket hbucket
  obtain rfl : container = other := Option.some.inj (made.symm.trans made')
  exact suits b (grouped ▸ hb)

theorem Program.exists_identity_of_groupedIn {container : Container} {b : Binding}
    (hb : b ∈ program.groupedIn config container) : ∃ identity,
      b.HasIdentity config.naming identity ∧
        container.name = identity.containerName config.naming b.marker := by
  obtain ⟨mem, name⟩ := Bucket.mem_share.mp hb
  obtain ⟨identity, h⟩ := bindings_hasIdentity mem
  exact ⟨identity, h, name.symm.trans h.containerName⟩

/-! ### The end of the text of a name -/

theorem EndsIn.append {tail text : String} (h : EndsIn tail text) (start : String) :
    EndsIn tail (start ++ text) := by
  obtain ⟨more, rfl⟩ := h
  exact ⟨start ++ more, (String.append_assoc ..).symm⟩

theorem ContainerIdentity.endsIn_dotted (identity : ContainerIdentity) (naming : Naming)
    (marker : Marker) :
    EndsIn (naming.markerTail marker) (identity.containerName naming marker).dotted := by
  have simple : EndsIn (naming.markerTail marker)
      (String.intercalate "." [identity.simpleName naming marker]) := by
    rw [String.intercalate_singleton]
    exact endsIn_markerTail identity marker
  rw [containerName, ClassName.dotted]
  split_ifs
  · exact simple
  · exact simple.append _

/-- Names with one text are those of one marker, if suffixes are apart. -/
theorem Naming.SuffixesApart.marker_eq {naming : Naming} (apart : naming.SuffixesApart)
    {identity identity' : ContainerIdentity} {marker marker' : Marker}
    (same : (identity.containerName naming marker).dotted =
      (identity'.containerName naming marker').dotted) : marker = marker' := by
  by_contra ne
  have ends := identity.endsIn_dotted naming marker
  rw [same] at ends
  rcases endsIn_or_endsIn ends (identity'.endsIn_dotted naming marker') with ends | ends
  · exact apart _ (Marker.mem_all _) _ (Marker.mem_all _) ne ends
  · exact apart _ (Marker.mem_all _) _ (Marker.mem_all _) (Ne.symm ne) ends

/-! ### Replacement -/

/-- What a test container replaces has the name of a production container: that of one of its
bindings, but for the marker. -/
theorem Container.Suits.exists_replaced {container : Container} {t : Binding}
    {identity : ContainerIdentity} {scope : TypeRef} {replaced : ClassName}
    (suits : container.Suits t) (h : t.HasIdentity config.naming identity)
    (installed : container.installation = .test scope replaced) :
    replaced = identity.containerName config.naming t.marker.production := by
  have replaces := suits.replaces
  rw [installed, h.replaces, ContainerIdentity.replaces] at replaces
  split_ifs at replaces
  · exact Option.some.inj replaces
  · cases replaces

theorem marker_of_replaced (apart : config.naming.SuffixesApart) {test replaced : Container}
    (htest : test ∈ (program.plan config).containers) {scope : TypeRef} {name : ClassName}
    (installed : test.installation = .test scope name) (same : name.dotted = replaced.name.dotted)
    {b t : Binding} (hb : b ∈ program.groupedIn config replaced)
    (ht : t ∈ program.groupedIn config test) : b.marker = t.marker.production := by
  have merges := mergesNoMarkers_of_suffixesApart apart program
  obtain ⟨identity, h, -⟩ := Program.exists_identity_of_groupedIn ht
  obtain ⟨identity', -, own⟩ := Program.exists_identity_of_groupedIn hb
  rw [(merges.suits htest ht).exists_replaced h installed, own] at same
  exact (apart.marker_eq same).symm

/-- **What a test container replaces**, if suffixes are apart and there is a container of that name. -/
theorem replaces_of_suffixesApart (apart : config.naming.SuffixesApart) {test replaced : Container}
    (htest : test ∈ (program.plan config).containers)
    (hreplaced : replaced ∈ (program.plan config).containers) {scope : TypeRef} {name : ClassName}
    (installed : test.installation = .test scope name)
    (same : name.dotted = replaced.name.dotted) :
    replaced.isTest = false ∧ replaced.form = test.form ∧
      ∀ b ∈ program.groupedIn config replaced, ∀ t ∈ program.groupedIn config test,
        b.marker = t.marker.production := by
  have merges := mergesNoMarkers_of_suffixesApart apart program
  have markers : ∀ b ∈ program.groupedIn config replaced, ∀ t ∈ program.groupedIn config test,
      b.marker = t.marker.production :=
    fun b hb t ht => marker_of_replaced apart htest installed same hb ht
  obtain ⟨b, hb⟩ := List.exists_mem_of_ne_nil _ (Program.groupedIn_ne_nil hreplaced)
  obtain ⟨t, ht⟩ := List.exists_mem_of_ne_nil _ (Program.groupedIn_ne_nil htest)
  have marker := markers b hb t ht
  have kind := bindings_kindFromMarker (Bucket.mem_share.mp hb).1
  have kind' := bindings_kindFromMarker (Bucket.mem_share.mp ht).1
  refine ⟨?_, ?_, markers⟩
  · rw [(merges.suits hreplaced hb).isTest, kind.isTest, marker]
    rfl
  · rw [(merges.suits hreplaced hb).form, (merges.suits htest ht).form, kind.containerForm,
      kind'.containerForm, marker]
    rfl

/-- **A test container replaces a production container of its kind.** Under default naming, a container
that has the name that a test container replaces is for production and has the same form, and each
binding in it has the production marker of the family of each binding in the test container. So no
test container replaces itself or another one. -/
theorem replaces_production (naming : config.naming = .default) (program : Program) :
    (∀ test ∈ (program.plan config).containers, ∀ replaced ∈ (program.plan config).containers,
      ∀ scope name, test.installation = .test scope name → name.dotted = replaced.name.dotted →
        (∃ scope', replaced.installation = .production scope') ∧ replaced.form = test.form ∧
          ∀ b ∈ program.groupedIn config replaced, ∀ t ∈ program.groupedIn config test,
            b.marker = t.marker.production) ∧
    ∀ test ∈ (program.plan config).containers, ∀ other ∈ (program.plan config).containers,
      ∀ scope name scope' name', test.installation = .test scope name →
        other.installation = .test scope' name' → name.dotted ≠ other.name.dotted := by
  have apart : config.naming.SuffixesApart := naming ▸ suffixesApart_default
  constructor
  · intro test htest replaced hreplaced scope name installed same
    obtain ⟨production, form, markers⟩ :=
      replaces_of_suffixesApart apart htest hreplaced installed same
    refine ⟨?_, form, markers⟩
    cases installation : replaced.installation with
    | production scope' => exact ⟨scope', rfl⟩
    | test scope' name' => simp [Container.isTest, installation] at production
  · intro test htest other hother scope name scope' name' installed installed' same
    have production := (replaces_of_suffixesApart apart htest hother installed same).1
    simp [Container.isTest, installed'] at production

theorem exists_replaced_madeToOrder (apart : config.naming.SuffixesApart)
    (distinct : Function.Injective config.markers.classOf) (arguments : config.arguments.Distinct)
    {orders : List Order} {o o' : Order} (ho : o ∈ orders) (ho' : o' ∈ orders)
    (test : o.marker.isTest = true) (marker : o'.marker = o.marker.production)
    (scope : o'.scope = o.scope) (key : o'.key = o.key) :
    ∃ test ∈ ((madeToOrder config orders).plan config).containers,
      ∃ replaced ∈ ((madeToOrder config orders).plan config).containers,
        ∃ scope, test.installation = .test scope replaced.name := by
  have merges := mergesNoMarkers_of_suffixesApart apart (madeToOrder config orders)
  have all := (exists_of_forall₂ (bindings_madeToOrder distinct arguments orders)).1
  obtain ⟨t, ht, met⟩ := all o ho
  obtain ⟨b, hb, met'⟩ := all o' ho'
  obtain ⟨bucket, hbucket, mem, -⟩ := Bucket.exists_bucket ht ht rfl
  obtain ⟨bucket', hbucket', mem', -⟩ := Bucket.exists_bucket hb hb rfl
  obtain ⟨-, container, hcontainer, -, suits⟩ := merges bucket hbucket
  obtain ⟨replaced, hreplaced, -, _, -, taken⟩ := Container.exists_takenFrom config hbucket'
  refine ⟨container, hcontainer, replaced, hreplaced, ?_⟩
  have name : replaced.name = o.identity.containerName config.naming o.marker.production := by
    rw [taken.name, ← (Bucket.mem_bindings_of_mem hbucket' mem').2, met'.containerName, marker, scope,
      key, o.containerName_identity]
  have replaces := (suits t mem).replaces
  rw [met.hasIdentity.replaces, met.marker, ContainerIdentity.replaces, if_pos test, ← name]
    at replaces
  cases installation : container.installation with
  | production scope' => simp [installation, Installation.replaces?] at replaces
  | test scope' name' =>
    rw [installation] at replaces
    exact ⟨scope', by rw [Option.some.inj replaces]⟩

/-- A class for production. -/
def Order.exampleReal : Order :=
  ⟨⟨.bind, .production⟩, .ofClass ⟨"com.example", ["Scope"]⟩, "", "Real"⟩

/-- A class for tests in its place. -/
def Order.exampleFake : Order :=
  ⟨⟨.bind, .test⟩, .ofClass ⟨"com.example", ["Scope"]⟩, "", "Fake"⟩

theorem replaces_production_exampleFake :
    let program := madeToOrder .default [.exampleFake, .exampleReal]
    ∃ test ∈ (program.plan .default).containers, ∃ replaced ∈ (program.plan .default).containers,
      (∃ scope, test.installation = .test scope replaced.name) ∧
        (∃ scope, replaced.installation = .production scope) ∧ replaced.form = test.form := by
  intro program
  have distinct := (Config.fault?_eq_none_iff.mp Config.fault?_default).1
  have fake : Order.exampleFake ∈ [.exampleFake, .exampleReal] := List.mem_cons_self
  have real : Order.exampleReal ∈ [.exampleFake, .exampleReal] :=
    List.mem_cons_of_mem _ List.mem_cons_self
  obtain ⟨test, htest, replaced, hreplaced, scope, installed⟩ :=
    exists_replaced_madeToOrder suffixesApart_default distinct (by decide) fake real rfl rfl rfl rfl
  have right := (replaces_production rfl program).1 test htest replaced hreplaced scope _ installed rfl
  exact ⟨test, htest, replaced, hreplaced, ⟨scope, installed⟩, right.1, right.2.1⟩

end BindingPlan
