import BindingPlan.Container.OfBucket
import BindingPlan.Pass
import BindingPlan.Proofs.Bucket.Partition

/-! # The containers of a pass

What a member takes from its binding, what a container takes from its bucket, in one statement
(`Container.ofBucket?_spec`), and the containers of some bindings (`Container.ofBindings_eq`): no
bucket is dropped, since none is empty. -/

namespace BindingPlan

variable {config : Config}

theorem name_ofBinding (b : Binding) : (Member.ofBinding config b).name = b.memberName := by
  unfold Member.ofBinding
  split <;> rfl

theorem returnType_ofBinding (b : Binding) : (Member.ofBinding config b).returnType = b.exposed := by
  unfold Member.ofBinding
  split <;> rfl

theorem annotations_ofBinding (b : Binding) :
    (Member.ofBinding config b).annotations = memberAnnotations config b := by
  unfold Member.ofBinding
  split <;> rfl

/-- What a container takes from its bucket, whose first binding is `first`. -/
structure Container.TakenFrom (config : Config) (container : Container) (bucket : Bucket)
    (first : Binding) : Prop where
  head : bucket.bindings.head? = some first
  name : container.name = bucket.name
  form : container.form = first.containerForm
  installation : container.installation = .ofBinding first
  annotations : container.annotations =
    [.ofClass config.framework.module, config.framework.installer container.installation]
  members : container.members = bucket.bindings.map (Member.ofBinding config)

theorem Container.ofBucket?_spec {bucket : Bucket} {container : Container}
    (h : Container.ofBucket? config bucket = some container) :
    ∃ first, container.TakenFrom config bucket first := by
  obtain ⟨name, bindings⟩ := bucket
  cases bindings with
  | nil => cases h
  | cons first rest =>
    cases h
    exact ⟨first, rfl, rfl, rfl, rfl, rfl, rfl⟩

theorem Container.exists_ofBucket? {bucket : Bucket} (h : bucket.bindings ≠ []) :
    ∃ container, Container.ofBucket? config bucket = some container := by
  obtain ⟨name, bindings⟩ := bucket
  cases bindings with
  | nil => exact absurd rfl h
  | cons first rest => exact ⟨_, rfl⟩

theorem Container.exists_takenFrom (config : Config) {bindings : List Binding} {bucket : Bucket}
    (h : bucket ∈ Bucket.ofBindings bindings) :
    ∃ container ∈ Container.ofBindings config bindings,
      Container.ofBucket? config bucket = some container ∧
        ∃ first ∈ bucket.bindings, container.TakenFrom config bucket first := by
  obtain ⟨container, made⟩ : ∃ c, Container.ofBucket? config bucket = some c :=
    Container.exists_ofBucket? (Bucket.bindings_ne_nil h)
  obtain ⟨first, taken⟩ := Container.ofBucket?_spec made
  exact ⟨container, List.mem_filterMap.mpr ⟨bucket, h, made⟩, made, first,
    List.mem_of_head? taken.head, taken⟩

/-- Buckets with bindings in them give one container each, in their order. -/
theorem map_filterMap_ofBucket? : ∀ {buckets : List Bucket},
    (∀ bucket ∈ buckets, bucket.bindings ≠ []) →
      (buckets.filterMap (Container.ofBucket? config)).map (fun c => (c.name, c.members)) =
        buckets.map fun bucket => (bucket.name, bucket.bindings.map (Member.ofBinding config))
  | [], _ => rfl
  | bucket :: rest, full => by
    obtain ⟨head, tail⟩ := List.forall_mem_cons.mp full
    obtain ⟨container, hcontainer⟩ : ∃ c, Container.ofBucket? config bucket = some c :=
      Container.exists_ofBucket? head
    obtain ⟨first, taken⟩ := Container.ofBucket?_spec hcontainer
    rw [List.filterMap_cons_some hcontainer, List.map_cons, List.map_cons, taken.name,
      taken.members, map_filterMap_ofBucket? tail]

/-- **The containers of some bindings**: one for each container name, in the order in which the names
first occur, with the members of the bindings of that name. -/
theorem Container.ofBindings_eq (config : Config) (bindings : List Binding) :
    (Container.ofBindings config bindings).map (fun c => (c.name, c.members)) =
      (Bucket.namesOf bindings).map fun name =>
        (name, (Bucket.share bindings name).map (Member.ofBinding config)) := by
  rw [Container.ofBindings, map_filterMap_ofBucket? fun _ => Bucket.bindings_ne_nil,
    Bucket.ofBindings_eq, List.map_map]
  rfl

end BindingPlan
