import BindingPlan.Proofs.Bucket.Partition
import Mathlib.Data.Multiset.Defs

/-! # Bucketing anew

There is one stable partition of some bindings by container name, and it is the one computed
(`Bucket.stablePartition_iff`). Bindings in another order give buckets with the same contents
(`Bucket.contents_perm`). The bindings of some buckets, one bucket behind the other, give these
buckets again, if the buckets have names of their own and each holds bindings of its name
(`Bucket.ofBindings_flatMap`); so to bucket what comes out of buckets changes nothing. -/

namespace BindingPlan

namespace Bucket

variable {bindings others : List Binding} {buckets front : List Bucket} {name : ClassName}
  {b : Binding}

/-! ### First occurrences of names -/

/-- The position of the first binding with a container name. -/
def firstIndex (bindings : List Binding) (name : ClassName) : Nat :=
  bindings.findIdx (·.containerName == name)

theorem firstIndex_eq (bindings : List Binding) (name : ClassName) :
    firstIndex bindings name = (bindings.map (·.containerName)).idxOf name :=
  (idxOf_map Binding.containerName bindings name).symm

theorem pairwise_namesOf (bindings : List Binding) : (namesOf bindings).Pairwise
    fun name name' => firstIndex bindings name < firstIndex bindings name' := by
  simp only [firstIndex_eq]
  exact pairwise_eraseDups _

/-! ### One stable partition -/

/-- The buckets are a stable partition of the bindings by container name. -/
structure StablePartition (bindings : List Binding) (buckets : List Bucket) : Prop where
  /-- There are buckets for the names that occur. -/
  names : ∀ name, name ∈ buckets.map (·.name) ↔ ∃ b ∈ bindings, b.containerName = name
  /-- There is one for each, and they stand in the order in which the names first occur. -/
  order : (buckets.map (·.name)).Pairwise
    fun name name' => firstIndex bindings name < firstIndex bindings name'
  /-- A bucket holds all bindings of its name, in their order. -/
  share : ∀ bucket ∈ buckets, bucket.bindings = share bindings bucket.name

theorem map_name_ofBindings (bindings : List Binding) :
    (ofBindings bindings).map (·.name) = namesOf bindings := by
  rw [ofBindings_eq, List.map_map]
  exact List.map_id _

theorem stablePartition_ofBindings (bindings : List Binding) :
    StablePartition bindings (ofBindings bindings) where
  names name := by rw [map_name_ofBindings, mem_namesOf]
  order := by
    rw [map_name_ofBindings]
    exact pairwise_namesOf bindings
  share _ mem := (mem_ofBindings.mp mem).2

theorem StablePartition.map_name (h : StablePartition bindings buckets) :
    buckets.map (·.name) = namesOf bindings := by
  refine eq_eraseDups_iff.mpr ⟨fun name => ?_, ?_⟩
  · rw [h.names, List.mem_map]
  · simpa only [firstIndex_eq] using h.order

/-- **Buckets are the stable partition**, and there is no other one. -/
theorem stablePartition_iff : StablePartition bindings buckets ↔ buckets = ofBindings bindings := by
  constructor
  · intro h
    rw [ofBindings_eq, ← h.map_name, List.map_map]
    refine (List.map_id buckets).symm.trans (List.map_congr_left fun bucket mem => ?_)
    rw [id, Function.comp_apply, ← h.share bucket mem]
  · rintro rfl
    exact stablePartition_ofBindings bindings

/-! ### Another order -/

/-- The contents of a bucket: its name, and its bindings without their order. -/
def contents (bucket : Bucket) : ClassName × Multiset Binding :=
  (bucket.name, bucket.bindings)

theorem map_contents_ofBindings (bindings : List Binding) :
    (ofBindings bindings).map contents =
      (namesOf bindings).map fun name => (name, (share bindings name : Multiset Binding)) := by
  rw [ofBindings_eq, List.map_map]
  rfl

theorem namesOf_perm (h : others.Perm bindings) : (namesOf others).Perm (namesOf bindings) :=
  (List.perm_ext_iff_of_nodup (nodup_namesOf others) (nodup_namesOf bindings)).mpr fun name => by
    simp only [mem_namesOf, h.mem_iff]

/-- **The order of the bindings** has no influence on the contents of the buckets. -/
theorem contents_perm (h : others.Perm bindings) :
    ((ofBindings others).map contents).Perm ((ofBindings bindings).map contents) := by
  have shares (name : ClassName) :
      (share others name : Multiset Binding) = (share bindings name : Multiset Binding) :=
    Multiset.coe_eq_coe.mpr (h.filter _)
  simp only [map_contents_ofBindings, shares]
  exact (namesOf_perm h).map _

/-! ### Buckets out of buckets -/

/-- The bucket holds something, and all of it under its own name. -/
def Sound (bucket : Bucket) : Prop :=
  bucket.bindings ≠ [] ∧ ∀ b ∈ bucket.bindings, b.containerName = bucket.name

theorem sound_of_mem_ofBindings {bucket : Bucket} (h : bucket ∈ ofBindings bindings) :
    bucket.Sound :=
  ⟨bindings_ne_nil h, fun _ mem => (mem_bindings_of_mem h mem).2⟩

theorem insert_last {gathered : List Binding} : ∀ {front : List Bucket},
    (∀ bucket ∈ front, bucket.name ≠ b.containerName) →
      insert b (front ++ [⟨b.containerName, gathered⟩]) =
        front ++ [⟨b.containerName, gathered ++ [b]⟩]
  | [], _ => by rw [List.nil_append, insert, if_pos rfl, List.nil_append]
  | bucket :: rest, new => by
    obtain ⟨head, tail⟩ := List.forall_mem_cons.mp new
    rw [List.cons_append, insert, if_neg head, insert_last tail, List.cons_append]

/-- **Bindings of one name in a row** all join the last bucket, if that has their name. -/
theorem foldl_insert_last (new : ∀ bucket ∈ front, bucket.name ≠ name) {rest : List Binding}
    (named : ∀ b ∈ rest, b.containerName = name) (gathered : List Binding) :
    rest.foldl (fun buckets b => insert b buckets) (front ++ [⟨name, gathered⟩]) =
      front ++ [⟨name, gathered ++ rest⟩] := by
  induction rest generalizing gathered with
  | nil => rw [List.foldl_nil, List.append_nil]
  | cons b rest ih =>
    obtain ⟨rfl, named⟩ := List.forall_mem_cons.mp named
    rw [List.foldl_cons, insert_last new, ih named, List.append_assoc]
    rfl

/-- **Sound buckets with names of their own** are the buckets of the bindings in them. -/
theorem ofBindings_flatMap (distinct : (buckets.map (·.name)).Nodup)
    (sound : ∀ bucket ∈ buckets, bucket.Sound) :
    ofBindings (buckets.flatMap (·.bindings)) = buckets := by
  induction buckets using List.reverseRecOn with
  | nil => rfl
  | append_singleton front bucket ih =>
    rw [List.map_append, List.nodup_append] at distinct
    obtain ⟨distinct, -, apart⟩ := distinct
    obtain ⟨earlier, last⟩ := List.forall_mem_append.mp sound
    have new : ∀ other ∈ front, other.name ≠ bucket.name := fun other mem =>
      apart other.name (List.mem_map_of_mem mem) bucket.name (by simp)
    obtain ⟨occupied, named⟩ := last bucket (List.mem_singleton_self bucket)
    obtain ⟨name, gathered⟩ := bucket
    obtain ⟨first, rest, rfl⟩ := List.exists_cons_of_ne_nil occupied
    obtain ⟨rfl, named⟩ := List.forall_mem_cons.mp named
    have before := ih distinct earlier
    rw [ofBindings] at before ⊢
    rw [List.flatMap_append, List.foldl_append, before, List.flatMap_singleton, List.foldl_cons,
      insert_of_new new, foldl_insert_last new named]
    rfl

/-- **Bucketing** computes the one stable partition by container name, without empty buckets. The
order of the bindings does not show in the contents, and bucketing what comes out of the buckets
changes nothing. -/
theorem ofBindings_regrouped (bindings : List Binding) :
    (∀ buckets, StablePartition bindings buckets ↔ buckets = ofBindings bindings) ∧
    (∀ bucket ∈ ofBindings bindings, bucket.bindings ≠ []) ∧
    (∀ others : List Binding, others.Perm bindings →
      ((ofBindings others).map contents).Perm ((ofBindings bindings).map contents)) ∧
    ofBindings ((ofBindings bindings).flatMap (·.bindings)) = ofBindings bindings := by
  refine ⟨fun _ => stablePartition_iff, fun _ => bindings_ne_nil, fun _ => contents_perm, ?_⟩
  refine ofBindings_flatMap ?_ fun _ => sound_of_mem_ofBindings
  rw [map_name_ofBindings]
  exact nodup_namesOf bindings

/-- A binding of a class in a container. -/
def exampleIn (container name : String) : Binding where
  origin := .type ⟨⟨"com.example", [name]⟩, .plainClass, false, [], [], .publicAccess,
    some ⟨"Things.kt", "com.example"⟩⟩
  marker := ⟨.bind, .production⟩
  exposed := .ofClass ⟨"com.example", [name]⟩
  scope := .ofClass ⟨"com.example", ["Scope"]⟩
  containerForm := .interface
  containerName := ⟨"com.example", [container]⟩
  isTest := false
  replaces := none
  memberName := "bind" ++ name
  carried := []
  contribution := .single
  visibility := .publicAccess
  location := ⟨"Things.kt", "com.example"⟩
  supplier := .implementation (.ofClass ⟨"com.example", [name]⟩)

theorem ofBindings_regrouped_exampleIn :
    let a := exampleIn "First" "A"
    let b := exampleIn "Second" "B"
    let c := exampleIn "First" "C"
    ofBindings [a, c, b] = ofBindings [a, b, c] ∧
      ((ofBindings [b, a, c]).map contents).Perm ((ofBindings [a, b, c]).map contents) := by
  intro a b c
  obtain ⟨-, -, contents, again⟩ := ofBindings_regrouped [a, b, c]
  exact ⟨again, contents [b, a, c] (.swap a b [c])⟩

end Bucket

end BindingPlan
