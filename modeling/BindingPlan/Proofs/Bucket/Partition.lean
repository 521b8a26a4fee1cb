import BindingPlan.Bucket
import Mathlib.Data.List.Induction
import Mathlib.Data.List.Nodup
import Mathlib.Data.List.Perm.Basic
import Mathlib.Tactic.Set

/-! # Buckets are a partition

The buckets of some bindings are the stable partition of these by container name: one bucket for
each name, in the order in which the names first occur, with all bindings of the name in their order
(`Bucket.ofBindings_eq`). One step of the gathering keeps that shape (`Bucket.insert_partition`), and
so a whole run has it. -/

namespace BindingPlan

/-! ### First occurrences -/

theorem idxOf_map {α κ : Type} [BEq κ] (key : α → κ) (l : List α) (k : κ) :
    (l.map key).idxOf k = l.findIdx (key · == k) := by
  rw [List.idxOf, List.findIdx_map]
  rfl

section FirstOccurrences
variable {α : Type} [BEq α] [LawfulBEq α]

theorem eraseDups_concat (l : List α) (a : α) :
    (l ++ [a]).eraseDups = if a ∈ l then l.eraseDups else l.eraseDups ++ [a] := by
  rw [List.eraseDups_append]
  split_ifs with h
  · have gone : [a].removeAll l = [] := by simp [List.removeAll, h]
    simp [gone]
  · have kept : [a].removeAll l = [a] := by simp [List.removeAll, h]
    simp [kept, List.eraseDups_cons]

theorem nodup_eraseDups (l : List α) : l.eraseDups.Nodup := by
  induction l using List.reverseRecOn with
  | nil => simp
  | append_singleton l a ih =>
    rw [eraseDups_concat]
    split_ifs with h
    · exact ih
    · rw [List.nodup_append]
      refine ⟨ih, by simp, ?_⟩
      intro b hb c hc e
      rw [List.mem_singleton] at hc
      exact h (by rw [← hc, ← e]; exact List.mem_eraseDups.mp hb)

theorem pairwise_eraseDups (l : List α) :
    l.eraseDups.Pairwise fun a b => l.idxOf a < l.idxOf b := by
  induction l using List.reverseRecOn with
  | nil => exact .nil
  | append_singleton l a ih =>
    have earlier : l.eraseDups.Pairwise fun b c => (l ++ [a]).idxOf b < (l ++ [a]).idxOf c := by
      refine ih.imp_of_mem fun {b c} hb hc lt => ?_
      rwa [List.idxOf_append_of_mem (List.mem_eraseDups.mp hb),
        List.idxOf_append_of_mem (List.mem_eraseDups.mp hc)]
    rw [eraseDups_concat]
    split_ifs with h
    · exact earlier
    · refine List.pairwise_append.mpr ⟨earlier, List.pairwise_singleton _ _, ?_⟩
      intro b hb c hc
      have mem : b ∈ l := List.mem_eraseDups.mp hb
      have before : l.idxOf b < l.length := List.idxOf_lt_length_of_mem mem
      rw [List.mem_singleton.mp hc, List.idxOf_append_of_mem mem, List.idxOf_append_of_notMem h]
      omega

/-- **The first occurrences** are the one list with the same items in the order in which these first
occur. -/
theorem eq_eraseDups_iff {firsts l : List α} : firsts = l.eraseDups ↔
    (∀ a, a ∈ firsts ↔ a ∈ l) ∧ firsts.Pairwise fun a b => l.idxOf a < l.idxOf b := by
  constructor
  · rintro rfl
    exact ⟨fun _ => List.mem_eraseDups, pairwise_eraseDups l⟩
  · rintro ⟨same, order⟩
    have distinct : firsts.Nodup := order.imp fun lt e => by
      rw [e] at lt
      exact Nat.lt_irrefl _ lt
    have perm : firsts.Perm l.eraseDups :=
      (List.perm_ext_iff_of_nodup distinct (nodup_eraseDups l)).mpr fun a => by
        rw [same, List.mem_eraseDups]
    exact perm.eq_of_pairwise (fun _ _ _ _ lt gt => absurd lt (Nat.lt_asymm gt)) order
      (pairwise_eraseDups l)

end FirstOccurrences

/-! ### Lists divided by keys -/

/-- The parts of a list for distinct keys, if every key of an item is among them, hold every item
exactly once. -/
theorem flatMap_filter_perm {α κ : Type} [DecidableEq κ] (key : α → κ) :
    ∀ {keys : List κ} {l : List α}, keys.Nodup → (∀ a ∈ l, key a ∈ keys) →
      (keys.flatMap fun k => l.filter (key · == k)).Perm l
  | [], l, _, all => by
    have none : l = [] := List.eq_nil_iff_forall_not_mem.mpr fun a ha => by simpa using all a ha
    simp [none]
  | k :: keys, l, distinct, all => by
    obtain ⟨fresh, distinct⟩ := List.nodup_cons.mp distinct
    -- the parts of the other keys do not change when the items of `k` are left out
    set others := l.filter (!key · == k) with hothers
    have same : ∀ k' ∈ keys, l.filter (key · == k') = others.filter (key · == k') := by
      intro k' hk'
      rw [hothers, List.filter_filter]
      refine List.filter_congr fun a _ => ?_
      by_cases h : key a = k'
      · have ne : k' ≠ k := fun e => fresh (e ▸ hk')
        simp [h, ne]
      · simp [h]
    have ih : (keys.flatMap fun k' => others.filter (key · == k')).Perm others := by
      refine flatMap_filter_perm key distinct fun a ha => ?_
      rw [hothers, List.mem_filter] at ha
      have ne : key a ≠ k := by simpa using ha.2
      exact (List.mem_cons.mp (all a ha.1)).resolve_left ne
    rw [List.flatMap_cons, List.flatMap_congr same]
    refine (ih.append_left _).trans ?_
    simpa [hothers] using List.filter_append_perm (key · == k) l

namespace Bucket

/-! ### The shape of the partition -/

/-- The names of the containers of some bindings, in the order in which they first occur. -/
def namesOf (bindings : List Binding) : List ClassName :=
  (bindings.map (·.containerName)).eraseDups

/-- The bindings with a container name, in their order. -/
def share (bindings : List Binding) (name : ClassName) : List Binding :=
  bindings.filter (·.containerName == name)

theorem nodup_namesOf (bindings : List Binding) : (namesOf bindings).Nodup :=
  nodup_eraseDups _

theorem mem_namesOf {bindings : List Binding} {name : ClassName} :
    name ∈ namesOf bindings ↔ ∃ b ∈ bindings, b.containerName = name := by
  simp [namesOf, List.mem_eraseDups]

theorem mem_share {bindings : List Binding} {name : ClassName} {b : Binding} :
    b ∈ share bindings name ↔ b ∈ bindings ∧ b.containerName = name := by
  simp [share]

theorem namesOf_concat (bindings : List Binding) (b : Binding) :
    namesOf (bindings ++ [b]) =
      if b.containerName ∈ namesOf bindings then namesOf bindings
      else namesOf bindings ++ [b.containerName] := by
  simp only [namesOf, List.map_append, List.map_cons, List.map_nil, eraseDups_concat,
    List.mem_eraseDups]

theorem share_concat_same (bindings : List Binding) (b : Binding) :
    share (bindings ++ [b]) b.containerName = share bindings b.containerName ++ [b] := by
  simp [share]

theorem share_concat_other {bindings : List Binding} {b : Binding} {name : ClassName}
    (other : b.containerName ≠ name) : share (bindings ++ [b]) name = share bindings name := by
  simp [share, other]

theorem share_eq_nil {bindings : List Binding} {name : ClassName}
    (new : name ∉ namesOf bindings) : share bindings name = [] := by
  rw [List.eq_nil_iff_forall_not_mem]
  intro b hb
  obtain ⟨mem, named⟩ := mem_share.mp hb
  exact new (mem_namesOf.mpr ⟨b, mem, named⟩)

/-! ### Gathering -/

theorem insert_of_new {b : Binding} : ∀ {buckets : List Bucket},
    (∀ bucket ∈ buckets, bucket.name ≠ b.containerName) →
      insert b buckets = buckets ++ [⟨b.containerName, [b]⟩]
  | [], _ => rfl
  | bucket :: rest, new => by
    obtain ⟨head, tail⟩ := List.forall_mem_cons.mp new
    rw [insert, if_neg head, insert_of_new tail]
    rfl

theorem insert_of_mem {bindings : List Binding} {b : Binding} : ∀ {names : List ClassName},
    names.Nodup → b.containerName ∈ names →
      insert b (names.map fun name => ⟨name, share bindings name⟩) =
        names.map fun name => ⟨name, share (bindings ++ [b]) name⟩
  | name :: names, distinct, mem => by
    obtain ⟨fresh, distinct⟩ := List.nodup_cons.mp distinct
    simp only [List.map_cons, insert]
    by_cases h : name = b.containerName
    · subst h
      have rest : ∀ name ∈ names, share (bindings ++ [b]) name = share bindings name := by
        intro name hname
        exact share_concat_other fun e => fresh (e ▸ hname)
      rw [if_pos rfl, share_concat_same]
      refine congrArg _ (List.map_congr_left fun name hname => ?_)
      rw [rest name hname]
    · have mem' : b.containerName ∈ names := (List.mem_cons.mp mem).resolve_left (Ne.symm h)
      rw [if_neg h, insert_of_mem distinct mem', share_concat_other (Ne.symm h)]

/-- **One step**: inserting a binding into a partition gives the partition with that binding at the
end. -/
theorem insert_partition (bindings : List Binding) (b : Binding) :
    insert b ((namesOf bindings).map fun name => ⟨name, share bindings name⟩) =
      (namesOf (bindings ++ [b])).map fun name => ⟨name, share (bindings ++ [b]) name⟩ := by
  rw [namesOf_concat]
  split_ifs with h
  · exact insert_of_mem (nodup_namesOf bindings) h
  · have unused : ∀ name ∈ namesOf bindings, b.containerName ≠ name := by
      rintro name hname rfl
      exact h hname
    rw [insert_of_new (by simpa using fun name hname => (unused name hname).symm),
      List.map_append, List.map_singleton, share_concat_same, share_eq_nil h, List.nil_append]
    refine congrArg (· ++ _) (List.map_congr_left fun name hname => ?_)
    rw [share_concat_other (unused name hname)]

/-- **The buckets of some bindings** are their stable partition by container name. -/
theorem ofBindings_eq (bindings : List Binding) :
    ofBindings bindings = (namesOf bindings).map fun name => ⟨name, share bindings name⟩ := by
  induction bindings using List.reverseRecOn with
  | nil => rfl
  | append_singleton bindings b ih =>
    rw [← insert_partition, ← ih]
    simp [ofBindings]

theorem mem_ofBindings {bindings : List Binding} {bucket : Bucket} :
    bucket ∈ ofBindings bindings ↔
      bucket.name ∈ namesOf bindings ∧ bucket.bindings = share bindings bucket.name := by
  rw [ofBindings_eq, List.mem_map]
  constructor
  · rintro ⟨name, hname, rfl⟩
    exact ⟨hname, rfl⟩
  · rintro ⟨hname, hshare⟩
    exact ⟨bucket.name, hname, by rw [← hshare]⟩

theorem flatMap_share_perm {names : List ClassName} {bindings : List Binding}
    (distinct : names.Nodup) (all : ∀ b ∈ bindings, b.containerName ∈ names) :
    (names.flatMap (share bindings)).Perm bindings :=
  flatMap_filter_perm Binding.containerName distinct all

theorem bindings_ne_nil {bindings : List Binding} {bucket : Bucket}
    (h : bucket ∈ ofBindings bindings) : bucket.bindings ≠ [] := by
  obtain ⟨hname, hshare⟩ := mem_ofBindings.mp h
  obtain ⟨b, hb, named⟩ := mem_namesOf.mp hname
  have mem : b ∈ bucket.bindings := by rw [hshare]; exact mem_share.mpr ⟨hb, named⟩
  exact List.ne_nil_of_mem mem

theorem mem_bindings_of_mem {bindings : List Binding} {bucket : Bucket} {b : Binding}
    (h : bucket ∈ ofBindings bindings) (hb : b ∈ bucket.bindings) :
    b ∈ bindings ∧ b.containerName = bucket.name := by
  rw [(mem_ofBindings.mp h).2] at hb
  exact mem_share.mp hb

/-- Bindings with one container name share a bucket. -/
theorem exists_bucket {bindings : List Binding} {b b' : Binding} (hb : b ∈ bindings)
    (hb' : b' ∈ bindings) (same : b.containerName = b'.containerName) :
    ∃ bucket ∈ ofBindings bindings, b ∈ bucket.bindings ∧ b' ∈ bucket.bindings := by
  refine ⟨⟨b.containerName, share bindings b.containerName⟩, ?_, ?_, ?_⟩
  · exact mem_ofBindings.mpr ⟨mem_namesOf.mpr ⟨b, hb, rfl⟩, rfl⟩
  · exact mem_share.mpr ⟨hb, rfl⟩
  · exact mem_share.mpr ⟨hb', same.symm⟩

/-- Bindings agree on something in every bucket just if those with one container name do. -/
theorem agree_iff {α : Type} {f : Binding → α} {bindings : List Binding} :
    (∀ bucket ∈ ofBindings bindings, ∀ b ∈ bucket.bindings, ∀ b' ∈ bucket.bindings, f b = f b') ↔
      ∀ b ∈ bindings, ∀ b' ∈ bindings, b.containerName = b'.containerName → f b = f b' := by
  constructor
  · intro agree b hb b' hb' same
    obtain ⟨bucket, hbucket, mem, mem'⟩ := exists_bucket hb hb' same
    exact agree bucket hbucket b mem b' mem'
  · intro agree bucket hbucket b hb b' hb'
    obtain ⟨mem, name⟩ := mem_bindings_of_mem hbucket hb
    obtain ⟨mem', name'⟩ := mem_bindings_of_mem hbucket hb'
    exact agree b mem b' mem' (name.trans name'.symm)

end Bucket

end BindingPlan
