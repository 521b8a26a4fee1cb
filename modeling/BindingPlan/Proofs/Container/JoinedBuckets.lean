import BindingPlan.Proofs.Bucket.Regrouping
import BindingPlan.Proofs.Container.FromBucket
import Mathlib.Data.List.Forall2

/-! # Containers of joined buckets

A bucket may hold any bindings, also those of several containers. Its container is put together from
what they give one by one (`Container.Shows`): the member that a binding has on its own, its file
where that first occurs, and its visibility. So the container of a bucket in two parts joins the
containers of the parts (`Container.Joins`), where the second part adds its members and the files that
are new, and the first part decides on the container as a whole. In another order the bindings bring
the same members, files and visibility (`Container.Reorders`). A bucket without bindings has no
container, and it is the only one without (`ofBucket?_compositional`). -/

namespace BindingPlan

/-! ### Files -/

theorem distinct_append (front back : List String) :
    distinct (front ++ back) = distinct front ++ (distinct back).filter (· ∉ front) := by
  induction front with
  | nil => simp [distinct]
  | cons path front ih =>
    rw [List.cons_append, distinct, ih, distinct, List.filter_append, List.filter_filter,
      List.cons_append]
    refine congrArg _ (congrArg _ (List.filter_congr fun other _ => ?_))
    rw [Bool.eq_iff_iff]
    simp [not_or]

theorem distinct_eq_eraseDups (paths : List String) : distinct paths = paths.eraseDups := by
  induction paths using List.reverseRecOn with
  | nil => rfl
  | append_singleton paths path ih =>
    rw [distinct_append, eraseDups_concat, ih]
    by_cases h : path ∈ paths <;> simp [distinct, h]

theorem mem_distinct {paths : List String} {path : String} :
    path ∈ distinct paths ↔ path ∈ paths := by
  rw [distinct_eq_eraseDups, List.mem_eraseDups]

/-- The position of the first binding from a file. -/
def firstFrom (bindings : List Binding) (path : String) : Nat :=
  bindings.findIdx (·.location.path == path)

/-- The files of some bindings, each once, in the order in which they first occur. -/
structure ListsFiles (bindings : List Binding) (files : List String) : Prop where
  mem : ∀ path, path ∈ files ↔ ∃ b ∈ bindings, b.location.path = path
  once : files.Nodup
  order : files.Pairwise fun path path' => firstFrom bindings path < firstFrom bindings path'

theorem firstFrom_eq (bindings : List Binding) (path : String) :
    firstFrom bindings path = (bindings.map (·.location.path)).idxOf path :=
  (idxOf_map (fun b : Binding => b.location.path) bindings path).symm

/-- **The files of some bindings** can be listed in one way. -/
theorem listsFiles_iff {bindings : List Binding} {files : List String} :
    ListsFiles bindings files ↔ files = distinct (bindings.map (·.location.path)) := by
  rw [distinct_eq_eraseDups]
  constructor
  · intro h
    refine eq_eraseDups_iff.mpr ⟨fun path => ?_, ?_⟩
    · rw [h.mem, List.mem_map]
    · simpa only [firstFrom_eq] using h.order
  · intro h
    obtain ⟨mem, order⟩ := eq_eraseDups_iff.mp h
    refine ⟨fun path => ?_, ?_, ?_⟩
    · rw [mem, List.mem_map]
    · rw [h]
      exact nodup_eraseDups _
    · simpa only [firstFrom_eq] using order

/-! ### Visibility -/

theorem Visibility.ofBindings_eq_internalAccess_iff {bindings : List Binding} :
    Visibility.ofBindings bindings = .internalAccess ↔
      ∀ b ∈ bindings, b.visibility = .internalAccess := by
  simp [Visibility.ofBindings]

theorem Visibility.ofBindings_eq_publicAccess_iff {bindings : List Binding} :
    Visibility.ofBindings bindings = .publicAccess ↔
      ∃ b ∈ bindings, b.visibility ≠ .internalAccess := by
  simp [Visibility.ofBindings]

theorem Visibility.ofBindings_perm {bindings others : List Binding} (h : others.Perm bindings) :
    Visibility.ofBindings others = Visibility.ofBindings bindings := by
  unfold Visibility.ofBindings
  rw [h.all_eq]

/-! ### One by one -/

variable {config : Config}

/-- The member is made from one binding alone: it is the only one in the container of a bucket with
that binding and no other, whatever the name of the bucket. It has the name of the binding and
returns the type that the binding exposes. -/
structure Member.MadeFrom (config : Config) (b : Binding) (member : Member) : Prop where
  alone : ∀ name, ∃ container, Container.ofBucket? config ⟨name, [b]⟩ = some container ∧
    container.members = [member]
  name : member.name = b.memberName
  returnType : member.returnType = b.exposed

/-- What a container shows of the bindings in its bucket: one member of each, in their order, their
files, and whether all of them are internal. -/
structure Container.Shows (config : Config) (container : Container) (bindings : List Binding) :
    Prop where
  members : List.Forall₂ (Member.MadeFrom config) bindings container.members
  files : ∀ files, ListsFiles bindings files ↔ files = container.files
  internalAccess : container.visibility = .internalAccess ↔
    ∀ b ∈ bindings, b.visibility = .internalAccess
  publicAccess : container.visibility = .publicAccess ↔
    ∃ b ∈ bindings, b.visibility ≠ .internalAccess

theorem madeFrom_ofBinding (b : Binding) : (Member.ofBinding config b).MadeFrom config b where
  alone _ := ⟨_, rfl, rfl⟩
  name := name_ofBinding b
  returnType := returnType_ofBinding b

section OfBucket
variable {bucket : Bucket} {container : Container}

theorem Container.ofBucket?_eq_none_iff :
    Container.ofBucket? config bucket = none ↔ bucket.bindings = [] := by
  obtain ⟨name, bindings⟩ := bucket
  cases bindings <;> simp [Container.ofBucket?]

/-- What a container takes from all bindings of its bucket together. -/
theorem Container.ofBucket?_together (h : Container.ofBucket? config bucket = some container) :
    container.visibility = .ofBindings bucket.bindings ∧
      container.files = distinct (bucket.bindings.map (·.location.path)) := by
  obtain ⟨name, bindings⟩ := bucket
  cases bindings with
  | nil => cases h
  | cons first rest =>
    cases h
    exact ⟨rfl, rfl⟩

/-- **A container shows the bindings** of its bucket. -/
theorem Container.shows_ofBucket? (h : Container.ofBucket? config bucket = some container) :
    container.Shows config bucket.bindings := by
  obtain ⟨first, taken⟩ := Container.ofBucket?_spec h
  obtain ⟨visibility, files⟩ := Container.ofBucket?_together h
  refine ⟨?_, fun _ => ?_, ?_, ?_⟩
  · rw [taken.members, List.forall₂_map_right_iff, List.forall₂_same]
    exact fun b _ => madeFrom_ofBinding b
  · rw [listsFiles_iff, files]
  · rw [visibility, Visibility.ofBindings_eq_internalAccess_iff]
  · rw [visibility, Visibility.ofBindings_eq_publicAccess_iff]

end OfBucket

/-! ### Joined -/

/-- A container joins two others: it has the members of the one and then those of the other, and the
files of the one and then those of the other that are new. It is internal if both are. What concerns
it as a whole is as in the first one. -/
structure Container.Joins (whole first second : Container) : Prop where
  members : whole.members = first.members ++ second.members
  files : whole.files = first.files ++ second.files.filter (· ∉ first.files)
  visibility : whole.visibility = .internalAccess ↔
    first.visibility = .internalAccess ∧ second.visibility = .internalAccess
  name : whole.name = first.name
  form : whole.form = first.form
  installation : whole.installation = first.installation
  annotations : whole.annotations = first.annotations

/-- **The container of a bucket in two parts** joins those of the parts. -/
theorem Container.joins_ofBucket? {name : ClassName} {front back : List Binding}
    {whole first second : Container}
    (hwhole : Container.ofBucket? config ⟨name, front ++ back⟩ = some whole)
    (hfirst : Container.ofBucket? config ⟨name, front⟩ = some first)
    (hsecond : Container.ofBucket? config ⟨name, back⟩ = some second) :
    whole.Joins first second := by
  obtain ⟨b, taken⟩ := Container.ofBucket?_spec hwhole
  obtain ⟨b', taken₁⟩ := Container.ofBucket?_spec hfirst
  obtain ⟨_, taken₂⟩ := Container.ofBucket?_spec hsecond
  obtain ⟨visibility, files⟩ := Container.ofBucket?_together hwhole
  obtain ⟨visibility₁, files₁⟩ := Container.ofBucket?_together hfirst
  obtain ⟨visibility₂, files₂⟩ := Container.ofBucket?_together hsecond
  -- the first binding of the whole is that of the first part
  obtain rfl : b' = b := by
    have head := taken.head
    rw [List.head?_append, taken₁.head] at head
    exact Option.some.inj head
  have installation : whole.installation = first.installation :=
    taken.installation.trans taken₁.installation.symm
  refine ⟨?_, ?_, ?_, taken.name.trans taken₁.name.symm, taken.form.trans taken₁.form.symm,
    installation, ?_⟩
  · rw [taken.members, taken₁.members, taken₂.members, List.map_append]
  · rw [files, files₁, files₂, List.map_append, distinct_append]
    simp only [mem_distinct]
  · simp only [visibility, visibility₁, visibility₂, Visibility.ofBindings_eq_internalAccess_iff,
      List.forall_mem_append]
  · rw [taken.annotations, taken₁.annotations, installation]

/-! ### Reordered -/

/-- A container has the members of another one, each along with its binding, and the same visibility
and set of files. -/
structure Container.Reorders (reordered : Container) (others : List Binding)
    (container : Container) (bindings : List Binding) : Prop where
  members : reordered.members.Perm container.members
  together : (others.zip reordered.members).Perm (bindings.zip container.members)
  visibility : reordered.visibility = container.visibility
  files : ∀ path, path ∈ reordered.files ↔ path ∈ container.files

/-- **The container of a bucket in another order** reorders the one of the bucket. -/
theorem Container.reorders_ofBucket? {name : ClassName} {bindings others : List Binding}
    {container reordered : Container} (perm : others.Perm bindings)
    (h : Container.ofBucket? config ⟨name, bindings⟩ = some container)
    (h' : Container.ofBucket? config ⟨name, others⟩ = some reordered) :
    reordered.Reorders others container bindings := by
  obtain ⟨_, taken⟩ := Container.ofBucket?_spec h
  obtain ⟨_, taken'⟩ := Container.ofBucket?_spec h'
  obtain ⟨visibility, files⟩ := Container.ofBucket?_together h
  obtain ⟨visibility', files'⟩ := Container.ofBucket?_together h'
  refine ⟨?_, ?_, ?_, fun path => ?_⟩
  · rw [taken.members, taken'.members]
    exact perm.map _
  · rw [taken.members, taken'.members, ← List.map_prod_left_eq_zip, ← List.map_prod_left_eq_zip]
    exact perm.map _
  · rw [visibility, visibility', Visibility.ofBindings_perm perm]
  · rw [files, files', mem_distinct, mem_distinct, (perm.map _).mem_iff]

/-! ### Any bucket -/

/-- **Containers are compositional.** Only a bucket without bindings has no container. The container
of any other one shows its bindings one by one, joins the containers of two parts that the bucket is
divided into, and is reordered where the bucket is. -/
theorem Container.ofBucket?_compositional (config : Config) (bucket : Bucket) :
    (Container.ofBucket? config bucket = none ↔ bucket.bindings = []) ∧
    ∀ container, Container.ofBucket? config bucket = some container →
      container.Shows config bucket.bindings ∧
      (∀ front back, bucket.bindings = front ++ back → front ≠ [] → back ≠ [] →
        ∃ first second, Container.ofBucket? config ⟨bucket.name, front⟩ = some first ∧
          Container.ofBucket? config ⟨bucket.name, back⟩ = some second ∧
          container.Joins first second) ∧
      ∀ others : List Binding, others.Perm bucket.bindings →
        ∃ reordered, Container.ofBucket? config ⟨bucket.name, others⟩ = some reordered ∧
          reordered.Reorders others container bucket.bindings := by
  obtain ⟨name, bindings⟩ := bucket
  refine ⟨Container.ofBucket?_eq_none_iff, fun container made =>
    ⟨Container.shows_ofBucket? made, ?_, ?_⟩⟩
  · rintro front back rfl front_some back_some
    obtain ⟨first, hfirst⟩ : ∃ c, Container.ofBucket? config ⟨name, front⟩ = some c :=
      Container.exists_ofBucket? front_some
    obtain ⟨second, hsecond⟩ : ∃ c, Container.ofBucket? config ⟨name, back⟩ = some c :=
      Container.exists_ofBucket? back_some
    exact ⟨first, second, hfirst, hsecond, Container.joins_ofBucket? made hfirst hsecond⟩
  · intro others perm
    have others_some : others ≠ [] := by
      rintro rfl
      have empty : bindings = [] := perm.symm.eq_nil
      rw [Container.ofBucket?_eq_none_iff.mpr empty] at made
      cases made
    obtain ⟨reordered, hreordered⟩ : ∃ c, Container.ofBucket? config ⟨name, others⟩ = some c :=
      Container.exists_ofBucket? others_some
    exact ⟨reordered, hreordered, Container.reorders_ofBucket? perm made hreordered⟩

/-- A binding of a class in a container, from a file. -/
def exampleFrom (path container name : String) (visibility : Visibility) : Binding :=
  { Bucket.exampleIn container name with location := ⟨path, "com.example"⟩, visibility }

/-- Bindings of two containers in one bucket: two internal classes from different files, and behind
them a public one from the first file again. -/
theorem Container.ofBucket?_compositional_exampleFrom :
    let a := exampleFrom "A.kt" "First" "A" .internalAccess
    let b := exampleFrom "B.kt" "Second" "B" .internalAccess
    let c := exampleFrom "A.kt" "First" "C" .publicAccess
    let name : ClassName := ⟨"com.example", ["Third"]⟩
    ∃ whole first second,
      Container.ofBucket? .default ⟨name, [a, b, c]⟩ = some whole ∧
      Container.ofBucket? .default ⟨name, [a]⟩ = some first ∧
      Container.ofBucket? .default ⟨name, [b, c]⟩ = some second ∧
      whole.members = first.members ++ second.members ∧
      second.files = ["B.kt", "A.kt"] ∧ whole.files = ["A.kt", "B.kt"] ∧
      first.visibility = .internalAccess ∧ whole.visibility = .publicAccess ∧
      ∃ reordered, Container.ofBucket? .default ⟨name, [b, a, c]⟩ = some reordered ∧
        reordered.files = ["B.kt", "A.kt"] ∧ reordered.members.Perm whole.members := by
  intro a b c name
  obtain ⟨whole, made⟩ : ∃ whole, Container.ofBucket? .default ⟨name, [a, b, c]⟩ = some whole :=
    ⟨_, rfl⟩
  obtain ⟨-, each⟩ := Container.ofBucket?_compositional .default ⟨name, [a, b, c]⟩
  obtain ⟨shown, parts, orders⟩ := each whole made
  obtain ⟨first, second, hfirst, hsecond, joins⟩ := parts [a] [b, c] rfl (by simp) (by simp)
  obtain ⟨reordered, hreordered, reorders⟩ := orders [b, a, c] (.swap a b [c])
  have second_files : second.files = ["B.kt", "A.kt"] := by
    cases hsecond
    decide
  have first_files : first.files = ["A.kt"] := by
    cases hfirst
    decide
  refine ⟨whole, first, second, made, hfirst, hsecond, joins.members, second_files, ?_, ?_, ?_,
    reordered, hreordered, ?_, reorders.members⟩
  · rw [joins.files, first_files, second_files]
    decide
  · cases hfirst
    decide
  · exact shown.publicAccess.mpr ⟨c, by simp, by decide⟩
  · cases hreordered
    decide

end BindingPlan
