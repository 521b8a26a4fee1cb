import BindingPlan.Program
import BindingPlan.Proofs.Text.ByteOrder

/-! # The traversal file by file

The traversal of a program is sorted by path, and within each file it has the declarations in the
order in which they were reported (`inFile_traversal`). Nothing else about the reported order matters:
sorted lists that agree file by file are equal (`eq_of_inFile`). So programs that agree file by file
have one traversal, and one more declaration takes one place in the traversal and moves no other
(`traversal_oneMore`). What a traversal is can be said without sorting (`Traverses`), and there is only
one (`traverses_iff`). -/

namespace BindingPlan

/-- The path of the file that a declaration stands in, if that is known. -/
def Declaration.path? (declaration : Declaration) : Option String :=
  declaration.location.map (·.path)

namespace Program

/-- The declarations of one file, or those without a file, in their order. -/
def inFile (declarations : List Declaration) (path : Option String) : List Declaration :=
  declarations.filter (·.path? == path)

theorem mem_inFile {declarations : List Declaration} {path : Option String} {d : Declaration} :
    d ∈ inFile declarations path ↔ d ∈ declarations ∧ d.path? = path := by
  simp [inFile]

theorem inFile_cons_same (d : Declaration) (rest : List Declaration) :
    inFile (d :: rest) d.path? = d :: inFile rest d.path? := by
  simp [inFile]

theorem inFile_cons_other {d : Declaration} {path : Option String} (other : d.path? ≠ path)
    (rest : List Declaration) : inFile (d :: rest) path = inFile rest path := by
  simp [inFile, other]

theorem inFile_append (front back : List Declaration) (path : Option String) :
    inFile (front ++ back) path = inFile front path ++ inFile back path := by
  simp [inFile]

theorem precedes_of_path?_eq {a b : Declaration} (same : a.path? = b.path?) :
    precedes a b = true := by
  unfold Declaration.path? at same
  unfold precedes
  cases ha : a.location <;> cases hb : b.location <;> simp_all

theorem sorted_inFile (declarations : List Declaration) (path : Option String) :
    (inFile declarations path).Pairwise (precedes · · = true) := by
  refine List.pairwise_of_forall_mem_list fun a ha b hb => ?_
  exact precedes_of_path?_eq ((mem_inFile.mp ha).2.trans (mem_inFile.mp hb).2.symm)

theorem path?_eq_of_precedes {a b : Declaration} (hab : precedes a b = true)
    (hba : precedes b a = true) : a.path? = b.path? := by
  unfold Declaration.path?
  unfold precedes at hab hba
  cases ha : a.location with
  | none => cases hb : b.location <;> simp_all
  | some la =>
    cases hb : b.location with
    | none => simp_all
    | some lb =>
      simp only [ha, hb, decide_eq_true_eq] at hab hba
      simp [String.le_antisymm hab hba]

theorem sorted_traversal (program : Program) :
    program.traversal.Pairwise (precedes · · = true) :=
  List.pairwise_mergeSort precedes_trans precedes_total _

/-- **Within a file the reported order stands.** -/
theorem inFile_traversal (program : Program) (path : Option String) :
    inFile program.traversal path = inFile program.declarations path := by
  have kept : (inFile program.declarations path).Sublist program.traversal :=
    List.sublist_mergeSort precedes_trans precedes_total (sorted_inFile _ _) List.filter_sublist
  have sub : (inFile program.declarations path).Sublist (inFile program.traversal path) := by
    simpa only [inFile, List.filter_filter, Bool.and_self] using kept.filter (·.path? == path)
  have perm : (inFile program.traversal path).Perm (inFile program.declarations path) :=
    (traversal_perm program).filter _
  exact (sub.eq_of_length perm.length_eq.symm).symm

theorem precedes_of_mem {a b : Declaration} {l : List Declaration}
    (sorted : (a :: l).Pairwise (precedes · · = true)) (mem : b ∈ a :: l) :
    precedes a b = true := by
  obtain rfl | mem := List.mem_cons.mp mem
  · exact precedes_of_path?_eq rfl
  · exact List.rel_of_pairwise_cons sorted mem

/-- **Sorted lists that agree file by file are equal.** -/
theorem eq_of_inFile : ∀ {l l' : List Declaration}, l.Pairwise (precedes · · = true) →
    l'.Pairwise (precedes · · = true) → (∀ path, inFile l path = inFile l' path) → l = l'
  | [], [], _, _, _ => rfl
  | [], b :: l', _, _, same => by
    have h := same b.path?
    rw [inFile_cons_same] at h
    cases h
  | a :: l, [], _, _, same => by
    have h := same a.path?
    rw [inFile_cons_same] at h
    cases h
  | a :: l, b :: l', hl, hl', same => by
    -- each head is somewhere in the other list, so neither can be in an earlier file
    have ha : a ∈ inFile (b :: l') a.path? := by
      rw [← same, inFile_cons_same]
      exact List.mem_cons_self
    have hb : b ∈ inFile (a :: l) b.path? := by
      rw [same, inFile_cons_same]
      exact List.mem_cons_self
    have hab : precedes a b = true := precedes_of_mem hl (mem_inFile.mp hb).1
    have hba : precedes b a = true := precedes_of_mem hl' (mem_inFile.mp ha).1
    have path : a.path? = b.path? := path?_eq_of_precedes hab hba
    have heads := same a.path?
    rw [inFile_cons_same, path, inFile_cons_same, List.cons.injEq] at heads
    obtain ⟨rfl, tails⟩ := heads
    refine congrArg (a :: ·) (eq_of_inFile hl.of_cons hl'.of_cons fun p => ?_)
    by_cases h : a.path? = p
    · rw [← h]
      exact tails
    · have hp := same p
      rwa [inFile_cons_other h, inFile_cons_other h] at hp

/-- A sorted list with the declarations of each file in the reported order is the traversal. -/
theorem traversal_eq_of_inFile {program : Program} {l : List Declaration}
    (sorted : l.Pairwise (precedes · · = true))
    (same : ∀ path, inFile program.declarations path = inFile l path) : program.traversal = l := by
  refine eq_of_inFile (sorted_traversal program) sorted fun path => ?_
  rw [inFile_traversal, same]

/-- **One more declaration takes one place in the traversal**, and the others keep theirs. -/
theorem traversal_oneMore (before after : List Declaration) (known : List AnnotationEntry)
    (d : Declaration) : ∃ front back,
      (Program.mk (before ++ after) known).traversal = front ++ back ∧
      (Program.mk (before ++ d :: after) known).traversal = front ++ d :: back := by
  have own := inFile_traversal ⟨before ++ d :: after, known⟩ d.path?
  rw [inFile_append, inFile_cons_same] at own
  obtain ⟨front, rest, split, hfront, hrest⟩ := List.filter_eq_append_iff.mp own
  obtain ⟨skipped, back, rfl, hskipped, -, hback⟩ := List.filter_eq_cons_iff.mp hrest
  rw [← List.append_assoc] at split
  refine ⟨front ++ skipped, back, ?_, split⟩
  have sorted := sorted_traversal ⟨before ++ d :: after, known⟩
  rw [split] at sorted
  have sub : (front ++ skipped ++ back).Sublist (front ++ skipped ++ d :: back) :=
    List.Sublist.append_left (List.sublist_cons_self d back) _
  refine traversal_eq_of_inFile (sorted.sublist sub) fun path => ?_
  have reported := inFile_traversal ⟨before ++ d :: after, known⟩ path
  rw [split] at reported
  simp only [inFile_append] at reported ⊢
  by_cases h : d.path? = path
  · have none_skipped : inFile skipped path = [] := by
      rw [inFile, List.filter_eq_nil_iff, ← h]
      exact hskipped
    have hfront : inFile front d.path? = inFile before d.path? := hfront
    have hback : inFile back d.path? = inFile after d.path? := hback
    rw [none_skipped, List.append_nil, ← h, hfront, hback]
  · rw [inFile_cons_other h, inFile_cons_other h] at reported
    exact reported.symm

/-! ### What a traversal is -/

/-- A list has all declarations, each as often as it was reported: first those with a file, by the
bytes of their paths, and then the others. What was reported within one file, or without one, keeps
its order. -/
structure Traverses (program : Program) (l : List Declaration) : Prop where
  all : l.Perm program.declarations
  filesFirst : l = l.filter (·.path?.isSome) ++ inFile program.declarations none
  ascending : (l.filterMap (·.path?)).Pairwise fun p q => Text.bytes p ≤ Text.bytes q
  stable : ∀ path, inFile l (some path) = inFile program.declarations (some path)

theorem precedes_iff {a b : Declaration} : precedes a b = true ↔
    ∀ q, b.path? = some q → ∃ p, a.path? = some p ∧ Text.bytes p ≤ Text.bytes q := by
  unfold precedes Declaration.path?
  cases a.location <;> cases b.location <;> simp [Text.bytes_le_bytes_iff]

theorem filesFirst_of_sorted : ∀ {l : List Declaration}, l.Pairwise (precedes · · = true) →
    l = l.filter (·.path?.isSome) ++ inFile l none
  | [], _ => rfl
  | d :: rest, sorted => by
    obtain ⟨before, rest_sorted⟩ := List.pairwise_cons.mp sorted
    cases path : d.path? with
    | some p =>
      have other : d.path? ≠ none := by simp [path]
      rw [List.filter_cons_of_pos (by simp [path]), inFile_cons_other other, List.cons_append,
        ← filesFirst_of_sorted rest_sorted]
    | none =>
      have unfiled : ∀ e ∈ rest, e.path? = none := by
        intro e mem
        by_contra filed
        obtain ⟨q, known⟩ := Option.ne_none_iff_exists'.mp filed
        obtain ⟨p, own, -⟩ := precedes_iff.mp (before e mem) q known
        rw [path] at own
        cases own
      have no_files : (d :: rest).filter (·.path?.isSome) = [] := by
        simpa [List.filter_eq_nil_iff, path] using unfiled
      have everything : inFile (d :: rest) none = d :: rest := by
        simpa [inFile, List.filter_eq_self, path] using unfiled
      rw [no_files, everything, List.nil_append]

theorem traverses_traversal (program : Program) : program.Traverses program.traversal where
  all := traversal_perm program
  filesFirst := by
    rw [← inFile_traversal]
    exact filesFirst_of_sorted (sorted_traversal program)
  ascending := by
    rw [List.pairwise_filterMap]
    refine (sorted_traversal program).imp fun {a b} before p hp q hq => ?_
    obtain ⟨p', own, le⟩ := precedes_iff.mp before q hq
    rw [hp] at own
    cases own
    exact le
  stable path := inFile_traversal program (some path)

/-- Lists are sorted if what has a file is in front and goes by the bytes of the paths. -/
theorem sorted_of_traverses {program : Program} {l : List Declaration} (h : program.Traverses l) :
    l.Pairwise (precedes · · = true) := by
  rw [h.filesFirst, List.pairwise_append]
  refine ⟨?_, sorted_inFile _ _, fun a _ b mem => ?_⟩
  · have paths := List.pairwise_filterMap.mp h.ascending
    refine (paths.filter _).imp_of_mem fun {a b} ha _ le => precedes_iff.mpr fun q hq => ?_
    obtain ⟨p, hp⟩ := Option.isSome_iff_exists.mp (List.mem_filter.mp ha).2
    exact ⟨p, hp, le p hp q hq⟩
  · refine precedes_iff.mpr fun q hq => ?_
    rw [(mem_inFile.mp mem).2] at hq
    cases hq

/-- **The traversal is the only list** that has all declarations file by file. -/
theorem traverses_iff {program : Program} {l : List Declaration} :
    program.Traverses l ↔ l = program.traversal := by
  constructor
  · intro h
    refine (traversal_eq_of_inFile (sorted_of_traverses h) fun path => ?_).symm
    cases path with
    | some path => exact (h.stable path).symm
    | none =>
      have no_files : inFile (l.filter (·.path?.isSome)) none = [] := by
        simp [inFile, List.filter_filter]
      rw [h.filesFirst, inFile_append, no_files, List.nil_append]
      simp [inFile, List.filter_filter]
  · rintro rfl
    exact traverses_traversal program

end Program

end BindingPlan
