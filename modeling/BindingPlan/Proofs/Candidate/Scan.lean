import BindingPlan.Proofs.Candidate.Marked
import BindingPlan.Proofs.Program.Traversal
import Mathlib.Data.List.Sort

/-! # The scan for candidates

The search goes marker by marker and gathers what it finds by position. Each step of it adds to what
was found at one position and leaves the others alone (`markersAt_add`, `markersAt_searchAt`), and so
the whole search finds at each position the markers of the declaration there (`markersAt_scan`). With
its positions in ascending order that is the same as one pass over the traversal which looks at each
declaration once (`candidates_eq`, `candidates_exactly`). -/

namespace BindingPlan

/-! ### What is found at a position -/

namespace Findings

/-- The markers found at a position. -/
def markersAt (findings : Findings) (position : Nat) : List (Marker × AnnotationUse) :=
  (findings.entries.lookup position).getD []

section Entries
variable {entries rest : List (Nat × List (Marker × AnnotationUse))} {position : Nat}

theorem lookup_cons_eq (first : Nat × List (Marker × AnnotationUse)) (position : Nat) :
    (first :: rest).lookup position =
      if position = first.1 then some first.2 else rest.lookup position := by
  obtain ⟨p, markers⟩ := first
  by_cases h : position = p
  · simp [h]
  · simp [List.lookup_cons, beq_eq_false_iff_ne.mpr h, h]

theorem lookup_eq_none (before : ∀ entry ∈ entries, position < entry.1) :
    entries.lookup position = none := by
  rw [List.lookup_eq_none_iff]
  intro entry mem
  have := before entry mem
  rw [bne_iff_ne]
  omega

theorem lookup_insert {found : Marker × AnnotationUse} (q : Nat) :
    ∀ {entries : List (Nat × List (Marker × AnnotationUse))}, entries.Pairwise (·.1 < ·.1) →
      (insert position found entries).lookup q =
        if q = position then some ((entries.lookup position).getD [] ++ [found])
        else entries.lookup q
  | [], _ => by rw [insert, lookup_cons_eq]; rfl
  | first :: rest, h => by
    obtain ⟨first_lt, rest_ascending⟩ := List.pairwise_cons.mp h
    unfold insert
    split
    next before =>
      have none : (first :: rest).lookup position = none := by
        refine lookup_eq_none (List.forall_mem_cons.mpr ⟨before, fun entry mem => ?_⟩)
        exact Nat.lt_trans before (first_lt entry mem)
      rw [lookup_cons_eq, none]
      rfl
    next =>
      split
      next same =>
        rw [lookup_cons_eq, lookup_cons_eq, lookup_cons_eq, if_pos same, ← same]
        split_ifs <;> rfl
      next other =>
        rw [lookup_cons_eq, lookup_cons_eq, lookup_cons_eq, if_neg other, lookup_insert q rest_ascending]
        split_ifs with at_first at_position
        · omega
        · rfl
        · rfl
        · rfl

end Entries

theorem markersAt_nothing (q : Nat) : nothing.markersAt q = [] := rfl

theorem markersAt_add (findings : Findings) (position : Nat) (found : Marker × AnnotationUse)
    (q : Nat) : (findings.add position found).markersAt q =
      findings.markersAt q ++ if q = position then [found] else [] := by
  rw [markersAt, add, lookup_insert q findings.ascending, markersAt]
  split_ifs with same
  · rw [same]
    rfl
  · rw [List.append_nil]

theorem mem_entries_iff {findings : Findings} {position : Nat}
    {markers : List (Marker × AnnotationUse)} : (position, markers) ∈ findings.entries ↔
      findings.markersAt position = markers ∧ markers ≠ [] := by
  have keys : findings.entries.Pairwise fun a b => a.1 ≠ b.1 :=
    findings.ascending.imp fun lt => Nat.ne_of_lt lt
  constructor
  · intro mem
    obtain ⟨front, back, split⟩ := List.append_of_mem mem
    have found : findings.entries.lookup position = some markers := by
      refine List.lookup_eq_some_iff.mpr ⟨front, back, split, fun entry h => ?_⟩
      rw [split] at keys
      have other := (List.pairwise_append.mp keys).2.2 entry h _ List.mem_cons_self
      exact bne_iff_ne.mpr (Ne.symm other)
    rw [markersAt, found]
    exact ⟨rfl, findings.full _ mem⟩
  · rintro ⟨rfl, some⟩
    unfold markersAt at some ⊢
    cases found : findings.entries.lookup position with
    | none => simp [found] at some
    | some markers =>
      obtain ⟨front, back, split, -⟩ := List.lookup_eq_some_iff.mp found
      rw [split]
      simp

end Findings

/-! ### Step by step -/

section Search
variable {classes : MarkerClasses}

/-- The annotations of one marker, labelled with it. -/
def MarkerClasses.usesOf (classes : MarkerClasses) (annotations : List AnnotationUse)
    (marker : Marker) : List (Marker × AnnotationUse) :=
  (annotations.filter (·.type == classes.classOf marker)).map (marker, ·)

theorem markersAt_foldl_add (marker : Marker) (position q : Nat) (annotations : List AnnotationUse)
    (findings : Findings) : (annotations.foldl (fun findings usage =>
        if usage.type = classes.classOf marker then findings.add position (marker, usage)
        else findings) findings).markersAt q =
      findings.markersAt q ++ if q = position then classes.usesOf annotations marker else [] := by
  induction annotations generalizing findings with
  | nil => simp [MarkerClasses.usesOf]
  | cons usage rest ih =>
    rw [List.foldl_cons, ih]
    by_cases own : usage.type = classes.classOf marker
    · have uses : classes.usesOf (usage :: rest) marker =
          (marker, usage) :: classes.usesOf rest marker := by
        simp [MarkerClasses.usesOf, own]
      rw [if_pos own, Findings.markersAt_add, uses]
      split_ifs <;> simp
    · have uses : classes.usesOf (usage :: rest) marker = classes.usesOf rest marker := by
        simp [MarkerClasses.usesOf, own]
      rw [if_neg own, uses]

theorem markersAt_searchAt (marker : Marker) (findings : Findings) (d : Declaration)
    (position q : Nat) : (classes.searchAt marker findings (d, position)).markersAt q =
      findings.markersAt q ++ if q = position then classes.usesOf d.annotations marker else [] :=
  markersAt_foldl_add marker position q d.annotations findings

/-- Going through declarations from some position on adds at each position those of the declaration
there. -/
theorem markersAt_foldl_searchAt (marker : Marker) (q : Nat) : ∀ (traversal : List Declaration)
    (start : Nat) (findings : Findings),
      ((traversal.zipIdx start).foldl (classes.searchAt marker) findings).markersAt q =
        findings.markersAt q ++ if start ≤ q then
          (traversal[q - start]?.elim [] fun d => classes.usesOf d.annotations marker) else []
  | [], start, findings => by simp
  | d :: rest, start, findings => by
    rw [List.zipIdx_cons, List.foldl_cons, markersAt_foldl_searchAt marker q rest (start + 1),
      markersAt_searchAt]
    rcases Nat.lt_trichotomy q start with before | here | behind
    · simp [Nat.ne_of_lt before, Nat.not_le_of_lt before, Nat.not_le_of_lt (Nat.lt_succ_of_lt before)]
    · simp [here]
    · obtain ⟨k, rfl⟩ : ∃ k, q = start + 1 + k := ⟨q - (start + 1), by omega⟩
      have index : start + 1 + k - start = k + 1 := by omega
      have other : start + 1 + k ≠ start := by omega
      have le : start ≤ start + 1 + k := by omega
      simp [other, index, le]

/-- **One marker** is found at each position as often as the declaration there has it. -/
theorem markersAt_search (traversal : List Declaration) (findings : Findings) (marker : Marker)
    (q : Nat) : (classes.search traversal findings marker).markersAt q = findings.markersAt q ++
      traversal[q]?.elim [] fun d => classes.usesOf d.annotations marker := by
  rw [MarkerClasses.search, markersAt_foldl_searchAt, if_pos (Nat.zero_le q), Nat.sub_zero]

theorem markersAt_foldl_search (traversal : List Declaration) (q : Nat) (markers : List Marker)
    (findings : Findings) : (markers.foldl (classes.search traversal) findings).markersAt q =
      findings.markersAt q ++
        traversal[q]?.elim [] fun d => markers.flatMap (classes.usesOf d.annotations) := by
  induction markers generalizing findings with
  | nil => cases traversal[q]? <;> simp
  | cons marker rest ih =>
    rw [List.foldl_cons, ih, markersAt_search]
    cases traversal[q]? <;> simp

/-- **The whole search** finds at each position the markers of the declaration there. -/
theorem markersAt_scan (traversal : List Declaration) (q : Nat) :
    (classes.scan traversal).markersAt q =
      traversal[q]?.elim [] fun d => classes.markersOn d.annotations := by
  rw [MarkerClasses.scan, markersAt_foldl_search, Findings.markersAt_nothing, List.nil_append]
  rfl

/-! ### The order of the findings -/

theorem entries_scan (traversal : List Declaration) : (classes.scan traversal).entries =
    traversal.zipIdx.filterMap fun (d, position) =>
      if classes.marks d then some (position, classes.markersOn d.annotations) else none := by
  have _ : Std.Antisymm fun a b : Nat × List (Marker × AnnotationUse) => a.1 < b.1 :=
    ⟨fun _ _ lt gt => absurd gt (Nat.lt_asymm lt)⟩
  have _ : Std.Irrefl fun a b : Nat × List (Marker × AnnotationUse) => a.1 < b.1 :=
    ⟨fun _ => Nat.lt_irrefl _⟩
  have positions : (traversal.zipIdx.map (·.2)).Pairwise (· < ·) := by
    rw [List.zipIdx_map_snd, ← List.range_eq_range']
    exact List.pairwise_lt_range
  refine (classes.scan traversal).ascending.eq_of_mem_iff ?_ fun (position, markers) => ?_
  · rw [List.pairwise_filterMap]
    refine (List.pairwise_map.mp positions).imp fun {x y} lt b hb b' hb' => ?_
    obtain ⟨-, ⟨⟩⟩ := Option.ite_none_right_eq_some.mp hb
    obtain ⟨-, ⟨⟩⟩ := Option.ite_none_right_eq_some.mp hb'
    exact lt
  · rw [Findings.mem_entries_iff, markersAt_scan, List.mem_filterMap]
    constructor
    · rintro ⟨found, some⟩
      cases known : traversal[position]? with
      | none => simp [known, eq_comm, some] at found
      | some d =>
        rw [known] at found
        subst found
        refine ⟨(d, position), List.mem_zipIdx_iff_getElem?.mpr known, if_pos ?_⟩
        by_contra unmarked
        exact some (markersOn_eq_nil_iff.mpr (Bool.not_eq_true _ ▸ unmarked))
    · rintro ⟨⟨d, q⟩, mem, h⟩
      obtain ⟨marked, ⟨⟩⟩ := Option.ite_none_right_eq_some.mp h
      rw [List.mem_zipIdx_iff_getElem?.mp mem]
      refine ⟨rfl, fun none => ?_⟩
      rw [MarkerClasses.marks, markersOn_eq_nil_iff.mp none] at marked
      cases marked

theorem candidates_eq_filterMap (program : Program) :
    program.candidates classes = program.traversal.filterMap classes.candidate? := by
  have fsts : program.traversal.filterMap classes.candidate? =
      program.traversal.zipIdx.filterMap fun x => classes.candidate? x.1 := by
    conv_lhs => rw [← List.zipIdx_map_fst 0 program.traversal]
    rw [List.filterMap_map]
    rfl
  rw [Program.candidates, entries_scan, List.filterMap_filterMap, fsts]
  refine List.filterMap_congr fun (d, position) mem => ?_
  dsimp only
  cases marked : classes.marks d with
  | false => rw [candidate?_of_not_marks marked]; rfl
  | true =>
    rw [candidate?_of_marks marked, if_pos rfl, Option.bind_some, List.mem_zipIdx_iff_getElem?.mp mem]
    rfl

/-- **The candidates of a program are its marked declarations**, each with all its markers. -/
theorem candidates_eq (program : Program) : program.candidates classes =
    (program.marked classes).map fun d => ⟨d, classes.markersOn d.annotations⟩ := by
  rw [candidates_eq_filterMap, Program.marked]
  induction program.traversal with
  | nil => rfl
  | cons d rest ih =>
    cases h : classes.marks d with
    | true => rw [List.filterMap_cons_some (candidate?_of_marks h), List.filter_cons_of_pos h,
        List.map_cons, ih]
    | false => rw [List.filterMap_cons_none (candidate?_of_not_marks h),
        List.filter_cons_of_neg (by simp [h]), ih]

end Search

/-- **The search is one pass.** The candidates are the marked declarations in the order of the
traversal, which is the one list that has the declarations file by file; each comes with the markers
on it, marker by marker, and if no class has two markers these are its marker annotations, each
once. -/
theorem candidates_exactly (classes : MarkerClasses) (program : Program) :
    (∀ l, program.Traverses l ↔ l = program.traversal) ∧
      program.candidates classes = (program.traversal.filter classes.marks).map
        (fun d => ⟨d, classes.markersOn d.annotations⟩) ∧
      (Function.Injective classes.classOf → ∀ d ∈ program.declarations,
        ((classes.markersOn d.annotations).map (·.2)).Perm
          (d.annotations.filter classes.isMarker)) :=
  ⟨fun _ => Program.traverses_iff, candidates_eq program,
    fun distinct d _ => map_markersOn_perm distinct d.annotations⟩

/-- A property with two markers and no file. -/
def exampleUnplaced : Declaration :=
  let markers := Config.default.markers
  .misc ⟨"unplaced", "property",
    [.ofClass markers.bind.test, .ofClass markers.bind.production], none⟩

/-- A property with one marker in a file. -/
def examplePlaced : Declaration :=
  .misc ⟨"placed", "property", [.ofClass Config.default.markers.factory.test],
    some ⟨"Placed.kt", ""⟩⟩

/-- The property in the file comes first; the other one has its production marker in front. -/
theorem candidates_exactly_exampleUnplaced :
    let classes := Config.default.markers
    let program := Program.ofDeclarations [exampleUnplaced, examplePlaced]
    program.Traverses [examplePlaced, exampleUnplaced] ∧
    (program.candidates classes).map (fun c => (c.declaration.reportName, c.markers.map (·.1))) =
      [("placed", [⟨.factory, .test⟩]), ("unplaced", [⟨.bind, .production⟩, ⟨.bind, .test⟩])] ∧
    Function.Injective classes.classOf ∧ ∀ d ∈ program.declarations,
      ((classes.markersOn d.annotations).map (·.2)).Perm
        (d.annotations.filter classes.isMarker) := by
  intro classes program
  obtain ⟨traverses, found, each⟩ := candidates_exactly classes program
  have distinct : Function.Injective classes.classOf :=
    (Config.fault?_eq_none_iff.mp Config.fault?_default).1
  have order : program.Traverses [examplePlaced, exampleUnplaced] :=
    { all := List.Perm.swap _ _ _
      filesFirst := rfl
      ascending := List.pairwise_singleton _ _
      stable := fun path => by
        simp [program, Program.ofDeclarations, Program.inFile, List.filter_cons,
          exampleUnplaced, examplePlaced, Declaration.path?, Declaration.location] }
  refine ⟨order, ?_, distinct, each distinct⟩
  rw [found, ← (traverses _).mp order]
  decide

end BindingPlan
