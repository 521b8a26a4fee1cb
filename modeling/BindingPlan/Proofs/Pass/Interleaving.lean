import BindingPlan.Proofs.Pass.OneMore

/-! # How files are interleaved

A front end may report the declarations of several files in any interleaving, and the annotation
classes that it knows besides in any order. A pass comes to the same containers and the same
diagnostics, in the same order (`plan_interleaved`): the traversal puts the files in order, and of
the annotation classes only look-ups count. For the latter, names must not be shared, since of two
entries of one name the order decides which one counts. -/

namespace BindingPlan

namespace Program

/-- Two programs report the same declarations file by file, interleaved in any way, and the same known
annotation classes in any order; no two known classes share a name, and no two declared ones. -/
structure Interleaved (program program' : Program) : Prop where
  files : ∀ path, inFile program.declarations path = inFile program'.declarations path
  known : program'.knownEntries.Perm program.knownEntries
  knownNames : (program.knownEntries.map (·.name)).Nodup
  declaredNames : ((program.declarations.filterMap declaredEntry?).map (·.name)).Nodup

variable {program program' : Program}

/-- Files put in order are the same whatever the interleaving was. -/
theorem Interleaved.traversal_eq (h : program.Interleaved program') :
    program.traversal = program'.traversal := by
  refine traversal_eq_of_inFile (sorted_traversal program') fun path => ?_
  rw [inFile_traversal, h.files]

theorem Interleaved.declarations_perm (h : program.Interleaved program') :
    program.declarations.Perm program'.declarations := by
  have perm := (traversal_perm program).symm.trans (.of_eq h.traversal_eq)
  exact perm.trans (traversal_perm program')

theorem Interleaved.answersAlike (h : program.Interleaved program') :
    AnswersAlike program.entries program'.entries := by
  have known : AnswersAlike program.knownEntries.reverse program'.knownEntries.reverse := by
    refine .of_perm ?_ ?_
    · exact (List.reverse_perm _).trans (h.known.symm.trans (List.reverse_perm _).symm)
    · rw [List.map_reverse, List.nodup_reverse]
      exact h.knownNames
  have declared : AnswersAlike (program.declarations.filterMap declaredEntry?)
      (program'.declarations.filterMap declaredEntry?) :=
    .of_perm (h.declarations_perm.filterMap _) h.declaredNames
  exact known.append declared

end Program

/-- **The outcome does not depend on how files are interleaved.** -/
theorem plan_interleaved (config : Config) {program program' : Program}
    (h : program.Interleaved program') : program.plan config = program'.plan config := by
  have resolution : program.resolution config = program'.resolution config := by
    rw [resolution_eq, resolution_eq, h.traversal_eq, resolve?_congr h.answersAlike]
  rw [Program.plan, Program.plan, resolution]

/-- Two annotation classes that are not declared in the program. -/
def exampleEntries : List AnnotationEntry :=
  [⟨⟨"com.example", ["Fast"]⟩, [.ofClass ⟨"javax.inject", ["Qualifier"]⟩]⟩,
    ⟨⟨"com.example", ["Slow"]⟩, []⟩]

/-- Two files in either order, and the known annotation classes in either order. -/
theorem plan_interleaved_twoFiles :
    let program : Program := ⟨[.type exampleStub, exampleProperty], exampleEntries⟩
    let program' : Program := ⟨[exampleProperty, .type exampleStub], exampleEntries.reverse⟩
    program.Interleaved program' ∧ program.plan .default = program'.plan .default := by
  intro program program'
  have h : program.Interleaved program' :=
    { files := by
        intro path
        by_cases stub : path = some "Stub.kt"
        · subst stub
          rfl
        · have other : (Declaration.type exampleStub).path? ≠ path := fun e => stub e.symm
          simp only [program, program', Program.inFile, List.filter_cons, beq_iff_eq, other,
            if_false]
      known := List.reverse_perm _
      knownNames := by decide
      declaredNames := by decide }
  exact ⟨h, plan_interleaved .default h⟩

end BindingPlan
