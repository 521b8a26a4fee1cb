import BindingPlan.Declaration

/-! # Programs

All declarations that one pass sees, in the order in which the front end reported them, and what it
knows of the annotations on annotation classes from elsewhere. A pass walks the declarations in the
order of their file paths; within a file the reported order stands, and what has no location comes
last. -/

namespace BindingPlan

/-- An annotation class with the annotations on it. -/
structure AnnotationEntry where
  name : ClassName
  annotations : List AnnotationUse

/-- The declarations of a program and the annotation classes known besides. -/
structure Program where
  declarations : List Declaration
  knownEntries : List AnnotationEntry

namespace Program

/-! ### Building -/

/-- The program without anything in it. -/
def empty : Program :=
  ⟨[], []⟩

/-- The program of some declarations, with nothing known besides. -/
def ofDeclarations (declarations : List Declaration) : Program :=
  ⟨declarations, []⟩

/-- The program with one more declaration behind the others. -/
def declare (program : Program) (declaration : Declaration) : Program :=
  { program with declarations := program.declarations ++ [declaration] }

/-- The program with one more known annotation class behind the others. -/
def withEntry (program : Program) (entry : AnnotationEntry) : Program :=
  { program with knownEntries := program.knownEntries ++ [entry] }

/-- The program without the declaration at a position. -/
def erase (program : Program) (position : Nat) : Program :=
  { program with declarations := program.declarations.eraseIdx position }

/-- The program with its declarations in reverse order. -/
def reverse (program : Program) : Program :=
  { program with declarations := program.declarations.reverse }

/-! ### Traversal -/

/-- Whether a declaration may come before another one: paths ascend, and what has no location is
last. -/
def precedes (a b : Declaration) : Bool :=
  match a.location, b.location with
  | some a, some b => decide (a.path ≤ b.path)
  | some _, none => true
  | none, some _ => false
  | none, none => true

/-- The declarations in the order of their files; within one file their order is kept. -/
def traversal (program : Program) : List Declaration :=
  program.declarations.mergeSort precedes

theorem precedes_trans (a b c : Declaration) (hab : precedes a b = true)
    (hbc : precedes b c = true) : precedes a c = true := by
  unfold precedes at *
  cases ha : a.location <;> cases hb : b.location <;> cases hc : c.location <;>
    simp_all only [decide_eq_true_eq, Bool.false_eq_true]
  exact String.le_trans hab hbc

theorem precedes_total (a b : Declaration) : (precedes a b || precedes b a) = true := by
  unfold precedes
  cases a.location <;> cases b.location <;>
    simp [String.le_total]

theorem traversal_perm (program : Program) : program.traversal.Perm program.declarations :=
  List.mergeSort_perm _ _

/-! ### Annotations on annotation classes -/

/-- The annotation class that a declaration declares, if it does. -/
def declaredEntry? : Declaration → Option AnnotationEntry
  | .type d => if d.form = .annotationClass then some ⟨d.name, d.annotations⟩ else none
  | _ => none

/-- Every annotation class of the program, with the entry that counts for a name before all others
of that name: the known ones from the last to the first, then the declared ones in order. -/
def entries (program : Program) : List AnnotationEntry :=
  program.knownEntries.reverse ++ program.declarations.filterMap declaredEntry?

/-- The annotations on an annotation class, if the class is one of the program. -/
def annotationsOn? (program : Program) (name : ClassName) : Option (List AnnotationUse) :=
  (program.entries.find? (·.name == name)).map (·.annotations)

/-- The names of the annotation classes of the program, each once. -/
def entryNames (program : Program) : List ClassName :=
  (program.entries.map (·.name)).eraseDups

end Program

end BindingPlan
