import BindingPlan.Proofs.Document.Expressible
import Mathlib.Data.List.Nodup
import Mathlib.Data.List.Perm.Lattice

/-! # Annotations that mean the same

What counts in an annotation are its *effective* arguments: the written ones, and the declared
defaults of the names that are not written. Two annotations of one class are equivalent if their
effective arguments have the same names with equivalent values; values are equivalent if they are
the same, with class literals compared by their raw classes, arrays item by item and nested
annotations as annotations.

So neither the order of arguments or defaults matters (`AnnotationUse.Equivalent.of_parts`), nor
whether a default is written out (`AnnotationUse.equivalent_withArgument`), at any depth. -/

namespace BindingPlan

/-! ### Effective arguments -/

/-- Whether an argument of a name is written. -/
def AnnotationUse.writes (usage : AnnotationUse) (name : String) : Bool :=
  usage.arguments.any (·.name == name)

/-- The written arguments, and the defaults of the names that are not written. -/
def AnnotationUse.effective (usage : AnnotationUse) : List Argument :=
  usage.arguments ++ usage.defaults.filter fun d => !usage.writes d.name

mutual

/-- In every annotation inside the value, arguments have names of their own, as have defaults. -/
def ArgumentValue.WellNamed : ArgumentValue → Prop
  | .nested usage => usage.WellNamed
  | .array items => ArgumentValue.AllWellNamed items
  | _ => True

/-- All values are well named. -/
def ArgumentValue.AllWellNamed : List ArgumentValue → Prop
  | [] => True
  | value :: rest => value.WellNamed ∧ ArgumentValue.AllWellNamed rest

/-- The arguments have names of their own, and so have the defaults, here and at every depth. -/
def AnnotationUse.WellNamed : AnnotationUse → Prop
  | ⟨_, arguments, defaults⟩ =>
    (arguments.map (·.name)).Nodup ∧ (defaults.map (·.name)).Nodup ∧
      Argument.AllWellNamed arguments ∧ Argument.AllWellNamed defaults

/-- All arguments have well-named values. -/
def Argument.AllWellNamed : List Argument → Prop
  | [] => True
  | argument :: rest => argument.WellNamed ∧ Argument.AllWellNamed rest

/-- The value of the argument is well named. -/
def Argument.WellNamed : Argument → Prop
  | ⟨_, value⟩ => value.WellNamed

end

theorem Argument.allWellNamed_iff : ∀ {arguments : List Argument},
    AllWellNamed arguments ↔ ∀ argument ∈ arguments, argument.WellNamed
  | [] => by simp [AllWellNamed]
  | argument :: rest => by rw [AllWellNamed, allWellNamed_iff, List.forall_mem_cons]

namespace AnnotationUse

theorem wellNamed_iff {usage : AnnotationUse} : usage.WellNamed ↔
    (usage.arguments.map (·.name)).Nodup ∧ (usage.defaults.map (·.name)).Nodup ∧
      (∀ argument ∈ usage.arguments, argument.WellNamed) ∧
      ∀ default ∈ usage.defaults, default.WellNamed := by
  obtain ⟨type, arguments, defaults⟩ := usage
  rw [WellNamed, Argument.allWellNamed_iff, Argument.allWellNamed_iff]

section Effective
variable {usage : AnnotationUse}

theorem mem_effective {x : Argument} : x ∈ usage.effective ↔ x ∈ usage.arguments ∨
    x ∈ usage.defaults ∧ ∀ written ∈ usage.arguments, written.name ≠ x.name := by
  simp [effective, writes]

theorem WellNamed.nodup_effective (h : usage.WellNamed) :
    (usage.effective.map (·.name)).Nodup := by
  obtain ⟨written, declared, -, -⟩ := wellNamed_iff.mp h
  rw [effective, List.map_append, List.nodup_append]
  refine ⟨written, declared.sublist (List.filter_sublist.map _), ?_⟩
  intro name mem name' mem' e
  obtain ⟨argument, here, rfl⟩ := List.mem_map.mp mem
  obtain ⟨default, there, rfl⟩ := List.mem_map.mp mem'
  have missing := (List.mem_filter.mp there).2
  simp only [writes, Bool.not_eq_true', List.any_eq_false, beq_iff_eq] at missing
  exact missing argument here e

theorem WellNamed.of_mem_effective (h : usage.WellNamed) {x : Argument}
    (mem : x ∈ usage.effective) : x.WellNamed := by
  obtain ⟨-, -, arguments, defaults⟩ := wellNamed_iff.mp h
  rcases mem_effective.mp mem with written | ⟨declared, -⟩
  · exact arguments x written
  · exact defaults x declared

end Effective

end AnnotationUse

/-! ### Equivalence -/

mutual

/-- The values mean the same. -/
inductive ArgumentValue.Equivalent : ArgumentValue → ArgumentValue → Prop
  | string (text : String) : ArgumentValue.Equivalent (.string text) (.string text)
  | bool (value : Bool) : ArgumentValue.Equivalent (.bool value) (.bool value)
  | int (value : Int64) : ArgumentValue.Equivalent (.int value) (.int value)
  | float (value : Decimal.Double) : ArgumentValue.Equivalent (.float value) (.float value)
  | char (value : Char) : ArgumentValue.Equivalent (.char value) (.char value)
  /-- Class literals are compared by their raw classes. -/
  | type {literal literal' : TypeRef} (raw : literal.raw = literal'.raw) :
      ArgumentValue.Equivalent (.type literal) (.type literal')
  | enum (constant : EnumConstant) : ArgumentValue.Equivalent (.enum constant) (.enum constant)
  | nested {usage usage' : AnnotationUse} (same : AnnotationUse.Equivalent usage usage') :
      ArgumentValue.Equivalent (.nested usage) (.nested usage')
  | array {items items' : List ArgumentValue} (same : ArgumentValue.AllEquivalent items items') :
      ArgumentValue.Equivalent (.array items) (.array items')

/-- The values of two lists mean the same one by one. -/
inductive ArgumentValue.AllEquivalent : List ArgumentValue → List ArgumentValue → Prop
  | nil : ArgumentValue.AllEquivalent [] []
  | cons {value value' : ArgumentValue} {rest rest' : List ArgumentValue}
      (first : ArgumentValue.Equivalent value value')
      (others : ArgumentValue.AllEquivalent rest rest') :
      ArgumentValue.AllEquivalent (value :: rest) (value' :: rest')

/-- The annotations mean the same: they are of one class, and their effective arguments can be put
into an order in which they mean the same one by one. -/
inductive AnnotationUse.Equivalent : AnnotationUse → AnnotationUse → Prop
  | mk {usage usage' : AnnotationUse} {listed listed' : List Argument}
      (type : usage.type = usage'.type) (order : usage.effective.Perm listed)
      (order' : usage'.effective.Perm listed') (same : Argument.AllEquivalent listed listed') :
      AnnotationUse.Equivalent usage usage'

/-- The arguments of two lists have the same names and equivalent values one by one. -/
inductive Argument.AllEquivalent : List Argument → List Argument → Prop
  | nil : Argument.AllEquivalent [] []
  | cons {argument argument' : Argument} {rest rest' : List Argument}
      (name : argument.name = argument'.name)
      (first : ArgumentValue.Equivalent argument.value argument'.value)
      (others : Argument.AllEquivalent rest rest') :
      Argument.AllEquivalent (argument :: rest) (argument' :: rest')

end

namespace Argument

theorem AllEquivalent.append {rest rest' : List Argument} : ∀ {front front' : List Argument},
    AllEquivalent front front' → AllEquivalent rest rest' →
      AllEquivalent (front ++ rest) (front' ++ rest')
  | _, _, .nil, others => others
  | _, _, .cons name first more, others => .cons name first (more.append others)

theorem AllEquivalent.map_name : ∀ {front front' : List Argument}, AllEquivalent front front' →
    front.map (·.name) = front'.map (·.name)
  | _, _, .nil => rfl
  | _, _, .cons name _ more => List.cons_eq_cons.mpr ⟨name, more.map_name⟩

theorem AllEquivalent.filter (keep : String → Bool) : ∀ {front front' : List Argument},
    AllEquivalent front front' →
      AllEquivalent (front.filter (keep ·.name)) (front'.filter (keep ·.name))
  | _, _, .nil => .nil
  | _, _, @AllEquivalent.cons argument argument' _ _ name first more => by
    have others := more.filter keep
    cases kept : keep argument.name with
    | true => simpa [kept, ← name] using AllEquivalent.cons name first others
    | false => simpa [kept, ← name] using others

end Argument

mutual

theorem ArgumentValue.Equivalent.refl : ∀ value : ArgumentValue, value.Equivalent value
  | .string text => .string text
  | .bool value => .bool value
  | .int value => .int value
  | .float value => .float value
  | .char value => .char value
  | .type _ => .type rfl
  | .enum constant => .enum constant
  | .nested usage => .nested (AnnotationUse.Equivalent.refl usage)
  | .array items => .array (ArgumentValue.AllEquivalent.refl items)

theorem ArgumentValue.AllEquivalent.refl : ∀ values : List ArgumentValue,
    ArgumentValue.AllEquivalent values values
  | [] => .nil
  | value :: rest =>
    .cons (ArgumentValue.Equivalent.refl value) (ArgumentValue.AllEquivalent.refl rest)

theorem AnnotationUse.Equivalent.refl : ∀ usage : AnnotationUse, usage.Equivalent usage
  | ⟨type, arguments, defaults⟩ => by
    have written : Argument.AllEquivalent arguments arguments :=
      Argument.AllEquivalent.refl arguments
    have declared : Argument.AllEquivalent defaults defaults := Argument.AllEquivalent.refl defaults
    exact .mk rfl (.refl _) (.refl _)
      (written.append (declared.filter (!AnnotationUse.writes ⟨type, arguments, defaults⟩ ·)))

theorem Argument.AllEquivalent.refl : ∀ arguments : List Argument,
    Argument.AllEquivalent arguments arguments
  | [] => .nil
  | ⟨_, value⟩ :: rest =>
    .cons rfl (ArgumentValue.Equivalent.refl value) (Argument.AllEquivalent.refl rest)

end

/-! ### Other ways to write an annotation -/

namespace AnnotationUse

theorem writes_eq_of_perm {usage usage' : AnnotationUse}
    (names : (usage.arguments.map (·.name)).Perm (usage'.arguments.map (·.name))) :
    usage.writes = usage'.writes := by
  have written : ∀ (u : AnnotationUse) (name : String),
      u.writes name = (u.arguments.map (·.name)).any (· == name) := fun u name => by
    simp [writes, List.any_map, Function.comp_def]
  funext name
  rw [written, written, names.any_eq]

/-- **Order does not matter**, nor does it matter if a part is replaced by an equivalent one. -/
theorem Equivalent.of_parts {usage usage' : AnnotationUse} (type : usage.type = usage'.type)
    {arguments defaults : List Argument} (written : usage.arguments.Perm arguments)
    (writtenSame : Argument.AllEquivalent arguments usage'.arguments)
    (declared : usage.defaults.Perm defaults)
    (declaredSame : Argument.AllEquivalent defaults usage'.defaults) : usage.Equivalent usage' := by
  have writes : usage.writes = usage'.writes :=
    writes_eq_of_perm (writtenSame.map_name ▸ written.map _)
  have order : usage.effective.Perm (arguments ++ defaults.filter (!usage'.writes ·.name)) := by
    rw [effective, writes]
    exact written.append (declared.filter _)
  exact .mk type order (.refl _) (writtenSame.append (declaredSame.filter (!usage'.writes ·)))

section WrittenOut
variable {usage : AnnotationUse} {name : String} {value : ArgumentValue}

theorem WellNamed.withArgument (h : usage.WellNamed) (declared : ⟨name, value⟩ ∈ usage.defaults)
    (missing : ∀ argument ∈ usage.arguments, argument.name ≠ name) :
    (usage.withArgument name value).WellNamed := by
  obtain ⟨written, distinct, arguments, defaults⟩ := wellNamed_iff.mp h
  refine wellNamed_iff.mpr ⟨?_, distinct, ?_, defaults⟩
  · simp only [AnnotationUse.withArgument, List.map_append, List.nodup_append]
    exact ⟨written, List.nodup_singleton _, by simpa using missing⟩
  · exact List.forall_mem_append.mpr
      ⟨arguments, List.forall_mem_singleton.mpr (defaults ⟨name, value⟩ declared)⟩

theorem mem_effective_withArgument (h : usage.WellNamed) (declared : ⟨name, value⟩ ∈ usage.defaults)
    (missing : ∀ argument ∈ usage.arguments, argument.name ≠ name) {x : Argument} :
    x ∈ (usage.withArgument name value).effective ↔ x ∈ usage.effective := by
  obtain ⟨-, distinct, -, -⟩ := wellNamed_iff.mp h
  simp only [mem_effective, AnnotationUse.withArgument, List.mem_append, List.mem_singleton]
  constructor
  · rintro ((written | rfl) | ⟨other, unwritten⟩)
    · exact .inl written
    · exact .inr ⟨declared, missing⟩
    · exact .inr ⟨other, fun argument mem => unwritten argument (.inl mem)⟩
  · rintro (written | ⟨other, unwritten⟩)
    · exact .inl (.inl written)
    · by_cases same : x.name = name
      · exact .inl (.inr (List.inj_on_of_nodup_map distinct other declared same))
      · refine .inr ⟨other, ?_⟩
        rintro argument (mem | rfl)
        · exact unwritten argument mem
        · exact fun e => same e.symm

/-- **A default may be written out.** -/
theorem equivalent_withArgument (h : usage.WellNamed) (declared : ⟨name, value⟩ ∈ usage.defaults)
    (missing : ∀ argument ∈ usage.arguments, argument.name ≠ name) :
    usage.Equivalent (usage.withArgument name value) := by
  have wellNamed := h.withArgument declared missing
  have perm : usage.effective.Perm (usage.withArgument name value).effective :=
    (List.perm_ext_iff_of_nodup h.nodup_effective.of_map wellNamed.nodup_effective.of_map).mpr
      fun _ => (mem_effective_withArgument h declared missing).symm
  exact .mk rfl perm (.refl _) (Argument.AllEquivalent.refl _)

end WrittenOut

end AnnotationUse

end BindingPlan
