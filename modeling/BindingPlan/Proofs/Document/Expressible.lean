import BindingPlan.Document.Program
import BindingPlan.Proofs.Document.Shape
import BindingPlan.Proofs.Name.RoundTrip
import Mathlib.Data.List.DropRight

/-! # What a document can express

A program may hold class names that no document has, such as one with an empty part or with a package
that looks like a class. It is expressible if each class and each type in it, at any depth of its
annotations, is read back from its own text. Every program that comes from a document is expressible
(`Program.expressible_of_ofText?`), and so is every part of it. -/

namespace BindingPlan

open Document (Decoded Route Shape)

/-! ### Expressible parts -/

/-- The class is read back from its text. -/
def ClassName.Expressible (name : ClassName) : Prop :=
  ClassName.ofDotted? (Text.trim name.dotted) = .ok name

instance (name : ClassName) : Decidable name.Expressible :=
  inferInstanceAs (Decidable (_ = _))

mutual

/-- The value is made of classes and types that are read back. -/
def ArgumentValue.Expressible : ArgumentValue → Prop
  | .type literal => literal.IsNamed
  | .enum constant => constant.type.Expressible
  | .nested usage => usage.Expressible
  | .array items => ArgumentValue.AllExpressible items
  | _ => True

/-- All values are expressible. -/
def ArgumentValue.AllExpressible : List ArgumentValue → Prop
  | [] => True
  | value :: rest => value.Expressible ∧ ArgumentValue.AllExpressible rest

/-- The class of the annotation is read back, and its values are expressible. -/
def AnnotationUse.Expressible : AnnotationUse → Prop
  | ⟨type, arguments, defaults⟩ =>
    type.Expressible ∧ Argument.AllExpressible arguments ∧ Argument.AllExpressible defaults

/-- All arguments are expressible. -/
def Argument.AllExpressible : List Argument → Prop
  | [] => True
  | argument :: rest => argument.Expressible ∧ Argument.AllExpressible rest

/-- The value of the argument is expressible. -/
def Argument.Expressible : Argument → Prop
  | ⟨_, value⟩ => value.Expressible

end

theorem ArgumentValue.allExpressible_iff : ∀ {values : List ArgumentValue},
    AllExpressible values ↔ ∀ value ∈ values, value.Expressible
  | [] => by simp [AllExpressible]
  | value :: rest => by rw [AllExpressible, allExpressible_iff, List.forall_mem_cons]

theorem Argument.allExpressible_iff : ∀ {arguments : List Argument},
    AllExpressible arguments ↔ ∀ argument ∈ arguments, argument.Expressible
  | [] => by simp [AllExpressible]
  | argument :: rest => by rw [AllExpressible, allExpressible_iff, List.forall_mem_cons]

/-- The parameter has an expressible type and expressible annotations. -/
structure Parameter.Expressible (parameter : Parameter) : Prop where
  type : parameter.type.IsNamed
  annotations : ∀ usage ∈ parameter.annotations, usage.Expressible

/-- All classes, types and annotations of the class declaration are expressible. -/
structure ClassDeclaration.Expressible (declaration : ClassDeclaration) : Prop where
  name : declaration.name.Expressible
  supertypes : ∀ type ∈ declaration.supertypes, type.IsNamed
  annotations : ∀ usage ∈ declaration.annotations, usage.Expressible

/-- All classes, types and annotations of the function declaration are expressible. -/
structure FunctionDeclaration.Expressible (declaration : FunctionDeclaration) : Prop where
  parameters : ∀ parameter ∈ declaration.parameters, parameter.Expressible
  returnType : ∀ type ∈ declaration.returnType, type.IsNamed
  owner : ∀ owner ∈ declaration.owner, owner.name.Expressible
  annotations : ∀ usage ∈ declaration.annotations, usage.Expressible

/-- All that is said in the declaration is expressible. -/
def Declaration.Expressible : Declaration → Prop
  | .type d => d.Expressible
  | .function d => d.Expressible
  | .misc d => ∀ usage ∈ d.annotations, usage.Expressible

/-- The annotation class is read back, and the annotations on it are expressible. -/
structure AnnotationEntry.Expressible (entry : AnnotationEntry) : Prop where
  name : entry.name.Expressible
  annotations : ∀ usage ∈ entry.annotations, usage.Expressible

/-- All declarations and all entries are expressible. -/
structure Program.Expressible (program : Program) : Prop where
  declarations : ∀ declaration ∈ program.declarations, declaration.Expressible
  knownEntries : ∀ entry ∈ program.knownEntries, entry.Expressible

theorem Declaration.Expressible.annotations {declaration : Declaration}
    (h : declaration.Expressible) : ∀ usage ∈ declaration.annotations, usage.Expressible := by
  cases declaration with
  | type d => exact ClassDeclaration.Expressible.annotations h
  | function d => exact FunctionDeclaration.Expressible.annotations h
  | misc d => exact h

/-! ### Names -/

theorem Text.trim_trim (s : String) : Text.trim (Text.trim s) = Text.trim s := by
  have front : ∀ l : List Char, ((l.dropWhile isBlank).rdropWhile isBlank).dropWhile isBlank =
      (l.dropWhile isBlank).rdropWhile isBlank := by
    intro l
    cases rest : (l.dropWhile isBlank).rdropWhile isBlank with
    | nil => rfl
    | cons c rest' =>
      obtain ⟨behind, whole⟩ := List.rdropWhile_prefix isBlank (l := l.dropWhile isBlank)
      have first : isBlank c = false :=
        TypeGrammar.head_dropWhile isBlank l c (by rw [← whole, rest]; rfl)
      rw [List.dropWhile_cons, first]
      rfl
  show String.ofList (((Text.trim s).toList.dropWhile isBlank).rdropWhile isBlank) = Text.trim s
  have own : (Text.trim s).toList = (s.toList.dropWhile isBlank).rdropWhile isBlank :=
    String.toList_ofList
  rw [own, front, List.rdropWhile_idempotent]
  rfl

theorem Text.trim_eq_self {s : String} (first : ∀ c ∈ s.toList.head?, isBlank c = false)
    (last : ∀ c ∈ s.toList.getLast?, isBlank c = false) : Text.trim s = s := by
  have front : s.toList.dropWhile isBlank = s.toList :=
    show ([] ++ s.toList).dropWhile isBlank = s.toList from
      TypeGrammar.dropWhile_of_run (by simp) first
  have back : s.toList.rdropWhile isBlank = s.toList :=
    List.rdropWhile_eq_self_iff.mpr fun ne => by
      simpa using last _ (List.getLast?_eq_some_getLast ne)
  show String.ofList ((s.toList.dropWhile isBlank).rdropWhile isBlank) = s
  rw [front, back, String.ofList_toList]

theorem Text.trim_eq_self_iff {s : String} : Text.trim s = s ↔
    (∀ c ∈ s.toList.head?, isBlank c = false) ∧ ∀ c ∈ s.toList.getLast?, isBlank c = false := by
  refine ⟨fun same => ?_, fun h => trim_eq_self h.1 h.2⟩
  have chars : (s.toList.dropWhile isBlank).rdropWhile isBlank = s.toList := by
    rw [← String.toList_inj] at same
    exact String.toList_ofList.symm.trans same
  have front : s.toList.dropWhile isBlank = s.toList := by
    refine (List.dropWhile_suffix isBlank).eq_of_length_le ?_
    have shorter := (List.rdropWhile_prefix isBlank (l := s.toList.dropWhile isBlank)).length_le
    rwa [chars] at shorter
  rw [front] at chars
  constructor
  · rw [← front]
    exact TypeGrammar.head_dropWhile isBlank s.toList
  · intro c mem
    obtain ⟨ne, rfl⟩ := List.mem_getLast?_eq_getLast mem
    simpa using List.rdropWhile_eq_self_iff.mp chars ne

namespace Document

variable {route : Route} {value : Json}

theorem mapError_eq_ok_iff {ε ε' α : Type} {x : Except ε α} {f : ε → ε'} {a : α} :
    x.mapError f = .ok a ↔ x = .ok a := by
  cases x <;> simp [Except.mapError]

theorem expressible_of_className {name : ClassName} (h : className value = .ok name) :
    name.Expressible := by
  obtain ⟨text, -, h⟩ := bind_eq_ok_iff.mp h
  have read := mapError_eq_ok_iff.mp h
  rw [ClassName.Expressible, ClassName.dotted_of_ofDotted? read, Text.trim_trim, read]

theorem isNamed_of_typeRef {type : TypeRef} (h : typeRef value = .ok type) : type.IsNamed := by
  obtain ⟨text, -, h⟩ := bind_eq_ok_iff.mp h
  exact TypeRef.isNamed_of_ofText? (mapError_eq_ok_iff.mp h)

/-! ### Annotations -/

theorem expressible_of_enumConstant {constant : EnumConstant}
    (h : enumConstant route value = .ok constant) : constant.type.Expressible := by
  obtain ⟨⟨parts, missing⟩, taken, h⟩ := bind_eq_ok_iff.mp h
  have expressible : ∀ type ∈ parts.type, type.Expressible := by
    refine Shape.of_take (P := fun p => ∀ type ∈ p.type, type.Expressible) ?_ taken (by simp)
    simp only [enumConstantShape, List.forall_mem_cons]
    refine ⟨Shape.keeps_field ?_, Shape.keeps_field ?_, List.forall_mem_nil _⟩
    · exact fun v type built read _ => forall_mem_some (expressible_of_className read)
    · exact fun _ _ _ _ before => before
  obtain ⟨type, given, h⟩ := bind_eq_ok_iff.mp h
  obtain ⟨name, -, h⟩ := bind_eq_ok_iff.mp h
  cases h
  exact expressible type (required_eq_ok_iff.mp given)

theorem expressible_of_argumentOf {decode : Json → Decoded ArgumentValue}
    (inner : ∀ v x, decode v = .ok x → x.Expressible) {argument : Argument}
    (h : argumentOf route decode value = .ok argument) : argument.Expressible := by
  obtain ⟨⟨parts, missing⟩, taken, h⟩ := bind_eq_ok_iff.mp h
  have expressible : ∀ x ∈ parts.value, x.Expressible := by
    refine Shape.of_take (P := fun p => ∀ x ∈ p.value, x.Expressible) ?_ taken (by simp)
    simp only [argumentShape, List.forall_mem_cons]
    refine ⟨Shape.keeps_field ?_, Shape.keeps_field ?_, List.forall_mem_nil _⟩
    · exact fun _ _ _ _ before => before
    · exact fun v x built read _ => forall_mem_some (inner v x read)
  obtain ⟨name, -, h⟩ := bind_eq_ok_iff.mp h
  obtain ⟨x, given, h⟩ := bind_eq_ok_iff.mp h
  cases h
  rw [Argument.Expressible]
  exact expressible x (required_eq_ok_iff.mp given)

theorem expressible_of_annotationOf {decode : Json → Decoded Argument}
    (inner : ∀ v argument, decode v = .ok argument → argument.Expressible) {usage : AnnotationUse}
    (h : annotationOf route decode value = .ok usage) : usage.Expressible := by
  obtain ⟨⟨parts, missing⟩, taken, h⟩ := bind_eq_ok_iff.mp h
  have list : ∀ {v arguments}, list decode v = .ok arguments → Argument.AllExpressible arguments := by
    intro v arguments read
    refine Argument.allExpressible_iff.mpr fun argument mem => ?_
    obtain ⟨item, read⟩ := exists_of_list read argument mem
    exact inner item argument read
  have expressible : (∀ type ∈ parts.type, type.Expressible) ∧
      Argument.AllExpressible parts.arguments ∧ Argument.AllExpressible parts.defaults := by
    refine Shape.of_take (P := fun p => (∀ type ∈ p.type, type.Expressible) ∧
      Argument.AllExpressible p.arguments ∧ Argument.AllExpressible p.defaults) ?_ taken
      (by simp [Argument.AllExpressible])
    simp only [annotationShape, List.forall_mem_cons]
    refine ⟨Shape.keeps_field ?_, Shape.keeps_field ?_, Shape.keeps_field ?_,
      List.forall_mem_nil _⟩
    · exact fun v type built read before =>
        ⟨forall_mem_some (expressible_of_className read), before.2⟩
    · exact fun v arguments built read before => ⟨before.1, list read, before.2.2⟩
    · exact fun v defaults built read before => ⟨before.1, before.2.1, list read⟩
  obtain ⟨type, given, h⟩ := bind_eq_ok_iff.mp h
  cases h
  exact ⟨expressible.1 type (required_eq_ok_iff.mp given), expressible.2⟩

theorem exists_of_variant {α : Type} {known : List String} {payload : String → Json → Decoded α}
    {a : α} (h : variant route known payload value = .ok a) :
    ∃ name inner, payload name inner = .ok a := by
  cases value with
  | object members =>
    cases route with
    | read =>
      cases members with
      | nil => cases h
      | cons first rest =>
        obtain ⟨-, -, h⟩ := bind_eq_ok_iff.mp h
        obtain ⟨result, read, h⟩ := bind_eq_ok_iff.mp h
        split_ifs at h
        cases h
        exact ⟨_, _, read⟩
    | held =>
      match members, h with
      | [(name, inner)], h =>
        obtain ⟨-, -, h⟩ := bind_eq_ok_iff.mp h
        exact ⟨_, _, h⟩
  | string name =>
    obtain ⟨-, -, h⟩ := bind_eq_ok_iff.mp h
    cases h
  | _ => cases route <;> cases h

theorem expressible_of_payload {decode : Json → Decoded ArgumentValue}
    (inner : ∀ v x, decode v = .ok x → x.Expressible) {key : String} {x : ArgumentValue}
    (h : payload route decode key value = .ok x) : x.Expressible := by
  unfold payload at h
  split at h
  case h_6 =>
    obtain ⟨type, read, rfl⟩ := map_eq_ok_iff.mp h
    exact isNamed_of_typeRef read
  case h_7 =>
    obtain ⟨constant, read, rfl⟩ := map_eq_ok_iff.mp h
    exact expressible_of_enumConstant read
  case h_8 =>
    obtain ⟨usage, read, rfl⟩ := map_eq_ok_iff.mp h
    exact expressible_of_annotationOf (fun _ _ => expressible_of_argumentOf inner) read
  case h_9 =>
    obtain ⟨items, read, rfl⟩ := map_eq_ok_iff.mp h
    refine ArgumentValue.allExpressible_iff.mpr fun x mem => ?_
    obtain ⟨item, read⟩ := exists_of_list read x mem
    exact inner item x read
  case h_10 => cases h
  -- What is left has neither a class nor a type in it.
  all_goals
    obtain ⟨_, -, rfl⟩ := map_eq_ok_iff.mp h
    trivial

/-- **Every value that comes from a document is expressible**, however deeply it nests. -/
theorem expressible_of_valueWithin : ∀ {depth : Nat} {value : Json} {x : ArgumentValue},
    valueWithin route depth value = .ok x → x.Expressible
  | 0, _, _, h => by cases h
  | _ + 1, _, _, h => by
    obtain ⟨_, _, read⟩ := exists_of_variant h
    exact expressible_of_payload (fun _ _ => expressible_of_valueWithin) read

theorem expressible_of_annotationUse {usage : AnnotationUse}
    (h : annotationUse route value = .ok usage) : usage.Expressible :=
  expressible_of_annotationOf
    (fun _ _ => expressible_of_argumentOf fun _ _ => expressible_of_valueWithin) h

theorem expressible_of_annotations {usages : List AnnotationUse}
    (h : list (annotationUse route) value = .ok usages) : ∀ usage ∈ usages, usage.Expressible := by
  intro usage mem
  obtain ⟨item, read⟩ := exists_of_list h usage mem
  exact expressible_of_annotationUse read

theorem isNamed_of_types {types : List TypeRef} (h : list typeRef value = .ok types) :
    ∀ type ∈ types, type.IsNamed := by
  intro type mem
  obtain ⟨item, read⟩ := exists_of_list h type mem
  exact isNamed_of_typeRef read

/-! ### Declarations -/

theorem expressible_of_owner {found : Owner} (h : owner value = .ok found) :
    found.name.Expressible := by
  obtain ⟨⟨parts, missing⟩, taken, h⟩ := bind_eq_ok_iff.mp h
  have expressible : ∀ name ∈ parts.name, name.Expressible := by
    refine Shape.of_take (P := fun p => ∀ name ∈ p.name, name.Expressible) ?_ taken (by simp)
    simp only [ownerShape, List.forall_mem_cons]
    refine ⟨Shape.keeps_field ?_, Shape.keeps_field ?_, List.forall_mem_nil _⟩
    · exact fun v name built read _ => forall_mem_some (expressible_of_className read)
    · exact fun _ _ _ _ before => before
  obtain ⟨name, given, h⟩ := bind_eq_ok_iff.mp h
  obtain ⟨form, -, h⟩ := bind_eq_ok_iff.mp h
  cases h
  exact expressible name (required_eq_ok_iff.mp given)

theorem expressible_of_parameter {found : Parameter} (h : parameter value = .ok found) :
    found.Expressible := by
  obtain ⟨⟨parts, missing⟩, taken, h⟩ := bind_eq_ok_iff.mp h
  have expressible : (∀ type ∈ parts.type, type.IsNamed) ∧
      ∀ usage ∈ parts.annotations, usage.Expressible := by
    refine Shape.of_take (P := fun p => (∀ type ∈ p.type, type.IsNamed) ∧
      ∀ usage ∈ p.annotations, usage.Expressible) ?_ taken (by simp)
    simp only [parameterShape, List.forall_mem_cons]
    refine ⟨Shape.keeps_field ?_, Shape.keeps_field ?_, Shape.keeps_field ?_,
      List.forall_mem_nil _⟩
    · exact fun _ _ _ _ before => before
    · exact fun v type built read before =>
        ⟨forall_mem_some (isNamed_of_typeRef read), before.2⟩
    · exact fun v usages built read before => ⟨before.1, expressible_of_annotations read⟩
  obtain ⟨name, -, h⟩ := bind_eq_ok_iff.mp h
  obtain ⟨type, given, h⟩ := bind_eq_ok_iff.mp h
  cases h
  exact ⟨expressible.1 type (required_eq_ok_iff.mp given), expressible.2⟩

theorem expressible_of_classDeclaration {found : ClassDeclaration}
    (h : classDeclaration value = .ok found) : found.Expressible := by
  obtain ⟨⟨parts, missing⟩, taken, h⟩ := bind_eq_ok_iff.mp h
  have expressible : (∀ name ∈ parts.name, name.Expressible) ∧
      (∀ type ∈ parts.supertypes, type.IsNamed) ∧
      ∀ usage ∈ parts.annotations, usage.Expressible := by
    refine Shape.of_take (P := fun p => (∀ name ∈ p.name, name.Expressible) ∧
      (∀ type ∈ p.supertypes, type.IsNamed) ∧ ∀ usage ∈ p.annotations, usage.Expressible)
      ?_ taken (by simp)
    simp only [classShape, List.forall_mem_cons]
    refine ⟨Shape.keeps_field ?_, Shape.keeps_field ?_, Shape.keeps_field ?_, Shape.keeps_field ?_,
      Shape.keeps_field ?_, Shape.keeps_field ?_, Shape.keeps_field ?_, List.forall_mem_nil _⟩
    case refine_1 =>
      exact fun v name built read before =>
        ⟨forall_mem_some (expressible_of_className read), before.2⟩
    case refine_4 =>
      exact fun v types built read before => ⟨before.1, isNamed_of_types read, before.2.2⟩
    case refine_5 =>
      exact fun v usages built read before => ⟨before.1, before.2.1, expressible_of_annotations read⟩
    all_goals exact fun _ _ _ _ before => before
  obtain ⟨name, given, h⟩ := bind_eq_ok_iff.mp h
  cases h
  exact ⟨expressible.1 name (required_eq_ok_iff.mp given), expressible.2.1, expressible.2.2⟩

theorem expressible_of_functionDeclaration {found : FunctionDeclaration}
    (h : functionDeclaration value = .ok found) : found.Expressible := by
  obtain ⟨⟨parts, missing⟩, taken, h⟩ := bind_eq_ok_iff.mp h
  have expressible : (∀ parameter ∈ parts.parameters, parameter.Expressible) ∧
      (∀ type ∈ parts.returnType, type.IsNamed) ∧
      (∀ owner ∈ parts.owner, owner.name.Expressible) ∧
      ∀ usage ∈ parts.annotations, usage.Expressible := by
    refine Shape.of_take (P := fun p => (∀ parameter ∈ p.parameters, parameter.Expressible) ∧
      (∀ type ∈ p.returnType, type.IsNamed) ∧ (∀ owner ∈ p.owner, owner.name.Expressible) ∧
      ∀ usage ∈ p.annotations, usage.Expressible) ?_ taken (by simp)
    simp only [functionShape, List.forall_mem_cons]
    refine ⟨Shape.keeps_field ?_, Shape.keeps_field ?_, Shape.keeps_field ?_, Shape.keeps_field ?_,
      Shape.keeps_field ?_, Shape.keeps_field ?_, Shape.keeps_field ?_, List.forall_mem_nil _⟩
    case refine_2 =>
      rintro v parameters built read ⟨-, before⟩
      refine ⟨fun found mem => ?_, before⟩
      obtain ⟨item, read⟩ := exists_of_list read found mem
      exact expressible_of_parameter read
    case refine_3 =>
      rintro v type built read ⟨before, -, after⟩
      exact ⟨before, fun found mem => isNamed_of_typeRef (of_optional read found mem), after⟩
    case refine_4 =>
      rintro v owner built read ⟨before, before', -, after⟩
      exact ⟨before, before',
        fun found mem => expressible_of_owner (of_optional read found mem), after⟩
    case refine_5 =>
      rintro v usages built read ⟨before, before', before'', -⟩
      exact ⟨before, before', before'', expressible_of_annotations read⟩
    all_goals exact fun _ _ _ _ before => before
  obtain ⟨name, -, h⟩ := bind_eq_ok_iff.mp h
  cases h
  obtain ⟨parameters, returnType, owner, annotations⟩ := expressible
  exact ⟨parameters, returnType, owner, annotations⟩

theorem expressible_of_miscDeclaration {found : MiscDeclaration}
    (h : miscDeclaration value = .ok found) : ∀ usage ∈ found.annotations, usage.Expressible := by
  obtain ⟨⟨parts, missing⟩, taken, h⟩ := bind_eq_ok_iff.mp h
  have expressible : ∀ usage ∈ parts.annotations, usage.Expressible := by
    refine Shape.of_take (P := fun p => ∀ usage ∈ p.annotations, usage.Expressible) ?_ taken
      (by simp)
    simp only [miscShape, List.forall_mem_cons]
    refine ⟨Shape.keeps_field ?_, Shape.keeps_field ?_, Shape.keeps_field ?_, Shape.keeps_field ?_,
      List.forall_mem_nil _⟩
    case refine_3 => exact fun v usages built read _ => expressible_of_annotations read
    all_goals exact fun _ _ _ _ before => before
  obtain ⟨name, -, h⟩ := bind_eq_ok_iff.mp h
  obtain ⟨element, -, h⟩ := bind_eq_ok_iff.mp h
  cases h
  exact expressible

theorem expressible_of_declaration {found : Declaration} (h : declaration value = .ok found) :
    found.Expressible := by
  unfold declaration at h
  split_ifs at h
  obtain ⟨⟨sort, held⟩, -, h⟩ := bind_eq_ok_iff.mp h
  cases sort with
  | type =>
    obtain ⟨d, read, rfl⟩ := map_eq_ok_iff.mp h
    exact expressible_of_classDeclaration read
  | function =>
    obtain ⟨d, read, rfl⟩ := map_eq_ok_iff.mp h
    exact expressible_of_functionDeclaration read
  | misc =>
    obtain ⟨d, read, rfl⟩ := map_eq_ok_iff.mp h
    exact expressible_of_miscDeclaration read

/-! ### Programs -/

theorem expressible_of_annotationEntry {entry : AnnotationEntry}
    (h : annotationEntry value = .ok entry) : entry.Expressible := by
  obtain ⟨⟨parts, missing⟩, taken, h⟩ := bind_eq_ok_iff.mp h
  have expressible : (∀ name ∈ parts.name, name.Expressible) ∧
      ∀ usage ∈ parts.annotations, usage.Expressible := by
    refine Shape.of_take (P := fun p => (∀ name ∈ p.name, name.Expressible) ∧
      ∀ usage ∈ p.annotations, usage.Expressible) ?_ taken (by simp)
    simp only [annotationEntryShape, List.forall_mem_cons]
    refine ⟨Shape.keeps_field ?_, Shape.keeps_field ?_, List.forall_mem_nil _⟩
    · exact fun v name built read before =>
        ⟨forall_mem_some (expressible_of_className read), before.2⟩
    · exact fun v usages built read before => ⟨before.1, expressible_of_annotations read⟩
  obtain ⟨name, given, h⟩ := bind_eq_ok_iff.mp h
  cases h
  exact ⟨expressible.1 name (required_eq_ok_iff.mp given), expressible.2⟩

theorem expressible_of_program {found : Program} (h : program value = .ok found) :
    found.Expressible := by
  obtain ⟨⟨found, missing⟩, taken, rfl⟩ := map_eq_ok_iff.mp h
  have empty : Program.empty.Expressible := ⟨by simp [Program.empty], by simp [Program.empty]⟩
  refine Shape.of_take (P := Program.Expressible) ?_ taken empty
  simp only [programShape, List.forall_mem_cons]
  refine ⟨Shape.keeps_field ?_, Shape.keeps_field ?_, List.forall_mem_nil _⟩
  · intro v declarations built read before
    refine ⟨fun declaration mem => ?_, before.knownEntries⟩
    obtain ⟨item, read⟩ := exists_of_list read declaration mem
    exact expressible_of_declaration read
  · intro v entries built read before
    refine ⟨before.declarations, fun entry mem => ?_⟩
    obtain ⟨item, read⟩ := exists_of_list read entry mem
    exact expressible_of_annotationEntry read

end Document

/-- **Every program that comes from a document is expressible.** -/
theorem Program.expressible_of_ofText? {text : String} {program : Program}
    (h : Program.ofText? text = .ok program) : program.Expressible := by
  unfold Program.ofText? Document.ofText at h
  split at h
  next value _ => exact Document.expressible_of_program (Document.mapError_eq_ok_iff.mp h)
  next => cases h

end BindingPlan
