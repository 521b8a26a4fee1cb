import BindingPlan.Proofs.AnnotationUse.Legible
import BindingPlan.Proofs.Name.Dotless
import BindingPlan.Proofs.Text.Numeral

/-! # Annotations that can be told apart

A canonical text shows neither of what sort a value is nor whether it stands in an array. Where the
parameters of annotation classes have sorts, as they have in a compiled program, the text of a value
and the sort of its parameter give the value back: two annotations that obey one signature are
equivalent as soon as they have one outline (`AnnotationUse.Obeys.equivalent`). If their outlines
are legible, one canonical text is enough (`canonical_eq_exactly`); if they are not, it may stand
for annotations that mean different things (`canonical_joined`). -/

namespace BindingPlan

/-! ### Signatures -/

/-- The sort of a single value. -/
inductive ItemSort where
  | string
  | bool
  | int
  | char
  | type
  | enum
  | nested

/-- The sort of a value: a single one or an array of single ones. -/
inductive ValueSort where
  | one (item : ItemSort)
  | many (item : ItemSort)

/-- A signature says for each parameter of each annotation class what sort its values have. -/
abbrev Signature := ClassName → String → ValueSort

/-- The value is of a sort, and so is each value inside it as the signature says. -/
inductive ArgumentValue.HasSort (σ : Signature) : ValueSort → ArgumentValue → Prop
  | string (text : String) : HasSort σ (.one .string) (.string text)
  | bool (value : Bool) : HasSort σ (.one .bool) (.bool value)
  | int (value : Int64) : HasSort σ (.one .int) (.int value)
  | char (value : Char) : HasSort σ (.one .char) (.char value)
  | type (literal : TypeRef) : HasSort σ (.one .type) (.type literal)
  /-- A dot in the name of a constant could as well be one in the text of its class. -/
  | enum {constant : EnumConstant} (dotless : Dotless constant.name) :
      HasSort σ (.one .enum) (.enum constant)
  | nested {usage : AnnotationUse}
      (arguments : ∀ x ∈ usage.effective, HasSort σ (σ usage.type x.name) x.value) :
      HasSort σ (.one .nested) (.nested usage)
  /-- An array of one empty string has the text of the empty array. -/
  | array {item : ItemSort} {items : List ArgumentValue}
      (each : ∀ value ∈ items, HasSort σ (.one item) value) (shown : items ≠ [.string ""]) :
      HasSort σ (.many item) (.array items)

/-- The effective arguments have the sorts that the signature gives to their names. -/
def AnnotationUse.Obeys (σ : Signature) (usage : AnnotationUse) : Prop :=
  ∀ x ∈ usage.effective, x.value.HasSort σ (σ usage.type x.name)

/-! ### Values from their texts -/

theorem ClassName.IsNamed.ofDotted? {name : ClassName} (h : name.IsNamed) :
    ClassName.ofDotted? name.dotted = .ok name := by
  obtain ⟨text, -, -, read⟩ := h
  rw [dotted_of_ofDotted? read, read]

theorem ClassName.IsNamed.eq_of_dotted_eq {name name' : ClassName} (h : name.IsNamed)
    (h' : name'.IsNamed) (same : name.dotted = name'.dotted) : name = name' := by
  have read := h.ofDotted?
  rw [same, h'.ofDotted?] at read
  exact (Except.ok.inj read).symm

theorem ClassName.Expressible.eq_of_dotted_eq {name name' : ClassName} (h : name.Expressible)
    (h' : name'.Expressible) (same : name.dotted = name'.dotted) : name = name' := by
  rw [ClassName.Expressible, same] at h
  exact Except.ok.inj (h.symm.trans h')

theorem TypeRef.IsNamed.raw {type : TypeRef} (h : type.IsNamed) : type.raw.IsNamed := by
  cases h with
  | mk raw _ _ => exact raw

/-- The last dot of the text of a constant stands in front of its name. -/
theorem EnumConstant.eq_of_text_eq {constant constant' : EnumConstant}
    (dotless : Dotless constant.name) (dotless' : Dotless constant'.name)
    (expressible : constant.type.Expressible) (expressible' : constant'.type.Expressible)
    (same : constant.type.dotted ++ "." ++ constant.name =
      constant'.type.dotted ++ "." ++ constant'.name) : constant = constant' := by
  obtain ⟨type, name⟩ := constant
  obtain ⟨type', name'⟩ := constant'
  have parts := congrArg ClassName.segments same
  rw [ClassName.segments_append_dot _ dotless, ClassName.segments_append_dot _ dotless'] at parts
  obtain ⟨front, back⟩ := List.append_inj' parts rfl
  have types := congrArg (String.intercalate ".") front
  rw [ClassName.intercalate_segments, ClassName.intercalate_segments] at types
  obtain rfl : type = type' := expressible.eq_of_dotted_eq expressible' types
  obtain rfl : name = name' := (List.cons.inj back).1
  rfl

section Shown
variable {σ : Signature} {item : ItemSort}

theorem ArgumentValue.HasSort.exists_outlines_eq {value : ArgumentValue}
    (h : value.HasSort σ (.one item)) : ∃ shown, value.outlines = [shown] := by
  cases h <;> exact ⟨_, rfl⟩

theorem ArgumentValue.HasSort.eq_of_outlines_empty {value : ArgumentValue}
    (h : value.HasSort σ (.one item)) (expressible : value.Expressible)
    (empty : value.outlines = [.plain ""]) : value = .string "" := by
  cases h with
  | string text => rw [show text = "" by simpa [outlines, canonical] using empty]
  | bool value => cases value <;> simp [outlines, canonical] at empty
  | int value =>
    have shown : value.toInt.repr = "" := by simpa [outlines, canonical] using empty
    exact absurd shown (Text.intNumeral_ne_empty value.toInt)
  | char value => simp [outlines, canonical] at empty
  | type literal =>
    obtain ⟨text, some, -, read⟩ := TypeRef.IsNamed.raw expressible
    have shown : literal.raw.dotted = "" := by simpa [outlines, canonical] using empty
    exact absurd ((ClassName.dotted_of_ofDotted? read).symm.trans shown) some
  | enum dotless => simp [outlines, canonical] at empty
  | nested arguments => simp [outlines, AnnotationUse.outline_eq] at empty

/-- An array with items is not shown as an empty one, unless its one item is an empty string. -/
theorem ArgumentValue.outlines_array_ne {items : List ArgumentValue} (some : items ≠ [])
    (each : ∀ value ∈ items, value.HasSort σ (.one item)) (shown : items ≠ [.string ""])
    (expressible : AllExpressible items) : (array items).outlines ≠ (array []).outlines := by
  obtain ⟨first, rest, rfl⟩ := List.exists_cons_of_ne_nil some
  intro same
  have single : first.HasSort σ (.one item) := each first List.mem_cons_self
  obtain ⟨item, alone⟩ := single.exists_outlines_eq
  rw [outlines_array some, List.flatMap_cons, alone, outlines] at same
  obtain ⟨text, others⟩ := List.cons.inj same
  have none : rest = [] := List.eq_nil_iff_forall_not_mem.mpr fun value mem =>
    value.outlines_ne_nil (List.flatMap_eq_nil_iff.mp others value mem)
  exact shown (by rw [none, single.eq_of_outlines_empty expressible.1 (by rw [alone, text])])

theorem ArgumentValue.allEquivalent_of_flatMap_eq : ∀ {items items' : List ArgumentValue},
    (∀ value ∈ items, value.HasSort σ (.one item)) →
    (∀ value ∈ items', value.HasSort σ (.one item)) →
    (∀ value ∈ items, ∀ value' ∈ items', value.outlines = value'.outlines →
      value.Equivalent value') →
    items.flatMap outlines = items'.flatMap outlines → AllEquivalent items items'
  | [], [], _, _, _, _ => .nil
  | [], value :: rest, _, _, _, same => by
    simp [value.outlines_ne_nil] at same
  | value :: rest, [], _, _, _, same => by
    simp [value.outlines_ne_nil] at same
  | value :: rest, value' :: rest', h, h', each, same => by
    obtain ⟨single, more⟩ := List.forall_mem_cons.mp h
    obtain ⟨single', more'⟩ := List.forall_mem_cons.mp h'
    obtain ⟨shown, first⟩ := single.exists_outlines_eq
    obtain ⟨shown', first'⟩ := single'.exists_outlines_eq
    rw [List.flatMap_cons, List.flatMap_cons, first, first'] at same
    obtain ⟨same, others⟩ := List.cons.inj same
    have equivalent : value.Equivalent value' :=
      each value List.mem_cons_self value' List.mem_cons_self (by rw [first, first', same])
    exact .cons equivalent
      (allEquivalent_of_flatMap_eq more more' (fun x mem y mem' =>
        each x (List.mem_cons_of_mem value mem) y (List.mem_cons_of_mem value' mem')) others)

theorem ArgumentValue.equivalent_array {items items' : List ArgumentValue}
    (h : (array items).HasSort σ (.many item)) (h' : (array items').HasSort σ (.many item))
    (expressible : AllExpressible items) (expressible' : AllExpressible items')
    (each : ∀ value ∈ items, ∀ value' ∈ items', value.outlines = value'.outlines →
      value.Equivalent value')
    (same : (array items).outlines = (array items').outlines) :
    (array items).Equivalent (array items') := by
  cases h with
  | array sorts shown =>
    cases h' with
    | array sorts' shown' =>
      by_cases none : items = [] <;> by_cases none' : items' = []
      · rw [none, none']
        exact .array .nil
      · rw [none] at same
        exact absurd same.symm (outlines_array_ne none' sorts' shown' expressible')
      · rw [none'] at same
        exact absurd same (outlines_array_ne none sorts shown expressible)
      · rw [outlines_array none, outlines_array none'] at same
        exact .array (allEquivalent_of_flatMap_eq sorts sorts' each same)

end Shown

/-! ### Annotations from their outlines -/

theorem AnnotationUse.Expressible.type {usage : AnnotationUse} (h : usage.Expressible) :
    usage.type.Expressible := by
  cases usage
  exact h.1

theorem AnnotationUse.Expressible.of_mem_effective {usage : AnnotationUse} (h : usage.Expressible)
    {x : Argument} (mem : x ∈ usage.effective) : x.value.Expressible := by
  obtain ⟨type, arguments, defaults⟩ := usage
  obtain ⟨-, written, declared⟩ := h
  rw [Argument.allExpressible_iff] at written declared
  obtain ⟨name, value⟩ := x
  rcases mem_effective.mp mem with here | ⟨there, -⟩
  · exact written _ here
  · exact declared _ there

theorem Argument.allEquivalent_of_map_eq : ∀ {arguments arguments' : List Argument},
    (∀ x ∈ arguments, ∀ y ∈ arguments', x.name = y.name → x.value.outlines = y.value.outlines →
      x.value.Equivalent y.value) →
    arguments.map outlinePair = arguments'.map outlinePair → AllEquivalent arguments arguments'
  | [], [], _, _ => .nil
  | [], _ :: _, _, same | _ :: _, [], _, same => by simp at same
  | x :: rest, y :: rest', each, same => by
    obtain ⟨first, others⟩ := List.cons.inj same
    rw [outlinePair_eq, outlinePair_eq] at first
    obtain ⟨names, values⟩ := Prod.mk.inj first
    exact .cons names (each x List.mem_cons_self y List.mem_cons_self names values)
      (allEquivalent_of_map_eq (fun a mem b mem' =>
        each a (List.mem_cons_of_mem x mem) b (List.mem_cons_of_mem y mem')) others)

theorem AnnotationUse.equivalent_of_outline_eq {usage usage' : AnnotationUse}
    (expressible : usage.Expressible) (expressible' : usage'.Expressible)
    (each : usage.type = usage'.type → ∀ x ∈ usage.effective, ∀ y ∈ usage'.effective,
      x.name = y.name → x.value.outlines = y.value.outlines → x.value.Equivalent y.value)
    (same : usage.outline = usage'.outline) : usage.Equivalent usage' := by
  rw [outline_eq, outline_eq, Outline.usage.injEq] at same
  obtain ⟨types, rows⟩ := same
  have type : usage.type = usage'.type := expressible.type.eq_of_dotted_eq expressible'.type types
  -- the rows are those of the arguments in the order of their names
  have sorted : ∀ arguments : List Argument, sortByName (arguments.map Argument.outlinePair) =
      (arguments.mergeSort fun a b => decide (a.name ≤ b.name)).map Argument.outlinePair := by
    intro arguments
    refine (List.map_mergeSort fun a _ b _ => ?_).symm
    rw [Argument.outlinePair_eq, Argument.outlinePair_eq]
  rw [sorted, sorted] at rows
  have order := List.mergeSort_perm usage.effective fun a b => decide (a.name ≤ b.name)
  have order' := List.mergeSort_perm usage'.effective fun a b => decide (a.name ≤ b.name)
  exact .mk type order.symm order'.symm (Argument.allEquivalent_of_map_eq (fun x mem y mem' =>
    each type x (order.mem_iff.mp mem) y (order'.mem_iff.mp mem')) rows)

section Signature
variable {σ : Signature}

/-- **The items of a value and its sort give the value back.** -/
theorem ArgumentValue.HasSort.equivalent {sort : ValueSort} {value value' : ArgumentValue}
    (h : value.HasSort σ sort) (h' : value'.HasSort σ sort) (expressible : value.Expressible)
    (expressible' : value'.Expressible) (same : value.outlines = value'.outlines) :
    value.Equivalent value' := by
  -- along the first value; its sort leaves one form for the second
  induction h generalizing value' with
  | string text =>
    cases h' with
    | string text' =>
      obtain rfl : text = text' := by simpa [outlines, canonical] using same
      exact .string text
  | bool value =>
    cases h' with
    | bool value' =>
      obtain rfl : value = value' := by
        cases value <;> cases value' <;> simp_all [outlines, canonical]
      exact .bool value
  | int value =>
    cases h' with
    | int value' =>
      have texts : value.toInt.repr = value'.toInt.repr := by simpa [outlines, canonical] using same
      obtain rfl : value = value' := Int64.toInt_inj.mp (Text.intNumeral_injective texts)
      exact .int value
  | char value =>
    cases h' with
    | char value' =>
      obtain rfl : value = value' := by
        simpa [outlines, canonical, ← String.toList_inj] using same
      exact .char value
  | type literal =>
    cases h' with
    | type literal' =>
      have texts : literal.raw.dotted = literal'.raw.dotted := by
        simpa [outlines, canonical] using same
      exact .type (expressible.raw.eq_of_dotted_eq expressible'.raw texts)
  | @enum constant dotless =>
    cases h' with
    | @enum constant' dotless' =>
      obtain rfl : constant = constant' :=
        EnumConstant.eq_of_text_eq dotless dotless' expressible expressible'
          (by simpa [outlines, canonical] using same)
      exact .enum constant
  | @nested usage arguments each =>
    cases h' with
    | @nested usage' arguments' =>
      have outline : usage.outline = usage'.outline := by simpa [outlines] using same
      refine .nested (AnnotationUse.equivalent_of_outline_eq expressible expressible' ?_ outline)
      intro type x mem y mem' name shown
      exact each x mem (by rw [type, name]; exact arguments' y mem')
        (AnnotationUse.Expressible.of_mem_effective expressible mem)
        (AnnotationUse.Expressible.of_mem_effective expressible' mem') shown
  | @array item items each shown ih =>
    cases h' with
    | @array _ items' each' shown' =>
      refine equivalent_array (.array each shown) (.array each' shown') expressible expressible' ?_
        same
      intro value mem value' mem'
      exact ih value mem (each' value' mem') (allExpressible_iff.mp expressible value mem)
        (allExpressible_iff.mp expressible' value' mem')

/-- **Annotations that obey one signature are given by their outlines.** -/
theorem AnnotationUse.Obeys.equivalent {usage usage' : AnnotationUse} (h : usage.Obeys σ)
    (h' : usage'.Obeys σ) (expressible : usage.Expressible) (expressible' : usage'.Expressible)
    (same : usage.outline = usage'.outline) : usage.Equivalent usage' := by
  refine equivalent_of_outline_eq expressible expressible' ?_ same
  intro type x mem y mem' name shown
  exact (h x mem).equivalent (by rw [type, name]; exact h' y mem')
    (expressible.of_mem_effective mem) (expressible'.of_mem_effective mem') shown

end Signature

/-! ### Annotations from their canonical texts -/

/-- **Legible texts tell annotations apart.** The canonical texts of annotations with legible
outlines are the same exactly if the outlines are. If moreover there is a signature that both
annotations obey, they are the same exactly if the annotations are equivalent. -/
theorem canonical_eq_exactly {a b : AnnotationUse} (legible : a.outline.legible = true)
    (legible' : b.outline.legible = true) :
    (a.canonical = b.canonical ↔ a.outline = b.outline) ∧
    ∀ σ : Signature, a.Obeys σ → b.Obeys σ → a.Expressible → b.Expressible →
      a.WellNamed → b.WellNamed → (a.canonical = b.canonical ↔ a.Equivalent b) := by
  have outlines : a.canonical = b.canonical ↔ a.outline = b.outline := by
    rw [AnnotationUse.canonical_eq, AnnotationUse.canonical_eq]
    exact ⟨Outline.eq_of_text_eq legible legible', congrArg Outline.text⟩
  refine ⟨outlines, fun σ obeys obeys' expressible expressible' wellNamed wellNamed' => ?_⟩
  rw [outlines]
  exact ⟨obeys.equivalent obeys' expressible expressible',
    fun same => same.outline_eq wellNamed wellNamed'⟩

/-- A signature for annotations with a key and levels. -/
def exampleSignature : Signature := fun _ name =>
  if name = "key" then .one .string else if name = "levels" then .many .nested else .one .int

section Level
variable {level : AnnotationUse} (type : level.type = ⟨"com.example", ["Level"]⟩)
  (depth : level.effective = [⟨"depth", .int 1⟩])
include depth

include type in
theorem legibleRow_level :
    Outline.LegibleRow ("levels", (ArgumentValue.array [.nested level]).outlines) := by
  have marks : unmarked "levels" = true := by decide
  have colons : ':' ∉ "levels".toList := by decide
  have item : level.outline.legible = true := by
    rw [AnnotationUse.legible_outline_iff, type, depth, List.forall_mem_singleton]
    exact ⟨by decide, by decide, by decide, by simp [ArgumentValue.outlines],
      List.forall_mem_singleton.mpr (by decide)⟩
  exact ⟨marks, colons, ArgumentValue.outlines_ne_nil _, List.forall_mem_singleton.mpr item⟩

theorem hasSort_level :
    (ArgumentValue.array [.nested level]).HasSort exampleSignature (.many .nested) := by
  refine .array (List.forall_mem_singleton.mpr (.nested ?_)) (by simp)
  rw [depth, List.forall_mem_singleton]
  exact .int 1

end Level

theorem canonical_eq_exactly_exampleKeyed :
    exampleKeyed.outline.legible = true ∧ exampleRekeyed.outline.legible = true ∧
    exampleKeyed.Obeys exampleSignature ∧ exampleRekeyed.Obeys exampleSignature ∧
    exampleKeyed.Expressible ∧ exampleRekeyed.Expressible ∧
    exampleKeyed.WellNamed ∧ exampleRekeyed.WellNamed ∧
    exampleKeyed.Equivalent exampleRekeyed ∧
      exampleKeyed.canonical = exampleRekeyed.canonical := by
  have key : Outline.LegibleRow ("key", (ArgumentValue.string "a").outlines) :=
    ⟨by decide, by decide, by simp [ArgumentValue.outlines], List.forall_mem_singleton.mpr rfl⟩
  have legible : exampleKeyed.outline.legible = true := AnnotationUse.legible_outline_iff.mpr
    ⟨by decide, List.forall_mem_cons.mpr
      ⟨key, List.forall_mem_singleton.mpr (legibleRow_level rfl rfl)⟩⟩
  have legible' : exampleRekeyed.outline.legible = true := AnnotationUse.legible_outline_iff.mpr
    ⟨by decide, List.forall_mem_cons.mpr
      ⟨legibleRow_level rfl rfl, List.forall_mem_singleton.mpr key⟩⟩
  have obeys : exampleKeyed.Obeys exampleSignature :=
    List.forall_mem_cons.mpr ⟨.string "a", List.forall_mem_singleton.mpr (hasSort_level rfl)⟩
  have obeys' : exampleRekeyed.Obeys exampleSignature :=
    List.forall_mem_cons.mpr ⟨hasSort_level rfl, List.forall_mem_singleton.mpr (.string "a")⟩
  have keyed : (⟨"com.example", ["Keyed"]⟩ : ClassName).Expressible := by decide +kernel
  have level : (⟨"com.example", ["Level"]⟩ : ClassName).Expressible := by decide +kernel
  have expressible : exampleKeyed.Expressible :=
    ⟨keyed, ⟨trivial, ⟨⟨level, trivial, trivial, trivial⟩, trivial⟩, trivial⟩, trivial⟩
  have expressible' : exampleRekeyed.Expressible :=
    ⟨keyed, ⟨⟨⟨level, ⟨trivial, trivial⟩, trivial, trivial⟩, trivial⟩, trivial, trivial⟩, trivial⟩
  obtain ⟨-, tellApart⟩ := canonical_eq_exactly legible legible'
  have exactly := tellApart exampleSignature obeys obeys' expressible expressible'
    wellNamed_exampleKeyed wellNamed_exampleRekeyed
  exact ⟨legible, legible', obeys, obeys', expressible, expressible', wellNamed_exampleKeyed,
    wellNamed_exampleRekeyed, equivalent_exampleKeyed, exactly.mpr equivalent_exampleKeyed⟩

/-- **A text can be taken for another argument**: with a semicolon, a name and a colon in it, the
canonical text goes on as if the argument had ended there. -/
theorem canonical_joined (type : ClassName) {name next : String} (order : name ≤ next)
    (front back : String) :
    (⟨type, [⟨name, .string (front ++ ";" ++ next ++ ":" ++ back)⟩], []⟩ :
      AnnotationUse).canonical =
      (⟨type, [⟨name, .string front⟩, ⟨next, .string back⟩], []⟩ : AnnotationUse).canonical := by
  have sorted : ([(name, front), (next, back)] : List (String × String)).mergeSort
      (fun a b => decide (a.1 ≤ b.1)) = [(name, front), (next, back)] :=
    List.mergeSort_of_pairwise (by simpa using order)
  simp [AnnotationUse.canonical, Argument.canonicals, Argument.canonicalPair,
    ArgumentValue.canonical, mergeDefaults, sorted, String.intercalate_cons_cons,
    String.append_assoc]

theorem AnnotationUse.Equivalent.length_effective {usage usage' : AnnotationUse}
    (h : usage.Equivalent usage') : usage.effective.length = usage'.effective.length := by
  obtain ⟨-, order, order', same⟩ := h
  have names := congrArg List.length same.map_name
  rwa [List.length_map, List.length_map, ← order.length_eq, ← order'.length_eq] at names

/-- An annotation with a semicolon in its argument. -/
def exampleJoined : AnnotationUse :=
  ⟨⟨"com.example", ["Keyed"]⟩, [⟨"a", .string "1;b:2"⟩], []⟩

/-- An annotation with two arguments. -/
def exampleSplit : AnnotationUse :=
  ⟨⟨"com.example", ["Keyed"]⟩, [⟨"a", .string "1"⟩, ⟨"b", .string "2"⟩], []⟩

/-- Two annotations of one signature that are not equivalent and have one canonical text. -/
theorem not_toldApart_exampleJoined : exampleJoined.WellNamed ∧ exampleSplit.WellNamed ∧
    exampleJoined.Expressible ∧ exampleSplit.Expressible ∧
    exampleJoined.Obeys (fun _ _ => .one .string) ∧ exampleSplit.Obeys (fun _ _ => .one .string) ∧
    exampleJoined.canonical = exampleSplit.canonical ∧ exampleJoined.token = exampleSplit.token ∧
      ¬ exampleJoined.Equivalent exampleSplit := by
  have keyed : (⟨"com.example", ["Keyed"]⟩ : ClassName).Expressible := by decide +kernel
  have text : "1;b:2" = "1" ++ ";" ++ "b" ++ ":" ++ "2" := by decide
  have canonical : exampleJoined.canonical = exampleSplit.canonical := by
    rw [exampleJoined, text]
    exact canonical_joined _ (by decide) "1" "2"
  have joined : exampleJoined.effective = [⟨"a", .string "1;b:2"⟩] := rfl
  have split : exampleSplit.effective = [⟨"a", .string "1"⟩, ⟨"b", .string "2"⟩] := rfl
  refine ⟨by simp [exampleJoined, AnnotationUse.wellNamed_iff, Argument.WellNamed,
      ArgumentValue.WellNamed], by simp [exampleSplit, AnnotationUse.wellNamed_iff,
      Argument.WellNamed, ArgumentValue.WellNamed], ⟨keyed, by simp [Argument.AllExpressible,
      Argument.Expressible, ArgumentValue.Expressible]⟩, ⟨keyed, by simp [Argument.AllExpressible,
      Argument.Expressible, ArgumentValue.Expressible]⟩, ?_, ?_, canonical,
      congrArg hashToken canonical, ?_⟩
  · rw [AnnotationUse.Obeys, joined, List.forall_mem_singleton]
    exact .string _
  · rw [AnnotationUse.Obeys, split, List.forall_mem_cons, List.forall_mem_singleton]
    exact ⟨.string _, .string _⟩
  · intro same
    have lengths := same.length_effective
    rw [joined, split] at lengths
    exact absurd lengths (by decide)

end BindingPlan
