import BindingPlan.AnnotationUse.Canonical
import BindingPlan.Proofs.AnnotationUse.Equivalent
import BindingPlan.Proofs.Text.Joined

/-! # The outline of an annotation

The outline of an annotation is what its canonical text shows of it: the text of the class and the
effective arguments in the order of their names, each with a row of items. An item is a plain text
or the outline of a nested annotation; the items of an array stand in one row, whatever they are,
and what sort of value a plain text comes from is forgotten. The canonical text is the text of the
outline (`AnnotationUse.canonical_eq`), and equivalent annotations have one outline
(`AnnotationUse.Equivalent.outline_eq`), since there is one order of arguments by name. -/

namespace BindingPlan

/-- What a canonical text shows: a text as it is, or a class with named rows of items. -/
inductive Outline where
  | plain (text : String)
  | usage (type : String) (arguments : List (String × List Outline))

mutual

/-- The text of the outline. -/
def Outline.text : Outline → String
  | .plain text => text
  | .usage type arguments =>
    type ++ "(" ++ String.intercalate ";" (Outline.argumentTexts arguments) ++ ")"

/-- The texts of several items. -/
def Outline.texts : List Outline → List String
  | [] => []
  | item :: rest => item.text :: Outline.texts rest

/-- The texts of several named rows. -/
def Outline.argumentTexts : List (String × List Outline) → List String
  | [] => []
  | (name, items) :: rest =>
    (name ++ ":" ++ String.intercalate "," (Outline.texts items)) :: Outline.argumentTexts rest

end

namespace Outline

theorem texts_eq_map : ∀ items : List Outline, texts items = items.map text
  | [] => rfl
  | item :: rest => by rw [texts, texts_eq_map rest, List.map_cons]

/-- The text of a row of items. -/
def rowText (items : List Outline) : String :=
  String.intercalate "," (items.map text)

theorem rowText_append {row row' : List Outline} (some : row ≠ []) (some' : row' ≠ []) :
    rowText (row ++ row') = rowText row ++ "," ++ rowText row' := by
  rw [rowText, List.map_append,
    intercalate_append "," (List.map_eq_nil_iff.not.mpr some') (List.map_eq_nil_iff.not.mpr some)]
  rfl

theorem argumentTexts_eq_map : ∀ arguments : List (String × List Outline),
    argumentTexts arguments = arguments.map fun a => a.1 ++ ":" ++ rowText a.2
  | [] => rfl
  | (name, items) :: rest => by
    rw [argumentTexts, argumentTexts_eq_map rest, texts_eq_map, List.map_cons, rowText]

end Outline

mutual

/-- The row of items that a value is shown as. -/
def ArgumentValue.outlines : ArgumentValue → List Outline
  | .nested usage => [usage.outline]
  | .array [] => [.plain ""]
  | .array (first :: rest) => first.outlines ++ ArgumentValue.allOutlines rest
  | value => [.plain value.canonical]

/-- The items of several values in one row. -/
def ArgumentValue.allOutlines : List ArgumentValue → List Outline
  | [] => []
  | value :: rest => value.outlines ++ ArgumentValue.allOutlines rest

/-- The outline of an annotation. -/
def AnnotationUse.outline : AnnotationUse → Outline
  | ⟨type, arguments, defaults⟩ =>
    .usage type.dotted
      (mergeDefaults (Argument.outlines arguments) (Argument.outlines defaults))

/-- The rows of several arguments. -/
def Argument.outlines : List Argument → List (String × List Outline)
  | [] => []
  | argument :: rest => argument.outlinePair :: Argument.outlines rest

/-- The row of an argument. -/
def Argument.outlinePair : Argument → String × List Outline
  | ⟨name, value⟩ => (name, value.outlines)

end

theorem Argument.outlinePair_eq (argument : Argument) :
    argument.outlinePair = (argument.name, argument.value.outlines) := by
  cases argument
  rfl

theorem Argument.outlines_eq_map : ∀ arguments : List Argument,
    outlines arguments = arguments.map outlinePair
  | [] => rfl
  | argument :: rest => by rw [outlines, outlines_eq_map rest, List.map_cons]

theorem ArgumentValue.allOutlines_eq_flatMap (values : List ArgumentValue) :
    allOutlines values = values.flatMap outlines := by
  induction values with
  | nil => rfl
  | cons value rest ih => rw [allOutlines, ih, List.flatMap_cons]

theorem ArgumentValue.outlines_array {items : List ArgumentValue} (some : items ≠ []) :
    (ArgumentValue.array items).outlines = items.flatMap outlines := by
  obtain ⟨first, rest, rfl⟩ := List.exists_cons_of_ne_nil some
  rw [outlines, allOutlines_eq_flatMap, List.flatMap_cons]

theorem ArgumentValue.outlines_ne_nil : ∀ value : ArgumentValue, value.outlines ≠ []
  | .array (first :: rest) => by
    rw [outlines]
    exact List.append_ne_nil_of_left_ne_nil (outlines_ne_nil first) _
  | .array [] | .nested _ | .string _ | .bool _ | .int _ | .float _ | .char _ | .type _
  | .enum _ => by
    rw [outlines]
    all_goals simp

/-! ### The canonical text -/

/-- Defaults are merged by names alone. -/
theorem mergeDefaults_map {α β : Type} (f : α → β) (written defaults : List (String × α)) :
    mergeDefaults (written.map (Prod.map id f)) (defaults.map (Prod.map id f)) =
      (mergeDefaults written defaults).map (Prod.map id f) := by
  have keep : (fun d : String × β =>
      !(written.map (Prod.map id f)).any (·.1 == d.1)) ∘ Prod.map id f =
        fun d : String × α => !written.any (·.1 == d.1) := by
    simp [Function.comp_def]
  rw [mergeDefaults, List.filter_map, keep, ← List.map_append, mergeDefaults]
  refine (List.map_mergeSort ?_).symm
  intro a _ b _
  rfl

mutual

theorem ArgumentValue.canonical_eq : ∀ value : ArgumentValue,
    value.canonical = Outline.rowText value.outlines
  | .string _ | .bool _ | .int _ | .float _ | .char _ | .type _ | .enum _ => by
    simp [ArgumentValue.outlines, Outline.rowText, Outline.text]
  | .nested usage => by
    simp [ArgumentValue.outlines, ArgumentValue.canonical, Outline.rowText,
      AnnotationUse.canonical_eq usage]
  | .array [] => rfl
  | .array (first :: rest) => by
    rw [ArgumentValue.canonical, ArgumentValue.canonicals, ArgumentValue.outlines,
      ArgumentValue.canonical_eq first]
    exact ArgumentValue.canonicals_eq first.outlines_ne_nil rest

theorem ArgumentValue.canonicals_eq {row : List Outline} (some : row ≠ []) :
    ∀ values : List ArgumentValue, String.intercalate ","
      (Outline.rowText row :: ArgumentValue.canonicals values) =
        Outline.rowText (row ++ ArgumentValue.allOutlines values)
  | [] => by simp [ArgumentValue.canonicals, ArgumentValue.allOutlines]
  | value :: rest => by
    have others := ArgumentValue.canonicals_eq value.outlines_ne_nil rest
    have tail : value.outlines ++ ArgumentValue.allOutlines rest ≠ [] :=
      List.append_ne_nil_of_left_ne_nil value.outlines_ne_nil _
    rw [ArgumentValue.canonicals, String.intercalate_cons_cons, ArgumentValue.canonical_eq value,
      others, ArgumentValue.allOutlines, Outline.rowText_append some tail]

/-- **The canonical text of an annotation is the text of its outline.** -/
theorem AnnotationUse.canonical_eq : ∀ usage : AnnotationUse, usage.canonical = usage.outline.text
  | ⟨type, arguments, defaults⟩ => by
    rw [AnnotationUse.canonical, AnnotationUse.outline, Outline.text, Outline.argumentTexts_eq_map,
      Argument.canonicals_eq arguments, Argument.canonicals_eq defaults, mergeDefaults_map,
      List.map_map]
    rfl

theorem Argument.canonicals_eq : ∀ arguments : List Argument,
    Argument.canonicals arguments =
      (Argument.outlines arguments).map (Prod.map id Outline.rowText)
  | [] => rfl
  | ⟨name, value⟩ :: rest => by
    rw [Argument.canonicals, Argument.canonicalPair, Argument.outlines, Argument.outlinePair,
      List.map_cons, Argument.canonicals_eq rest, ArgumentValue.canonical_eq value]
    rfl

end

/-! ### One outline for equivalent annotations -/

section Order
variable {α : Type} {rows rows' : List (String × α)}

/-- The order in which defaults are merged. -/
def sortByName (rows : List (String × α)) : List (String × α) :=
  rows.mergeSort fun a b => decide (a.1 ≤ b.1)

theorem pairwise_sortByName (rows : List (String × α)) :
    (sortByName rows).Pairwise (·.1 ≤ ·.1) := by
  have trans : ∀ a b c : String × α, decide (a.1 ≤ b.1) = true → decide (b.1 ≤ c.1) = true →
      decide (a.1 ≤ c.1) = true := fun a b c => by simpa using String.le_trans
  have total : ∀ a b : String × α, (decide (a.1 ≤ b.1) || decide (b.1 ≤ a.1)) = true :=
    fun a b => by simpa using String.le_total a.1 b.1
  have sorted := List.pairwise_mergeSort trans total rows
  exact sorted.imp fun le => of_decide_eq_true le

/-- **There is one order by name** for rows with names of their own. -/
theorem sortByName_eq_of_perm (perm : rows.Perm rows') (distinct : (rows.map (·.1)).Nodup) :
    sortByName rows = sortByName rows' := by
  have sorted : (sortByName rows).Perm rows := List.mergeSort_perm rows _
  have sorted' : (sortByName rows').Perm rows' := List.mergeSort_perm rows' _
  have unique : ∀ a b : String × α, a ∈ sortByName rows → b ∈ sortByName rows' →
      a.1 ≤ b.1 → b.1 ≤ a.1 → a = b := fun a b mem mem' le ge =>
    List.inj_on_of_nodup_map distinct (sorted.mem_iff.mp mem)
      (perm.mem_iff.mpr (sorted'.mem_iff.mp mem')) (String.le_antisymm le ge)
  exact List.Perm.eq_of_pairwise unique (pairwise_sortByName rows) (pairwise_sortByName rows')
    (sorted.trans (perm.trans sorted'.symm))

end Order

theorem AnnotationUse.outline_eq (usage : AnnotationUse) :
    usage.outline = .usage usage.type.dotted
      (sortByName (usage.effective.map Argument.outlinePair)) := by
  obtain ⟨type, arguments, defaults⟩ := usage
  have keep : (fun d : String × List Outline =>
      !(arguments.map Argument.outlinePair).any (·.1 == d.1)) ∘ Argument.outlinePair =
        fun d : Argument => !AnnotationUse.writes ⟨type, arguments, defaults⟩ d.name := by
    simp [Function.comp_def, AnnotationUse.writes, Argument.outlinePair_eq]
  rw [outline, Argument.outlines_eq_map, Argument.outlines_eq_map, mergeDefaults, List.filter_map,
    keep, ← List.map_append]
  rfl

theorem AnnotationUse.WellNamed.nodup_rows {usage : AnnotationUse} (h : usage.WellNamed) :
    ((usage.effective.map Argument.outlinePair).map (·.1)).Nodup := by
  have names : (usage.effective.map Argument.outlinePair).map (·.1) =
      usage.effective.map (·.name) := by
    simp [Function.comp_def, Argument.outlinePair_eq]
  rw [names]
  exact h.nodup_effective

/-- The canonical text lists the effective arguments in the order of their names. -/
theorem AnnotationUse.WellNamed.canonical_eq_of_sorted {usage : AnnotationUse} (h : usage.WellNamed)
    {listed : List Argument} (order : usage.effective.Perm listed)
    (sorted : listed.Pairwise (·.name ≤ ·.name)) :
    usage.canonical = usage.type.dotted ++ "(" ++
      String.intercalate ";" (listed.map fun x => x.name ++ ":" ++ x.value.canonical) ++ ")" := by
  have ordered : sortByName (listed.map Argument.outlinePair) =
      listed.map Argument.outlinePair := by
    refine List.mergeSort_of_pairwise (List.pairwise_map.mpr (sorted.imp fun le => ?_))
    simpa [Argument.outlinePair_eq] using le
  have rows : sortByName (usage.effective.map Argument.outlinePair) =
      listed.map Argument.outlinePair :=
    (sortByName_eq_of_perm (order.map _) h.nodup_rows).trans ordered
  rw [AnnotationUse.canonical_eq, outline_eq, rows, Outline.text, Outline.argumentTexts_eq_map,
    List.map_map]
  simp only [Function.comp_def, Argument.outlinePair_eq, ← ArgumentValue.canonical_eq]

mutual

theorem ArgumentValue.Equivalent.outlines_eq : ∀ {value value' : ArgumentValue},
    value.Equivalent value' → value.WellNamed → value'.WellNamed → value.outlines = value'.outlines
  | _, _, .string _, _, _ => rfl
  | _, _, .bool _, _, _ => rfl
  | _, _, .int _, _, _ => rfl
  | _, _, .float _, _, _ => rfl
  | _, _, .char _, _, _ => rfl
  | _, _, .enum _, _, _ => rfl
  | _, _, .type raw, _, _ => by
    simp only [ArgumentValue.outlines, ArgumentValue.canonical, raw]
  | _, _, .nested same, h, h' => by
    rw [ArgumentValue.outlines, ArgumentValue.outlines, same.outline_eq h h']
  | _, _, .array .nil, _, _ => rfl
  | _, _, .array (.cons first others), h, h' => by
    rw [ArgumentValue.outlines, ArgumentValue.outlines, first.outlines_eq h.1 h'.1,
      others.allOutlines_eq h.2 h'.2]

theorem ArgumentValue.AllEquivalent.allOutlines_eq : ∀ {values values' : List ArgumentValue},
    ArgumentValue.AllEquivalent values values' → ArgumentValue.AllWellNamed values →
      ArgumentValue.AllWellNamed values' →
        ArgumentValue.allOutlines values = ArgumentValue.allOutlines values'
  | _, _, .nil, _, _ => rfl
  | _, _, .cons first others, h, h' => by
    rw [ArgumentValue.allOutlines, ArgumentValue.allOutlines, first.outlines_eq h.1 h'.1,
      others.allOutlines_eq h.2 h'.2]

/-- **Equivalent annotations have one outline.** -/
theorem AnnotationUse.Equivalent.outline_eq : ∀ {usage usage' : AnnotationUse},
    usage.Equivalent usage' → usage.WellNamed → usage'.WellNamed → usage.outline = usage'.outline
  | usage, usage', @AnnotationUse.Equivalent.mk _ _ listed listed' type order order' same,
    h, h' => by
    have rows : listed.map Argument.outlinePair = listed'.map Argument.outlinePair :=
      same.outlinePairs_eq (fun x mem => h.of_mem_effective (order.mem_iff.mpr mem))
        fun x mem => h'.of_mem_effective (order'.mem_iff.mpr mem)
    have perm : (usage.effective.map Argument.outlinePair).Perm
        (usage'.effective.map Argument.outlinePair) :=
      (order.map _).trans (rows ▸ (order'.map _).symm)
    rw [AnnotationUse.outline_eq, AnnotationUse.outline_eq, type,
      sortByName_eq_of_perm perm h.nodup_rows]

theorem Argument.AllEquivalent.outlinePairs_eq : ∀ {arguments arguments' : List Argument},
    Argument.AllEquivalent arguments arguments' → (∀ argument ∈ arguments, argument.WellNamed) →
      (∀ argument ∈ arguments', argument.WellNamed) →
        arguments.map Argument.outlinePair = arguments'.map Argument.outlinePair
  | _, _, .nil, _, _ => rfl
  | ⟨_, _⟩ :: _, ⟨_, _⟩ :: _, .cons name first others, h, h' => by
    obtain ⟨wellNamed, more⟩ := List.forall_mem_cons.mp h
    obtain ⟨wellNamed', more'⟩ := List.forall_mem_cons.mp h'
    exact List.cons_eq_cons.mpr ⟨Prod.ext name (first.outlines_eq wellNamed wellNamed'),
      others.outlinePairs_eq more more'⟩

end

/-- **Equivalent annotations have one canonical text**, and so one token: that of the effective
arguments in the order of their names. That the order of arguments and defaults does not matter, nor
whether a default is written out, are cases of equivalence; values may be replaced by equivalent
ones, so that they do not matter at any depth. -/
theorem canonical_of_equivalent {a b : AnnotationUse} (wellNamed : a.WellNamed)
    (wellNamed' : b.WellNamed) :
    (a.Equivalent b → a.canonical = b.canonical ∧ a.token = b.token) ∧
    (∀ listed : List Argument, a.effective.Perm listed → listed.Pairwise (·.name ≤ ·.name) →
      a.canonical = a.type.dotted ++ "(" ++
        String.intercalate ";" (listed.map fun x => x.name ++ ":" ++ x.value.canonical) ++ ")") ∧
    (∀ arguments defaults : List Argument, a.type = b.type →
      a.arguments.Perm arguments → Argument.AllEquivalent arguments b.arguments →
      a.defaults.Perm defaults → Argument.AllEquivalent defaults b.defaults → a.Equivalent b) ∧
    ∀ (name : String) (value : ArgumentValue), ⟨name, value⟩ ∈ a.defaults →
      (∀ argument ∈ a.arguments, argument.name ≠ name) →
        (a.withArgument name value).WellNamed ∧ a.Equivalent (a.withArgument name value) := by
  refine ⟨fun same => ?_, fun listed => wellNamed.canonical_eq_of_sorted, ?_, ?_⟩
  · have text : a.canonical = b.canonical := by
      rw [AnnotationUse.canonical_eq, AnnotationUse.canonical_eq,
        same.outline_eq wellNamed wellNamed']
    exact ⟨text, congrArg hashToken text⟩
  · intro arguments defaults type written writtenSame declared declaredSame
    exact .of_parts type written writtenSame declared declaredSame
  · intro name value declared missing
    exact ⟨wellNamed.withArgument declared missing,
      AnnotationUse.equivalent_withArgument wellNamed declared missing⟩

/-- An annotation with a declared default. -/
def exampleLevel : AnnotationUse :=
  .withDefault (.ofClass ⟨"com.example", ["Level"]⟩) "depth" (.int 1)

/-- An annotation with another one in an array. -/
def exampleKeyed : AnnotationUse :=
  ⟨⟨"com.example", ["Keyed"]⟩,
    [⟨"key", .string "a"⟩, ⟨"levels", .array [.nested exampleLevel]⟩], []⟩

/-- The same annotation with its arguments in the other order and the default inside written out. -/
def exampleRekeyed : AnnotationUse :=
  ⟨⟨"com.example", ["Keyed"]⟩,
    [⟨"levels", .array [.nested (exampleLevel.withArgument "depth" (.int 1))]⟩,
      ⟨"key", .string "a"⟩], []⟩

theorem wellNamed_exampleLevel : exampleLevel.WellNamed := by
  simp [exampleLevel, AnnotationUse.ofClass, AnnotationUse.withDefault,
    AnnotationUse.wellNamed_iff, Argument.WellNamed, ArgumentValue.WellNamed]

theorem missing_exampleLevel : ∀ argument ∈ exampleLevel.arguments, argument.name ≠ "depth" := by
  simp [exampleLevel, AnnotationUse.ofClass, AnnotationUse.withDefault]

theorem wellNamed_exampleKeyed : exampleKeyed.WellNamed := by
  simpa [exampleKeyed, AnnotationUse.wellNamed_iff, Argument.WellNamed, ArgumentValue.WellNamed,
    ArgumentValue.AllWellNamed] using wellNamed_exampleLevel

theorem wellNamed_exampleRekeyed : exampleRekeyed.WellNamed := by
  have level : (exampleLevel.withArgument "depth" (.int 1)).WellNamed :=
    wellNamed_exampleLevel.withArgument List.mem_cons_self missing_exampleLevel
  simpa [exampleRekeyed, AnnotationUse.wellNamed_iff, Argument.WellNamed, ArgumentValue.WellNamed,
    ArgumentValue.AllWellNamed] using level

theorem equivalent_exampleKeyed : exampleKeyed.Equivalent exampleRekeyed := by
  have level : exampleLevel.Equivalent (exampleLevel.withArgument "depth" (.int 1)) :=
    AnnotationUse.equivalent_withArgument wellNamed_exampleLevel List.mem_cons_self
      missing_exampleLevel
  exact .of_parts rfl (.swap _ _ _)
    (.cons rfl (.array (.cons (.nested level) .nil)) (.cons rfl (.string "a") .nil)) (.refl _) .nil

theorem canonical_of_equivalent_exampleKeyed : exampleKeyed.WellNamed ∧ exampleRekeyed.WellNamed ∧
    exampleKeyed.Equivalent exampleRekeyed ∧ exampleKeyed.canonical = exampleRekeyed.canonical ∧
      exampleKeyed.token = exampleRekeyed.token := by
  obtain ⟨texts, -⟩ := canonical_of_equivalent wellNamed_exampleKeyed wellNamed_exampleRekeyed
  exact ⟨wellNamed_exampleKeyed, wellNamed_exampleRekeyed, equivalent_exampleKeyed,
    texts equivalent_exampleKeyed⟩

end BindingPlan
