import BindingPlan.Proofs.AnnotationUse.Outline

/-! # Outlines that can be told apart

The text of an outline puts commas, semicolons, colons and parentheses between its parts and does
not mark those inside the parts. An outline is legible if there are none inside, apart from colons
that are not in a name. The texts of legible outlines are different if the outlines are
(`Outline.eq_of_text_eq`). -/

namespace BindingPlan

/-- None of the marks that stand behind a text in an outline is in it. -/
def unmarked (text : String) : Bool :=
  text.toList.all fun c => !([',', ';', '(', ')'].contains c)

theorem chars_of_unmarked {text : String} (h : unmarked text = true) :
    ∀ c ∈ text.toList, c ∉ [',', ';', '(', ')'] := by
  simpa only [unmarked, List.all_eq_true, Bool.not_eq_true', List.contains_eq_mem,
    decide_eq_false_iff_not] using h

theorem Behind.not_unmarked {rest : List Char} (h : Behind [',', ';', ')'] rest) :
    ∀ c ∈ rest.head?, ¬ c ∉ [',', ';', '(', ')'] := by
  intro c mem
  have mark := h c mem
  simp only [List.mem_cons, List.not_mem_nil, or_false] at mark
  rcases mark with rfl | rfl | rfl <;> decide

mutual

/-- No text in the outline has a mark in it that an outline has between its texts. -/
def Outline.legible : Outline → Bool
  | .plain text => unmarked text
  | .usage type rows => unmarked type && Outline.rowsLegible rows

/-- All items are legible. -/
def Outline.allLegible : List Outline → Bool
  | [] => true
  | item :: rest => item.legible && Outline.allLegible rest

/-- No name has a mark or a colon in it, and there are items behind it, all of them legible. -/
def Outline.rowsLegible : List (String × List Outline) → Bool
  | [] => true
  | (name, items) :: rest =>
    (unmarked name && !name.toList.contains ':' && !items.isEmpty && Outline.allLegible items) &&
      Outline.rowsLegible rest

end

namespace Outline

theorem allLegible_iff : ∀ {items : List Outline},
    allLegible items = true ↔ ∀ item ∈ items, item.legible = true
  | [] => by simp [allLegible]
  | item :: rest => by rw [allLegible, Bool.and_eq_true, allLegible_iff, List.forall_mem_cons]

/-- What is asked of a row of items with its name. -/
structure LegibleRow (row : String × List Outline) : Prop where
  unmarked : unmarked row.1 = true
  colonless : ':' ∉ row.1.toList
  some : row.2 ≠ []
  items : ∀ item ∈ row.2, item.legible = true

theorem rowsLegible_iff : ∀ {rows : List (String × List Outline)},
    rowsLegible rows = true ↔ ∀ row ∈ rows, LegibleRow row
  | [] => by simp [rowsLegible]
  | (name, items) :: rest => by
    have first : (BindingPlan.unmarked name && !name.toList.contains ':' && !items.isEmpty &&
        allLegible items) = true ↔ LegibleRow (name, items) := by
      simp only [Bool.and_eq_true, Bool.not_eq_true', List.contains_eq_mem,
        decide_eq_false_iff_not, List.isEmpty_eq_false_iff, allLegible_iff]
      constructor
      · rintro ⟨⟨⟨unmarked, colonless⟩, some⟩, items⟩
        exact ⟨unmarked, colonless, some, items⟩
      · rintro ⟨unmarked, colonless, some, items⟩
        exact ⟨⟨⟨unmarked, colonless⟩, some⟩, items⟩
    rw [rowsLegible, Bool.and_eq_true, first, rowsLegible_iff, List.forall_mem_cons]

/-! ### Texts as characters -/

/-- The characters of a named row. -/
def rowChars (row : String × List Outline) : List Char :=
  row.1.toList ++ ':' :: List.intercalate [','] (row.2.map (·.text.toList))

theorem toList_text_usage (type : String) (rows : List (String × List Outline)) :
    (usage type rows).text.toList =
      type.toList ++ '(' :: (List.intercalate [';'] (rows.map rowChars) ++ [')']) := by
  have chars : ∀ row : String × List Outline,
      (row.1 ++ ":" ++ rowText row.2).toList = rowChars row := fun row => by
    simp [rowText, rowChars, String.toList_intercalate, Function.comp_def]
  rw [text, argumentTexts_eq_map]
  simp [String.toList_intercalate, Function.comp_def, chars]

/-! ### Parts told apart -/

theorem toldApart_row {row row' : String × List Outline} (h : LegibleRow row)
    (h' : LegibleRow row') (apart : ∀ item ∈ row.2, ∀ item' ∈ row'.2,
      ToldApart (·.text.toList) [',', ';', ')'] item item') :
    ToldApart rowChars [';', ')'] row row' := by
  intro rest rest' behind behind' same
  have cut : row.1.toList ++ ':' :: (List.intercalate [','] (row.2.map (·.text.toList)) ++ rest) =
      row'.1.toList ++ ':' :: (List.intercalate [','] (row'.2.map (·.text.toList)) ++ rest') := by
    simpa [rowChars] using same
  have colonless : ∀ c ∈ row.1.toList, c ≠ ':' := fun c mem e => h.colonless (e ▸ mem)
  have colonless' : ∀ c ∈ row'.1.toList, c ≠ ':' := fun c mem e => h'.colonless (e ▸ mem)
  obtain ⟨names, behindNames⟩ :=
    eq_of_run_append_eq colonless colonless' (by simp) (by simp) cut
  obtain ⟨items, rests⟩ := ToldApart.join (by decide) h.some h'.some apart behind behind'
    (List.cons.inj behindNames).2
  exact ⟨Prod.ext (String.toList_inj.mp names) items, rests⟩

theorem LegibleRow.not_behind {row : String × List Outline} (h : LegibleRow row)
    (rest : List Char) : ¬ Behind [')'] (rowChars row ++ rest) := by
  intro behind
  have unmarked := chars_of_unmarked h.unmarked
  rw [rowChars] at behind
  cases chars : row.1.toList with
  | nil => simp [Behind, chars] at behind
  | cons c more =>
    rw [chars] at behind unmarked
    have close : c = ')' := by simpa [Behind] using behind
    exact unmarked c List.mem_cons_self (by simp [close])

theorem toldApart_nil_cons {row : String × List Outline} (h : LegibleRow row)
    (rows : List (String × List Outline)) :
    ToldApart (fun rows => List.intercalate [';'] (rows.map rowChars)) [')'] [] (row :: rows) := by
  intro rest rest' behind _ same
  obtain ⟨more, split⟩ : ∃ more, List.intercalate [';'] ((row :: rows).map rowChars) =
      rowChars row ++ more := by
    cases rows with
    | nil => exact ⟨[], by simp⟩
    | cons next rows => exact ⟨';' :: List.intercalate [';'] ((next :: rows).map rowChars), by simp⟩
  have whole : rest = rowChars row ++ (more ++ rest') := by
    rw [← List.append_assoc, ← split]
    exact same
  exact absurd (whole ▸ behind) (h.not_behind _)

theorem toldApart_rows : ∀ {rows rows' : List (String × List Outline)},
    (∀ row ∈ rows, LegibleRow row) → (∀ row ∈ rows', LegibleRow row) →
      (∀ row ∈ rows, ∀ row' ∈ rows', ToldApart rowChars [';', ')'] row row') →
        ToldApart (fun rows => List.intercalate [';'] (rows.map rowChars)) [')'] rows rows'
  | [], [], _, _, _ => fun _ _ _ _ same => ⟨rfl, by simpa using same⟩
  | [], row :: rows, _, h', _ => toldApart_nil_cons (h' row List.mem_cons_self) rows
  | row :: rows, [], h, _, _ => (toldApart_nil_cons (h row List.mem_cons_self) rows).symm
  | row :: rows, row' :: rows', _, _, apart =>
    ToldApart.join (by decide) (List.cons_ne_nil row rows) (List.cons_ne_nil row' rows') apart

/-- A plain text does not go on with a parenthesis as the text of a class does. -/
theorem toldApart_plain_usage {text type : String} (rows : List (String × List Outline))
    (h : unmarked text = true) (h' : unmarked type = true) :
    ToldApart (·.text.toList) [',', ';', ')'] (plain text) (usage type rows) := by
  intro rest rest' behind _ same
  simp only [toList_text_usage, List.append_assoc, List.cons_append] at same
  obtain ⟨-, behindTexts⟩ := eq_of_run_append_eq (chars_of_unmarked h) (chars_of_unmarked h')
    behind.not_unmarked (by simp) same
  rw [behindTexts] at behind
  simp [Behind] at behind

/-- **Legible outlines are told apart** wherever their texts stand in a legible one. -/
theorem toldApart : ∀ outline outline' : Outline, outline.legible = true →
    outline'.legible = true → ToldApart (·.text.toList) [',', ';', ')'] outline outline'
  | .plain text, .plain text', h, h' => by
    intro rest rest' behind behind' same
    obtain ⟨texts, rests⟩ := eq_of_run_append_eq (chars_of_unmarked h) (chars_of_unmarked h')
      behind.not_unmarked behind'.not_unmarked same
    exact ⟨congrArg plain (String.toList_inj.mp texts), rests⟩
  | .plain text, .usage type rows, h, h' =>
    toldApart_plain_usage rows h (Bool.and_eq_true .. ▸ h').1
  | .usage type rows, .plain text, h, h' =>
    (toldApart_plain_usage rows h' (Bool.and_eq_true .. ▸ h).1).symm
  | .usage type rows, .usage type' rows', h, h' => by
    obtain ⟨typeClean, legible⟩ := Bool.and_eq_true_iff.mp h
    obtain ⟨typeClean', legible'⟩ := Bool.and_eq_true_iff.mp h'
    rw [rowsLegible_iff] at legible legible'
    have apart : ∀ row ∈ rows, ∀ row' ∈ rows', ToldApart rowChars [';', ')'] row row' :=
      fun row mem row' mem' => toldApart_row (legible row mem) (legible' row' mem')
        fun item here item' here' => toldApart item item' ((legible row mem).items item here)
          ((legible' row' mem').items item' here')
    intro rest rest' _ _ same
    simp only [toList_text_usage, List.append_assoc, List.cons_append, List.nil_append] at same
    obtain ⟨types, behindTypes⟩ := eq_of_run_append_eq (chars_of_unmarked typeClean)
      (chars_of_unmarked typeClean') (by simp) (by simp) same
    obtain ⟨rfl, rests⟩ := toldApart_rows legible legible' apart (behind_cons List.mem_cons_self)
      (behind_cons List.mem_cons_self) (List.cons.inj behindTypes).2
    rw [String.toList_inj.mp types]
    exact ⟨rfl, (List.cons.inj rests).2⟩
termination_by outline => outline
decreasing_by
  have inRow : sizeOf item < sizeOf row.2 := List.sizeOf_lt_of_mem here
  have inRows : sizeOf row < sizeOf rows := List.sizeOf_lt_of_mem mem
  obtain ⟨name, items⟩ := row
  simp only [Prod.mk.sizeOf_spec] at inRow inRows
  simp only [Outline.usage.sizeOf_spec]
  omega

/-- **The text of a legible outline is the text of no other one.** -/
theorem eq_of_text_eq {outline outline' : Outline} (h : outline.legible = true)
    (h' : outline'.legible = true) (same : outline.text = outline'.text) : outline = outline' :=
  (toldApart outline outline' h h' (behind_nil _) (behind_nil _) (by simp only [same])).1

end Outline

/-- The outline of an annotation is legible if the text of its class and the rows of its effective
arguments are. -/
theorem AnnotationUse.legible_outline_iff {usage : AnnotationUse} : usage.outline.legible = true ↔
    unmarked usage.type.dotted = true ∧
      ∀ x ∈ usage.effective, Outline.LegibleRow (x.name, x.value.outlines) := by
  have sorted : ∀ row, row ∈ sortByName (usage.effective.map Argument.outlinePair) ↔
      row ∈ usage.effective.map Argument.outlinePair := fun _ =>
    (List.mergeSort_perm _ _).mem_iff
  simp only [outline_eq, Outline.legible, Bool.and_eq_true, Outline.rowsLegible_iff, sorted,
    List.forall_mem_map, Argument.outlinePair_eq]

end BindingPlan
