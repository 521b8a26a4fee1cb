import BindingPlan.Name.ClassName
import BindingPlan.Proofs.Text.Joined

/-! # Dotted names read back

A dotted text without an empty part is the name of one class (`ofDotted?_eq_ok_iff`). Wherever the
split between package and class may fall, the text of that class is the text that was read
(`dotted_of_ofDotted?`), and so different texts are read as different classes. -/

namespace BindingPlan.ClassName

/-- The class that the parts of a dotted text stand for. -/
def ofSegments (parts : List String) : ClassName :=
  ⟨String.intercalate "." (splitSegments parts).1, (splitSegments parts).2⟩

theorem ofDotted?_eq_ok_iff {text : String} {name : ClassName} :
    ofDotted? text = .ok name ↔ "" ∉ segments text ∧ name = ofSegments (segments text) := by
  unfold ofDotted?
  by_cases h : "" ∈ segments text
  · simp [h]
  · simp [h, ofSegments, eq_comm]

/-! ### The split -/

theorem splitSegments_append (parts : List String) :
    (splitSegments parts).1 ++ (splitSegments parts).2 = parts := by
  unfold splitSegments
  split
  next =>
    cases last : parts.getLast? with
    | none => simp [List.getLast?_eq_none_iff.mp last]
    | some part => exact List.dropLast_append_getLast? part last
  next => exact List.takeWhile_append_dropWhile

theorem splitSegments_ne_nil {parts : List String} (some : parts ≠ []) :
    (splitSegments parts).2 ≠ [] := by
  unfold splitSegments
  split
  next =>
    obtain ⟨part, last⟩ := Option.isSome_iff_exists.mp (List.getLast?_isSome.mpr some)
    simp [last]
  next classPart h => exact h

theorem segments_ne_nil (text : String) : segments text ≠ [] := by
  unfold segments
  simp [List.splitOn_ne_nil]

/-! ### Joining -/

theorem intercalate_segments (text : String) : String.intercalate "." (segments text) = text := by
  have dot : ".".toList = ['.'] := rfl
  rw [← String.toList_inj, String.toList_intercalate, segments, List.map_map, dot]
  have id : String.toList ∘ String.ofList = id := funext fun _ => String.toList_ofList
  rw [id, List.map_id, List.intercalate_splitOn]

theorem intercalate_ne_empty {parts : List String} (full : "" ∉ parts) (some : parts ≠ []) :
    String.intercalate "." parts ≠ "" := by
  obtain ⟨part, rest, rfl⟩ := List.exists_cons_of_ne_nil some
  have part_ne : part ≠ "" := fun e => full (e ▸ List.mem_cons_self)
  cases rest with
  | nil => simpa using part_ne
  | cons next rest =>
    rw [String.intercalate_cons_cons]
    intro e
    have chars := congrArg String.toList e
    simp at chars

/-- **The text of the class is the text that was read.** -/
theorem dotted_ofSegments {parts : List String} (full : "" ∉ parts) (some : parts ≠ []) :
    (ofSegments parts).dotted = String.intercalate "." parts := by
  have whole := splitSegments_append parts
  have classPart : (splitSegments parts).2 ≠ [] := splitSegments_ne_nil some
  rw [ofSegments, dotted]
  by_cases package : (splitSegments parts).1 = []
  · rw [package, List.nil_append] at whole
    rw [package, whole]
    simp
  · have package_full : "" ∉ (splitSegments parts).1 := by
      intro mem
      exact full (whole ▸ List.mem_append_left _ mem)
    rw [if_neg (intercalate_ne_empty package_full package),
      ← intercalate_append "." classPart package, whole]

theorem dotted_of_ofDotted? {text : String} {name : ClassName} (h : ofDotted? text = .ok name) :
    name.dotted = text := by
  obtain ⟨full, rfl⟩ := ofDotted?_eq_ok_iff.mp h
  rw [dotted_ofSegments full (segments_ne_nil text), intercalate_segments]

end BindingPlan.ClassName
