import BindingPlan.AnnotationUse.Canonical
import BindingPlan.Proofs.Document.Expressible

/-! # Texts without dots

The text of a class is one of its package and its simple names with dots between, and nothing in it
says which dot ends the package. For a class of one simple name, the text determines the class as
soon as that name has no dot in it (`ClassName.eq_of_dotted_eq`). The names that come from documents
are of this sort, and so is every text that is put together from them. -/

namespace BindingPlan

/-- The text has no dot in it. -/
def Dotless (text : String) : Prop :=
  '.' ∉ text.toList

instance (text : String) : Decidable (Dotless text) :=
  inferInstanceAs (Decidable ('.' ∉ text.toList))

theorem dotless_empty : Dotless "" := by decide

theorem dotless_append_iff {a b : String} : Dotless (a ++ b) ↔ Dotless a ∧ Dotless b := by
  simp [Dotless]

/-! ### The parts of a text -/

theorem not_mem_of_mem_splitOn {α : Type} [BEq α] [LawfulBEq α] {a : α} : ∀ {l part : List α},
    part ∈ l.splitOn a → a ∉ part
  | [], part, h => by
    obtain rfl : part = [] := by simpa using h
    simp
  | b :: l, part, h => by
    rw [List.splitOn_cons_eq_if_modifyHead] at h
    obtain ⟨first, rest, parts⟩ := List.exists_cons_of_ne_nil (List.splitOn_ne_nil a l)
    have clean : ∀ part ∈ first :: rest, a ∉ part := fun part mem =>
      not_mem_of_mem_splitOn (parts ▸ mem)
    rw [parts, List.modifyHead_cons] at h
    split_ifs at h with same
    · rcases List.mem_cons.mp h with rfl | mem
      · simp
      · exact clean part mem
    · rcases List.mem_cons.mp h with rfl | mem
      · have ne : a ≠ b := fun e => same (by simp [e])
        simp [ne, clean first List.mem_cons_self]
      · exact clean part (List.mem_cons_of_mem _ mem)

namespace ClassName

theorem dotless_of_mem_segments {text part : String} (h : part ∈ segments text) : Dotless part := by
  obtain ⟨chars, mem, rfl⟩ := List.mem_map.mp h
  rw [Dotless, String.toList_ofList]
  exact not_mem_of_mem_splitOn mem

theorem segments_of_dotless {text : String} (h : Dotless text) : segments text = [text] := by
  rw [segments, List.splitOn_eq_singleton h]
  simp

/-- Parts without dots are found again in the text that they are joined to. -/
theorem segments_intercalate {parts : List String} (some : parts ≠ [])
    (dotless : ∀ part ∈ parts, Dotless part) :
    segments (String.intercalate "." parts) = parts := by
  have dot : ".".toList = ['.'] := rfl
  have chars : parts.map String.toList ≠ [] := by simpa using some
  rw [segments, String.toList_intercalate, dot, List.splitOn_intercalate '.' ?_ chars, List.map_map]
  · have id : String.ofList ∘ String.toList = id := funext fun _ => String.ofList_toList
    rw [id, List.map_id]
  · exact List.forall_mem_map.mpr dotless

theorem segments_append (front back : String) :
    segments (front ++ "." ++ back) = segments front ++ segments back := by
  have chars : (front ++ "." ++ back).toList = front.toList ++ '.' :: back.toList := by simp
  rw [segments, chars, List.splitOn_append_cons_self, List.map_append, ← segments, ← segments]

theorem segments_append_dot (front : String) {back : String} (h : Dotless back) :
    segments (front ++ "." ++ back) = segments front ++ [back] := by
  rw [segments_append, segments_of_dotless h]

/-! ### Classes of one simple name -/

theorem dotted_of_package {package simple : String} (ne : package ≠ "") :
    (⟨package, [simple]⟩ : ClassName).dotted = package ++ "." ++ simple := by
  rw [dotted, if_neg ne, String.intercalate_singleton]

/-- The parts of a class's text are those of its package and its simple names. -/
theorem segments_dotted {name : ClassName} (some : name.simpleNames ≠ [])
    (dotless : ∀ part ∈ name.simpleNames, Dotless part) : segments name.dotted =
      (if name.package = "" then [] else segments name.package) ++ name.simpleNames := by
  rw [dotted]
  split_ifs
  · exact segments_intercalate some dotless
  · rw [segments_append, segments_intercalate some dotless]

/-- **The text determines the class**, if the simple name has no dot in it. -/
theorem eq_of_dotted_eq {package package' simple simple' : String} (h : Dotless simple)
    (h' : Dotless simple') (same : (⟨package, [simple]⟩ : ClassName).dotted =
      (⟨package', [simple']⟩ : ClassName).dotted) :
    (⟨package, [simple]⟩ : ClassName) = ⟨package', [simple']⟩ := by
  have parts := congrArg segments same
  rw [segments_dotted (List.cons_ne_nil _ _) (List.forall_mem_singleton.mpr h),
    segments_dotted (List.cons_ne_nil _ _) (List.forall_mem_singleton.mpr h')] at parts
  obtain ⟨front, back⟩ := List.append_inj' parts rfl
  have join : ∀ package : String, String.intercalate "." (if package = "" then [] else
      segments package) = package := by
    intro package
    split_ifs with empty
    · rw [empty]
      rfl
    · exact intercalate_segments package
  have packages := congrArg (String.intercalate ".") front
  rw [join, join] at packages
  rw [mk.injEq]
  exact ⟨packages, back⟩

/-! ### Names from documents -/

theorem dotless_of_ofDotted? {text : String} {name : ClassName} (h : ofDotted? text = .ok name) :
    Dotless name.simpleName := by
  obtain ⟨-, rfl⟩ := ofDotted?_eq_ok_iff.mp h
  rw [simpleName, List.getLastD_eq_getLast?]
  cases last : (ofSegments (segments text)).simpleNames.getLast? with
  | none => exact dotless_empty
  | some part =>
    have mem : part ∈ (splitSegments (segments text)).2 := List.mem_of_getLast? last
    have of_text : part ∈ segments text := by
      rw [← splitSegments_append (segments text)]
      exact List.mem_append_right _ mem
    exact dotless_of_mem_segments of_text

theorem Expressible.dotless {name : ClassName} (h : name.Expressible) : Dotless name.simpleName :=
  dotless_of_ofDotted? h

theorem IsNamed.dotless {name : ClassName} (h : name.IsNamed) : Dotless name.simpleName := by
  obtain ⟨text, -, -, read⟩ := h
  exact dotless_of_ofDotted? read

end ClassName

theorem TypeRef.dotless_stems : ∀ {types : List TypeRef}, (∀ type ∈ types, Dotless type.stem) →
    Dotless (stems types)
  | [], _ => dotless_empty
  | type :: rest, h => by
    obtain ⟨first, others⟩ := List.forall_mem_cons.mp h
    rw [stems, dotless_append_iff]
    exact ⟨first, dotless_stems others⟩

/-- The stem of a type from a document has no dot in it, whatever the arguments of the type. -/
theorem TypeRef.IsNamed.dotless_stem {type : TypeRef} (h : type.IsNamed) : Dotless type.stem := by
  induction h with
  | mk raw _ _ arguments =>
    rw [TypeRef.stem, dotless_append_iff]
    exact ⟨raw.dotless, TypeRef.dotless_stems arguments⟩

theorem TypeRef.IsNamed.dotless_raw {type : TypeRef} (h : type.IsNamed) :
    Dotless type.raw.simpleName := by
  cases h with
  | mk raw _ _ => exact raw.dotless

/-! ### The last dot -/

theorem exists_last_dot {text : String} (h : ¬ Dotless text) :
    ∃ front back, text = front ++ "." ++ back ∧ Dotless back := by
  rw [Dotless, not_not, ← List.mem_reverse] at h
  obtain ⟨back, front, e, clean⟩ := List.eq_append_cons_of_mem h
  refine ⟨String.ofList front.reverse, String.ofList back.reverse, ?_, ?_⟩
  · rw [← String.toList_inj, ← List.reverse_inj]
    simp [e]
  · simpa [Dotless] using clean

/-! ### Tokens -/

theorem digitChar_ne_dot : ∀ n < 16, Nat.digitChar n ≠ '.' := by decide

theorem dotless_hashToken (text : String) : Dotless (hashToken text) := by
  rw [Dotless, hashToken, String.toList_ofList]
  intro mem
  obtain ⟨byte, -, mem⟩ := List.mem_flatMap.mp mem
  have bound : byte.toNat < 256 := byte.toNat_lt
  rcases List.mem_cons.mp mem with e | mem
  · exact digitChar_ne_dot _ (by omega) e.symm
  · exact digitChar_ne_dot _ (by omega) (List.mem_singleton.mp mem).symm

end BindingPlan
