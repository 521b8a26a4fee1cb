import BindingPlan.Config.Check
import Mathlib.Data.List.Nodup

/-! # Usable configurations

No fault is found in a configuration exactly if its four marker classes are different, its separator
is not empty, and its four suffixes are neither empty nor equal (`Config.fault?_eq_none_iff`). -/

namespace BindingPlan

theorem nodup_markers : Marker.all.Nodup := by decide

theorem nodup_map_all_iff {α : Type} {f : Marker → α} :
    (Marker.all.map f).Nodup ↔ Function.Injective f := by
  constructor
  · intro h m m' e
    exact List.inj_on_of_nodup_map h (Marker.mem_all m) (Marker.mem_all m') e
  · intro h
    exact nodup_markers.map h

theorem firstRepeated?_eq_none_iff : ∀ {names : List ClassName},
    firstRepeated? names = none ↔ names.Nodup
  | [] => by simp [firstRepeated?]
  | name :: rest => by
    rw [firstRepeated?, List.nodup_cons]
    split_ifs with h
    · simp [h]
    · rw [firstRepeated?_eq_none_iff]; simp [h]

theorem Naming.suffixFault?_eq_none_iff {naming : Naming} : ∀ {markers : List Marker},
    naming.suffixFault? markers = none ↔
      (∀ m ∈ markers, naming.suffix m ≠ "") ∧ (markers.map naming.suffix).Nodup
  | [] => by simp [suffixFault?]
  | marker :: rest => by
    rw [suffixFault?, List.forall_mem_cons, List.map_cons, List.nodup_cons]
    split_ifs with h
    · simp [h]
    · cases found : rest.find? (naming.suffix · == naming.suffix marker) with
      | some other =>
        have same : naming.suffix other = naming.suffix marker := by
          simpa using List.find?_some found
        have mem : naming.suffix marker ∈ rest.map naming.suffix :=
          List.mem_map.mpr ⟨other, List.mem_of_find?_eq_some found, same⟩
        simp [mem]
      | none =>
        have fresh : naming.suffix marker ∉ rest.map naming.suffix := by
          intro mem
          obtain ⟨other, hother, same⟩ := List.mem_map.mp mem
          exact List.find?_eq_none.mp found other hother (by simpa using same)
        rw [Naming.suffixFault?_eq_none_iff]
        simp only [h, fresh, not_false_eq_true, true_and, ne_eq]

/-- **A configuration has no fault** exactly if nothing in it is shared or empty that keeps the
containers of different markers apart. -/
theorem Config.fault?_eq_none_iff {config : Config} :
    config.fault? = none ↔ Function.Injective config.markers.classOf ∧
      config.naming.separator ≠ "" ∧ (∀ m, config.naming.suffix m ≠ "") ∧
      Function.Injective config.naming.suffix := by
  rw [← nodup_map_all_iff (f := config.markers.classOf), ← firstRepeated?_eq_none_iff,
    ← nodup_map_all_iff (f := config.naming.suffix), fault?]
  cases firstRepeated? (Marker.all.map config.markers.classOf) with
  | some name => simp
  | none =>
    simp only [true_and]
    split_ifs with h
    · simp [h]
    · rw [Naming.suffixFault?_eq_none_iff]
      simp only [Marker.mem_all, forall_const, h, ne_eq, not_false_eq_true, true_and]

theorem Config.fault?_default : Config.default.fault? = none := by decide

end BindingPlan
