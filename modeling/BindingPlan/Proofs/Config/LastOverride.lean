import BindingPlan.Config.Overrides
import BindingPlan.Proofs.Config.Usable
import BindingPlan.Proofs.Sequence
import Mathlib.Tactic.SplitIfs

/-! # The last override counts

Overrides are applied one after the other, and what is left is the last value given for each
setting (`Config.overrideAll_of_good`). Only a value for the default scope can be refused. The first
one that names no class is the fault of all overrides, even if a later one would have taken its
place (`Config.overrideAll_of_bad`). So overrides of different settings may change places, and the
outcome is that of checking one configuration, which can be used just if its markers, its separator
and its suffixes keep containers apart (`Config.overridden_exactly`). -/

namespace BindingPlan

/-! ### Given values -/

/-- The values given for a name, in order. -/
def valuesOf (pairs : List (String × String)) (name : String) : List String :=
  (pairs.filter (·.1 == name)).map (·.2)

/-- The last of some texts, or the default if there is none. -/
def lastText (default : String) (texts : List String) : String :=
  texts.getLast?.getD default

/-- The class that the last of some texts names, or the default if there is none. -/
def lastClass (default : ClassName) (texts : List String) : ClassName :=
  (texts.getLast?.bind fun text => (ClassName.ofDotted? text).toOption).getD default

/-- Every text names a class. -/
def AllNameClasses (texts : List String) : Prop :=
  ∀ text ∈ texts, ∃ name, ClassName.ofDotted? text = .ok name

/-- The fault is that of the first text that names no class. -/
inductive FirstBadName : List String → NameFault → Prop
  | here {text : String} (rest : List String)
      (bad : ClassName.ofDotted? text = .error (.notAClass text)) :
      FirstBadName (text :: rest) (.notAClass text)
  | later {text : String} {rest : List String} {fault : NameFault} {name : ClassName}
      (good : ClassName.ofDotted? text = .ok name) (bad : FirstBadName rest fault) :
      FirstBadName (text :: rest) fault

theorem valuesOf_append (front back : List (String × String)) (name : String) :
    valuesOf (front ++ back) name = valuesOf front name ++ valuesOf back name := by
  simp [valuesOf]

theorem valuesOf_single_self (name value : String) : valuesOf [(name, value)] name = [value] := by
  simp [valuesOf]

theorem valuesOf_single_of_ne {name other : String} (h : name ≠ other) (value : String) :
    valuesOf [(name, value)] other = [] := by
  simp [valuesOf, h]

theorem lastText_append (default : String) (front back : List String) :
    lastText (lastText default front) back = lastText default (front ++ back) := by
  cases last : back.getLast? <;> simp [lastText, List.getLast?_append, last]

theorem lastClass_append (default : ClassName) (front : List String) {back : List String}
    (good : AllNameClasses back) :
    lastClass (lastClass default front) back = lastClass default (front ++ back) := by
  cases last : back.getLast? with
  | none => simp [lastClass, List.getLast?_append, last]
  | some text =>
    obtain ⟨name, read⟩ := good text (List.mem_of_getLast? last)
    simp [lastClass, List.getLast?_append, last, read, Except.toOption]

theorem fault_of_ofDotted? {text : String} {fault : NameFault}
    (h : ClassName.ofDotted? text = .error fault) : fault = .notAClass text := by
  unfold ClassName.ofDotted? at h
  dsimp only at h
  split_ifs at h
  cases h
  rfl

theorem firstBadName_or : ∀ texts : List String,
    (∃ fault, FirstBadName texts fault) ∨ AllNameClasses texts
  | [] => .inr (by simp [AllNameClasses])
  | text :: rest => by
    cases read : ClassName.ofDotted? text with
    | error fault =>
      obtain rfl := fault_of_ofDotted? read
      exact .inl ⟨_, .here rest read⟩
    | ok name =>
      rcases firstBadName_or rest with ⟨fault, bad⟩ | good
      · exact .inl ⟨fault, .later read bad⟩
      · exact .inr (List.forall_mem_cons.mpr ⟨⟨name, read⟩, good⟩)

theorem AllNameClasses.append_right {front back : List String}
    (h : AllNameClasses (front ++ back)) : AllNameClasses back :=
  (List.forall_mem_append.mp h).2

theorem AllNameClasses.append_left {front back : List String}
    (h : AllNameClasses (front ++ back)) : AllNameClasses front :=
  (List.forall_mem_append.mp h).1

namespace Config

/-- The configuration with the last value for each setting that has one. -/
def withLast (config : Config) (pairs : List (String × String)) : Config :=
  { config with
    types := { config.types with
      defaultScope :=
        lastClass config.types.defaultScope (valuesOf pairs "AUTOBIND_DEFAULT_SCOPE") }
    naming := { config.naming with
      separator := lastText config.naming.separator (valuesOf pairs "AUTOBIND_NAME_SEPARATOR")
      bindPrefix := lastText config.naming.bindPrefix (valuesOf pairs "AUTOBIND_BIND_PREFIX")
      providePrefix :=
        lastText config.naming.providePrefix (valuesOf pairs "AUTOBIND_PROVIDE_PREFIX") } }

/-- Nothing is empty or shared that keeps containers apart. -/
structure Usable (config : Config) : Prop where
  markers : [config.markers.bind.production, config.markers.bind.test,
    config.markers.factory.production, config.markers.factory.test].Nodup
  separator : config.naming.separator ≠ ""
  suffixes : ∀ suffix ∈ [config.naming.bindSuffix, config.naming.testBindSuffix,
    config.naming.factorySuffix, config.naming.testFactorySuffix], suffix ≠ ""
  distinct : [config.naming.bindSuffix, config.naming.testBindSuffix,
    config.naming.factorySuffix, config.naming.testFactorySuffix].Nodup

variable {config : Config} {pairs : List (String × String)}

/-! ### One override -/

theorem override_of_ne {name : String} (other : name ≠ "AUTOBIND_DEFAULT_SCOPE") (value : String) :
    config.override name value = .ok (config.withLast [(name, value)]) := by
  unfold override
  split
  next => exact absurd rfl other
  next => rfl
  next => rfl
  next => rfl
  next noSeparator noBind noProvide =>
    simp [withLast, valuesOf_single_of_ne other, valuesOf_single_of_ne noSeparator,
      valuesOf_single_of_ne noBind, valuesOf_single_of_ne noProvide, lastText, lastClass]

/-- **One override** whose value is not refused gives the configuration with this value. -/
theorem override_of_good {name value : String}
    (good : AllNameClasses (valuesOf [(name, value)] "AUTOBIND_DEFAULT_SCOPE")) :
    config.override name value = .ok (config.withLast [(name, value)]) := by
  by_cases is_scope : name = "AUTOBIND_DEFAULT_SCOPE"
  · subst is_scope
    obtain ⟨scope, read⟩ := good value (by simp [valuesOf])
    rw [override, read]
    simp [withLast, valuesOf, lastText, lastClass, read, bind, Except.bind, Except.toOption]
  · exact override_of_ne is_scope value

/-! ### All overrides -/

theorem withLast_append (front : List (String × String)) {back : List (String × String)}
    (good : AllNameClasses (valuesOf back "AUTOBIND_DEFAULT_SCOPE")) :
    (config.withLast front).withLast back = config.withLast (front ++ back) := by
  simp only [withLast, valuesOf_append, lastText_append, lastClass_append _ _ good]

/-- **Overrides that are not refused** leave the last value of each setting. -/
theorem overrideAll_of_good : ∀ {pairs : List (String × String)} {config : Config},
    AllNameClasses (valuesOf pairs "AUTOBIND_DEFAULT_SCOPE") →
      config.overrideAll pairs = .ok (config.withLast pairs)
  | [], config, _ => rfl
  | (name, value) :: rest, config, good => by
    rw [← List.singleton_append, valuesOf_append] at good
    rw [overrideAll, override_of_good good.append_left]
    exact (overrideAll_of_good good.append_right).trans
      (congrArg Except.ok (withLast_append _ good.append_right))

/-- **The first scope that names no class** is the fault of all overrides. -/
theorem overrideAll_of_bad {fault : NameFault} :
    ∀ {pairs : List (String × String)} {config : Config},
      FirstBadName (valuesOf pairs "AUTOBIND_DEFAULT_SCOPE") fault →
        config.overrideAll pairs = .error fault
  | [], config, bad => by cases bad
  | (name, value) :: rest, config, bad => by
    rw [← List.singleton_append, valuesOf_append] at bad
    rw [overrideAll]
    by_cases is_scope : name = "AUTOBIND_DEFAULT_SCOPE"
    · subst is_scope
      rw [valuesOf_single_self, List.singleton_append] at bad
      rw [override]
      cases bad with
      | here _ unread =>
        rw [unread]
        rfl
      | later read bad =>
        rw [read]
        exact overrideAll_of_bad bad
    · rw [valuesOf_single_of_ne is_scope, List.nil_append] at bad
      rw [override_of_ne is_scope]
      exact overrideAll_of_bad bad

end Config

/-! ### Usable configurations -/

/-- A usable configuration has a class and a suffix of its own for every marker. -/
theorem Config.usable_iff {config : Config} :
    config.Usable ↔ Function.Injective config.markers.classOf ∧ config.naming.separator ≠ "" ∧
      (∀ marker, config.naming.suffix marker ≠ "") ∧ Function.Injective config.naming.suffix := by
  rw [← nodup_map_all_iff, ← nodup_map_all_iff]
  constructor
  · rintro ⟨markers, separator, suffixes, distinct⟩
    refine ⟨markers, separator, fun marker => suffixes _ ?_, distinct⟩
    exact List.mem_map_of_mem (Marker.mem_all marker)
  · rintro ⟨markers, separator, suffixes, distinct⟩
    refine ⟨markers, separator, fun suffix mem => ?_, distinct⟩
    change suffix ∈ Marker.all.map config.naming.suffix at mem
    obtain ⟨marker, -, rfl⟩ := List.mem_map.mp mem
    exact suffixes marker

theorem Config.check_eq_ok_iff {config result : Config} :
    config.check = .ok result ↔ config.Usable ∧ result = config := by
  rw [usable_iff, ← fault?_eq_none_iff, check]
  cases config.fault? with
  | none => simp [eq_comm]
  | some fault => simp

theorem MarkerClasses.markerOf?_eq_some_iff {classes : MarkerClasses}
    (distinct : Function.Injective classes.classOf) {name : ClassName} {marker : Marker} :
    classes.markerOf? name = some marker ↔ classes.classOf marker = name := by
  constructor
  · intro found
    simpa using List.find?_some found
  · rintro rfl
    obtain ⟨other, found⟩ := Option.isSome_iff_exists.mp (isSome_markerOf?.mpr ⟨marker, rfl⟩)
    have same : classes.classOf other = classes.classOf marker := by
      simpa using List.find?_some found
    rw [found, distinct same]

namespace Config
variable {config : Config} {pairs pairs' : List (String × String)}

theorem overridden_of_bad {fault : NameFault}
    (bad : FirstBadName (valuesOf pairs "AUTOBIND_DEFAULT_SCOPE") fault) :
    config.overridden pairs = .error (.badName fault) := by
  rw [overridden, overrideAll_of_bad bad]

theorem overridden_of_good (good : AllNameClasses (valuesOf pairs "AUTOBIND_DEFAULT_SCOPE")) :
    config.overridden pairs = (config.withLast pairs).check := by
  rw [overridden, overrideAll_of_good good]

/-- The outcome depends on no more than the values of each setting in their order. -/
theorem overridden_congr (same : ∀ name, valuesOf pairs' name = valuesOf pairs name) :
    config.overridden pairs' = config.overridden pairs := by
  rcases firstBadName_or (valuesOf pairs "AUTOBIND_DEFAULT_SCOPE") with ⟨fault, bad⟩ | good
  · rw [overridden_of_bad bad, overridden_of_bad (same _ ▸ bad)]
  · rw [overridden_of_good good, overridden_of_good (same _ ▸ good)]
    simp only [withLast, same]

/-- **The last value of every setting counts.** Overrides fail with the fault of the first scope
that names no class, and else come to a check of the configuration with the last values, so that
only the order among values of one setting matters. The check lets a configuration through just if
it is usable, and every marker is then found by its class. -/
theorem overridden_exactly (config : Config) (pairs : List (String × String)) :
    let last := config.withLast pairs
    (∀ fault, FirstBadName (valuesOf pairs "AUTOBIND_DEFAULT_SCOPE") fault →
      config.overridden pairs = .error (.badName fault)) ∧
    ((¬ ∃ fault, FirstBadName (valuesOf pairs "AUTOBIND_DEFAULT_SCOPE") fault) →
      config.overridden pairs = last.check) ∧
    (∀ pairs', (∀ name, valuesOf pairs' name = valuesOf pairs name) →
      config.overridden pairs' = config.overridden pairs) ∧
    (∀ result, last.check = .ok result ↔ last.Usable ∧ result = last) ∧
    (last.Usable → ∀ name marker,
      last.markers.markerOf? name = some marker ↔ last.markers.classOf marker = name) := by
  intro last
  refine ⟨fun fault bad => overridden_of_bad bad, fun none_bad => ?_,
    fun pairs' same => overridden_congr same, fun result => check_eq_ok_iff, fun usable => ?_⟩
  · exact overridden_of_good ((firstBadName_or _).resolve_left none_bad)
  · intro name marker
    exact MarkerClasses.markerOf?_eq_some_iff (usable_iff.mp usable).1

/-- A scope that names no class is a fault even if a later one would have replaced it. An empty
separator is none if a later one replaces it. -/
theorem overridden_exactly_replaced :
    Config.default.overridden
        [("AUTOBIND_DEFAULT_SCOPE", "a..B"), ("AUTOBIND_DEFAULT_SCOPE", "a.B")] =
      .error (.badName (.notAClass "a..B")) ∧
    Config.default.overridden
        [("AUTOBIND_NAME_SEPARATOR", ""), ("AUTOBIND_NAME_SEPARATOR", "-")] =
      .ok { Config.default with naming := { Naming.default with separator := "-" } } := by
  constructor
  · exact (overridden_exactly .default _).1 _ (.here _ (by decide))
  · let pairs := [("AUTOBIND_NAME_SEPARATOR", ""), ("AUTOBIND_NAME_SEPARATOR", "-")]
    obtain ⟨-, checked, -, kept, -⟩ := overridden_exactly .default pairs
    have no_scope : valuesOf pairs "AUTOBIND_DEFAULT_SCOPE" = [] := by decide
    rw [checked (by rintro ⟨_, bad⟩; rw [no_scope] at bad; cases bad), kept]
    exact ⟨⟨by decide, by decide, by decide, by decide⟩, by decide⟩

end Config

end BindingPlan
