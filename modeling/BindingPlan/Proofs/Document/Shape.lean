import BindingPlan.Document.Decoder
import BindingPlan.Proofs.Sequence
import Mathlib.Data.List.Basic

/-! # What decoders take

Two general facts about decoders, free of any particular type. What comes out of a shape has every
property that taking over one field keeps (`Shape.of_take`). And an object that is written with its
fields in order, all of them or the first few, is taken over like the array of its values
(`Shape.take_object`), one field after the other. -/

namespace BindingPlan.Document

section Plain
variable {α β : Type}

theorem map_eq_ok_iff {x : Decoded α} {f : α → β} {b : β} :
    x.map f = .ok b ↔ ∃ a, x = .ok a ∧ f a = b := by
  cases x <;> simp [Except.map]

theorem required_eq_ok_iff {missing : String → DecodeFault} {key : String} {given : Option α}
    {a : α} : required missing key given = .ok a ↔ given = some a := by
  cases given <;> simp [required]

/-! ### Lists and options -/

theorem forall_mem_some {p : α → Prop} {a : α} (h : p a) : ∀ b ∈ some a, p b := by
  rintro _ ⟨⟩
  exact h

section Lists
variable {decode : Json → Decoded α}

theorem exists_of_mapM {items : List Json} : ∀ {values : List α}, items.mapM decode = .ok values →
    ∀ a ∈ values, ∃ item, decode item = .ok a := by
  induction items with
  | nil =>
    rintro _ ⟨⟩
    simp
  | cons item items ih =>
    intro values h
    rw [List.mapM_cons] at h
    obtain ⟨a, read, h⟩ := bind_eq_ok_iff.mp h
    obtain ⟨rest, read_rest, h⟩ := bind_eq_ok_iff.mp h
    cases h
    exact List.forall_mem_cons.mpr ⟨⟨item, read⟩, ih read_rest⟩

theorem exists_of_list {value : Json} {values : List α} (h : list decode value = .ok values) :
    ∀ a ∈ values, ∃ item, decode item = .ok a := by
  cases value with
  | array items => exact exists_of_mapM h
  | _ => cases h

theorem mapM_map {encode : α → Json} : ∀ {values : List α},
    (∀ a ∈ values, decode (encode a) = .ok a) → (values.map encode).mapM decode = .ok values
  | [], _ => rfl
  | a :: values, back => by
    obtain ⟨back_a, back⟩ := List.forall_mem_cons.mp back
    rw [List.map_cons, List.mapM_cons, back_a, mapM_map back]
    rfl

theorem list_map {encode : α → Json} {values : List α}
    (back : ∀ a ∈ values, decode (encode a) = .ok a) :
    list decode (.array (values.map encode)) = .ok values :=
  mapM_map back

theorem of_optional {value : Json} {found : Option α} (h : optional decode value = .ok found) :
    ∀ a ∈ found, decode value = .ok a := by
  have map : ∀ {value}, (decode value).map some = .ok found → ∀ a ∈ found, decode value = .ok a := by
    intro value h
    obtain ⟨a, read, rfl⟩ := map_eq_ok_iff.mp h
    rintro _ ⟨⟩
    exact read
  cases value with
  | null =>
    cases h
    simp
  | _ => exact map h

theorem optional_ofOption (encode : α → Json) (ne : ∀ a, encode a ≠ .null) {given : Option α}
    (back : ∀ a ∈ given, decode (encode a) = .ok a) :
    optional decode (Json.ofOption encode given) = .ok given := by
  cases given with
  | none => rfl
  | some a =>
    have read := back a rfl
    rw [Json.ofOption, optional]
    · rw [read]
      rfl
    · exact ne a

end Lists

end Plain

/-! ### Shapes -/

namespace Shape

variable {α β : Type}

section Invariants
variable {P : α → Prop}

/-- A property of the value under construction outlasts taking over the field. -/
def Keeps (P : α → Prop) (field : String × (Json → α → Decoded α)) : Prop :=
  ∀ value built built', field.2 value built = .ok built' → P built → P built'

theorem keeps_field {key : String} {decode : Json → Decoded β} {set : β → α → α}
    (h : ∀ value b built, decode value = .ok b → P built → P (set b built)) :
    Keeps P (field key decode set) := by
  intro value built built' taken before
  obtain ⟨b, read, rfl⟩ := map_eq_ok_iff.mp taken
  exact h value b built read before

theorem of_takeItems : ∀ {fields : List (String × (Json → α → Decoded α))} {items : List Json}
    {built built' : α}, (∀ field ∈ fields, Keeps P field) →
      takeItems fields items built = .ok built' → P built → P built'
  | [], _, _, _, _, rfl, before => before
  | _ :: _, [], _, _, _, rfl, before => before
  | (_, _) :: _, _ :: _, _, _, keeps, h, before => by
    obtain ⟨keeps_first, keeps⟩ := List.forall_mem_cons.mp keeps
    obtain ⟨built, taken, h⟩ := bind_eq_ok_iff.mp h
    exact of_takeItems keeps h (keeps_first _ _ _ taken before)

theorem of_takeMembers {shape : Shape α} (keeps : ∀ field ∈ shape.fields, Keeps P field) :
    ∀ {members : List (String × Json)} {seen : List String} {built built' : α},
      shape.takeMembers seen members built = .ok built' → P built → P built'
  | [], _, _, _, rfl, before => before
  | (key, value) :: members, seen, built, built', h, before => by
    rw [takeMembers] at h
    split at h
    next => exact of_takeMembers keeps h before
    next take found =>
      split_ifs at h
      obtain ⟨next, taken, h⟩ := bind_eq_ok_iff.mp h
      have mem : (key, take) ∈ shape.fields := by
        obtain ⟨front, back, e, -⟩ := List.lookup_eq_some_iff.mp found
        rw [e]
        exact List.mem_append_right front List.mem_cons_self
      exact of_takeMembers keeps h (keeps _ mem _ _ _ taken before)

/-- **What comes out of a shape** has each property that its fields keep. -/
theorem of_take {shape : Shape α} {route : Route} {start built : α} {value : Json}
    {missing : String → DecodeFault} (keeps : ∀ field ∈ shape.fields, Keeps P field)
    (h : shape.take route start value = .ok (built, missing)) (before : P start) : P built := by
  cases value with
  | object members =>
    obtain ⟨built, taken, h⟩ := bind_eq_ok_iff.mp h
    cases h
    exact of_takeMembers keeps taken before
  | array items =>
    obtain ⟨built, taken, h⟩ := bind_eq_ok_iff.mp h
    split_ifs at h
    cases h
    exact of_takeItems keeps taken before
  | _ => cases h

end Invariants

section Order

theorem takeItems_cons {key : String} {decode : Json → Decoded β} {set : β → α → α} {value : Json}
    {b : β} {fields : List (String × (Json → α → Decoded α))} {items : List Json} {built done : α}
    (read : decode value = .ok b) (rest : takeItems fields items (set b built) = .ok done) :
    takeItems (field key decode set :: fields) (value :: items) built = .ok done := by
  rw [field, takeItems, read]
  exact rest

theorem takeItems_nil (fields : List (String × (Json → α → Decoded α))) (built : α) :
    takeItems fields [] built = .ok built := by
  cases fields <;> rfl

theorem lookup_of_mem {fields : List (String × β)} (distinct : (fields.map (·.1)).Nodup)
    {field : String × β} (mem : field ∈ fields) : fields.lookup field.1 = some field.2 := by
  induction fields with
  | nil => cases mem
  | cons first fields ih =>
    rw [List.map_cons, List.nodup_cons] at distinct
    rcases List.mem_cons.mp mem with rfl | mem
    · exact List.lookup_cons_self
    · have ne : field.1 ≠ first.1 := fun e => distinct.1 (e ▸ List.mem_map_of_mem mem)
      rw [List.lookup_cons, beq_false_of_ne ne]
      exact ih distinct.2 mem

/-- Members that have the keys of the fields still to come, in order, are taken over one by one. -/
theorem takeMembers_of_prefix {shape : Shape α} : ∀ {members : List (String × Json)}
    {fields : List (String × (Json → α → Decoded α))} {seen : List String} {built : α},
    (∀ field ∈ fields, shape.fields.lookup field.1 = some field.2) →
    (fields.map (·.1)).Nodup → (∀ field ∈ fields, field.1 ∉ seen) →
    members.map (·.1) <+: fields.map (·.1) →
      shape.takeMembers seen members built = takeItems fields (members.map (·.2)) built
  | [], fields, _, built, _, _, _, _ => (takeItems_nil fields built).symm
  | (key, value) :: members, fields, seen, built, known, distinct, unseen, order => by
    obtain ⟨⟨name, take⟩, fields, rfl⟩ : ∃ field rest, fields = field :: rest := by
      cases fields with
      | nil => simp at order
      | cons field rest => exact ⟨field, rest, rfl⟩
    obtain ⟨same, order_rest⟩ := List.cons_prefix_cons.mp order
    obtain rfl : key = name := same
    rw [List.map_cons, List.nodup_cons] at distinct
    obtain ⟨known_first, known⟩ := List.forall_mem_cons.mp known
    obtain ⟨unseen_first, unseen⟩ := List.forall_mem_cons.mp unseen
    have unseen : ∀ field ∈ fields, field.1 ∉ key :: seen := by
      intro field mem
      rw [List.mem_cons, not_or]
      exact ⟨fun e => distinct.1 (List.mem_map.mpr ⟨field, mem, e⟩), unseen field mem⟩
    have rest : ∀ built, shape.takeMembers (key :: seen) members built =
        takeItems fields (members.map (·.2)) built :=
      fun _ => takeMembers_of_prefix known distinct.2 unseen order_rest
    simp only [takeMembers, known_first, if_neg unseen_first, rest]
    rfl

/-- **An object with its fields in order** is taken over like the array of its values. -/
theorem take_object {shape : Shape α} {route : Route} {start built : α}
    {members : List (String × Json)} (distinct : (shape.fields.map (·.1)).Nodup)
    (order : members.map (·.1) <+: shape.fields.map (·.1))
    (taken : takeItems shape.fields (members.map (·.2)) start = .ok built) :
    shape.take route start (.object members) = .ok (built, .missingField) := by
  rw [take, takeMembers_of_prefix (fun _ => lookup_of_mem distinct) distinct (by simp) order, taken]
  rfl

end Order

end Shape

end BindingPlan.Document
