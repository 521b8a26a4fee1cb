import BindingPlan.Document.Name
import BindingPlan.Proofs.Document.Shape
import Mathlib.Data.List.Duplicate
import Mathlib.Data.List.Forall2

/-! # Objects that overlay defaults

What a decoder takes, said without the decoder. A `Format` says which values are well typed, what
they stand for, and which keys they repeat. The format of an object is put together from its parts
(`Format.object`): what the object gives for a part counts, in any order and between any other
members, and what it leaves out is that of the defaults. A decoder follows a format if it refuses
every repeated key, refuses nothing else among well-typed values, and otherwise answers what the
value stands for (`Decodes`). Shapes do so whose fields follow the formats of the parts
(`Shape.Follows.decodes`).

The induction is on the members of an object. The keys seen so far are the invariant: none of them
comes again where the decoder succeeds. -/

namespace BindingPlan.Document

/-! ### Formats -/

/-- How a document writes the values of a type: which values are well typed, what they stand for,
and which known keys are repeated in them. -/
structure Format (β : Type) where
  Typed : Json → Prop
  Reads : Json → β → Prop
  Repeats : String → Json → Prop

/-- A format without keys. -/
def Format.plain {β : Type} (reads : Json → β → Prop) : Format β where
  Typed value := ∃ b, reads value b
  Reads := reads
  Repeats _ _ := False

/-- A part of a record, and how a document gives it under a key. -/
structure RecordPart (α : Type) where
  key : String
  {Value : Type}
  get : α → Value
  format : Format Value

section Formats
variable {α : Type}

namespace RecordPart

/-- The members give the part. -/
def GivenIn (members : List (String × Json)) (part : RecordPart α) : Prop :=
  part.key ∈ members.map (·.1)

/-- What the members give for the part is well typed. -/
def TypedIn (members : List (String × Json)) (part : RecordPart α) : Prop :=
  ∀ value, (part.key, value) ∈ members → part.format.Typed value

/-- The part of the record is what the members give for it, or else that of the default. -/
structure ReadIn (members : List (String × Json)) (default : Option α) (record : α)
    (part : RecordPart α) : Prop where
  given : ∀ value, (part.key, value) ∈ members → part.format.Reads value (part.get record)
  missing : ¬ part.GivenIn members → ∃ start ∈ default, part.get record = part.get start

/-- The members repeat a key: that of the part, or one inside of what they give for the part. -/
inductive RepeatedIn (members : List (String × Json)) (part : RecordPart α) : String → Prop
  | here (twice : List.Duplicate part.key (members.map (·.1))) :
      RepeatedIn members part part.key
  | inside {value : Json} {key : String} (given : (part.key, value) ∈ members)
      (repeated : part.format.Repeats key value) : RepeatedIn members part key

end RecordPart

/-- The format of an object: parts that are left out have the default, and all parts have to be
given if there is none. -/
def Format.object (parts : List (RecordPart α)) (default : Option α) : Format α where
  Typed value := ∃ members, value = .object members ∧
    ∀ part ∈ parts, part.TypedIn members ∧ (default = none → part.GivenIn members)
  Reads value record := ∃ members, value = .object members ∧
    ∀ part ∈ parts, part.ReadIn members default record
  Repeats key value := ∃ members, value = .object members ∧
    ∃ part ∈ parts, part.RepeatedIn members key

end Formats

/-- A decoder follows a format. -/
structure Decodes {β : Type} (decode : Json → Decoded β) (format : Format β) : Prop where
  clean : ∀ {value b}, decode value = .ok b → ∀ key, ¬ format.Repeats key value
  fault : ∀ {value fault}, format.Typed value → decode value = .error fault →
    ∃ key, format.Repeats key value ∧ fault = .duplicateField key
  reads : ∀ {value b}, format.Typed value → decode value = .ok b →
    ∀ b', format.Reads value b' ↔ b' = b

theorem RecordPart.repeatedIn_plain_iff {α β : Type} {own key : String} {get : α → β}
    {reads : Json → β → Prop} {members : List (String × Json)} :
    RecordPart.RepeatedIn members ⟨own, get, .plain reads⟩ key ↔
      own = key ∧ List.Duplicate own (members.map (·.1)) := by
  constructor
  · rintro (twice | ⟨-, ⟨⟩⟩)
    exact ⟨rfl, twice⟩
  · rintro ⟨rfl, twice⟩
    exact .here twice

/-! ### Plain values -/

/-- A text stands for itself. -/
inductive ReadsText : Json → String → Prop
  | text (text : String) : ReadsText (.string text) text

/-- A text stands for the class that it names, blanks around it left out. -/
inductive ReadsName : Json → ClassName → Prop
  | text {text : String} {name : ClassName}
      (named : ClassName.ofDotted? (Text.trim text) = .ok name) : ReadsName (.string text) name

/-- An array stands for the list of what its items stand for. -/
inductive ReadsList {β : Type} (reads : Json → β → Prop) : Json → List β → Prop
  | array {items : List Json} {values : List β} (each : List.Forall₂ reads items values) :
      ReadsList reads (.array items) values

/-- Null stands for nothing, and any other value for what it stands for. -/
inductive ReadsOptional {β : Type} (reads : Json → β → Prop) : Json → Option β → Prop
  | null : ReadsOptional reads .null none
  | given {value : Json} {b : β} (read : reads value b) : ReadsOptional reads value (some b)

section Plain
variable {β : Type} {decode : Json → Decoded β} {reads : Json → β → Prop}

theorem decodes_plain (alike : ∀ value b, decode value = .ok b ↔ reads value b) :
    Decodes decode (.plain reads) where
  clean _ _ := id
  fault := by
    rintro value fault ⟨b, read⟩ failed
    rw [(alike value b).mpr read] at failed
    cases failed
  reads := by
    intro value b _ decoded b'
    change reads value b' ↔ b' = b
    rw [← alike, decoded, Except.ok.injEq, eq_comm]

theorem string_eq_ok_iff {value : Json} {text : String} :
    string value = .ok text ↔ ReadsText value text := by
  constructor
  · intro decoded
    cases value <;> cases decoded
    exact .text _
  · rintro ⟨⟩
    rfl

theorem className_eq_ok_iff {value : Json} {name : ClassName} :
    className value = .ok name ↔ ReadsName value name := by
  rw [className, bind_eq_ok_iff]
  simp only [string_eq_ok_iff]
  constructor
  · rintro ⟨text, ⟨⟩, named⟩
    cases read : ClassName.ofDotted? (Text.trim text) with
    | error fault =>
      rw [read] at named
      cases named
    | ok name' =>
      rw [read] at named
      cases named
      exact .text read
  · rintro ⟨named⟩
    refine ⟨_, .text _, ?_⟩
    rw [named]
    rfl

theorem list_eq_ok_iff (alike : ∀ value b, decode value = .ok b ↔ reads value b) {value : Json}
    {values : List β} : list decode value = .ok values ↔ ReadsList reads value values := by
  have items_iff (items : List Json) : ∀ values,
      items.mapM decode = .ok values ↔ List.Forall₂ reads items values := by
    induction items with
    | nil =>
      intro values
      simp [pure, Except.pure, eq_comm]
    | cons item items ih =>
      intro values
      rw [List.mapM_cons, bind_eq_ok_iff, List.forall₂_cons_left_iff]
      simp only [bind_eq_ok_iff, alike, ih, pure, Except.pure, Except.ok.injEq]
      simp only [eq_comm]
      exact ⟨fun ⟨b, read, rest, each, same⟩ => ⟨b, rest, read, each, same⟩,
        fun ⟨b, rest, read, each, same⟩ => ⟨b, read, rest, each, same⟩⟩
  constructor
  · intro decoded
    cases value with
    | array items => exact .array ((items_iff items values).mp decoded)
    | _ => cases decoded
  · rintro ⟨each⟩
    exact (items_iff _ values).mpr each

theorem optional_eq_ok_iff (alike : ∀ value b, decode value = .ok b ↔ reads value b)
    (notNull : ∀ b, ¬ reads .null b) {value : Json} {given : Option β} :
    optional decode value = .ok given ↔ ReadsOptional reads value given := by
  constructor
  · intro decoded
    unfold optional at decoded
    split at decoded
    · cases decoded
      exact .null
    · obtain ⟨b, read, rfl⟩ := map_eq_ok_iff.mp decoded
      exact .given ((alike _ _).mp read)
  · rintro (- | read)
    · rfl
    · rw [optional]
      · rw [(alike _ _).mpr read]
        rfl
      · rintro rfl
        exact notNull _ read

end Plain

/-! ### Members one by one -/

/-- A field has the key of the part, and taking over a value sets the part as the value says, and no
other part. -/
structure RecordPart.TakenBy {α : Type} (parts : List (RecordPart α)) (part : RecordPart α)
    (field : String × (Json → α → Decoded α)) : Prop where
  key : field.1 = part.key
  clean : ∀ {value built next}, field.2 value built = .ok next →
    ∀ key, ¬ part.format.Repeats key value
  fault : ∀ {value built fault}, part.format.Typed value → field.2 value built = .error fault →
    ∃ key, part.format.Repeats key value ∧ fault = .duplicateField key
  reads : ∀ {value built next}, part.format.Typed value → field.2 value built = .ok next →
    ∀ b, part.format.Reads value b ↔ b = part.get next
  frame : ∀ {value built next}, field.2 value built = .ok next →
    ∀ other ∈ parts, other.key ≠ part.key → other.get next = other.get built

/-- The fields of a shape are for the parts of a record, in the same order. -/
structure Shape.Follows {α : Type} (shape : Shape α) (parts : List (RecordPart α)) : Prop where
  distinct : (parts.map (·.key)).Nodup
  fields : List.Forall₂ (RecordPart.TakenBy parts) parts shape.fields
  ext : ∀ a b, (∀ part ∈ parts, part.get a = part.get b) → a = b

section Members
variable {α : Type} {shape : Shape α} {parts : List (RecordPart α)} {part : RecordPart α}

theorem map_eq_error_iff {β γ : Type} {x : Decoded β} {f : β → γ} {fault : DecodeFault} :
    x.map f = .error fault ↔ x = .error fault := by
  cases x <;> simp [Except.map]

/-- A part is taken by a field whose decoder follows its format, and which sets that part alone. -/
theorem RecordPart.takenBy_field {β : Type} {get : α → β} {set : β → α → α} {key : String}
    {decode : Json → Decoded β} {format : Format β} (decodes : Decodes decode format)
    (get_set : ∀ b a, get (set b a) = b)
    (frame : ∀ b a, ∀ other ∈ parts, other.key ≠ key → other.get (set b a) = other.get a) :
    RecordPart.TakenBy parts ⟨key, get, format⟩ (Shape.field key decode set) where
  key := rfl
  clean taken := by
    obtain ⟨b, decoded, -⟩ := map_eq_ok_iff.mp taken
    exact decodes.clean decoded
  fault typed failed := decodes.fault typed (map_eq_error_iff.mp failed)
  reads := by
    intro value built next typed taken b
    obtain ⟨b', decoded, rfl⟩ := map_eq_ok_iff.mp taken
    change format.Reads value b ↔ b = get (set b' built)
    rw [get_set]
    exact decodes.reads typed decoded b
  frame := by
    intro value built next taken other mem ne
    obtain ⟨b, -, rfl⟩ := map_eq_ok_iff.mp taken
    exact frame b built other mem ne

namespace Shape.Follows

section Fields
variable {some_parts : List (RecordPart α)} {fields : List (String × (Json → α → Decoded α))}

theorem lookup_eq_some (alike : List.Forall₂ (RecordPart.TakenBy parts) some_parts fields)
    (distinct : (some_parts.map (·.key)).Nodup) (mem : part ∈ some_parts) :
    ∃ take, fields.lookup part.key = some take ∧ part.TakenBy parts (part.key, take) := by
  induction alike with
  | nil => cases mem
  | @cons first field some_parts fields taken _ ih =>
    obtain ⟨name, take⟩ := field
    obtain rfl : name = first.key := taken.key
    rw [List.map_cons, List.nodup_cons] at distinct
    rcases List.mem_cons.mp mem with rfl | mem
    · exact ⟨take, List.lookup_cons_self, taken⟩
    · have ne : part.key ≠ first.key := fun e =>
        distinct.1 (List.mem_map.mpr ⟨part, mem, e⟩)
      rw [List.lookup_cons, beq_false_of_ne ne]
      exact ih distinct.2 mem

theorem exists_part (alike : List.Forall₂ (RecordPart.TakenBy parts) some_parts fields)
    {key : String} {take : Json → α → Decoded α} (found : fields.lookup key = some take) :
    ∃ part ∈ some_parts, part.key = key := by
  induction alike with
  | nil => cases found
  | @cons first field some_parts fields taken _ ih =>
    rw [List.lookup_cons] at found
    by_cases own : key = field.1
    · exact ⟨first, List.mem_cons_self, (own.trans taken.key).symm⟩
    · rw [beq_false_of_ne own] at found
      obtain ⟨part, mem, same⟩ := ih found
      exact ⟨part, List.mem_cons_of_mem _ mem, same⟩

end Fields

variable (follows : shape.Follows parts)
include follows

theorem known (mem : part ∈ parts) :
    ∃ take, shape.fields.lookup part.key = some take ∧ part.TakenBy parts (part.key, take) :=
  lookup_eq_some follows.fields follows.distinct mem

theorem ne_of_unknown {key : String} (unknown : shape.fields.lookup key = none)
    (mem : part ∈ parts) : part.key ≠ key := by
  rintro rfl
  obtain ⟨take, found, -⟩ := follows.known mem
  rw [unknown] at found
  cases found

theorem part_of_known {key : String} {take : Json → α → Decoded α}
    (found : shape.fields.lookup key = some take) :
    ∃ part ∈ parts, part.key = key ∧ part.TakenBy parts (key, take) := by
  obtain ⟨part, mem, rfl⟩ := exists_part follows.fields found
  obtain ⟨take', found', taken⟩ := follows.known mem
  obtain rfl : take = take' := Option.some_inj.mp (found.symm.trans found')
  exact ⟨part, mem, rfl, taken⟩

theorem eq_of_key {other : RecordPart α} (mem : part ∈ parts) (mem' : other ∈ parts)
    (same : part.key = other.key) : part = other :=
  List.inj_on_of_nodup_map follows.distinct mem mem' same

end Shape.Follows

namespace Shape

theorem takeMembers_cons_eq_ok_iff {key : String} {value : Json} {members : List (String × Json)}
    {seen : List String} {built done : α} :
    shape.takeMembers seen ((key, value) :: members) built = .ok done ↔
      (shape.fields.lookup key = none ∧ shape.takeMembers seen members built = .ok done) ∨
      ∃ take next, shape.fields.lookup key = some take ∧ key ∉ seen ∧
        take value built = .ok next ∧ shape.takeMembers (key :: seen) members next = .ok done := by
  rw [takeMembers]
  cases shape.fields.lookup key with
  | none => simp
  | some take =>
    by_cases mem : key ∈ seen
    · simp [mem]
    · simp [mem, bind_eq_ok_iff]

theorem takeMembers_cons_eq_error_iff {key : String} {value : Json}
    {members : List (String × Json)} {seen : List String} {built : α} {fault : DecodeFault} :
    shape.takeMembers seen ((key, value) :: members) built = .error fault ↔
      (shape.fields.lookup key = none ∧ shape.takeMembers seen members built = .error fault) ∨
      ∃ take, shape.fields.lookup key = some take ∧
        (key ∈ seen ∧ fault = .duplicateField key ∨
          key ∉ seen ∧ (take value built = .error fault ∨ ∃ next, take value built = .ok next ∧
            shape.takeMembers (key :: seen) members next = .error fault)) := by
  rw [takeMembers]
  cases shape.fields.lookup key with
  | none => simp
  | some take =>
    by_cases mem : key ∈ seen
    · simp [mem, eq_comm]
    · simp [mem, bind_eq_error_iff]

end Shape

/-! ### Repeated keys -/

section Cons
variable {key : String} {value : Json} {members : List (String × Json)}

theorem RecordPart.givenIn_cons_iff :
    part.GivenIn ((key, value) :: members) ↔ part.key = key ∨ part.GivenIn members := by
  simp [GivenIn]

theorem RecordPart.RepeatedIn.cons {repeated : String} (h : part.RepeatedIn members repeated) :
    part.RepeatedIn ((key, value) :: members) repeated := by
  cases h with
  | here twice => exact .here (twice.duplicate_cons _)
  | inside given repeated => exact .inside (List.mem_cons_of_mem _ given) repeated

/-- A key is repeated by the first member and a later one, inside of the first member, or behind
it. -/
theorem RecordPart.RepeatedIn.of_cons {repeated : String}
    (h : part.RepeatedIn ((key, value) :: members) repeated) :
    (part.key = key ∧ (part.GivenIn members ∨ part.format.Repeats repeated value)) ∨
      part.RepeatedIn members repeated := by
  cases h with
  | here twice =>
    rcases List.duplicate_cons_iff.mp twice with ⟨same, again⟩ | twice
    · exact .inl ⟨same.symm, .inl again⟩
    · exact .inr (.here twice)
  | inside given repeated =>
    rcases List.mem_cons.mp given with first | given
    · cases first
      exact .inl ⟨rfl, .inr repeated⟩
    · exact .inr (.inside given repeated)

end Cons

/-- **Where an object is taken over**, none of its keys is repeated, nor was it seen before. -/
theorem Shape.Follows.clean_of_takeMembers (follows : shape.Follows parts) :
    ∀ {members : List (String × Json)} {seen : List String} {built done : α},
      shape.takeMembers seen members built = .ok done → ∀ part ∈ parts,
        (part.key ∈ seen → ¬ part.GivenIn members) ∧ ∀ key, ¬ part.RepeatedIn members key
  | [], _, _, _, _, part, _ => by
    refine ⟨fun _ => by simp [RecordPart.GivenIn], fun key repeated => ?_⟩
    cases repeated with
    | here twice => exact twice.elim_nil
    | inside given _ => cases given
  | (key, value) :: members, seen, built, done, taken, part, mem => by
    rcases Shape.takeMembers_cons_eq_ok_iff.mp taken with
      ⟨unknown, taken⟩ | ⟨take, next, found, unseen, taken_first, taken⟩
    · have ne : part.key ≠ key := follows.ne_of_unknown unknown mem
      obtain ⟨fresh, clean⟩ := follows.clean_of_takeMembers taken part mem
      refine ⟨fun seen given => ?_, fun repeated h => ?_⟩
      · exact fresh seen ((RecordPart.givenIn_cons_iff.mp given).resolve_left ne)
      · exact clean repeated (h.of_cons.resolve_left fun first => ne first.1)
    · obtain ⟨fresh, clean⟩ := follows.clean_of_takeMembers taken part mem
      refine ⟨fun seen given => ?_, fun repeated h => ?_⟩
      · have ne : part.key ≠ key := fun e => unseen (e ▸ seen)
        have again := (RecordPart.givenIn_cons_iff.mp given).resolve_left ne
        exact fresh (List.mem_cons_of_mem _ seen) again
      · rcases h.of_cons with ⟨rfl, again | inside⟩ | h
        · exact fresh List.mem_cons_self again
        · obtain ⟨other, mem', same, takes⟩ := follows.part_of_known found
          obtain rfl := follows.eq_of_key mem' mem same
          exact takes.clean taken_first repeated inside
        · exact clean repeated h

/-- **Where well-typed members are refused**, a key is repeated or was seen before. -/
theorem Shape.Follows.fault_of_takeMembers (follows : shape.Follows parts) {fault : DecodeFault} :
    ∀ {members : List (String × Json)} {seen : List String} {built : α},
      (∀ part ∈ parts, part.TypedIn members) → shape.takeMembers seen members built = .error fault →
        ∃ part ∈ parts,
          (part.key ∈ seen ∧ part.GivenIn members ∧ fault = .duplicateField part.key) ∨
            ∃ key, part.RepeatedIn members key ∧ fault = .duplicateField key
  | [], _, _, _, failed => by cases failed
  | (key, value) :: members, seen, built, typed, failed => by
    have typed_rest : ∀ part ∈ parts, part.TypedIn members := fun part mem value given =>
      typed part mem value (List.mem_cons_of_mem _ given)
    rcases Shape.takeMembers_cons_eq_error_iff.mp failed with
      ⟨-, failed_rest⟩ | ⟨take, found, ⟨seen_key, rfl⟩ | ⟨-, failed_first | ⟨next, -, failed_rest⟩⟩⟩
    · obtain ⟨part, mem, ⟨seen_part, given, rfl⟩ | ⟨repeated, h, rfl⟩⟩ :=
        follows.fault_of_takeMembers typed_rest failed_rest
      · exact ⟨part, mem, .inl ⟨seen_part, RecordPart.givenIn_cons_iff.mpr (.inr given), rfl⟩⟩
      · exact ⟨part, mem, .inr ⟨repeated, h.cons, rfl⟩⟩
    · obtain ⟨part, mem, rfl, -⟩ := follows.part_of_known found
      exact ⟨part, mem, .inl ⟨seen_key, RecordPart.givenIn_cons_iff.mpr (.inl rfl), rfl⟩⟩
    · obtain ⟨part, mem, rfl, takes⟩ := follows.part_of_known found
      have given : (part.key, value) ∈ (part.key, value) :: members := List.mem_cons_self
      obtain ⟨repeated, inside, rfl⟩ := takes.fault (typed part mem value given) failed_first
      exact ⟨part, mem, .inr ⟨repeated, .inside given inside, rfl⟩⟩
    · obtain ⟨part, mem, ⟨seen_part, given, rfl⟩ | ⟨repeated, h, rfl⟩⟩ :=
        follows.fault_of_takeMembers typed_rest failed_rest
      · rcases List.mem_cons.mp seen_part with rfl | seen_part
        · exact ⟨part, mem, .inr ⟨_, .here (List.Mem.duplicate_cons_self given), rfl⟩⟩
        · exact ⟨part, mem, .inl ⟨seen_part, RecordPart.givenIn_cons_iff.mpr (.inr given), rfl⟩⟩
      · exact ⟨part, mem, .inr ⟨repeated, h.cons, rfl⟩⟩

/-! ### What is taken over -/

/-- **Where well-typed members are taken over**, each part is what they give for it, or else what it
was before. -/
theorem Shape.Follows.reads_of_takeMembers (follows : shape.Follows parts) :
    ∀ {members : List (String × Json)} {seen : List String} {built done : α},
      (∀ part ∈ parts, part.TypedIn members) → shape.takeMembers seen members built = .ok done →
        ∀ part ∈ parts,
          (∀ value, (part.key, value) ∈ members →
            ∀ b, part.format.Reads value b ↔ b = part.get done) ∧
          (¬ part.GivenIn members → part.get done = part.get built)
  | [], _, built, done, _, taken, part, _ => by
    cases taken
    exact ⟨nofun, fun _ => rfl⟩
  | (key, value) :: members, seen, built, done, typed, taken, part, mem => by
    have typed_rest : ∀ part ∈ parts, part.TypedIn members := fun part mem value given =>
      typed part mem value (List.mem_cons_of_mem _ given)
    rcases Shape.takeMembers_cons_eq_ok_iff.mp taken with
      ⟨unknown, taken_rest⟩ | ⟨take, next, found, -, taken_first, taken_rest⟩
    · have ne : part.key ≠ key := follows.ne_of_unknown unknown mem
      obtain ⟨given, missing⟩ := follows.reads_of_takeMembers typed_rest taken_rest part mem
      refine ⟨fun value' mem' => ?_, fun absent => ?_⟩
      · exact given value' ((List.mem_cons.mp mem').resolve_left fun e => ne (congrArg (·.1) e))
      · exact missing fun there => absent (RecordPart.givenIn_cons_iff.mpr (.inr there))
    · obtain ⟨given, missing⟩ := follows.reads_of_takeMembers typed_rest taken_rest part mem
      obtain ⟨own, own_mem, same, takes⟩ := follows.part_of_known found
      refine ⟨fun value' mem' => ?_, fun absent => ?_⟩
      · rcases List.mem_cons.mp mem' with first | mem'
        · obtain ⟨rfl, rfl⟩ := Prod.mk.inj first
          obtain rfl := follows.eq_of_key own_mem mem same
          -- the key does not come again, so the rest leaves the part as it is
          have fresh := (follows.clean_of_takeMembers taken_rest own mem).1 List.mem_cons_self
          rw [missing fresh]
          exact takes.reads (typed own mem value' List.mem_cons_self) taken_first
        · exact given value' mem'
      · have ne : part.key ≠ own.key := fun e =>
          absent (RecordPart.givenIn_cons_iff.mpr (.inl (e.trans same)))
        rw [missing fun there => absent (RecordPart.givenIn_cons_iff.mpr (.inr there))]
        exact takes.frame taken_first part mem ne

theorem takeMembers_of_overlay {start done : α} {members : List (String × Json)}
    (decoded : shape.overlay .read start (.object members) = .ok done) :
    shape.takeMembers [] members start = .ok done := by
  obtain ⟨_, whole, rfl⟩ := map_eq_ok_iff.mp decoded
  obtain ⟨built, taken, ⟨⟩⟩ := bind_eq_ok_iff.mp whole
  exact taken

theorem takeMembers_of_overlay_error {start : α} {members : List (String × Json)}
    {fault : DecodeFault}
    (failed : shape.overlay .read start (.object members) = .error fault) :
    shape.takeMembers [] members start = .error fault := by
  rcases bind_eq_error_iff.mp (map_eq_error_iff.mp failed) with failed | ⟨built, -, ⟨⟩⟩
  exact failed

/-- **An object overlays the defaults** wherever its shape follows its parts. -/
theorem Shape.Follows.decodes (follows : shape.Follows parts) (start : α) :
    Decodes (shape.overlay .read start) (Format.object parts (some start)) where
  clean := by
    rintro _ done decoded key ⟨members, rfl, part, mem, repeated⟩
    exact (follows.clean_of_takeMembers (takeMembers_of_overlay decoded) part mem).2 key repeated
  fault := by
    rintro _ fault ⟨members, rfl, typed⟩ failed
    obtain ⟨part, mem, ⟨seen, -⟩ | ⟨key, repeated, rfl⟩⟩ := follows.fault_of_takeMembers
      (fun part mem => (typed part mem).1) (takeMembers_of_overlay_error failed)
    · cases seen
    · exact ⟨key, ⟨members, rfl, part, mem, repeated⟩, rfl⟩
  reads := by
    rintro _ done ⟨members, rfl, typed⟩ decoded record
    have read := follows.reads_of_takeMembers (fun part mem => (typed part mem).1)
      (takeMembers_of_overlay decoded)
    constructor
    · rintro ⟨_, ⟨⟩, readIn⟩
      refine follows.ext _ _ fun part mem => ?_
      by_cases there : part.GivenIn members
      · obtain ⟨⟨_, value⟩, given, rfl⟩ := List.mem_map.mp there
        exact ((read part mem).1 value given _).mp ((readIn part mem).given value given)
      · obtain ⟨_, ⟨⟩, same⟩ := (readIn part mem).missing there
        rw [same, (read part mem).2 there]
    · rintro rfl
      refine ⟨members, rfl, fun part mem => ⟨fun value given => ?_, fun absent => ?_⟩⟩
      · exact ((read part mem).1 value given _).mpr rfl
      · exact ⟨start, rfl, (read part mem).2 absent⟩

end Members

end BindingPlan.Document
