import BindingPlan.Proofs.Document.Expressible
import BindingPlan.Proofs.Json.ReadBack

/-! # Programs written and read back

An expressible program is decoded from its own document, and so the programs that some document
describes are exactly the expressible ones (`Program.expressible_iff`). What is written for such a
program is a normal form: reading it and writing it again changes nothing (`Program.decode_encode`).

Annotations nest, and their decoder is bounded by a depth; any bound above the depth of the document
will do. -/

namespace BindingPlan

open Json (IsPlain ArePlain HavePlain)

/-! ### What is written is plain -/

theorem Json.arePlain_map {α : Type} {encode : α → Json} {values : List α}
    (plain : ∀ a ∈ values, (encode a).IsPlain) : ArePlain (values.map encode) := by
  simpa [Json.arePlain_iff] using plain

theorem Json.isPlain_ofOption {α : Type} {encode : α → Json} {given : Option α}
    (plain : ∀ a ∈ given, (encode a).IsPlain) : (Json.ofOption encode given).IsPlain := by
  cases given with
  | none => trivial
  | some a => exact plain a rfl

mutual

theorem ArgumentValue.isPlain_toJson : ∀ x : ArgumentValue, x.toJson.IsPlain
  | .string _ => ⟨trivial, trivial⟩
  | .bool _ => ⟨trivial, trivial⟩
  | .int value => by
    have low := Int64.le_toInt value
    have high := Int64.toInt_lt value
    exact ⟨⟨low, by omega⟩, trivial⟩
  | .float _ => ⟨trivial, trivial⟩
  | .char _ => ⟨trivial, trivial⟩
  | .type _ => ⟨trivial, trivial⟩
  | .enum _ => ⟨⟨trivial, trivial, trivial⟩, trivial⟩
  | .nested usage => ⟨AnnotationUse.isPlain_toJson usage, trivial⟩
  | .array items => ⟨ArgumentValue.arePlain_toJsons items, trivial⟩

theorem ArgumentValue.arePlain_toJsons : ∀ values : List ArgumentValue,
    ArePlain (ArgumentValue.toJsons values)
  | [] => trivial
  | value :: rest => ⟨ArgumentValue.isPlain_toJson value, ArgumentValue.arePlain_toJsons rest⟩

theorem AnnotationUse.isPlain_toJson : ∀ usage : AnnotationUse, usage.toJson.IsPlain
  | ⟨_, arguments, []⟩ => ⟨trivial, Argument.arePlain_toJsons arguments, trivial⟩
  | ⟨_, arguments, default :: defaults⟩ =>
    ⟨trivial, Argument.arePlain_toJsons arguments,
      Argument.arePlain_toJsons (default :: defaults), trivial⟩

theorem Argument.arePlain_toJsons : ∀ arguments : List Argument,
    ArePlain (Argument.toJsons arguments)
  | [] => trivial
  | argument :: rest => ⟨Argument.isPlain_toJson argument, Argument.arePlain_toJsons rest⟩

theorem Argument.isPlain_toJson : ∀ argument : Argument, argument.toJson.IsPlain
  | ⟨_, value⟩ => ⟨trivial, ArgumentValue.isPlain_toJson value, trivial⟩

end

theorem isPlain_annotationsToJson (usages : List AnnotationUse) :
    (annotationsToJson usages).IsPlain :=
  Json.arePlain_map fun usage _ => usage.isPlain_toJson

theorem Location.isPlain_toJson (location : Location) : location.toJson.IsPlain :=
  ⟨trivial, trivial, trivial⟩

theorem Parameter.isPlain_toJson (parameter : Parameter) : parameter.toJson.IsPlain :=
  ⟨trivial, trivial, isPlain_annotationsToJson parameter.annotations, trivial⟩

theorem Declaration.isPlain_toJson (declaration : Declaration) : declaration.toJson.IsPlain := by
  have file : ∀ location : Option Location, (Json.ofOption Location.toJson location).IsPlain :=
    fun _ => Json.isPlain_ofOption fun location _ => location.isPlain_toJson
  cases declaration with
  | type d =>
    exact ⟨trivial, trivial, trivial, trivial, Json.arePlain_map fun _ _ => trivial,
      isPlain_annotationsToJson d.annotations, trivial, file d.location, trivial⟩
  | function d =>
    exact ⟨trivial, trivial, Json.arePlain_map fun parameter _ => parameter.isPlain_toJson,
      Json.isPlain_ofOption fun _ _ => trivial,
      Json.isPlain_ofOption fun _ _ => ⟨trivial, trivial, trivial⟩,
      isPlain_annotationsToJson d.annotations, trivial, file d.location, trivial⟩
  | misc d =>
    exact ⟨trivial, trivial, trivial, isPlain_annotationsToJson d.annotations, file d.location,
      trivial⟩

/-- No document has an unreadable part or an integer of more than sixty-four bits. -/
theorem Program.isPlain_toJson (program : Program) : program.toJson.IsPlain :=
  ⟨Json.arePlain_map fun declaration _ => declaration.isPlain_toJson,
    Json.arePlain_map fun entry _ => ⟨trivial, isPlain_annotationsToJson entry.annotations, trivial⟩,
    trivial⟩

namespace Document

variable {route : Route}

/-! ### Names and values -/

theorem className_toJson {name : ClassName} (h : name.Expressible) :
    className name.toJson = .ok name := by
  simp only [className, ClassName.toJson, string, bind, Except.bind]
  exact mapError_eq_ok_iff.mpr h

theorem typeRef_toJson {type : TypeRef} (h : type.IsNamed) : typeRef type.toJson = .ok type := by
  simp only [typeRef, TypeRef.toJson, string, bind, Except.bind]
  exact mapError_eq_ok_iff.mpr (TypeRef.ofText?_text_of_isNamed h)

theorem int_toJson (value : Int64) : int (.integer value.toInt) = .ok value := by
  have low : Int64.minValue.toInt ≤ value.toInt := Int64.le_toInt value
  have high : value.toInt ≤ Int64.maxValue.toInt := Int.le_of_lt_add_one (Int64.toInt_lt value)
  rw [int, if_pos ⟨low, high⟩, Int64.ofInt_toInt]

theorem char_toJson (c : Char) : char (.string (String.ofList [c])) = .ok c := by
  simp only [char, String.toList_ofList]

theorem enumConstant_toJson {constant : EnumConstant} (h : constant.type.Expressible) :
    enumConstant route
      (.object [("type", constant.type.toJson), ("entry", .string constant.name)]) =
        .ok constant := by
  have taken : enumConstantShape.take route ⟨none, none⟩
      (.object [("type", constant.type.toJson), ("entry", .string constant.name)]) =
        .ok (⟨some constant.type, some constant.name⟩, .missingField) :=
    Shape.take_object (by decide) List.prefix_rfl <|
      Shape.takeItems_cons (className_toJson h) <|
      Shape.takeItems_cons rfl <|
      Shape.takeItems_nil _ _
  rw [enumConstant, taken]
  rfl

/-! ### Annotations -/

theorem annotationOf_toJson {decode : Json → Decoded Argument} {usage : AnnotationUse}
    (type : usage.type.Expressible)
    (arguments : (Argument.toJsons usage.arguments).mapM decode = .ok usage.arguments)
    (defaults : (Argument.toJsons usage.defaults).mapM decode = .ok usage.defaults) :
    annotationOf route decode usage.toJson = .ok usage := by
  obtain ⟨type', arguments', defaults'⟩ := usage
  have distinct : ((annotationShape decode).fields.map (·.1)).Nodup :=
    show ["type", "arguments", "defaults"].Nodup by decide
  have taken : (annotationShape decode).take route ⟨none, [], []⟩
      (AnnotationUse.toJson ⟨type', arguments', defaults'⟩) =
        .ok (⟨some type', arguments', defaults'⟩, .missingField) := by
    cases defaults' with
    | nil =>
      exact Shape.take_object distinct ⟨["defaults"], rfl⟩ <|
        Shape.takeItems_cons (className_toJson type) <|
        Shape.takeItems_cons arguments <|
        Shape.takeItems_nil _ _
    | cons default rest =>
      exact Shape.take_object distinct List.prefix_rfl <|
        Shape.takeItems_cons (className_toJson type) <|
        Shape.takeItems_cons arguments <|
        Shape.takeItems_cons defaults <|
        Shape.takeItems_nil _ _
  rw [annotationOf, taken]
  rfl

theorem argumentOf_toJson {decode : Json → Decoded ArgumentValue} {argument : Argument}
    (value : decode argument.value.toJson = .ok argument.value) :
    argumentOf route decode argument.toJson = .ok argument := by
  obtain ⟨name, x⟩ := argument
  have distinct : ((argumentShape decode).fields.map (·.1)).Nodup :=
    show ["name", "value"].Nodup by decide
  have taken : (argumentShape decode).take route ⟨none, none⟩ (Argument.toJson ⟨name, x⟩) =
      .ok (⟨some name, some x⟩, .missingField) :=
    Shape.take_object distinct List.prefix_rfl <|
      Shape.takeItems_cons rfl <|
      Shape.takeItems_cons value <|
      Shape.takeItems_nil _ _
  rw [argumentOf, taken]
  rfl

/-- An object with one known key is the variant of that key, whichever way it came. -/
theorem variant_single {α : Type} {known : List String} {payload : String → Json → Decoded α}
    {key : String} (mem : key ∈ known) (inner : Json) :
    variant route known payload (.object [(key, inner)]) = payload key inner := by
  cases route with
  | read =>
    simp only [variant, knownVariant, if_pos mem]
    cases payload key inner <;> rfl
  | held =>
    simp only [variant, knownVariant, if_pos mem]
    rfl

theorem valueWithin_single {depth : Nat} {inner : Json} {x : ArgumentValue} (key : String)
    (mem : key ∈ valueKeys)
    (read : payload route (valueWithin route depth) key inner = .ok x) :
    valueWithin route (depth + 1) (.object [(key, inner)]) = .ok x := by
  rw [valueWithin, variant_single mem, read]

mutual

theorem valueWithin_toJson : ∀ {x : ArgumentValue}, x.Expressible → ∀ {depth : Nat},
    x.toJson.depth < depth → valueWithin route depth x.toJson = .ok x
  | .string _, _, _ + 1, _ => valueWithin_single "string" (by decide) rfl
  | .bool _, _, _ + 1, _ => valueWithin_single "bool" (by decide) rfl
  | .int value, _, _ + 1, _ =>
    valueWithin_single "int" (by decide)
      (congrArg (Except.map ArgumentValue.int) (int_toJson value))
  | .float _, _, _ + 1, _ => valueWithin_single "float" (by decide) rfl
  | .char c, _, _ + 1, _ =>
    valueWithin_single "char" (by decide)
      (congrArg (Except.map ArgumentValue.char) (char_toJson c))
  | .type _, expressible, _ + 1, _ =>
    valueWithin_single "type" (by decide)
      (congrArg (Except.map ArgumentValue.type) (typeRef_toJson expressible))
  | .enum constant, expressible, _ + 1, _ => by
    have type : constant.type.Expressible := expressible
    refine valueWithin_single "enum" (by decide) ?_
    simp only [payload, enumConstant_toJson type]
    rfl
  | .nested usage, expressible, depth + 1, enough => by
    have enough : usage.toJson.depth < depth := by
      simp only [ArgumentValue.toJson, Json.depth, Json.depthOfMembers] at enough
      omega
    exact valueWithin_single "annotation" (by decide)
      (congrArg (Except.map ArgumentValue.nested) (annotationWithin_toJson expressible enough))
  | .array items, expressible, depth + 1, enough => by
    have enough : Json.depthOfItems (ArgumentValue.toJsons items) < depth := by
      simp only [ArgumentValue.toJson, Json.depth, Json.depthOfMembers] at enough
      omega
    exact valueWithin_single "array" (by decide)
      (congrArg (Except.map ArgumentValue.array) (valuesWithin_toJsons expressible enough))

theorem valuesWithin_toJsons : ∀ {values : List ArgumentValue},
    ArgumentValue.AllExpressible values → ∀ {depth : Nat},
      Json.depthOfItems (ArgumentValue.toJsons values) < depth →
        (ArgumentValue.toJsons values).mapM (valueWithin route depth) = .ok values
  | [], _, _, _ => rfl
  | value :: rest, expressible, depth, enough => by
    simp only [ArgumentValue.toJsons, Json.depthOfItems] at enough
    have first : valueWithin route depth value.toJson = .ok value :=
      valueWithin_toJson expressible.1 (by omega)
    have others : (ArgumentValue.toJsons rest).mapM (valueWithin route depth) = .ok rest :=
      valuesWithin_toJsons expressible.2 (by omega)
    rw [ArgumentValue.toJsons, List.mapM_cons, first, others]
    rfl

theorem annotationWithin_toJson : ∀ {usage : AnnotationUse}, usage.Expressible → ∀ {depth : Nat},
    usage.toJson.depth < depth →
      annotationOf route (argumentOf route (valueWithin route depth)) usage.toJson = .ok usage
  | ⟨type, arguments, []⟩, expressible, depth, enough => by
    simp only [AnnotationUse.toJson, Json.depth, Json.depthOfMembers] at enough
    exact annotationOf_toJson expressible.1
      (argumentsWithin_toJsons expressible.2.1 (by omega)) rfl
  | ⟨type, arguments, default :: defaults⟩, expressible, depth, enough => by
    simp only [AnnotationUse.toJson, List.isEmpty_cons, Bool.false_eq_true, if_false, Json.depth,
      Json.depthOfMembers] at enough
    exact annotationOf_toJson expressible.1
      (argumentsWithin_toJsons expressible.2.1 (by omega))
      (argumentsWithin_toJsons expressible.2.2 (by omega))

theorem argumentsWithin_toJsons : ∀ {arguments : List Argument},
    Argument.AllExpressible arguments → ∀ {depth : Nat},
      Json.depthOfItems (Argument.toJsons arguments) < depth →
        (Argument.toJsons arguments).mapM (argumentOf route (valueWithin route depth)) =
          .ok arguments
  | [], _, _, _ => rfl
  | ⟨name, value⟩ :: rest, expressible, depth, enough => by
    simp only [Argument.toJsons, Argument.toJson, Json.depthOfItems, Json.depth,
      Json.depthOfMembers] at enough
    have first : valueWithin route depth value.toJson = .ok value :=
      valueWithin_toJson expressible.1 (by omega)
    have others : (Argument.toJsons rest).mapM (argumentOf route (valueWithin route depth)) =
        .ok rest := argumentsWithin_toJsons expressible.2 (by omega)
    rw [Argument.toJsons, List.mapM_cons, argumentOf_toJson first, others]
    rfl

end

/-- **An expressible annotation is decoded from its document**, however deeply it nests. -/
theorem annotationUse_toJson {usage : AnnotationUse} (h : usage.Expressible) :
    annotationUse route usage.toJson = .ok usage :=
  annotationWithin_toJson h (Nat.lt_succ_self _)

theorem annotations_toJson {usages : List AnnotationUse} (h : ∀ usage ∈ usages, usage.Expressible) :
    list (annotationUse route) (annotationsToJson usages) = .ok usages :=
  list_map fun usage mem => annotationUse_toJson (h usage mem)

/-! ### Declarations -/

theorem visibility_toJson (v : Visibility) : visibility v.toJson = .ok v := by
  cases v <;> rfl

theorem classForm_toJson (form : ClassForm) : classForm form.toJson = .ok form := by
  cases form <;> rfl

theorem location_toJson (l : Location) : location l.toJson = .ok l := by
  have taken : locationShape.take .held ⟨none, ""⟩ l.toJson =
      .ok (⟨some l.path, l.package⟩, .missingField) :=
    Shape.take_object (by decide) List.prefix_rfl <|
      Shape.takeItems_cons rfl <|
      Shape.takeItems_cons rfl <|
      Shape.takeItems_nil _ _
  rw [location, taken]
  rfl

theorem owner_toJson {o : Owner} (h : o.name.Expressible) : owner o.toJson = .ok o := by
  have taken : ownerShape.take .held ⟨none, none⟩ o.toJson =
      .ok (⟨some o.name, some o.form⟩, .missingField) :=
    Shape.take_object (by decide) List.prefix_rfl <|
      Shape.takeItems_cons (className_toJson h) <|
      Shape.takeItems_cons (classForm_toJson o.form) <|
      Shape.takeItems_nil _ _
  rw [owner, taken]
  rfl

theorem parameter_toJson {p : Parameter} (h : p.Expressible) : parameter p.toJson = .ok p := by
  have taken : parameterShape.take .held ⟨none, none, []⟩ p.toJson =
      .ok (⟨some p.name, some p.type, p.annotations⟩, .missingField) :=
    Shape.take_object (by decide) List.prefix_rfl <|
      Shape.takeItems_cons rfl <|
      Shape.takeItems_cons (typeRef_toJson h.type) <|
      Shape.takeItems_cons (annotations_toJson h.annotations) <|
      Shape.takeItems_nil _ _
  rw [parameter, taken]
  rfl

theorem optional_location (l : Option Location) :
    optional location (Json.ofOption Location.toJson l) = .ok l :=
  optional_ofOption Location.toJson (fun _ => nofun) fun l _ => location_toJson l

theorem splitSort_of_not_mem {found : Option DeclarationSort} : ∀ {members : List (String × Json)},
    sortKey ∉ members.map (·.1) → splitSort found members = .ok (found, members)
  | [], _ => rfl
  | (key, value) :: rest, absent => by
    rw [List.map_cons, List.mem_cons, not_or] at absent
    rw [splitSort, if_neg (Ne.symm absent.1), splitSort_of_not_mem absent.2]
    rfl

/-- The sort comes first in a document, and what is held is the rest. -/
theorem tagged_object {word : String} {members : List (String × Json)} (sort : DeclarationSort)
    (known : declarationSort (.string word) = .ok sort) (absent : sortKey ∉ members.map (·.1)) :
    tagged (.object ((sortKey, .string word) :: members)) = .ok (sort, .object members) := by
  simp only [tagged, splitSort, Option.isSome_none, known]
  simp only [if_pos, Bool.false_eq_true, if_false, bind, Except.bind, splitSort_of_not_mem absent]

theorem classDeclaration_toJson {d : ClassDeclaration} (h : d.Expressible) :
    declaration (Declaration.type d).toJson = .ok (.type d) := by
  have taken : classShape.take .held ⟨none, .plainClass, false, [], [], .publicAccess, none⟩
      (.object [("name", d.name.toJson), ("class_kind", d.form.toJson),
        ("is_abstract", .bool d.isAbstract),
        ("supertypes", .array (d.supertypes.map TypeRef.toJson)),
        ("annotations", annotationsToJson d.annotations), ("visibility", d.visibility.toJson),
        ("file", Json.ofOption Location.toJson d.location)]) =
      .ok (⟨some d.name, d.form, d.isAbstract, d.supertypes, d.annotations, d.visibility,
        d.location⟩, .missingField) :=
    Shape.take_object (by decide) List.prefix_rfl <|
      Shape.takeItems_cons (className_toJson h.name) <|
      Shape.takeItems_cons (classForm_toJson d.form) <|
      Shape.takeItems_cons rfl <|
      Shape.takeItems_cons (list_map fun type mem => typeRef_toJson (h.supertypes type mem)) <|
      Shape.takeItems_cons (annotations_toJson h.annotations) <|
      Shape.takeItems_cons (visibility_toJson d.visibility) <|
      Shape.takeItems_cons (optional_location d.location) <|
      Shape.takeItems_nil _ _
  rw [declaration, if_pos (Declaration.type d).isPlain_toJson.isReadable, Declaration.toJson,
    tagged_object .type rfl (by simp [sortKey])]
  simp only [bind, Except.bind]
  rw [classDeclaration, taken]
  rfl

theorem functionDeclaration_toJson {d : FunctionDeclaration} (h : d.Expressible) :
    declaration (Declaration.function d).toJson = .ok (.function d) := by
  have taken : functionShape.take .held ⟨none, [], none, none, [], .publicAccess, none⟩
      (.object [("name", .string d.name),
        ("parameters", .array (d.parameters.map Parameter.toJson)),
        ("return_type", Json.ofOption TypeRef.toJson d.returnType),
        ("enclosing", Json.ofOption Owner.toJson d.owner),
        ("annotations", annotationsToJson d.annotations), ("visibility", d.visibility.toJson),
        ("file", Json.ofOption Location.toJson d.location)]) =
      .ok (⟨some d.name, d.parameters, d.returnType, d.owner, d.annotations, d.visibility,
        d.location⟩, .missingField) :=
    Shape.take_object (by decide) List.prefix_rfl <|
      Shape.takeItems_cons rfl <|
      Shape.takeItems_cons (list_map fun p mem => parameter_toJson (h.parameters p mem)) <|
      Shape.takeItems_cons (optional_ofOption TypeRef.toJson (fun _ => nofun)
        fun type mem => typeRef_toJson (h.returnType type mem)) <|
      Shape.takeItems_cons (optional_ofOption Owner.toJson (fun _ => nofun)
        fun o mem => owner_toJson (h.owner o mem)) <|
      Shape.takeItems_cons (annotations_toJson h.annotations) <|
      Shape.takeItems_cons (visibility_toJson d.visibility) <|
      Shape.takeItems_cons (optional_location d.location) <|
      Shape.takeItems_nil _ _
  rw [declaration, if_pos (Declaration.function d).isPlain_toJson.isReadable, Declaration.toJson,
    tagged_object .function rfl (by simp [sortKey])]
  simp only [bind, Except.bind]
  rw [functionDeclaration, taken]
  rfl

theorem miscDeclaration_toJson {d : MiscDeclaration}
    (h : ∀ usage ∈ d.annotations, usage.Expressible) :
    declaration (Declaration.misc d).toJson = .ok (.misc d) := by
  have taken : miscShape.take .held ⟨none, none, [], none⟩
      (.object [("name", .string d.name), ("element", .string d.element),
        ("annotations", annotationsToJson d.annotations),
        ("file", Json.ofOption Location.toJson d.location)]) =
      .ok (⟨some d.name, some d.element, d.annotations, d.location⟩, .missingField) :=
    Shape.take_object (by decide) List.prefix_rfl <|
      Shape.takeItems_cons rfl <|
      Shape.takeItems_cons rfl <|
      Shape.takeItems_cons (annotations_toJson h) <|
      Shape.takeItems_cons (optional_location d.location) <|
      Shape.takeItems_nil _ _
  rw [declaration, if_pos (Declaration.misc d).isPlain_toJson.isReadable, Declaration.toJson,
    tagged_object .misc rfl (by simp [sortKey])]
  simp only [bind, Except.bind]
  rw [miscDeclaration, taken]
  rfl

/-- **An expressible declaration is decoded from its document.** -/
theorem declaration_toJson {d : Declaration} (h : d.Expressible) : declaration d.toJson = .ok d := by
  cases d with
  | type d => exact classDeclaration_toJson h
  | function d => exact functionDeclaration_toJson h
  | misc d => exact miscDeclaration_toJson h

/-! ### Programs -/

theorem annotationEntry_toJson {entry : AnnotationEntry} (h : entry.Expressible) :
    annotationEntry entry.toJson = .ok entry := by
  have taken : annotationEntryShape.take .read ⟨none, []⟩ entry.toJson =
      .ok (⟨some entry.name, entry.annotations⟩, .missingField) :=
    Shape.take_object (by decide) List.prefix_rfl <|
      Shape.takeItems_cons (className_toJson h.name) <|
      Shape.takeItems_cons (annotations_toJson h.annotations) <|
      Shape.takeItems_nil _ _
  rw [annotationEntry, taken]
  rfl

theorem program_toJson {p : Program} (h : p.Expressible) : program p.toJson = .ok p := by
  have taken : programShape.take .read Program.empty p.toJson = .ok (p, .missingField) :=
    Shape.take_object (by decide) List.prefix_rfl <|
      Shape.takeItems_cons (list_map fun d mem => declaration_toJson (h.declarations d mem)) <|
      Shape.takeItems_cons (list_map fun e mem => annotationEntry_toJson (h.knownEntries e mem)) <|
      Shape.takeItems_nil _ _
  rw [program, Shape.overlay, taken]
  rfl

end Document

namespace Program

/-- The expressible programs are those that some document describes. -/
theorem expressible_iff {program : Program} :
    program.Expressible ↔ ∃ value, Document.program value = .ok program :=
  ⟨fun h => ⟨program.toJson, Document.program_toJson h⟩,
    fun ⟨_, read⟩ => Document.expressible_of_program read⟩

/-- An expressible program is read back from the text of its document if its doubles are. -/
theorem ofText?_toText_of_expressible {program : Program} (h : program.Expressible)
    (back : ∀ x ∈ program.toJson.decimals, x.ReadsBack) :
    ofText? program.toJson.toText = .ok program := by
  rw [ofText?, Document.ofText, Json.read?_toText program.isPlain_toJson back]
  exact Document.mapError_eq_ok_iff.mpr (Document.program_toJson h)

/-- The program is read from the text of a document. -/
def FromText (program : Program) : Prop :=
  ∃ text, ofText? text = .ok program

/-- **Decoding undoes encoding.** A program that comes from a text is decoded from the document written
for it, and that document is a normal form: what is decoded from it is written as the same document.
The text of that document is read back as well, if each double in it is. -/
theorem decode_encode {text : String} {program : Program} (read : ofText? text = .ok program) :
    Document.ofJson Document.program program.toJson = .ok program ∧
      (Document.ofJson Document.program program.toJson).map toJson = .ok program.toJson ∧
      ((∀ x ∈ program.toJson.decimals, x.ReadsBack) →
        ofText? program.toJson.toText = .ok program ∧
          (ofText? program.toJson.toText).map (·.toJson.toText) = .ok program.toJson.toText) := by
  have expressible := expressible_of_ofText? read
  have decoded : Document.ofJson Document.program program.toJson = .ok program :=
    Document.mapError_eq_ok_iff.mpr (Document.program_toJson expressible)
  refine ⟨decoded, by rw [decoded]; rfl, fun back => ?_⟩
  have again := ofText?_toText_of_expressible expressible back
  exact ⟨again, by rw [again]; rfl⟩

/-- A property with an annotation on it, whose argument nests; each object is written as an array. -/
def nestedText : String :=
  "\x7b\"declarations\":[[\"other\",\"p\",\"property\",[[\"a.M\",[[\"x\"," ++
    "\x7b\"array\":[\x7b\"float\":1.5\x7d,\x7b\"annotation\":[\"a.N\"]\x7d]\x7d]]]]]]\x7d"

theorem decode_encode_nestedText : ∃ program, ofText? nestedText = .ok program ∧
    program.toJson.decimals.length = 1 ∧
    Document.ofJson Document.program program.toJson = .ok program ∧
    ofText? program.toJson.toText = .ok program := by
  have found : ∃ program ∈ (ofText? nestedText).toOption,
      (∀ x ∈ program.toJson.decimals, x.ReadsBack) ∧ program.toJson.decimals.length = 1 := by
    decide +kernel
  obtain ⟨program, mem, back, one⟩ := found
  have read : ofText? nestedText = .ok program := by
    cases h : ofText? nestedText with
    | error fault => simp [h, Except.toOption] at mem
    | ok other => simpa [h, Except.toOption] using mem
  obtain ⟨decoded, -, of_text⟩ := decode_encode read
  exact ⟨program, read, one, decoded, (of_text back).1⟩

end Program

end BindingPlan
