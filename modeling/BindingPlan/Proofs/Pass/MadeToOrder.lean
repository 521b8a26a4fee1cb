import BindingPlan.Proofs.Binding.Resolved
import BindingPlan.Proofs.Bucket.Partition
import BindingPlan.Proofs.Container.NameTail
import Mathlib.Data.List.Forall2

/-! # Programs made to order

Whatever marker, scope and key one asks for, some declaration is bound with them, and all these
declarations can stand in one file together (`bindings_madeToOrder`). What they expose is called
`Thing` and is in one package, so that the names of their containers differ in nothing but the key
and the tail. The only condition is that the arguments of a marker can be told apart by their names;
programs like these show that a condition on names cannot be weakened. -/

namespace BindingPlan

/-- No two arguments of a marker have the same name. -/
def ArgumentKeys.Distinct (keys : ArgumentKeys) : Prop :=
  [keys.scope, keys.target, keys.contribution, keys.key].Nodup

instance (keys : ArgumentKeys) : Decidable keys.Distinct :=
  inferInstanceAs (Decidable (List.Nodup _))

/-- What is asked of a declaration: its marker, scope and key, and the class that it stands in. An
empty key is none. -/
structure Order where
  marker : Marker
  scope : TypeRef
  key : String
  site : String

namespace Order

/-! ### The declaration -/

/-- The package of everything made to order. -/
def package : String := "com.example"

/-- The file of everything made to order. -/
def location : Location := ⟨"Things.kt", package⟩

/-- The class that an order makes available. -/
def thing (order : Order) : ClassName :=
  ⟨package, [order.site, "Thing"]⟩

/-- The marker annotation with its arguments. -/
def usage (config : Config) (order : Order) : AnnotationUse :=
  { type := config.markers.classOf order.marker
    arguments := [⟨config.arguments.scope, .type order.scope⟩,
      ⟨config.arguments.key, .string order.key⟩]
    defaults := [] }

/-- A class made to order. -/
def classDeclaration (config : Config) (order : Order) : ClassDeclaration :=
  { name := order.thing
    form := .plainClass
    isAbstract := false
    supertypes := []
    annotations := [order.usage config]
    visibility := .publicAccess
    location := some location }

/-- A function made to order. -/
def functionDeclaration (config : Config) (order : Order) : FunctionDeclaration :=
  { name := "make"
    parameters := []
    returnType := some (.ofClass order.thing)
    owner := some ⟨⟨package, [order.site]⟩, .object⟩
    annotations := [order.usage config]
    visibility := .publicAccess
    location := some location }

/-- The declaration made to order: a class, or a function that returns it. -/
def declaration (config : Config) (order : Order) : Declaration :=
  match order.marker.family with
  | .bind => .type (order.classDeclaration config)
  | .factory => .function (order.functionDeclaration config)

/-- What the marker annotation asks for. -/
def request (order : Order) : BindingRequest :=
  { marker := order.marker
    scope := some order.scope
    target := none
    contribution := .single
    key := if order.key = "" then none else some order.key }

/-- The identity of the container that the order is met in. -/
def identity (order : Order) : ContainerIdentity :=
  { package
    exposed := .ofClass order.thing
    suffix := if order.key = "" then none else some order.key
    scope := order.scope }

/-- A binding meets an order. -/
structure MetBy (config : Config) (order : Order) (b : Binding) : Prop where
  marker : b.marker = order.marker
  hasIdentity : b.HasIdentity config.naming order.identity

end Order

/-- The program of the declarations made to some orders. -/
def madeToOrder (config : Config) (orders : List Order) : Program :=
  .ofDeclarations (orders.map (Order.declaration config))

section MadeToOrder
variable {config : Config}

/-! ### Its arguments -/

namespace Order

theorem argument?_key_usage (distinct : config.arguments.Distinct) (order : Order) :
    (order.usage config).argument? config.arguments.key = some (.string order.key) := by
  simp only [ArgumentKeys.Distinct, List.nodup_cons, List.mem_cons, List.not_mem_nil, or_false,
    not_or] at distinct
  simp [AnnotationUse.argument?, usage, distinct.1.2.2]

/-- Arguments with names of their own are read back as they were written. -/
theorem ofMarker_usage (distinct : config.arguments.Distinct) (order : Order) (name : String) :
    BindingRequest.ofMarker config order.marker (order.usage config) name = .ok order.request := by
  have written := argument?_key_usage distinct order
  simp only [ArgumentKeys.Distinct, List.nodup_cons, List.mem_cons, List.not_mem_nil, or_false,
    not_or] at distinct
  obtain ⟨⟨scope_target, scope_contribution, -⟩, ⟨-, target_key⟩, contribution_key, -⟩ :=
    distinct
  have scope : BindingRequest.chosenType? (order.usage config) name config.arguments.scope =
      .ok (some order.scope) := by
    simp [BindingRequest.chosenType?, AnnotationUse.chosen?, AnnotationUse.argument?,
      AnnotationUse.default?, usage, BindingRequest.expectType, ArgumentValue.type?, Except.map]
  have target : BindingRequest.targetOf config order.marker (order.usage config) name =
      .ok none := by
    have left_out : (order.usage config).chosen? config.arguments.target = none := by
      simp [AnnotationUse.chosen?, AnnotationUse.argument?, usage, scope_target,
        Ne.symm target_key]
    unfold BindingRequest.targetOf BindingRequest.chosenType?
    rw [left_out]
    cases order.marker.family <;> rfl
  have contribution : BindingRequest.contributionOf config (order.usage config) name =
      .ok .single := by
    simp [BindingRequest.contributionOf, AnnotationUse.argument?, usage, scope_contribution,
      Ne.symm contribution_key]
  have key : BindingRequest.keyOf config (order.usage config) name =
      .ok (if order.key = "" then none else some order.key) := by
    simp [BindingRequest.keyOf, written, BindingRequest.expectString, ArgumentValue.string?, bind,
      Except.bind]
  rw [BindingRequest.ofMarker, scope, target, contribution, key]
  rfl

/-! ### Its binding -/

theorem annotations_declaration (order : Order) :
    (order.declaration config).annotations = [order.usage config] := by
  unfold declaration
  cases order.marker.family <;> rfl

theorem location_declaration (order : Order) :
    (order.declaration config).location = some location := by
  unfold declaration
  cases order.marker.family <;> rfl

theorem isMarker_usage (order : Order) : config.markers.isMarker (order.usage config) = true :=
  isMarker_iff.mpr ⟨order.marker, rfl⟩

/-- Without a key the name has no suffix, since there is no annotation besides the marker. -/
theorem suffix?_request (order : Order) (program : Program) :
    order.request.suffix? program config.types.qualifierMarkers config.markers.isMarker
      [order.usage config] = if order.key = "" then none else some order.key := by
  have search : program.qualifier? config.types.qualifierMarkers config.markers.isMarker
      [order.usage config] = none := by
    simp [Program.qualifier?, qualifierBeyond?, isMarker_usage]
  simp only [BindingRequest.suffix?, search, request]
  by_cases h : order.key = ""
  · rw [if_pos h]
    rfl
  · rw [if_neg h]

theorem ofRequest_request (order : Order) (program : Program) :
    ContainerIdentity.ofRequest config program order.request [order.usage config] location
      (.ofClass order.thing) = order.identity := by
  rw [ContainerIdentity.ofRequest, suffix?_request]
  rfl

theorem exists_ofDeclaration (order : Order) (program : Program) :
    ∃ b, Binding.ofDeclaration config program (order.declaration config) order.request = .ok b ∧
      order.MetBy config b := by
  have same : ContainerIdentity.ofRequest config program order.request [order.usage config]
      location (.ofClass order.thing) = order.identity := ofRequest_request order program
  cases family : order.marker.family with
  | bind =>
    have asked : order.request.marker.family = .bind := family
    have bound : Binding.ofClass config program (order.classDeclaration config) order.request =
        .ok (.forClass config program (order.classDeclaration config) order.request location) :=
      ofClass_eq_ok_iff.mpr ⟨location, rfl, rfl, rfl, rfl⟩
    refine ⟨.forClass config program (order.classDeclaration config) order.request location, ?_,
      rfl, ?_⟩
    · simpa only [declaration, family, Binding.ofDeclaration, asked] using bound
    · rw [← same]
      exact ⟨rfl, rfl, rfl, rfl, rfl⟩
  | factory =>
    have asked : order.request.marker.family = .factory := family
    have bound : Binding.ofFunction config program (order.functionDeclaration config)
        order.request = .ok (.forFunction config program (order.functionDeclaration config)
          order.request location (.ofClass order.thing)) :=
      ofFunction_eq_ok_iff.mpr ⟨location, _, rfl, rfl, rfl, rfl⟩
    refine ⟨.forFunction config program (order.functionDeclaration config) order.request location
      (.ofClass order.thing), ?_, rfl, ?_⟩
    · simpa only [declaration, family, Binding.ofDeclaration, asked] using bound
    · rw [← same]
      exact ⟨rfl, rfl, rfl, rfl, rfl⟩

/-- **An order is met** by the declaration made to it, in any program. -/
theorem exists_resolve? (distinct : Function.Injective config.markers.classOf)
    (arguments : config.arguments.Distinct) (order : Order) (program : Program) :
    ∃ b, Program.resolve? config program (order.declaration config) = some (.ok b) ∧
      order.MetBy config b := by
  have only : ∀ a ∈ (order.declaration config).annotations, config.markers.isMarker a = true →
      a.type = config.markers.classOf order.marker := by
    intro a ha _
    rw [annotations_declaration, List.mem_singleton] at ha
    rw [ha]
    rfl
  have found : (order.declaration config).annotations.filter
      (·.type == config.markers.classOf order.marker) = [order.usage config] := by
    rw [annotations_declaration]
    simp [usage]
  obtain ⟨b, hb, met⟩ := order.exists_ofDeclaration program
  refine ⟨b, ?_, met⟩
  rw [resolve?_of_only distinct only found, ofMarker_usage arguments]
  exact congrArg some hb

theorem containerName_identity (order : Order) (naming : Naming) (marker : Marker) :
    order.identity.containerName naming marker =
      ⟨package, ["Thing" ++ order.key ++ naming.scopeTail order.scope marker]⟩ := by
  have head : order.identity.head = "Thing" ++ order.key := by
    have stem : order.identity.exposed.stem = "Thing" := by
      simp [identity, TypeRef.ofClass, TypeRef.stem, TypeRef.stems, thing, ClassName.simpleName]
    rw [ContainerIdentity.head, stem, identity]
    by_cases h : order.key = "" <;> simp [h]
  rw [ContainerIdentity.containerName, ContainerIdentity.simpleName_eq, head]
  rfl

theorem MetBy.containerName {order : Order} {b : Binding} (met : order.MetBy config b) :
    b.containerName = ⟨package,
      ["Thing" ++ order.key ++ config.naming.scopeTail order.scope order.marker]⟩ := by
  rw [met.hasIdentity.containerName, met.marker, containerName_identity]

theorem MetBy.scope {order : Order} {b : Binding} (met : order.MetBy config b) :
    b.scope = order.scope :=
  met.hasIdentity.scope

end Order

/-! ### The program -/

theorem traversal_of_oneFile {location : Location} {declarations : List Declaration}
    (one : ∀ d ∈ declarations, d.location = some location) :
    (Program.ofDeclarations declarations).traversal = declarations := by
  refine List.mergeSort_of_pairwise (List.pairwise_of_forall_mem_list ?_)
  intro a ha b hb
  simp [Program.precedes, one a ha, one b hb]

/-- **Orders are met together**, each by a binding of its own. -/
theorem bindings_madeToOrder (distinct : Function.Injective config.markers.classOf)
    (arguments : config.arguments.Distinct) (orders : List Order) :
    List.Forall₂ (Order.MetBy config) orders
      ((madeToOrder config orders).resolution config).bindings := by
  have one : ∀ d ∈ orders.map (Order.declaration config), d.location = some Order.location := by
    intro d hd
    obtain ⟨order, -, rfl⟩ := List.mem_map.mp hd
    exact order.location_declaration
  rw [bindings_eq, madeToOrder, traversal_of_oneFile one]
  generalize Program.ofDeclarations (orders.map (Order.declaration config)) = program
  clear one
  induction orders with
  | nil => exact .nil
  | cons order rest ih =>
    obtain ⟨b, hb, met⟩ := order.exists_resolve? distinct arguments program
    rw [List.map_cons, List.filterMap_cons_some (by rw [hb]; rfl)]
    exact .cons met ih

theorem exists_of_forall₂ {α β : Type} {Related : α → β → Prop} {as : List α} {bs : List β}
    (h : List.Forall₂ Related as bs) :
    (∀ a ∈ as, ∃ b ∈ bs, Related a b) ∧ ∀ b ∈ bs, ∃ a ∈ as, Related a b := by
  induction h with
  | nil => simp
  | cons related _ ih =>
    refine ⟨?_, ?_⟩
    · rintro a (_ | ⟨_, ha⟩)
      · exact ⟨_, List.mem_cons_self, related⟩
      · obtain ⟨b, hb, related'⟩ := ih.1 a ha
        exact ⟨b, List.mem_cons_of_mem _ hb, related'⟩
    · rintro b (_ | ⟨_, hb⟩)
      · exact ⟨_, List.mem_cons_self, related⟩
      · obtain ⟨a, ha, related'⟩ := ih.2 b hb
        exact ⟨a, List.mem_cons_of_mem _ ha, related'⟩

/-- Orders whose names agree from the key on are met in one bucket. -/
theorem exists_bucket_madeToOrder (distinct : Function.Injective config.markers.classOf)
    (arguments : config.arguments.Distinct) {orders : List Order} {o o' : Order} (ho : o ∈ orders)
    (ho' : o' ∈ orders) (same : o.key ++ config.naming.scopeTail o.scope o.marker =
      o'.key ++ config.naming.scopeTail o'.scope o'.marker) :
    ∃ bucket ∈ Bucket.ofBindings ((madeToOrder config orders).resolution config).bindings,
      ∃ b ∈ bucket.bindings, ∃ b' ∈ bucket.bindings, o.MetBy config b ∧ o'.MetBy config b' := by
  have all := (exists_of_forall₂ (bindings_madeToOrder distinct arguments orders)).1
  obtain ⟨b, hb, met⟩ := all o ho
  obtain ⟨b', hb', met'⟩ := all o' ho'
  have names : b.containerName = b'.containerName := by
    rw [met.containerName, met'.containerName, String.append_assoc, String.append_assoc, same]
  obtain ⟨bucket, hbucket, mem, mem'⟩ := Bucket.exists_bucket hb hb' names
  exact ⟨bucket, hbucket, b, mem, b', mem', met, met'⟩

end MadeToOrder

end BindingPlan
