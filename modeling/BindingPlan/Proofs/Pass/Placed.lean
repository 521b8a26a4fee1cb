import BindingPlan.Proofs.Document.RoundTrip
import BindingPlan.Proofs.Name.WellParted
import BindingPlan.Proofs.Pass.MadeToOrder

/-! # Classes made to order in any place

The declarations made to orders are all called `Thing` and stand in one file. Here the class that
is made to an order has a name of its own and stands in a file of some package. It is bound in the
container that its name and that package give (`Placed.exists_boundAs`), and a program of two such
classes comes from a document if their names can be written down (`Placed.fromText_programOf`). -/

namespace BindingPlan

variable {config : Config}

/-- A class for an order, with its name and the package of its file. -/
structure Placed where
  order : Order
  name : ClassName
  package : String

namespace Placed

/-- Where the class stands. -/
def location (placed : Placed) : Location :=
  ⟨placed.name.simpleName ++ ".kt", placed.package⟩

/-- The class, with the marker annotation of the order. -/
def classDeclaration (config : Config) (placed : Placed) : ClassDeclaration :=
  { placed.order.classDeclaration config with
    name := placed.name
    location := some placed.location }

/-- The declaration of the class. -/
def declaration (config : Config) (placed : Placed) : Declaration :=
  .type (placed.classDeclaration config)

/-- The name of the container of the class. -/
def containerName (naming : Naming) (placed : Placed) : ClassName :=
  ⟨placed.package, [placed.name.simpleName ++ placed.order.key ++
    naming.scopeTail placed.order.scope placed.order.marker]⟩

/-- The program of some classes. -/
def programOf (config : Config) (classes : List Placed) : Program :=
  .ofDeclarations (classes.map (declaration config))

/-! ### Its bindings -/

/-- A binding of the class as what it is, in the container and with the member that its name gives. -/
structure BoundAs (config : Config) (placed : Placed) (b : Binding) : Prop where
  exposed : b.exposed = .ofClass placed.name
  containerName : b.containerName = placed.containerName config.naming
  memberName : b.memberName = config.naming.bindPrefix ++ placed.name.simpleName

theorem exists_ofClass (config : Config) (placed : Placed) (program : Program) : ∃ b,
    Binding.ofClass config program (placed.classDeclaration config) placed.order.request = .ok b ∧
      placed.BoundAs config b := by
  let b := Binding.forClass config program (placed.classDeclaration config) placed.order.request
    placed.location
  have exposed : b.exposed = .ofClass placed.name := rfl
  have stem : b.exposed.stem = placed.name.simpleName := by
    simp [exposed, TypeRef.ofClass, TypeRef.stem, TypeRef.stems]
  have key : (if placed.order.key = "" then none else some placed.order.key).getD "" =
      placed.order.key := by
    by_cases h : placed.order.key = "" <;> simp [h]
  have name : b.containerName = (ContainerIdentity.ofRequest config program placed.order.request
      [placed.order.usage config] placed.location b.exposed).containerName config.naming
        placed.order.marker := rfl
  refine ⟨b, ofClass_eq_ok_iff.mpr ⟨placed.location, rfl, rfl, rfl, rfl⟩, exposed, ?_, rfl⟩
  rw [name, ContainerIdentity.containerName, ContainerIdentity.simpleName_eq,
    ContainerIdentity.ofRequest, ContainerIdentity.head, Order.suffix?_request]
  simp only [stem, key]
  rfl

/-- **Each class is bound**, in the container of its name. -/
theorem exists_boundAs (distinct : Function.Injective config.markers.classOf)
    (arguments : config.arguments.Distinct) {classes : List Placed} {placed : Placed}
    (mem : placed ∈ classes) (family : placed.order.marker.family = .bind) :
    ∃ b ∈ ((programOf config classes).resolution config).bindings, placed.BoundAs config b := by
  have only : ∀ a ∈ (placed.declaration config).annotations, config.markers.isMarker a = true →
      a.type = config.markers.classOf placed.order.marker := by
    intro a ha _
    rw [List.mem_singleton.mp ha]
    rfl
  have found : (placed.declaration config).annotations.filter
      (·.type == config.markers.classOf placed.order.marker) = [placed.order.usage config] := by
    simp [declaration, classDeclaration, Declaration.annotations, Order.classDeclaration, Order.usage]
  obtain ⟨b, of_class, boundAs⟩ := placed.exists_ofClass config (programOf config classes)
  have bound : Binding.ofDeclaration config (programOf config classes) (placed.declaration config)
      placed.order.request = .ok b := by
    have asked : placed.order.request.marker.family = .bind := family
    simpa only [declaration, Binding.ofDeclaration, asked] using of_class
  have resolved : Program.resolve? config (programOf config classes) (placed.declaration config) =
      some (.ok b) := by
    rw [resolve?_of_only distinct only found, Order.ofMarker_usage arguments]
    exact congrArg some bound
  refine ⟨b, ?_, boundAs⟩
  rw [bindings_eq, List.mem_filterMap]
  exact ⟨placed.declaration config, (Program.traversal_perm _).mem_iff.mpr (List.mem_map_of_mem mem),
    by rw [resolved]; rfl⟩

theorem exists_boundAs_both (distinct : Function.Injective config.markers.classOf)
    (arguments : config.arguments.Distinct) {placed placed' : Placed}
    (family : placed.order.marker.family = .bind) (family' : placed'.order.marker.family = .bind) :
    ∃ b ∈ ((programOf config [placed, placed']).resolution config).bindings,
      ∃ b' ∈ ((programOf config [placed, placed']).resolution config).bindings,
        placed.BoundAs config b ∧ placed'.BoundAs config b' := by
  have first : placed ∈ [placed, placed'] := List.mem_cons_self
  have second : placed' ∈ [placed, placed'] := List.mem_cons_of_mem _ List.mem_cons_self
  obtain ⟨b, hb, boundAs⟩ := exists_boundAs distinct arguments first family
  obtain ⟨b', hb', boundAs'⟩ := exists_boundAs distinct arguments second family'
  exact ⟨b, hb, b', hb', boundAs, boundAs'⟩

/-! ### Its document -/

/-- A class whose name, scope and marker can be written down. -/
structure IsWritable (config : Config) (placed : Placed) : Prop where
  marker : (config.markers.classOf placed.order.marker).Expressible
  scope : placed.order.scope.IsNamed
  name : placed.name.Expressible

theorem expressible_programOf (classes : List Placed)
    (writable : ∀ placed ∈ classes, placed.IsWritable config) :
    (programOf config classes).Expressible := by
  refine ⟨?_, by simp [programOf, Program.ofDeclarations]⟩
  intro _ of_class
  obtain ⟨placed, mem, rfl⟩ := List.mem_map.mp of_class
  obtain ⟨marker, scope, name⟩ := writable placed mem
  refine ⟨name, by simp [classDeclaration, Order.classDeclaration], ?_⟩
  intro usage mem
  obtain rfl : usage = placed.order.usage config := List.mem_singleton.mp mem
  exact ⟨marker, ⟨scope, trivial, trivial⟩, trivial⟩

theorem fromText_programOf {placed placed' : Placed} (h : placed.IsWritable config)
    (h' : placed'.IsWritable config) : (programOf config [placed, placed']).FromText := by
  have expressible := expressible_programOf [placed, placed']
    (List.forall_mem_cons.mpr ⟨h, List.forall_mem_singleton.mpr h'⟩)
  have none : (programOf config [placed, placed']).toJson.decimals = [] := rfl
  exact ⟨_, Program.ofText?_toText_of_expressible expressible (by simp [none])⟩

/-! ### Names that can be written down -/

section Names
variable {simple : String}

theorem isNamed_ofClass (chars : ∀ c ∈ simple.toList, TypeRef.isNameChar c = true)
    (dotless : Dotless simple) (ne : simple ≠ "") :
    (TypeRef.ofClass ⟨Order.package, [simple]⟩).IsNamed := by
  have text_ne : Order.package ++ "." ++ simple ≠ "" := by
    intro e
    simpa [Order.package] using congrArg String.toList e
  have front : ∀ c ∈ (Order.package ++ ".").toList, TypeRef.isNameChar c = true :=
    List.all_eq_true.mp (by decide)
  have all : ∀ c ∈ (Order.package ++ "." ++ simple).toList, TypeRef.isNameChar c = true := by
    rw [String.toList_append]
    exact List.forall_mem_append.mpr ⟨front, chars⟩
  exact .mk ⟨Order.package ++ "." ++ simple, text_ne, all,
    ClassName.ofDotted?_append_dot (by decide) dotless ne⟩ (by simp) (by simp)

theorem expressible_class (dotless : Dotless simple)
    (last : ∀ c ∈ simple.toList.getLast?, Text.isBlank c = false) (ne : simple ≠ "") :
    (⟨Order.package, [simple]⟩ : ClassName).Expressible := by
  have own : (⟨Order.package, [simple]⟩ : ClassName).dotted = Order.package ++ "." ++ simple :=
    ClassName.dotted_of_package (by decide)
  have trim : Text.trim (Order.package ++ "." ++ simple) = Order.package ++ "." ++ simple := by
    refine Text.trim_eq_self ?_ ?_
    · have first : Text.isBlank 'c' = false := by decide
      simpa [Order.package] using first
    · have some : simple.toList ≠ [] := by simpa using ne
      rw [String.toList_append, List.getLast?_append_of_ne_nil _ some]
      exact last
  rw [ClassName.Expressible, own, trim]
  exact ClassName.ofDotted?_append_dot (by decide) dotless ne

end Names

/-! ### Classes of one scope -/

/-- A class for production in one scope for all, in the package that everything made to order has. -/
def ofNames (simpleNames : List String) (key package : String) : Placed :=
  { order := ⟨⟨.bind, .production⟩, .ofClass ⟨Order.package, ["Scope"]⟩, key, "Things"⟩
    name := ⟨Order.package, simpleNames⟩
    package }

theorem isWritable_ofNames {simpleNames : List String}
    (name : (⟨Order.package, simpleNames⟩ : ClassName).Expressible) (key package : String) :
    (ofNames simpleNames key package).IsWritable .default where
  marker := show (Config.default.markers.classOf ⟨.bind, .production⟩).Expressible by decide +kernel
  scope := isNamed_ofClass (List.all_eq_true.mp (by decide)) (by decide) (by decide)
  name := name

/-- A class that its key puts into the container of the other one. -/
def exampleThing : Placed :=
  ofNames ["Thing"] "s" Order.package

/-- A class without a key. -/
def exampleThings : Placed :=
  ofNames ["Things"] "" Order.package

end Placed

end BindingPlan
