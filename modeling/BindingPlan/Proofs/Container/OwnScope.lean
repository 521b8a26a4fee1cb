import BindingPlan.Proofs.Config.Usable
import BindingPlan.Proofs.Container.FromBucket
import BindingPlan.Proofs.Pass.MadeToOrder
import Mathlib.Data.Set.Insert
import Mathlib.Tactic.Push

/-! # When bindings are installed in their own scopes

A container is installed in the scope of its first binding. Each of its other bindings is installed
in a scope of its own just if all have the same one, and what they have the same is only a name,
with the innermost simple name of the scope in it (`installedInOwnScope_iff`).

So it depends on the scopes in use whether bindings end up where they ask to be. They do in every
program if no tail of a name with one scope is the end of one with another scope; otherwise two
declarations, one for either scope, come into one container (`installedInOwnScope_exactly`). -/

namespace BindingPlan

/-! ### Where a container is installed -/

/-- The scope that an annotation for installing states: the one class that its first argument
lists. -/
def AnnotationUse.statedScope? (usage : AnnotationUse) : Option TypeRef :=
  match usage.arguments with
  | ⟨_, .array [.type scope]⟩ :: _ => some scope
  | _ => none

/-- A container is installed in a scope: its directive says so, and so does the last of its
annotations. -/
structure Container.InstalledIn (container : Container) (scope : TypeRef) : Prop where
  directive : container.installation.scope = scope
  annotation : container.annotations.getLast?.bind AnnotationUse.statedScope? = some scope

/-- Every binding of a program is installed in its own scope: each bucket has a container, and this
is installed in the scope of every binding of the bucket. -/
def InstalledInOwnScope (config : Config) (program : Program) : Prop :=
  ∀ bucket ∈ Bucket.ofBindings (program.resolution config).bindings,
    ∃ container ∈ (program.plan config).containers,
      Container.ofBucket? config bucket = some container ∧
        ∀ b ∈ bucket.bindings, container.InstalledIn b.scope

section InstalledIn
variable {config : Config}

theorem scope_ofBinding (b : Binding) : (Installation.ofBinding b).scope = b.scope := by
  unfold Installation.ofBinding
  cases b.replaces with
  | none => rfl
  | some replaces => dsimp only; split_ifs <;> rfl

theorem statedScope?_installer (framework : FrameworkClasses) (installation : Installation) :
    (framework.installer installation).statedScope? = some installation.scope := by
  cases installation <;> rfl

theorem Container.TakenFrom.installedIn_iff {container : Container} {bucket : Bucket}
    {first : Binding} (taken : container.TakenFrom config bucket first) {scope : TypeRef} :
    container.InstalledIn scope ↔ first.scope = scope := by
  have directive : container.installation.scope = first.scope := by
    rw [taken.installation, scope_ofBinding]
  have annotation : container.annotations.getLast?.bind AnnotationUse.statedScope? =
      some first.scope := by
    rw [← directive, ← statedScope?_installer config.framework, taken.annotations]
    rfl
  constructor
  · intro installed
    rw [← directive]
    exact installed.directive
  · rintro rfl
    exact ⟨directive, annotation⟩

end InstalledIn

/-! ### What it depends on -/

/-- No name of a container with one of the scopes ends like one with another. -/
def Naming.TellsApart (naming : Naming) (scopes : Set TypeRef) : Prop :=
  ∀ s ∈ scopes, ∀ s' ∈ scopes, s ≠ s' →
    ∀ m m', ¬ EndsIn (naming.scopeTail s m) (naming.scopeTail s' m')

section OwnScope
variable {config : Config} {program : Program}

theorem installedInOwnScope_iff : InstalledInOwnScope config program ↔
    ∀ b ∈ (program.resolution config).bindings, ∀ b' ∈ (program.resolution config).bindings,
      b.containerName = b'.containerName → b.scope = b'.scope := by
  rw [← Bucket.agree_iff]
  constructor
  · intro own bucket hbucket b hb b' hb'
    obtain ⟨container, -, -, installed⟩ := own bucket hbucket
    rw [← (installed b hb).directive, (installed b' hb').directive]
  · intro agree bucket hbucket
    obtain ⟨container, hcontainer, made, first, hfirst, taken⟩ :=
      Container.exists_takenFrom config hbucket
    refine ⟨container, hcontainer, made, fun b hb => taken.installedIn_iff.mpr ?_⟩
    exact agree bucket hbucket first hfirst b hb

theorem installedInOwnScope_of_tellsApart {scopes : Set TypeRef}
    (apart : config.naming.TellsApart scopes)
    (used : ∀ b ∈ (program.resolution config).bindings, b.scope ∈ scopes) :
    InstalledInOwnScope config program := by
  rw [installedInOwnScope_iff]
  intro b hb b' hb' same
  obtain ⟨i, hi⟩ := bindings_hasIdentity hb
  obtain ⟨i', hi'⟩ := bindings_hasIdentity hb'
  rw [hi.containerName, hi'.containerName] at same
  by_contra ne
  rcases ContainerIdentity.scopeTails_of_containerName_eq same with ends | ends
  · rw [← hi.scope, ← hi'.scope] at ends
    exact apart _ (used b hb) _ (used b' hb') ne _ _ ends
  · rw [← hi.scope, ← hi'.scope] at ends
    exact apart _ (used b' hb') _ (used b hb) (Ne.symm ne) _ _ ends

theorem not_installedInOwnScope_madeToOrder (distinct : Function.Injective config.markers.classOf)
    (arguments : config.arguments.Distinct) {orders : List Order} {o o' : Order} (ho : o ∈ orders)
    (ho' : o' ∈ orders) (same : o.key ++ config.naming.scopeTail o.scope o.marker =
      o'.key ++ config.naming.scopeTail o'.scope o'.marker) (ne : o.scope ≠ o'.scope) :
    ¬ InstalledInOwnScope config (madeToOrder config orders) := by
  intro own
  obtain ⟨bucket, hbucket, b, hb, b', hb', met, met'⟩ :=
    exists_bucket_madeToOrder distinct arguments ho ho' same
  obtain ⟨container, -, -, installed⟩ := own bucket hbucket
  have scopes : b.scope = b'.scope :=
    (installed b hb).directive.symm.trans (installed b' hb').directive
  rw [met.scope, met'.scope] at scopes
  exact ne scopes

theorem scope_mem_madeToOrder (distinct : Function.Injective config.markers.classOf)
    (arguments : config.arguments.Distinct) {orders : List Order} {scopes : Set TypeRef}
    (stated : ∀ o ∈ orders, o.scope ∈ scopes) :
    ∀ b ∈ ((madeToOrder config orders).resolution config).bindings, b.scope ∈ scopes := by
  intro b hb
  obtain ⟨o, ho, met⟩ := (exists_of_forall₂ (bindings_madeToOrder distinct arguments orders)).2 b hb
  rw [met.scope]
  exact stated o ho

/-- Scopes that are not told apart meet: what one name has in front of the other's tail can be asked
for as a key. -/
theorem exists_not_installedInOwnScope {scopes : Set TypeRef} (usable : config.fault? = none)
    (arguments : config.arguments.Distinct) (meet : ¬ config.naming.TellsApart scopes) :
    ∃ program : Program, (∀ b ∈ (program.resolution config).bindings, b.scope ∈ scopes) ∧
      ¬ InstalledInOwnScope config program := by
  unfold Naming.TellsApart at meet
  push Not at meet
  obtain ⟨s, hs, s', hs', ne, m, m', front, tail⟩ := meet
  have distinct := (Config.fault?_eq_none_iff.mp usable).1
  let o : Order := ⟨m, s, front, "First"⟩
  let o' : Order := ⟨m', s', "", "Second"⟩
  have same : o.key ++ config.naming.scopeTail o.scope o.marker =
      o'.key ++ config.naming.scopeTail o'.scope o'.marker := by
    rw [show o'.key = "" from rfl, String.empty_append]
    exact tail.symm
  refine ⟨madeToOrder config [o, o'], scope_mem_madeToOrder distinct arguments ?_,
    not_installedInOwnScope_madeToOrder distinct arguments (by simp) (by simp) same ne⟩
  simpa using ⟨hs, hs'⟩

/-- **Bindings are installed in their own scopes** in a program just if container names tell its
scopes apart. They are in every program with scopes of which no tail is the end of another one's, and
for any other set of scopes there is a program where a binding is installed in the scope of another
one. -/
theorem installedInOwnScope_exactly (config : Config) :
    (∀ program, InstalledInOwnScope config program ↔
      ∀ b ∈ (program.resolution config).bindings, ∀ b' ∈ (program.resolution config).bindings,
        b.containerName = b'.containerName → b.scope = b'.scope) ∧
    ∀ scopes : Set TypeRef,
      (config.naming.TellsApart scopes →
        ∀ program, (∀ b ∈ (program.resolution config).bindings, b.scope ∈ scopes) →
          InstalledInOwnScope config program) ∧
      (config.fault? = none → config.arguments.Distinct → ¬ config.naming.TellsApart scopes →
        ∃ program, (∀ b ∈ (program.resolution config).bindings, b.scope ∈ scopes) ∧
          ¬ InstalledInOwnScope config program) :=
  ⟨fun _ => installedInOwnScope_iff, fun _ =>
    ⟨fun apart _ used => installedInOwnScope_of_tellsApart apart used,
      exists_not_installedInOwnScope⟩⟩

end OwnScope

/-! ### Components of the default configuration -/

namespace Order

/-- An order for a class in the component of the application. -/
def inSingleton : Order :=
  ⟨⟨.bind, .production⟩, .ofClass ⟨"dagger.hilt.components", ["SingletonComponent"]⟩, "", "First"⟩

/-- An order for a class in the component of an activity. -/
def inActivity : Order :=
  ⟨⟨.bind, .production⟩, .ofClass ⟨"dagger.hilt.android.components", ["ActivityComponent"]⟩, "",
    "Second"⟩

/-- An order for a class in a component. -/
def inFirst : Order :=
  ⟨⟨.bind, .production⟩, .ofClass ⟨"com.first", ["Scope"]⟩, "", "First"⟩

/-- An order for a class in another component with the same simple name. -/
def inSecond : Order :=
  ⟨⟨.bind, .production⟩, .ofClass ⟨"com.second", ["Scope"]⟩, "", "Second"⟩

end Order

theorem tellsApart_components :
    Naming.default.TellsApart {Order.inSingleton.scope, Order.inActivity.scope} := by
  have apart : ∀ m ∈ Marker.all, ∀ m' ∈ Marker.all,
      ¬ EndsIn (Naming.default.scopeTail Order.inSingleton.scope m)
          (Naming.default.scopeTail Order.inActivity.scope m') ∧
        ¬ EndsIn (Naming.default.scopeTail Order.inActivity.scope m)
          (Naming.default.scopeTail Order.inSingleton.scope m') := by
    decide
  rintro s (rfl | rfl) s' (rfl | rfl) ne m m'
  · exact absurd rfl ne
  · exact (apart m (Marker.mem_all m) m' (Marker.mem_all m')).1
  · exact (apart m (Marker.mem_all m) m' (Marker.mem_all m')).2
  · exact absurd rfl ne

/-- The components of an application and of its activities are told apart. -/
theorem installedInOwnScope_components :
    Naming.default.TellsApart {Order.inSingleton.scope, Order.inActivity.scope} ∧
      ∀ program : Program, (∀ b ∈ (program.resolution .default).bindings,
          b.scope ∈ ({Order.inSingleton.scope, Order.inActivity.scope} : Set TypeRef)) →
        InstalledInOwnScope .default program :=
  ⟨tellsApart_components,
    ((installedInOwnScope_exactly .default).2 _).1 tellsApart_components⟩

/-- Two components with one simple name are not told apart: what asks for the second one is
installed in the first one. -/
theorem not_installedInOwnScope_sameSimpleName :
    Config.default.fault? = none ∧
      ¬ InstalledInOwnScope .default (madeToOrder .default [Order.inFirst, Order.inSecond]) := by
  have distinct := (Config.fault?_eq_none_iff.mp Config.fault?_default).1
  exact ⟨Config.fault?_default, not_installedInOwnScope_madeToOrder distinct (by decide)
    List.mem_cons_self (List.mem_cons_of_mem _ List.mem_cons_self) rfl (by decide)⟩

end BindingPlan
