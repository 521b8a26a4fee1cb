import BindingPlan.Proofs.Binding.Bindable
import BindingPlan.Proofs.Container.FromBucket
import Mathlib.Data.List.Forall2

/-! # A pass accounts for every marked declaration

Each position of the traversal with a marker on it comes to one outcome, a binding or a diagnostic,
and both kinds keep the order of the traversal. The containers then take up every binding exactly
once: one container for each container name, in the order in which the names first occur, and in it
the members of its bindings in their order. Nothing is lost, doubled or reordered on the way
(`plan_accounts`). -/

namespace BindingPlan

/-! ### Outcomes -/

/-- What a marked declaration comes to. -/
inductive Outcome where
  | bound (binding : Binding)
  | failed (diagnostic : Diagnostic)

namespace Outcome

/-- The binding of an outcome that is one. -/
def binding? : Outcome → Option Binding
  | bound binding => some binding
  | failed _ => none

/-- The diagnostic of an outcome that is one. -/
def diagnostic? : Outcome → Option Diagnostic
  | bound _ => none
  | failed diagnostic => some diagnostic

/-- The outcome is that of a declaration: a binding that comes from it, or a diagnostic with its
name and path and an error that names it too. -/
def IsOf (declaration : Declaration) : Outcome → Prop
  | bound binding => binding.origin = declaration
  | failed diagnostic =>
    diagnostic.declaration = declaration.reportName ∧
      diagnostic.path = declaration.location.map (·.path) ∧
      diagnostic.error.declaration? = some declaration.reportName

/-- The outcome of a candidate. -/
def ofCandidate (config : Config) (program : Program) (candidate : Candidate) : Outcome :=
  match Binding.ofCandidate config program candidate with
  | .ok binding => bound binding
  | .error error => failed (.ofError candidate.declaration error)

variable {config : Config} {program : Program}

theorem isOf_ofCandidate (candidate : Candidate) :
    (ofCandidate config program candidate).IsOf candidate.declaration := by
  unfold ofCandidate
  split
  next binding h => exact ofCandidate_origin h
  next error h => exact ⟨rfl, rfl, declaration?_of_ofCandidate h⟩

theorem binding?_ofCandidate (candidate : Candidate) :
    (ofCandidate config program candidate).binding? = candidate.binding? config program := by
  unfold ofCandidate Candidate.binding?
  cases Binding.ofCandidate config program candidate <;> rfl

theorem diagnostic?_ofCandidate (candidate : Candidate) :
    (ofCandidate config program candidate).diagnostic? =
      candidate.diagnostic? config program := by
  unfold ofCandidate Candidate.diagnostic?
  cases Binding.ofCandidate config program candidate <;> rfl

end Outcome

/-! ### The account -/

/-- Containers take up bindings: there is one for each container name, in the order in which the
names first occur; its members are those of the bindings of its name, in their order; and all
members together are those of all bindings, each as often as it is there. -/
structure TakesUp (config : Config) (bindings : List Binding) (containers : List Container) :
    Prop where
  names : containers.map (·.name) = (bindings.map (·.containerName)).eraseDups
  distinct : (containers.map (·.name)).Nodup
  members : ∀ container ∈ containers, container.members =
    (bindings.filter (·.containerName == container.name)).map (Member.ofBinding config)
  all : (containers.flatMap (·.members)).Perm (bindings.map (Member.ofBinding config))

theorem takesUp_ofBindings (config : Config) (bindings : List Binding) :
    TakesUp config bindings (Container.ofBindings config bindings) := by
  have shape := Container.ofBindings_eq config bindings
  have names : (Container.ofBindings config bindings).map (·.name) = Bucket.namesOf bindings := by
    have h := congrArg (List.map Prod.fst) shape
    simpa [Function.comp_def] using h
  refine ⟨names, names ▸ Bucket.nodup_namesOf bindings, ?_, ?_⟩
  · intro container hcontainer
    have mem := List.mem_map_of_mem (f := fun c : Container => (c.name, c.members)) hcontainer
    rw [shape, List.mem_map] at mem
    obtain ⟨name, -, pair⟩ := mem
    rw [Prod.mk.injEq] at pair
    rw [← pair.1, ← pair.2, Bucket.share]
  · have h := congrArg (List.flatMap Prod.snd) shape
    rw [List.flatMap_map, List.flatMap_map] at h
    rw [h, ← List.map_flatMap]
    refine List.Perm.map _ (Bucket.flatMap_share_perm (Bucket.nodup_namesOf bindings) ?_)
    exact fun b hb => Bucket.mem_namesOf.mpr ⟨b, hb, rfl⟩

/-- **A pass accounts for every marked declaration.** Each position of the traversal with a marker
comes to one outcome of its own; the bindings and the diagnostics are these outcomes in their order,
and the containers take up all bindings. -/
theorem plan_accounts (config : Config) (program : Program) :
    ∃ outcomes : List Outcome,
      List.Forall₂ Outcome.IsOf (program.marked config.markers) outcomes ∧
      (program.resolution config).bindings = outcomes.filterMap Outcome.binding? ∧
      (program.resolution config).diagnostics = outcomes.filterMap Outcome.diagnostic? ∧
      (program.plan config).diagnostics = (program.resolution config).diagnostics ∧
      TakesUp config (program.resolution config).bindings (program.plan config).containers := by
  let candidates := program.candidates config.markers
  refine ⟨candidates.map (Outcome.ofCandidate config program), ?_, ?_, ?_, rfl,
    takesUp_ofBindings config _⟩
  · simp only [candidates, candidates_eq, List.map_map, List.forall₂_map_right_iff,
      List.forall₂_same]
    exact fun d _ => Outcome.isOf_ofCandidate _
  · rw [List.filterMap_map]
    exact List.filterMap_congr fun c _ => (Outcome.binding?_ofCandidate c).symm
  · rw [List.filterMap_map]
    exact List.filterMap_congr fun c _ => (Outcome.diagnostic?_ofCandidate c).symm

end BindingPlan
