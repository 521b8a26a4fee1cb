import BindingPlan.Binding.OfCandidate
import BindingPlan.Container.OfBucket

/-! # Passes

One pass over a program resolves every candidate, gathers the bindings in buckets and makes a
container of each. A candidate that fails becomes a diagnostic, and the pass goes on without it. The
containers can be handed one by one to a receiver, which may refuse one and so end the delivery. -/

namespace BindingPlan

variable (config : Config)

/-! ### Resolution -/

/-- What the candidates of a program came to. -/
structure Resolution where
  bindings : List Binding
  diagnostics : List Diagnostic

/-- The binding of a candidate, if it has one. -/
def Candidate.binding? (program : Program) (candidate : Candidate) : Option Binding :=
  (Binding.ofCandidate config program candidate).toOption

/-- The diagnostic of a candidate without a binding. -/
def Candidate.diagnostic? (program : Program) (candidate : Candidate) : Option Diagnostic :=
  match Binding.ofCandidate config program candidate with
  | .ok _ => none
  | .error error => some (.ofError candidate.declaration error)

/-- The bindings and the diagnostics of a program, each in the order of the traversal. -/
def Program.resolution (program : Program) : Resolution :=
  let candidates := program.candidates config.markers
  ⟨candidates.filterMap (Candidate.binding? config program),
    candidates.filterMap (Candidate.diagnostic? config program)⟩

/-! ### Plans -/

/-- What a pass comes to: the containers to generate, and what could not be bound. -/
structure Plan where
  containers : List Container
  diagnostics : List Diagnostic

namespace Plan

/-- Whether some candidate failed. -/
def hasErrors (plan : Plan) : Bool :=
  !plan.diagnostics.isEmpty

/-- The container with a simple name, the first if there are several. -/
def container? (plan : Plan) (simpleName : String) : Option Container :=
  plan.containers.find? (·.name.simpleName == simpleName)

end Plan

/-- The containers of some bindings. -/
def Container.ofBindings (bindings : List Binding) : List Container :=
  (Bucket.ofBindings bindings).filterMap (Container.ofBucket? config)

/-- A whole pass over a program. -/
def Program.plan (program : Program) : Plan :=
  let resolution := program.resolution config
  ⟨Container.ofBindings config resolution.bindings, resolution.diagnostics⟩

/-! ### Delivery -/

/-- Hands containers to a receiver with a state, one after the other; the receiver's first error
ends the delivery. Answers the receiver's last state as well. -/
def deliver {σ : Type} (receive : σ → Container → Except BindingError σ) :
    σ → List Container → σ × Except BindingError Unit
  | state, [] => (state, .ok ())
  | state, container :: rest =>
    match receive state container with
    | .error error => (state, .error error)
    | .ok state => deliver receive state rest

/-- A whole pass that hands its containers to a receiver and answers the diagnostics, unless the
receiver fails. -/
def Program.planInto {σ : Type} (program : Program)
    (receive : σ → Container → Except BindingError σ) (start : σ) :
    σ × Except BindingError (List Diagnostic) :=
  let plan := program.plan config
  let (state, result) := deliver receive start plan.containers
  (state, result.map fun _ => plan.diagnostics)

end BindingPlan
