import BindingPlan.Binding.Basic

/-! # Buckets

The bindings of one container, in the order in which they came. Buckets come in the order of their
first bindings. -/

namespace BindingPlan

/-- The bindings that go into one container. -/
structure Bucket where
  name : ClassName
  bindings : List Binding

namespace Bucket

/-- Puts a binding into the bucket of its container, which is started if there is none yet. -/
def insert (binding : Binding) : List Bucket → List Bucket
  | [] => [⟨binding.containerName, [binding]⟩]
  | bucket :: rest =>
    if bucket.name = binding.containerName then
      { bucket with bindings := bucket.bindings ++ [binding] } :: rest
    else bucket :: insert binding rest

/-- The buckets of some bindings. -/
def ofBindings (bindings : List Binding) : List Bucket :=
  bindings.foldl (fun buckets binding => insert binding buckets) []

end Bucket

end BindingPlan
