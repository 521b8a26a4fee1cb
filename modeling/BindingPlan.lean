import BindingPlan.Config.Overrides
import BindingPlan.Document.Config
import BindingPlan.Document.Container
import BindingPlan.Document.Program
import BindingPlan.Pass
import BindingPlan.Proofs.Config.Usable
import BindingPlan.Proofs.Pass.Account
import BindingPlan.Proofs.Binding.TestOverride
import BindingPlan.Proofs.Container.NameTail
import BindingPlan.Proofs.Pass.MadeToOrder
import BindingPlan.Proofs.Container.OwnScope
import BindingPlan.Proofs.Container.OneMarker
import BindingPlan.Proofs.Pass.OneMore
import BindingPlan.Proofs.Pass.Interleaving
import BindingPlan.Proofs.Name.Reading
import BindingPlan.Proofs.Name.RoundTrip
import BindingPlan.Proofs.Document.RoundTrip
import BindingPlan.Proofs.Container.Replacement
import BindingPlan.Proofs.Container.FullName
import BindingPlan.Proofs.Container.MemberName
import BindingPlan.Proofs.Document.Lines
import BindingPlan.Proofs.Program.Reachability
import BindingPlan.Proofs.AnnotationUse.Signature
import BindingPlan.Proofs.Binding.Bindable
import BindingPlan.Proofs.Binding.OtherAnnotations
import BindingPlan.Proofs.Binding.WrittenDefault
import BindingPlan.Proofs.Bucket.Regrouping
import BindingPlan.Proofs.Container.FactoryCall
import BindingPlan.Proofs.Name.WellParted
import BindingPlan.Proofs.Name.FirstFault
import BindingPlan.Proofs.Container.MemberAnnotations
import BindingPlan.Proofs.Binding.ExposedType
import BindingPlan.Proofs.Config.LastOverride
import BindingPlan.Proofs.Config.PartialDocument
import BindingPlan.Proofs.Container.JoinedBuckets
import BindingPlan.Proofs.Binding.ForwardedParameters
