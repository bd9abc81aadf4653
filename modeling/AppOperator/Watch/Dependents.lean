import AppOperator.Binding.Name
import AppOperator.Extension.ImageStream
import AppOperator.Kubernetes.Config
import AppOperator.Kubernetes.Workload
import AppOperator.Binding.Consumer

/-!
# Whom a change concerns

A change of an object that an application depends on has to lead to a
reconcile of the application. A pod names the application it runs. For a
secret and for an image stream all known applications are asked whether they
refer to it.

The answers are references and not applications: what is known of an application is
looked up when it comes to reconciling it.
-/

namespace AppOperator

/-- **Which application is meant.** -/
structure ApplicationRef where
  /-- The namespace, if the application has one. -/
  ns : Option String
  /-- The name. -/
  name : String
deriving DecidableEq

namespace Application

/-- The reference to the application. -/
def ref (app : Application) : ApplicationRef := { ns := app.ns?, name := app.name }

/-! ## Secrets

An application refers to a secret in three ways: as the binding of a service that it
consumes, for the name and password of its own service, and for the certificates of
its route. The first is told from what the application's specification says it
consumes, the other two by name in its own namespace. -/

/-- Whether the application uses the service that publishes a secret. -/
def usesBinding (app : Application) (ns name : String) : Bool :=
  let own := app.metadata.nsOrEmpty
  app.consumes.any fun entry =>
    entry.providerNs own = ns && entry.secretName own = name

/-- The secrets with the name and password that the application asks for. -/
def authSelectors (app : Application) : List SecretKey :=
  match app.provides?.bind (·.auth) with
  | some auth => auth.username.toList ++ auth.password.toList
  | none => []

/-- The name of the secret with the certificates of the application's route. -/
def certificateName? (app : Application) : Option String :=
  app.spec.route.bind (·.certificateSecretRef)

/-- Whether the application names a secret of its own namespace, for the
name and password of its service or for the certificates of its route. -/
def namesSecret (app : Application) (ns name : String) : Bool :=
  app.ns? = some ns
    && (app.authSelectors.any (·.name = some name) || app.certificateName? = some name)

/-- **Whether a secret concerns the application.** -/
def dependsOnSecret (app : Application) (ns name : String) : Bool :=
  app.usesBinding ns name || app.namesSecret ns name

/-! ## Image streams

An image stream concerns an application if its image, read as a reference, names the
stream, whatever the tag. -/

/-- **Whether an image stream concerns the application**: its image refers to it. -/
def dependsOnStream (app : Application) (ns name : String) : Bool :=
  match ImageReference.parse? app.spec.applicationImage app.metadata.nsOrEmpty with
  | some r => r.name = name && r.ns = ns
  | none => false

end Application

namespace Watch

/-- The labels by which the pods of applications are selected. -/
def podSelector : String := Label.managedBy ++ "=" ++ operatorName

/-- **The application that a pod runs.** -/
def ofPod (pod : ObjectMeta) : Option ApplicationRef := do
  let labels ← pod.labels
  let manager ← labels.get? Label.managedBy
  if manager ≠ operatorName then none
  let name ← labels.get? Label.app
  let ns ← pod.ns
  return { ns := some ns, name }

/-- The references to the applications that an object of some name and
namespace concerns. Without either it concerns none. -/
def concerned (concerns : Application → String → String → Bool) (object : ObjectMeta)
    (apps : List Application) : List ApplicationRef :=
  match object.ns, object.name with
  | some ns, some name => (apps.filter (concerns · ns name)).map Application.ref
  | _, _ => []

/-- **The applications that a secret concerns**, in the order of the list. -/
def ofSecret (secret : ObjectMeta) (apps : List Application) : List ApplicationRef :=
  concerned Application.dependsOnSecret secret apps

/-- **The applications that an image stream concerns**, in the order of the list. -/
def ofStream (stream : ObjectMeta) (apps : List Application) : List ApplicationRef :=
  concerned Application.dependsOnStream stream apps

end Watch
end AppOperator
