import AppOperator.Application.Spec
import AppOperator.Application.Status

/-!
# Applications

An application as it is stored: what it asks for and how it fares, and what
follows from that for every object made for it, whichever type the object
has: labels, image, ports, account and the names of its parts.
-/

namespace AppOperator

/-! ## Labels

Keys of labels have names here, so that what one part of the operator puts on an
object and another looks for is the same key. -/

namespace Label

/-- The application that an object belongs to; selectors use this label alone. -/
def app : String := "app.kubernetes.io/instance"

/-- The name of the application. -/
def name : String := "app.kubernetes.io/name"

/-- Who looks after the object. -/
def managedBy : String := "app.kubernetes.io/managed-by"

/-- The part the object plays. -/
def component : String := "app.kubernetes.io/component"

/-- The larger application that the application is a part of. -/
def partOf : String := "app.kubernetes.io/part-of"

/-- The version of the application. -/
def version : String := "app.kubernetes.io/version"

/-- The stack that the application was built from. -/
def stack : String := "stack.appsody.dev/id"

/-- Whether the application is to be listed as one. -/
def listed : String := "kappnav.app.auto-create"

/-- Whether a service is to be scraped. -/
def monitored : String := "monitor.appsody.dev/enabled"

/-- How far a Knative service can be reached from. -/
def visibility : String := "serving.knative.dev/visibility"

end Label

/-- The name of the operator in labels. -/
def operatorName : String := "appsody-operator"

/-- **An application.** -/
structure Application where
  /-- The metadata. -/
  metadata : ObjectMeta
  /-- What it asks for. -/
  spec : ApplicationSpec
  /-- How it fares. -/
  status : Option ApplicationStatus
deriving DecidableEq

namespace Application

/-- The API that serves applications. -/
def apiVersion : String := "appsody.dev/v1beta1"

/-- The type of applications in that API. -/
def kind : String := "AppsodyApplication"

instance : ApiObject Application where
  shape := .record (.resource apiVersion kind) <| .of [
    given "metadata" (shapeOf ObjectMeta), given "spec" (shapeOf ApplicationSpec),
    opt "status" (shapeOf ApplicationStatus)]
  ofVal := fun (metadata, spec, status, ()) =>
    { metadata := ofVal metadata, spec := ofVal spec, status := status.map ofVal }
  toVal a := (toVal a.metadata, toVal a.spec, a.status.map toVal, ())
  ofVal_toVal _ := by simp
  toVal_ofVal _ := by simp
  objectType := ⟨apiVersion, kind⟩
  metadata a := a.metadata
  withMetadata a m := { a with metadata := m }
  metadata_withMetadata _ _ := rfl
  withMetadata_metadata _ := rfl
  withMetadata_withMetadata _ _ _ := rfl

instance : Inhabited Application := ⟨blank Application⟩

/-- The name, or the best that is known of it. -/
def name (app : Application) : String := app.metadata.anyName

/-- The namespace, if it is set. -/
def ns? (app : Application) : Option String := app.metadata.ns

/-- A text that is set and not empty. -/
def filled (text : Option String) : Option String := text.filter (!·.isEmpty)

/-! ## What its objects carry

An application's own labels and annotations go to all its objects. The operator's
labels stand over them where both have a key, and one annotation does not go along, as
it is about the application itself. -/

/-- **The labels of every object made for the application**: its own, with
those that the operator sets in their place. -/
def labels (app : Application) : Labels :=
  let own := app.metadata.labels.getD .empty
  let fixed := own
    |>.insert Label.app app.name
    |>.insert Label.name app.name
    |>.insert Label.managedBy operatorName
    |>.insert Label.component "backend"
    |>.insert Label.partOf (app.spec.applicationName.getD app.name)
  let stacked := if app.spec.stack.isEmpty then fixed else fixed.insert Label.stack app.spec.stack
  let versioned := match app.spec.version with
    | some version => stacked.insert Label.version version
    | none => stacked
  if app.spec.createAppDefinition.getD true then versioned.insert Label.listed "true"
  else versioned

/-- **The labels by which the pods of the application are selected.** They
name the application and nothing that an edit could change. -/
def selectorLabels (app : Application) : Labels := .singleton Label.app app.name

/-- The annotation in which a client keeps the object as it was last sent. -/
def lastApplied : String := "kubectl.kubernetes.io/last-applied-configuration"

/-- **The annotations of every object made for the application.** -/
def annotations (app : Application) : Labels :=
  (app.metadata.annotations.getD .empty).erase lastApplied

/-- **Marks an object as made for the application.** -/
def mark (app : Application) (m : ObjectMeta) : ObjectMeta :=
  (m.addLabels app.labels).addAnnotations app.annotations

/-! ## What its objects are set to

Fields that may be left unset are read through these functions, so what an unset field
means is said in one place for all objects. -/

/-- **The image to run**: what the application's reference stands for, when
that is known, else the image it names. -/
def image (app : Application) : String :=
  (filled (app.status.bind (·.imageReference))).getD app.spec.applicationImage

/-- The port of a service that sets none. -/
def defaultPort : Int32 := 8080

/-- The port of the service. -/
def servicePort (app : Application) : Int32 := (app.spec.service.bind (·.port)).getD defaultPort

/-- The port of the pods. -/
def containerPort (app : Application) : Int32 :=
  (app.spec.service.bind (·.targetPort)).getD app.servicePort

/-- The name that the application gives its port, if it gives one. -/
def portName? (app : Application) : Option String := filled (app.spec.service.bind (·.portName))

/-- The name of the service's port, by which routes and monitors refer to it. -/
def servicePortName (app : Application) : String :=
  app.portName?.getD (toString app.servicePort.toInt ++ "-tcp")

/-- Whether each pod keeps storage of its own. -/
def usesStorage (app : Application) : Bool := app.spec.storage.isSome

/-- Whether the application runs as a Knative service. -/
def usesKnative (app : Application) : Bool := app.spec.createKnativeService.getD false

/-- Whether the application is reached from outside. -/
def isExposed (app : Application) : Bool := app.spec.expose.getD false

/-- The name of the account that the pods act as. -/
def accountName (app : Application) : String :=
  (filled app.spec.serviceAccountName).getD app.name

/-- The name of the service that gives pods with storage their names. -/
def headlessServiceName (app : Application) : String := app.name ++ "-headless"

/-- The name of the claim for the storage of each pod. -/
def storageClaimName (app : Application) : String :=
  (app.spec.storage.bind fun s => s.claimTemplate.bind (·.metadata.name)).getD "pvc"

end Application
end AppOperator
