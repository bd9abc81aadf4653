import AppOperator.Application.Basic
import AppOperator.Kubernetes.Service

/-!
# The services of an application

The service through which an application is reached, and the one without an
address that gives pods with storage their names. The port is set in the
first port that the stored service has, so that the port of the nodes which
the cluster chose is not chosen again.

The port of the nodes that an application asks for is set; where it asks for none, the
one that is stored stays if the type of the service has such ports. All other ports of
a stored service go.
-/

namespace AppOperator.Application

/-- The first port of a stored service, or a new one. -/
def firstPort (spec : ServiceSpec) : ServicePort := ((spec.ports.getD []).head?).getD default

/-- The application's port, set in a stored one. -/
def portOf (app : Application) (old : ServicePort) (nodePort : Option Int32) : ServicePort :=
  { old with
    name := some app.servicePortName
    port := app.servicePort
    targetPort := some (.int app.containerPort)
    protocol := some "TCP"
    nodePort := nodePort }

/-- The label by which monitors find the service is there while the
application is monitored. -/
def markMonitored (app : Application) (m : ObjectMeta) : ObjectMeta :=
  let labels := m.labels.getD .empty
  { m with labels := some (
      if app.spec.monitoring.isSome then labels.insert Label.monitored "true"
      else labels.erase Label.monitored) }

/-- **The service of the application**, set in a stored one. -/
def service (app : Application) (old : Service) : Service :=
  let settings := app.spec.service.getD default
  let type := settings.type.getD .clusterIP
  let spec := old.spec.getD default
  let port := firstPort spec
  let nodePort := if type.allowsNodePort then settings.nodePort.or port.nodePort else none
  { old with
    metadata := (app.markMonitored (app.mark old.metadata)).addAnnotations
      (settings.annotations.getD .empty)
    spec := some { spec with
      type := some type.word
      selector := some app.selectorLabels
      ports := some [app.portOf port nodePort] } }

/-- **The service that gives the pods their names**, set in a stored one. -/
def headlessService (app : Application) (old : Service) : Service :=
  let spec := old.spec.getD default
  { old with
    metadata := app.mark old.metadata
    spec := some { spec with
      type := some ServiceType.clusterIP.word
      clusterIP := some "None"
      selector := some app.selectorLabels
      ports := some [app.portOf (firstPort spec) none] } }

/-- **The account of the application**, set in a stored one. Secrets that the
cluster added to it stay. -/
def account (app : Application) (old : ServiceAccount) : ServiceAccount :=
  { old with
    metadata := app.mark old.metadata
    imagePullSecrets :=
      match filled app.spec.pullSecret with
      | none => old.imagePullSecrets
      | some secret =>
        let secrets := old.imagePullSecrets.getD []
        if secrets.any (·.name = some secret) then some secrets
        else some (secrets ++ [{ name := some secret }]) }

end AppOperator.Application
