import AppOperator.Child.Pod
import AppOperator.Extension.Knative

/-!
# The Knative service of an application

A Knative service runs the same pods, with the ports and the placement left
to it: it refuses a placement, names and transports of ports, and a port in a
probe.

The pods are made as those of a workload are, and then what Knative refuses is taken
away. So a change of what pods look like is a change of one function. The label for
the visibility is put on as well as taken off, since an application may become exposed
and cease to be.
-/

namespace AppOperator.Application

/-- A probe that leaves the port of requests and connections open. -/
def withoutPort (probe : Probe) : Probe :=
  { probe with
    httpGet := probe.httpGet.map fun check => { check with port := .int 0 }
    tcpSocket := probe.tcpSocket.map fun check => { check with port := .int 0 } }

/-- A container with no more said of its ports than their numbers. -/
def withBarePorts (c : Container) : Container :=
  { c with
    ports := c.ports.map fun ports => ports.map fun p => .bare p.containerPort
    readinessProbe := c.readinessProbe.map withoutPort
    livenessProbe := c.livenessProbe.map withoutPort }

/-- The pods of a revision, made from those of a workload. -/
def unplaced (spec : PodSpec) : PodSpec :=
  { spec with affinity := none, containers := spec.containers.map withBarePorts }

/-- The label that hides a service from outside the cluster is there unless
the application is exposed. -/
def markVisibility (app : Application) (m : ObjectMeta) : ObjectMeta :=
  let labels := m.labels.getD .empty
  { m with labels := some (
      if app.isExposed then labels.erase Label.visibility
      else labels.insert Label.visibility "cluster-local") }

/-- **The Knative service of the application**, set in a stored one. -/
def knativeService (app : Application) (wiring : Wiring) (old : KnativeService) :
    KnativeService :=
  let revision := old.spec.template.getD default
  let revisionSpec := revision.spec.getD default
  let template := app.podTemplate wiring
    { metadata := revision.metadata, spec := some revisionSpec.pod }
  { metadata := app.markVisibility (app.mark old.metadata)
    spec := { old.spec with
      template := some
        { metadata := template.metadata
          spec := some { revisionSpec with pod := unplaced (template.spec.getD default) } } } }

end AppOperator.Application
