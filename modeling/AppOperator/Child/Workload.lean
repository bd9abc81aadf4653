import AppOperator.Child.Pod
import AppOperator.Kubernetes.Workload

/-!
# Workloads and their autoscaler

The pods of an application run in a deployment, or in a stateful set if each
keeps storage. Once an autoscaler is asked for it alone sets the number of
pods, and the workload keeps the number it has.

The number of pods is the application's to say unless it is scaled automatically; then
the stored number stays, as the autoscaler has set it. The autoscaler names the
workload that it scales by type and name, and the type is another one for an
application with storage.
-/

namespace AppOperator.Application

/-- The number of pods that a workload is set to. -/
def replicasFor (app : Application) (stored : Option Int32) : Option Int32 :=
  if app.spec.autoscaling.isNone then app.spec.replicas else stored

/-- **The deployment of the application**, set in a stored one. -/
def deployment (app : Application) (wiring : Wiring) (old : Deployment) : Deployment :=
  let spec := old.spec.getD default
  { old with
    metadata := app.mark old.metadata
    spec := some { spec with
      replicas := app.replicasFor spec.replicas
      selector := .ofLabels app.selectorLabels
      template := app.podTemplate wiring spec.template } }

/-- The claim for the storage of each pod: the one that the application
gives, or one of the size that it names. -/
def storageClaim? (app : Application) : Option VolumeClaim := do
  let storage ← app.spec.storage
  match storage.claimTemplate with
  | some claim =>
    return { claim with metadata := { claim.metadata with name := some app.storageClaimName } }
  | none =>
    let size ← storage.size
    return {
      metadata := { (default : ObjectMeta) with
        name := some app.storageClaimName, labels := some app.selectorLabels }
      spec := some {
        accessModes := some ["ReadWriteOnce"]
        resources := some { requests := some (.singleton "storage" size), other := default }
        other := default }
      other := default }

/-- **The stateful set of the application**, set in a stored one. Its claims
cannot change once they are made, so claims that are there stay. -/
def statefulSet (app : Application) (wiring : Wiring) (old : StatefulSet) : StatefulSet :=
  let spec := old.spec.getD default
  { old with
    metadata := app.mark old.metadata
    spec := some { spec with
      replicas := app.replicasFor spec.replicas
      serviceName := app.headlessServiceName
      podManagementPolicy := some "Parallel"
      selector := .ofLabels app.selectorLabels
      volumeClaimTemplates :=
        if (spec.volumeClaimTemplates.getD []).isEmpty then app.storageClaim?.map ([·])
        else spec.volumeClaimTemplates
      template := app.podTemplate wiring spec.template } }

/-- **The autoscaler of the application**, set in a stored one; without
autoscaling nothing is set. -/
def autoscaler (app : Application) (old : Autoscaler) : Autoscaler :=
  match app.spec.autoscaling with
  | none => old
  | some scaling =>
    { old with
      metadata := app.mark old.metadata
      spec := some
        { scaleTargetRef :=
            { apiVersion := some "apps/v1",
              kind := if app.usesStorage then "StatefulSet" else "Deployment", name := app.name }
          minReplicas := some scaling.least
          maxReplicas := scaling.maxReplicas.getD scaling.least
          targetCpu := scaling.targetCpu } }

end AppOperator.Application
