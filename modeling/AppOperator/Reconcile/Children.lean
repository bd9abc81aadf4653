import AppOperator.Child.Knative
import AppOperator.Child.Monitor
import AppOperator.Child.Route
import AppOperator.Child.Service
import AppOperator.Child.Workload
import AppOperator.Cluster.Discovery
import AppOperator.Layer.Stack
import AppOperator.Reconcile.Bindings

/-!
# All children of an application

A pass gives an application the children that it asks for and takes away
those that it does not ask for any more. The pods are run by one of three
kinds of object: a deployment, a stateful set where there is storage, or a
Knative service. Where the kind changes, the new object is made before the
old one is removed, unless that is a Knative service: it goes first.
-/

namespace AppOperator

namespace Access

/-- Sees to it that a child is there exactly if it is wanted. -/
def keep {α : Type} [ApiObject α] (wanted : Bool) (app : Application) (name : String)
    (update : α → α) : Access Unit :=
  if wanted then discard (writeOwn app name update) else discard (deleteOwn α app name)

/-- Sees to it that a child is not there. -/
def drop (α : Type) [ApiObject α] (app : Application) (name : String) : Access Unit :=
  discard (deleteOwn α app name)

/-- The account that the pods run under, unless one is named. -/
def account (app : Application) : Access Unit :=
  keep (Application.filled app.spec.serviceAccountName).isNone app app.name app.account

/-! ## Run as a Knative service

The Knative service is written first, and what would run the application otherwise is
removed after it, one child after the other. -/

/-- Runs the application as a Knative service. -/
def runKnative (apis : ClusterApis) (app : Application) (wiring : Wiring) : Access Unit := do
  if !apis.knative then throw (.apiUnavailable (apiOf KnativeService))
  discard (writeOwn app app.name (app.knativeService wiring))
  drop Deployment app app.name
  drop StatefulSet app app.name
  drop Service app app.name
  drop Service app app.headlessServiceName
  drop Autoscaler app app.name
  if apis.route then drop Route app app.name
  if apis.monitoring then drop ServiceMonitor app app.name

/-! ## Run by a deployment or a stateful set

Here the Knative service is removed first. Of deployment and stateful set the one that
is wanted is written before the other is removed. -/

/-- Runs the pods, with storage or without. -/
def runPods (app : Application) (wiring : Wiring) : Access Unit :=
  if app.usesStorage then do
    discard (writeOwn app app.headlessServiceName app.headlessService)
    discard (writeOwn app app.name (app.statefulSet wiring))
    drop Deployment app app.name
  else do
    discard (writeOwn app app.name (app.deployment wiring))
    drop StatefulSet app app.name
    drop Service app app.headlessServiceName

/-- Reads the certificates that the application names for its route. -/
def certificates (app : Application) : Access (Option Certificates) :=
  match Application.filled (app.spec.route.bind (·.certificateSecretRef)) with
  | none => return none
  | some name => do
    let ns := app.metadata.nsOrEmpty
    match ← lookUp Secret ns name with
    | some secret => return some (.ofSecret secret)
    | none => throw (Credentials.secretMissing ns name)

/-- Makes the application reachable from outside if it is exposed. -/
def expose (settings : Settings) (app : Application) : Access Unit :=
  if app.isExposed then do
    let found ← certificates app
    discard (writeOwn app app.name (app.route settings.defaultHostName found))
  else drop Route app app.name

/-- Runs the application by a deployment or a stateful set. -/
def runWorkload (apis : ClusterApis) (settings : Settings) (app : Application) (wiring : Wiring) :
    Access Unit := do
  if apis.knative then drop KnativeService app app.name
  discard (writeOwn app app.name app.service)
  runPods app wiring
  keep app.spec.autoscaling.isSome app app.name app.autoscaler
  if apis.route then expose settings app
  if apis.monitoring then keep app.spec.monitoring.isSome app app.name app.serviceMonitor

/-- Runs the application. -/
def launch (apis : ClusterApis) (settings : Settings) (app : Application) (wiring : Wiring) :
    Access Unit :=
  if app.usesKnative then runKnative apis app wiring else runWorkload apis settings app wiring

end Access

/-- **Brings all children of an application up to date.** -/
def Pass.children (apis : ClusterApis) (settings : Settings) (app : Application) : Pass Unit := do
  Access.account app
  let b ← Pass.bindings app
  Access.launch apis settings app b.wiring

end AppOperator
