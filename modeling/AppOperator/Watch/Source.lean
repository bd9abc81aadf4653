import AppOperator.Cluster.Discovery
import AppOperator.Kubernetes.Pod
import AppOperator.Kubernetes.Service
import AppOperator.Operator.Config
import AppOperator.Watch.Dependents

/-!
# What is watched

The operator watches the applications, the children that it makes for them
and the objects that they depend on. Each watch says which objects it covers
and which applications a change of one of them concerns. A type whose API the
cluster did not serve when the operator started is not watched.

A type may have two watches: secrets are watched for their owners and for those who
refer to them. An object of such a type is looked at by each watch for itself, and the
answers are put one after the other.
-/

namespace AppOperator

/-- **Which applications a change of a watched object concerns.** -/
inductive Concern where
  /-- The application that changed. -/
  | itself
  /-- The applications that own the object. -/
  | owners
  /-- The application that the pod runs. -/
  | running
  /-- The applications that refer to the secret. -/
  | usingSecret
  /-- The applications that refer to the image stream. -/
  | usingStream
deriving DecidableEq

/-- **A watch.** -/
structure Watch where
  /-- The type of the objects. -/
  type : ObjectType
  /-- Their namespace; without one it is any. -/
  ns : Option String
  /-- A label that they have, if one is asked for. -/
  selector : Option (String × String) := none
  /-- Whom a change concerns. -/
  concern : Concern
  /-- The metadata of an object of the type. -/
  metadataOf : Json → Option ObjectMeta

namespace Watch

/-- A watch on the objects of a type. -/
def on (α : Type) [ApiObject α] (ns : Option String) (concern : Concern) : Watch :=
  { type := objectType (α := α), ns, concern, metadataOf := fun j => (decode α j).map metadata }

/-- **All watches** of an operator. -/
def all (config : Config) (apis : ClusterApis) : List Watch :=
  let ns := config.watchNs
  let only (served : Bool) (w : Watch) : List Watch := if served then [w] else []
  [on Application ns .itself, on Deployment ns .owners, on StatefulSet ns .owners,
    on Service ns .owners, on ServiceAccount ns .owners, on Autoscaler ns .owners,
    on Secret ns .owners]
  ++ only apis.route (on Route ns .owners)
  ++ only apis.knative (on KnativeService ns .owners)
  ++ only apis.monitoring (on ServiceMonitor ns .owners)
  ++ [{ on Pod ns .running with selector := some (Label.managedBy, operatorName) },
    on Secret ns .usingSecret]
  ++ only apis.image (on ImageStream ns .usingStream)

/-- The selector as it is asked for. -/
def selectorText (w : Watch) : Option String :=
  w.selector.map fun (key, value) => key ++ "=" ++ value

/-- **Whether a watch covers an object.** -/
def covers (w : Watch) (object : Json) : Bool :=
  let key := ObjectKey.shownBy object
  let labels := ((object.get? "metadata").bind (·.get? "labels")).getD .null
  w.type.apiVersion = key.apiVersion && w.type.kind = key.kind && w.ns.all (· = key.ns)
    && w.selector.all fun (label, value) => labels.text? label = some value

/-- The applications among the owners of an object. -/
def ofOwners (object : ObjectMeta) : List ApplicationRef :=
  (object.owners.filter fun r =>
    r.apiVersion = Application.apiVersion && r.kind = Application.kind).map
    fun r => { ns := object.ns, name := r.name }

/-- **The applications that a change of a watched object concerns**, of those
that are known where it takes asking them. -/
def concernedBy (w : Watch) (object : ObjectMeta) (known : List Application) :
    List ApplicationRef :=
  match w.concern with
  | .itself => [{ ns := object.ns, name := object.anyName }]
  | .owners => ofOwners object
  | .running => (ofPod object).toList
  | .usingSecret => ofSecret object known
  | .usingStream => ofStream object known

end Watch
end AppOperator
