import AppOperator.Kubernetes.Pod

/-!
# Knative services

A Knative service runs an application by itself, in revisions that it scales
with the traffic, and stands in for workload, service and autoscaler.
Clusters may or may not serve this API.

A revision is a pod with a few fields of Knative's own, and all of them share one
object. So the table of a revision is its own fields followed by the table of a pod,
and the pod is a part of the revision that can be changed on its own.
-/

namespace AppOperator

/-- **What a revision asks for**: a pod, and how requests are given to it. -/
structure RevisionSpec where
  /-- The number of requests a pod is given at once. -/
  containerConcurrency : Option Int64
  /-- How long a request may take. -/
  timeoutSeconds : Option Int64
  /-- How long a request may wait for its response to begin. -/
  responseStartTimeoutSeconds : Option Int64
  /-- How long a response may pause. -/
  idleTimeoutSeconds : Option Int64
  /-- The pod, whose fields share the revision's object. -/
  pod : PodSpec
deriving DecidableEq

instance : Shaped RevisionSpec where
  shape := .record .shared <| .of [
    opt "containerConcurrency" .int64, opt "timeoutSeconds" .int64,
    opt "responseStartTimeoutSeconds" .int64, opt "idleTimeoutSeconds" .int64] PodSpec.table
  ofVal := fun (concurrency, timeout, responseStart, idle, pod) =>
    { containerConcurrency := concurrency, timeoutSeconds := timeout,
      responseStartTimeoutSeconds := responseStart, idleTimeoutSeconds := idle,
      pod := ofVal (α := PodSpec) pod }
  toVal r := (r.containerConcurrency, r.timeoutSeconds, r.responseStartTimeoutSeconds,
    r.idleTimeoutSeconds, toVal r.pod)
  ofVal_toVal _ := by simp
  toVal_ofVal := fun (c, t, r, i, pod) => by
    show (c, t, r, i, toVal (α := PodSpec) (ofVal pod)) = _
    rw [Shaped.toVal_ofVal]

instance : Inhabited RevisionSpec := ⟨blank RevisionSpec⟩

/-- **The template of revisions.** -/
structure RevisionTemplate where
  /-- The metadata of each revision. -/
  metadata : Option ObjectMeta
  /-- What each revision asks for. -/
  spec : Option RevisionSpec
deriving DecidableEq

instance : Shaped RevisionTemplate where
  shape := .record .custom <| .of [
    opt "metadata" (shapeOf ObjectMeta), opt "spec" (shapeOf RevisionSpec)]
  ofVal := fun (metadata, spec, ()) => { metadata := metadata.map ofVal, spec := spec.map ofVal }
  toVal t := (t.metadata.map toVal, t.spec.map toVal, ())
  ofVal_toVal _ := by simp
  toVal_ofVal _ := by simp

instance : Inhabited RevisionTemplate := ⟨blank RevisionTemplate⟩

/-- **A share of the traffic.** -/
structure TrafficTarget where
  /-- A name of its own for the share. -/
  tag : Option String
  /-- The revision. -/
  revisionName : Option String
  /-- The configuration whose latest revision it is. -/
  configurationName : Option String
  /-- Whether it is the latest revision. -/
  latestRevision : Option Bool
  /-- The share in percent. -/
  percent : Option Int64
  /-- The address. -/
  url : Option String
deriving DecidableEq

instance : Shaped TrafficTarget where
  shape := .record .custom <| .of [
    opt "tag" .text, opt "revisionName" .text, opt "configurationName" .text,
    opt "latestRevision" .flag, opt "percent" .int64, opt "url" .text]
  ofVal := fun (tag, revisionName, configurationName, latestRevision, percent, url, ()) =>
    { tag, revisionName, configurationName, latestRevision, percent, url }
  toVal t := (t.tag, t.revisionName, t.configurationName, t.latestRevision, t.percent, t.url, ())
  ofVal_toVal _ := rfl
  toVal_ofVal _ := rfl

/-- **What a Knative service asks for.** -/
structure KnativeSpec where
  /-- What its revisions look like. -/
  template : Option RevisionTemplate
  /-- How the traffic is shared among them. -/
  traffic : Option (List TrafficTarget)
deriving DecidableEq

instance : Shaped KnativeSpec where
  shape := .record .custom <| .of [
    opt "template" (shapeOf RevisionTemplate), opt "traffic" (.list (shapeOf TrafficTarget))]
  ofVal := fun (template, traffic, ()) =>
    { template := template.map ofVal, traffic := traffic.map ofVals }
  toVal s := (s.template.map toVal, s.traffic.map toVals, ())
  ofVal_toVal _ := by simp
  toVal_ofVal _ := by simp

/-- The API that serves Knative services. -/
def KnativeService.apiVersion : String := "serving.knative.dev/v1"

/-- **A Knative service.** -/
structure KnativeService where
  /-- The metadata. -/
  metadata : ObjectMeta
  /-- What it asks for. -/
  spec : KnativeSpec
deriving DecidableEq

instance : ApiObject KnativeService where
  shape := .record (.resource KnativeService.apiVersion "Service") <| .of [
    given "metadata" (shapeOf ObjectMeta), given "spec" (shapeOf KnativeSpec)]
  ofVal := fun (metadata, spec, ()) => { metadata := ofVal metadata, spec := ofVal spec }
  toVal s := (toVal s.metadata, toVal s.spec, ())
  ofVal_toVal _ := by simp
  toVal_ofVal _ := by simp
  objectType := ⟨KnativeService.apiVersion, "Service"⟩
  metadata s := s.metadata
  withMetadata s m := { s with metadata := m }
  metadata_withMetadata _ _ := rfl
  withMetadata_metadata _ := rfl
  withMetadata_withMetadata _ _ _ := rfl

end AppOperator
