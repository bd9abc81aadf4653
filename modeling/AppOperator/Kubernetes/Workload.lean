import AppOperator.Kubernetes.Pod

/-!
# Workloads

The objects that keep pods running: deployments, stateful sets, and the
autoscaler that sets their number of replicas.

Fields that the operator sets have names here. How a workload rolls out, how it fares
and the like stand in `other`, in the forms that the cluster gives them, and are
written back as they were read: a change of the rollout that someone made by hand
survives every reconcile.
-/

namespace AppOperator

/-- How a deployment rolls out. -/
def DeploymentSpec.otherTable : Table := .of [
  opt "minReadySeconds" .int32, opt "paused" .flag, opt "progressDeadlineSeconds" .int32,
  opt "revisionHistoryLimit" .int32,
  opt "strategy" (.record .platform <| .of [
    opt "rollingUpdate" (.record .platform <| .of [
      opt "maxSurge" .intOrText, opt "maxUnavailable" .intOrText]),
    opt "type" .text])]

/-- **What a deployment asks for.** -/
structure DeploymentSpec where
  /-- The number of pods. -/
  replicas : Option Int32
  /-- Which pods are its own. -/
  selector : LabelSelector
  /-- What its pods look like. -/
  template : PodTemplate
  /-- How it rolls out. -/
  other : DeploymentSpec.otherTable.Val
deriving DecidableEq

instance : Shaped DeploymentSpec where
  shape := .record .platform <| .of [
    opt "replicas" .int32, req "selector" (shapeOf LabelSelector),
    req "template" (shapeOf PodTemplate)] DeploymentSpec.otherTable
  ofVal := fun (replicas, selector, template, other) =>
    { replicas, selector := ofVal selector, template := ofVal template, other }
  toVal s := (s.replicas, toVal s.selector, toVal s.template, s.other)
  ofVal_toVal _ := by simp
  toVal_ofVal _ := by simp

instance : Inhabited DeploymentSpec := ⟨blank DeploymentSpec⟩

/-- How a deployment fares. -/
def Deployment.otherTable : Table := .of [
  opt "status" (.record .platform <| .of [
    opt "availableReplicas" .int32, opt "collisionCount" .int32,
    opt "conditions" (.list (.record .platform <| .of [
      opt "lastTransitionTime" .timestamp, opt "lastUpdateTime" .timestamp, opt "message" .text,
      opt "reason" .text, req "status" .text, req "type" .text])),
    opt "observedGeneration" .int64, opt "readyReplicas" .int32, opt "replicas" .int32,
    opt "unavailableReplicas" .int32, opt "updatedReplicas" .int32])]

/-- **A deployment**: interchangeable pods. -/
structure Deployment where
  /-- The metadata. -/
  metadata : ObjectMeta
  /-- What it asks for. -/
  spec : Option DeploymentSpec
  /-- How it fares. -/
  other : Deployment.otherTable.Val
deriving DecidableEq

instance : ApiObject Deployment where
  shape := .record (.object "apps/v1" "Deployment") <| .of [
    req "metadata" (shapeOf ObjectMeta), opt "spec" (shapeOf DeploymentSpec)] Deployment.otherTable
  ofVal := fun (metadata, spec, other) =>
    { metadata := ofVal metadata, spec := spec.map ofVal, other }
  toVal d := (toVal d.metadata, d.spec.map toVal, d.other)
  ofVal_toVal _ := by simp
  toVal_ofVal _ := by simp
  objectType := ⟨"apps/v1", "Deployment"⟩
  metadata d := d.metadata
  withMetadata d m := { d with metadata := m }
  metadata_withMetadata _ _ := rfl
  withMetadata_metadata _ := rfl
  withMetadata_withMetadata _ _ _ := rfl

/-- How a stateful set rolls out. -/
def StatefulSetSpec.otherTable : Table := .of [
  opt "minReadySeconds" .int32, opt "ordinals" (.record .platform <| .of [opt "start" .int32]),
  opt "persistentVolumeClaimRetentionPolicy" (.record .platform <| .of [
    opt "whenDeleted" .text, opt "whenScaled" .text]),
  opt "revisionHistoryLimit" .int32,
  opt "updateStrategy" (.record .platform <| .of [
    opt "rollingUpdate" (.record .platform <| .of [
      opt "maxUnavailable" .intOrText, opt "partition" .int32]),
    opt "type" .text])]

/-- **What a stateful set asks for.** -/
structure StatefulSetSpec where
  /-- The number of pods. -/
  replicas : Option Int32
  /-- The service that gives its pods their names. -/
  serviceName : String
  /-- Whether pods start one after the other. -/
  podManagementPolicy : Option String
  /-- Which pods are its own. -/
  selector : LabelSelector
  /-- The claims made for each pod. -/
  volumeClaimTemplates : Option (List VolumeClaim)
  /-- What its pods look like. -/
  template : PodTemplate
  /-- How it rolls out. -/
  other : StatefulSetSpec.otherTable.Val
deriving DecidableEq

instance : Shaped StatefulSetSpec where
  shape := .record .platform <| .of [
    opt "replicas" .int32, req "serviceName" .text, opt "podManagementPolicy" .text,
    req "selector" (shapeOf LabelSelector),
    opt "volumeClaimTemplates" (.list (shapeOf VolumeClaim)),
    req "template" (shapeOf PodTemplate)] StatefulSetSpec.otherTable
  ofVal := fun (replicas, serviceName, podManagementPolicy, selector, claims, template, other) =>
    { replicas, serviceName, podManagementPolicy, selector := ofVal selector,
      volumeClaimTemplates := claims.map ofVals, template := ofVal template, other }
  toVal s := (s.replicas, s.serviceName, s.podManagementPolicy, toVal s.selector,
    s.volumeClaimTemplates.map toVals, toVal s.template, s.other)
  ofVal_toVal _ := by simp
  toVal_ofVal _ := by simp

instance : Inhabited StatefulSetSpec := ⟨blank StatefulSetSpec⟩

/-- How a stateful set fares. -/
def StatefulSet.otherTable : Table := .of [
  opt "status" (.record .platform <| .of [
    opt "availableReplicas" .int32, opt "collisionCount" .int32,
    opt "conditions" (.list (.record .platform <| .of [
      opt "lastTransitionTime" .timestamp, opt "message" .text, opt "reason" .text,
      req "status" .text, req "type" .text])),
    opt "currentReplicas" .int32, opt "currentRevision" .text, opt "observedGeneration" .int64,
    opt "readyReplicas" .int32, req "replicas" .int32, opt "updateRevision" .text,
    opt "updatedReplicas" .int32])]

/-- **A stateful set**: pods with names and storage of their own. -/
structure StatefulSet where
  /-- The metadata. -/
  metadata : ObjectMeta
  /-- What it asks for. -/
  spec : Option StatefulSetSpec
  /-- How it fares. -/
  other : StatefulSet.otherTable.Val
deriving DecidableEq

instance : ApiObject StatefulSet where
  shape := .record (.object "apps/v1" "StatefulSet") <| .of [
    req "metadata" (shapeOf ObjectMeta), opt "spec" (shapeOf StatefulSetSpec)]
    StatefulSet.otherTable
  ofVal := fun (metadata, spec, other) =>
    { metadata := ofVal metadata, spec := spec.map ofVal, other }
  toVal s := (toVal s.metadata, s.spec.map toVal, s.other)
  ofVal_toVal _ := by simp
  toVal_ofVal _ := by simp
  objectType := ⟨"apps/v1", "StatefulSet"⟩
  metadata s := s.metadata
  withMetadata s m := { s with metadata := m }
  metadata_withMetadata _ _ := rfl
  withMetadata_metadata _ := rfl
  withMetadata_withMetadata _ _ _ := rfl

/-- **The workload that an autoscaler scales.** -/
structure ScaleTarget where
  /-- The API group and version. -/
  apiVersion : Option String
  /-- The type. -/
  kind : String
  /-- The name. -/
  name : String
deriving DecidableEq

instance : Shaped ScaleTarget where
  shape := .record .platform <| .of [
    opt "apiVersion" .text, req "kind" .text, req "name" .text]
  ofVal := fun (apiVersion, kind, name, ()) => { apiVersion, kind, name }
  toVal t := (t.apiVersion, t.kind, t.name, ())
  ofVal_toVal _ := rfl
  toVal_ofVal _ := rfl

/-- **What an autoscaler asks for.** -/
structure AutoscalerSpec where
  /-- What it scales. -/
  scaleTargetRef : ScaleTarget
  /-- The fewest pods. -/
  minReplicas : Option Int32
  /-- The most pods. -/
  maxReplicas : Int32
  /-- The share of the requested processor time to aim at, in percent. -/
  targetCpu : Option Int32
deriving DecidableEq

instance : Shaped AutoscalerSpec where
  shape := .record .platform <| .of [
    req "scaleTargetRef" (shapeOf ScaleTarget), opt "minReplicas" .int32,
    req "maxReplicas" .int32, opt "targetCPUUtilizationPercentage" .int32]
  ofVal := fun (target, minReplicas, maxReplicas, targetCpu, ()) =>
    { scaleTargetRef := ofVal target, minReplicas, maxReplicas, targetCpu }
  toVal s := (toVal s.scaleTargetRef, s.minReplicas, s.maxReplicas, s.targetCpu, ())
  ofVal_toVal _ := by simp
  toVal_ofVal _ := by simp

instance : Inhabited AutoscalerSpec := ⟨blank AutoscalerSpec⟩

/-- How an autoscaler fares. -/
def Autoscaler.otherTable : Table := .of [
  opt "status" (.record .platform <| .of [
    opt "currentCPUUtilizationPercentage" .int32, req "currentReplicas" .int32,
    req "desiredReplicas" .int32, opt "lastScaleTime" .timestamp,
    opt "observedGeneration" .int64])]

/-- **An autoscaler.** -/
structure Autoscaler where
  /-- The metadata. -/
  metadata : ObjectMeta
  /-- What it asks for. -/
  spec : Option AutoscalerSpec
  /-- How it fares. -/
  other : Autoscaler.otherTable.Val
deriving DecidableEq

instance : ApiObject Autoscaler where
  shape := .record (.object "autoscaling/v1" "HorizontalPodAutoscaler") <| .of [
    req "metadata" (shapeOf ObjectMeta), opt "spec" (shapeOf AutoscalerSpec)] Autoscaler.otherTable
  ofVal := fun (metadata, spec, other) =>
    { metadata := ofVal metadata, spec := spec.map ofVal, other }
  toVal a := (toVal a.metadata, a.spec.map toVal, a.other)
  ofVal_toVal _ := by simp
  toVal_ofVal _ := by simp
  objectType := ⟨"autoscaling/v1", "HorizontalPodAutoscaler"⟩
  metadata a := a.metadata
  withMetadata a m := { a with metadata := m }
  metadata_withMetadata _ _ := rfl
  withMetadata_metadata _ := rfl
  withMetadata_withMetadata _ _ _ := rfl

end AppOperator
