import AppOperator.Kubernetes.Container

/-!
# Pods

The template that workloads stamp pods from, and pods themselves as far as
the operator looks at them.

Of a pod's affinity the operator writes what is said of nodes, and what is said of
other pods is carried along as it is. A pod that exists is looked at for its metadata
alone and never written. The template is what all workloads have in common, which is
why it has a type of its own.
-/

namespace AppOperator

/-- **One condition on a label of a node.** -/
structure NodeRequirement where
  /-- The label. -/
  key : String
  /-- How its value is compared. -/
  operator : String
  /-- What it is compared with. -/
  values : Option (List String)
deriving DecidableEq

instance : Shaped NodeRequirement where
  shape := .record .platform <| .of [
    req "key" .text, req "operator" .text, opt "values" (.list .text)]
  ofVal := fun (key, operator, values, ()) => { key, operator, values }
  toVal r := (r.key, r.operator, r.values, ())
  ofVal_toVal _ := rfl
  toVal_ofVal _ := rfl

/-- Conditions on a node's own fields. -/
def NodeTerm.otherTable : Table := .of [opt "matchFields" (.list (shapeOf NodeRequirement))]

/-- **Conditions on a node that hold together.** -/
structure NodeTerm where
  /-- Conditions on its labels. -/
  matchExpressions : Option (List NodeRequirement)
  /-- Conditions on its fields. -/
  other : NodeTerm.otherTable.Val
deriving DecidableEq

instance : Shaped NodeTerm where
  shape := .record .platform <| .of [
    opt "matchExpressions" (.list (shapeOf NodeRequirement))] NodeTerm.otherTable
  ofVal := fun (exprs, other) => { matchExpressions := exprs.map ofVals, other }
  toVal t := (t.matchExpressions.map toVals, t.other)
  ofVal_toVal _ := by simp
  toVal_ofVal _ := by simp

/-- **Nodes that satisfy one of some terms.** -/
structure NodeSelector where
  /-- The terms. -/
  terms : List NodeTerm
deriving DecidableEq

instance : Shaped NodeSelector where
  shape := .record .platform <| .of [req "nodeSelectorTerms" (.list (shapeOf NodeTerm))]
  ofVal := fun (terms, ()) => { terms := ofVals terms }
  toVal s := (toVals s.terms, ())
  ofVal_toVal _ := by simp
  toVal_ofVal _ := by simp

/-- **A term that is preferred, and how much.** -/
structure NodePreference where
  /-- The weight among the preferences. -/
  weight : Int32
  /-- The term. -/
  preference : NodeTerm
deriving DecidableEq

instance : Shaped NodePreference where
  shape := .record .platform <| .of [req "weight" .int32, req "preference" (shapeOf NodeTerm)]
  ofVal := fun (weight, preference, ()) => { weight, preference := ofVal preference }
  toVal p := (p.weight, toVal p.preference, ())
  ofVal_toVal _ := by simp
  toVal_ofVal _ := by simp

/-- **Which nodes a pod may or should run on.** -/
structure NodeAffinity where
  /-- The nodes it may run on. -/
  required : Option NodeSelector
  /-- The nodes it should run on. -/
  preferred : Option (List NodePreference)
deriving DecidableEq

instance : Shaped NodeAffinity where
  shape := .record .platform <| .of [
    opt "requiredDuringSchedulingIgnoredDuringExecution" (shapeOf NodeSelector),
    opt "preferredDuringSchedulingIgnoredDuringExecution" (.list (shapeOf NodePreference))]
  ofVal := fun (required, preferred, ()) =>
    { required := required.map ofVal, preferred := preferred.map ofVals }
  toVal a := (a.required.map toVal, a.preferred.map toVals, ())
  ofVal_toVal _ := by simp
  toVal_ofVal _ := by simp

/-- Pods to be near to or apart from. -/
def podTerm : Shape := .record .platform <| .of [
  opt "labelSelector" (shapeOf LabelSelector), opt "namespaceSelector" (shapeOf LabelSelector),
  opt "namespaces" (.list .text), req "topologyKey" .text]

/-- Pods that a pod should and must be near to or apart from. -/
def podAffinity : Shape := .record .platform <| .of [
  opt "preferredDuringSchedulingIgnoredDuringExecution" (.list (.record .platform <| .of [
    req "podAffinityTerm" podTerm, req "weight" .int32])),
  opt "requiredDuringSchedulingIgnoredDuringExecution" (.list podTerm)]

/-- What affinity says of other pods. -/
def Affinity.otherTable : Table := .of [
  opt "podAffinity" podAffinity, opt "podAntiAffinity" podAffinity]

/-- **Where a pod is scheduled.** -/
structure Affinity where
  /-- What is said of nodes. -/
  nodeAffinity : Option NodeAffinity
  /-- What is said of other pods. -/
  other : Affinity.otherTable.Val
deriving DecidableEq

instance : Shaped Affinity where
  shape := .record .platform <| .of [
    opt "nodeAffinity" (shapeOf NodeAffinity)] Affinity.otherTable
  ofVal := fun (nodeAffinity, other) => { nodeAffinity := nodeAffinity.map ofVal, other }
  toVal a := (a.nodeAffinity.map toVal, a.other)
  ofVal_toVal _ := by simp
  toVal_ofVal _ := by simp

/-- The privileges of all containers of a pod. -/
def podSecurityContext : Shape := .record .platform <| .of [
  opt "fsGroup" .int64, opt "fsGroupChangePolicy" .text, opt "runAsGroup" .int64,
  opt "runAsNonRoot" .flag, opt "runAsUser" .int64, opt "seLinuxOptions" seLinuxOptions,
  opt "seccompProfile" seccompProfile, opt "supplementalGroups" (.list .int64),
  opt "sysctls" (.list (.record .platform <| .of [req "name" .text, req "value" .text])),
  opt "windowsOptions" windowsOptions]

/-- What a pod asks for that the operator has no rule for. -/
def PodSpec.otherTable : Table := .of [
  opt "activeDeadlineSeconds" .int64, opt "automountServiceAccountToken" .flag,
  opt "dnsConfig" (.record .platform <| .of [
    opt "nameservers" (.list .text),
    opt "options" (.list (.record .platform <| .of [opt "name" .text, opt "value" .text])),
    opt "searches" (.list .text)]),
  opt "dnsPolicy" .text, opt "enableServiceLinks" .flag,
  opt "ephemeralContainers" (.list ephemeralContainer),
  opt "hostAliases" (.list (.record .platform <| .of [
    opt "hostnames" (.list .text), opt "ip" .text])),
  opt "hostIPC" .flag, opt "hostNetwork" .flag, opt "hostPID" .flag, opt "hostUsers" .flag,
  opt "hostname" .text, opt "nodeName" .text, opt "nodeSelector" (.map .text),
  opt "os" (.record .platform <| .of [req "name" .text]), opt "overhead" quantities,
  opt "preemptionPolicy" .text, opt "priority" .int32, opt "priorityClassName" .text,
  opt "readinessGates" (.list (.record .platform <| .of [req "conditionType" .text])),
  opt "resourceClaims" (.list (.record .platform <| .of [
    req "name" .text,
    opt "source" (.record .platform <| .of [
      opt "resourceClaimName" .text, opt "resourceClaimTemplateName" .text])])),
  opt "restartPolicy" .text, opt "runtimeClassName" .text, opt "schedulerName" .text,
  opt "schedulingGates" (.list (.record .platform <| .of [req "name" .text])),
  opt "securityContext" podSecurityContext, opt "serviceAccount" .text,
  opt "setHostnameAsFQDN" .flag, opt "shareProcessNamespace" .flag, opt "subdomain" .text,
  opt "terminationGracePeriodSeconds" .int64,
  opt "tolerations" (.list (.record .platform <| .of [
    opt "effect" .text, opt "key" .text, opt "operator" .text, opt "tolerationSeconds" .int64,
    opt "value" .text])),
  opt "topologySpreadConstraints" (.list (.record .platform <| .of [
    opt "labelSelector" (shapeOf LabelSelector), opt "matchLabelKeys" (.list .text),
    req "maxSkew" .int32, opt "minDomains" .int32, opt "nodeAffinityPolicy" .text,
    opt "nodeTaintsPolicy" .text, req "topologyKey" .text, req "whenUnsatisfiable" .text]))]

/-- **What a pod asks for.** -/
structure PodSpec where
  /-- The containers. -/
  containers : List Container
  /-- The containers that run to their end before those. -/
  initContainers : Option (List Container)
  /-- The volumes. -/
  volumes : Option (List Volume)
  /-- The account it acts as. -/
  serviceAccountName : Option String
  /-- The secrets by which images are pulled. -/
  imagePullSecrets : Option (List LocalReference)
  /-- Where it is scheduled. -/
  affinity : Option Affinity
  /-- What else it asks for. -/
  other : PodSpec.otherTable.Val
deriving DecidableEq

namespace PodSpec

/-- The fields of a pod's specification. -/
@[reducible] def table : Table := .of [
  req "containers" (.list (shapeOf Container)), opt "initContainers" (.list (shapeOf Container)),
  opt "volumes" (.list (shapeOf Volume)), opt "serviceAccountName" .text,
  opt "imagePullSecrets" (.list (shapeOf LocalReference)), opt "affinity" (shapeOf Affinity)]
  otherTable

instance : Shaped PodSpec where
  shape := .record .platform table
  ofVal := fun (containers, initContainers, volumes, serviceAccountName, pullSecrets, affinity,
      other) =>
    { containers := ofVals containers, initContainers := initContainers.map ofVals,
      volumes := volumes.map ofVals, serviceAccountName,
      imagePullSecrets := pullSecrets.map ofVals, affinity := affinity.map ofVal, other }
  toVal s := (toVals s.containers, s.initContainers.map toVals, s.volumes.map toVals,
    s.serviceAccountName, s.imagePullSecrets.map toVals, s.affinity.map toVal, s.other)
  ofVal_toVal _ := by simp
  toVal_ofVal _ := by simp

instance : Inhabited PodSpec := ⟨blank PodSpec⟩

end PodSpec

/-- **The template that a workload stamps pods from.** -/
structure PodTemplate where
  /-- The metadata of each pod. -/
  metadata : Option ObjectMeta
  /-- What each pod asks for. -/
  spec : Option PodSpec
deriving DecidableEq

instance : Shaped PodTemplate where
  shape := .record .platform <| .of [
    opt "metadata" (shapeOf ObjectMeta), opt "spec" (shapeOf PodSpec)]
  ofVal := fun (metadata, spec, ()) => { metadata := metadata.map ofVal, spec := spec.map ofVal }
  toVal t := (t.metadata.map toVal, t.spec.map toVal, ())
  ofVal_toVal _ := by simp
  toVal_ofVal _ := by simp

instance : Inhabited PodTemplate := ⟨blank PodTemplate⟩

/-- What a container is doing or did last. -/
def containerState : Shape := .record .platform <| .of [
  opt "running" (.record .platform <| .of [opt "startedAt" .timestamp]),
  opt "terminated" (.record .platform <| .of [
    opt "containerID" .text, req "exitCode" .int32, opt "finishedAt" .timestamp,
    opt "message" .text, opt "reason" .text, opt "signal" .int32, opt "startedAt" .timestamp]),
  opt "waiting" (.record .platform <| .of [opt "message" .text, opt "reason" .text])]

/-- The status of a container. -/
def containerStatus : Shape := .record .platform <| .of [
  opt "allocatedResources" quantities, opt "containerID" .text, req "image" .text,
  req "imageID" .text, opt "lastState" containerState, req "name" .text, req "ready" .flag,
  opt "resources" (shapeOf Resources), req "restartCount" .int32, opt "started" .flag,
  opt "state" containerState]

/-- The status of a pod. -/
def podStatus : Shape := .record .platform <| .of [
  opt "conditions" (.list (.record .platform <| .of [
    opt "lastProbeTime" .timestamp, opt "lastTransitionTime" .timestamp, opt "message" .text,
    opt "reason" .text, req "status" .text, req "type" .text])),
  opt "containerStatuses" (.list containerStatus),
  opt "ephemeralContainerStatuses" (.list containerStatus), opt "hostIP" .text,
  opt "hostIPs" (.list (.record .platform <| .of [opt "ip" .text])),
  opt "initContainerStatuses" (.list containerStatus), opt "message" .text,
  opt "nominatedNodeName" .text, opt "phase" .text, opt "podIP" .text,
  opt "podIPs" (.list (.record .platform <| .of [opt "ip" .text])), opt "qosClass" .text,
  opt "reason" .text, opt "resize" .text,
  opt "resourceClaimStatuses" (.list (.record .platform <| .of [
    req "name" .text, opt "resourceClaimName" .text])),
  opt "startTime" .timestamp]

/-- What a pod carries besides its metadata. -/
def Pod.otherTable : Table := .of [opt "spec" (shapeOf PodSpec), opt "status" podStatus]

/-- **A pod.** -/
structure Pod where
  /-- The metadata. -/
  metadata : ObjectMeta
  /-- What it asks for and how it fares. -/
  other : Pod.otherTable.Val
deriving DecidableEq

instance : ApiObject Pod where
  shape := .record (.object "v1" "Pod") <| .of [req "metadata" (shapeOf ObjectMeta)] Pod.otherTable
  ofVal := fun (metadata, other) => { metadata := ofVal metadata, other }
  toVal p := (toVal p.metadata, p.other)
  ofVal_toVal _ := by simp
  toVal_ofVal _ := by simp
  objectType := ⟨"v1", "Pod"⟩
  metadata p := p.metadata
  withMetadata p m := { p with metadata := m }
  metadata_withMetadata _ _ := rfl
  withMetadata_metadata _ := rfl
  withMetadata_withMetadata _ _ _ := rfl

end AppOperator
