import AppOperator.Kubernetes.Volume

/-!
# Services and accounts

The name and port under which pods are reached, and the account they act as.

The operator sets the type, the selector and the ports of a service and the secrets by
which an account pulls images. The address has a field of its own because the second
service of an application is one without an address. What else a service asks for,
such as how traffic from outside is led to it, is carried along in `other`.
-/

namespace AppOperator

/-- What a service's port carries that the operator has no rule for. -/
def ServicePort.otherTable : Table := .of [opt "appProtocol" .text]

/-- **A port of a service.** -/
structure ServicePort where
  /-- The name. -/
  name : Option String
  /-- The number. -/
  port : Int32
  /-- The port of the pods that it leads to. -/
  targetPort : Option IntOrText
  /-- The transport. -/
  protocol : Option String
  /-- The port of every node that leads to it. -/
  nodePort : Option Int32
  /-- What else it carries. -/
  other : ServicePort.otherTable.Val
deriving DecidableEq

instance : Shaped ServicePort where
  shape := .record .platform <| .of [
    opt "name" .text, req "port" .int32, opt "targetPort" .intOrText, opt "protocol" .text,
    opt "nodePort" .int32] ServicePort.otherTable
  ofVal := fun (name, port, targetPort, protocol, nodePort, other) =>
    { name, port, targetPort, protocol, nodePort, other }
  toVal p := (p.name, p.port, p.targetPort, p.protocol, p.nodePort, p.other)
  ofVal_toVal _ := rfl
  toVal_ofVal _ := rfl

instance : Inhabited ServicePort := ⟨blank ServicePort⟩

/-- What a service asks for that the operator has no rule for. -/
def ServiceSpec.otherTable : Table := .of [
  opt "allocateLoadBalancerNodePorts" .flag, opt "clusterIPs" (.list .text),
  opt "externalIPs" (.list .text), opt "externalName" .text, opt "externalTrafficPolicy" .text,
  opt "healthCheckNodePort" .int32, opt "internalTrafficPolicy" .text,
  opt "ipFamilies" (.list .text), opt "ipFamilyPolicy" .text, opt "loadBalancerClass" .text,
  opt "loadBalancerIP" .text, opt "loadBalancerSourceRanges" (.list .text),
  opt "publishNotReadyAddresses" .flag, opt "sessionAffinity" .text,
  opt "sessionAffinityConfig" (.record .platform <| .of [
    opt "clientIP" (.record .platform <| .of [opt "timeoutSeconds" .int32])])]

/-- **What a service asks for.** -/
structure ServiceSpec where
  /-- How far it can be reached from. -/
  type : Option String
  /-- Its address in the cluster; `None` for a service without one. -/
  clusterIP : Option String
  /-- The labels of the pods it leads to. -/
  selector : Option Labels
  /-- Its ports. -/
  ports : Option (List ServicePort)
  /-- What else it asks for. -/
  other : ServiceSpec.otherTable.Val
deriving DecidableEq

instance : Shaped ServiceSpec where
  shape := .record .platform <| .of [
    opt "type" .text, opt "clusterIP" .text, opt "selector" (.map .text),
    opt "ports" (.list (shapeOf ServicePort))] ServiceSpec.otherTable
  ofVal := fun (type, clusterIP, selector, ports, other) =>
    { type, clusterIP, selector, ports := ports.map ofVals, other }
  toVal s := (s.type, s.clusterIP, s.selector, s.ports.map toVals, s.other)
  ofVal_toVal _ := by simp
  toVal_ofVal _ := by simp

instance : Inhabited ServiceSpec := ⟨blank ServiceSpec⟩

/-- How a service fares. -/
def Service.otherTable : Table := .of [
  opt "status" (.record .platform <| .of [
    opt "conditions" (.list (.record .platform <| .of [
      req "lastTransitionTime" .timestamp, req "message" .text, opt "observedGeneration" .int64,
      req "reason" .text, req "status" .text, req "type" .text])),
    opt "loadBalancer" (.record .platform <| .of [
      opt "ingress" (.list (.record .platform <| .of [
        opt "hostname" .text, opt "ip" .text,
        opt "ports" (.list (.record .platform <| .of [
          opt "error" .text, req "port" .int32, req "protocol" .text]))]))])])]

/-- **A service**: one name and port for many pods. -/
structure Service where
  /-- The metadata. -/
  metadata : ObjectMeta
  /-- What it asks for. -/
  spec : Option ServiceSpec
  /-- How it fares. -/
  other : Service.otherTable.Val
deriving DecidableEq

instance : ApiObject Service where
  shape := .record (.object "v1" "Service") <| .of [
    req "metadata" (shapeOf ObjectMeta), opt "spec" (shapeOf ServiceSpec)] Service.otherTable
  ofVal := fun (metadata, spec, other) =>
    { metadata := ofVal metadata, spec := spec.map ofVal, other }
  toVal s := (toVal s.metadata, s.spec.map toVal, s.other)
  ofVal_toVal _ := by simp
  toVal_ofVal _ := by simp
  objectType := ⟨"v1", "Service"⟩
  metadata s := s.metadata
  withMetadata s m := { s with metadata := m }
  metadata_withMetadata _ _ := rfl
  withMetadata_metadata _ := rfl
  withMetadata_withMetadata _ _ _ := rfl

/-- What an account carries that the operator has no rule for. -/
def ServiceAccount.otherTable : Table := .of [
  opt "automountServiceAccountToken" .flag,
  opt "secrets" (.list (.record .platform <| .of [
    opt "apiVersion" .text, opt "fieldPath" .text, opt "kind" .text, opt "name" .text,
    opt "namespace" .text, opt "resourceVersion" .text, opt "uid" .text]))]

/-- **The account that pods act as.** -/
structure ServiceAccount where
  /-- The metadata. -/
  metadata : ObjectMeta
  /-- The secrets by which its pods pull images. -/
  imagePullSecrets : Option (List LocalReference)
  /-- What else it carries. -/
  other : ServiceAccount.otherTable.Val
deriving DecidableEq

instance : ApiObject ServiceAccount where
  shape := .record (.object "v1" "ServiceAccount") <| .of [
    req "metadata" (shapeOf ObjectMeta),
    opt "imagePullSecrets" (.list (shapeOf LocalReference))] ServiceAccount.otherTable
  ofVal := fun (metadata, secrets, other) =>
    { metadata := ofVal metadata, imagePullSecrets := secrets.map ofVals, other }
  toVal a := (toVal a.metadata, a.imagePullSecrets.map toVals, a.other)
  ofVal_toVal _ := by simp
  toVal_ofVal _ := by simp
  objectType := ⟨"v1", "ServiceAccount"⟩
  metadata a := a.metadata
  withMetadata a m := { a with metadata := m }
  metadata_withMetadata _ _ := rfl
  withMetadata_metadata _ := rfl
  withMetadata_withMetadata _ _ _ := rfl

end AppOperator
