import AppOperator.Kubernetes.Metadata

/-!
# Volumes and claims

What a pod can mount and where it mounts it. The operator has rules for the
name of a volume, for volumes made from a secret and for claims; every other
source of a volume is carried along as it was read.

The sources of a volume are many, and each has a form of its own in the cluster. They
are listed as one table of shapes, by which they are read and written and otherwise
left alone.
-/

namespace AppOperator

/-- A reference to an object of the same namespace by name alone. -/
structure LocalReference where
  /-- The name. -/
  name : Option String
deriving DecidableEq

instance : Shaped LocalReference where
  shape := .record .platform <| .of [opt "name" .text]
  ofVal := fun (name, ()) => { name }
  toVal r := (r.name, ())
  ofVal_toVal _ := rfl
  toVal_ofVal _ := rfl

/-- A file for one key of a map or secret. -/
def keyToPath : Shape := .record .platform <| .of [
  req "key" .text, opt "mode" .int32, req "path" .text]

/-- A field of the pod itself. -/
def fieldSelector : Shape := .record .platform <| .of [
  opt "apiVersion" .text, req "fieldPath" .text]

/-- A resource limit or request of a container. -/
def resourceFieldSelector : Shape := .record .platform <| .of [
  opt "containerName" .text, opt "divisor" .text, req "resource" .text]

/-- A file that holds a field of the pod. -/
def downwardFile : Shape := .record .platform <| .of [
  opt "fieldRef" fieldSelector, opt "mode" .int32, req "path" .text,
  opt "resourceFieldRef" resourceFieldSelector]

/-- The amounts of resources, by name. -/
def quantities : Shape := .map .text

/-- What resources carries besides the requests. -/
def Resources.otherTable : Table := .of [
  opt "claims" (.list (.record .platform <| .of [req "name" .text])), opt "limits" quantities]

/-- **The resources that a container or claim asks for.** -/
structure Resources where
  /-- The amounts needed. -/
  requests : Option Labels
  /-- The amounts allowed and the devices claimed. -/
  other : Resources.otherTable.Val
deriving DecidableEq

instance : Shaped Resources where
  shape := .record .platform <| .of [opt "requests" (.map .text)] Resources.otherTable
  ofVal := fun (requests, other) => { requests, other }
  toVal r := (r.requests, r.other)
  ofVal_toVal _ := rfl
  toVal_ofVal _ := rfl

/-- What a claim asks for besides its access modes and resources. -/
def ClaimSpec.otherTable : Table := .of [
  opt "dataSource" (.record .platform <| .of [
    opt "apiGroup" .text, req "kind" .text, req "name" .text]),
  opt "dataSourceRef" (.record .platform <| .of [
    opt "apiGroup" .text, req "kind" .text, req "name" .text, opt "namespace" .text]),
  opt "selector" (shapeOf LabelSelector), opt "storageClassName" .text, opt "volumeMode" .text,
  opt "volumeName" .text]

/-- **What a claim asks for.** -/
structure ClaimSpec where
  /-- How the volume may be mounted. -/
  accessModes : Option (List String)
  /-- The size and other amounts. -/
  resources : Option Resources
  /-- What else is asked for. -/
  other : ClaimSpec.otherTable.Val
deriving DecidableEq

instance : Shaped ClaimSpec where
  shape := .record .platform <| .of [
    opt "accessModes" (.list .text), opt "resources" (shapeOf Resources)] ClaimSpec.otherTable
  ofVal := fun (accessModes, resources, other) =>
    { accessModes, resources := resources.map ofVal, other }
  toVal c := (c.accessModes, c.resources.map toVal, c.other)
  ofVal_toVal _ := by simp
  toVal_ofVal _ := by simp

/-- What a claim carries besides its metadata and what it asks for. -/
def VolumeClaim.otherTable : Table := .of [
  opt "status" (.record .platform <| .of [
    opt "accessModes" (.list .text), opt "allocatedResourceStatuses" (.map .text),
    opt "allocatedResources" quantities, opt "capacity" quantities,
    opt "conditions" (.list (.record .platform <| .of [
      opt "lastProbeTime" .timestamp, opt "lastTransitionTime" .timestamp, opt "message" .text,
      opt "reason" .text, req "status" .text, req "type" .text])),
    opt "phase" .text])]

/-- **A claim to persistent storage.** -/
structure VolumeClaim where
  /-- The metadata. -/
  metadata : ObjectMeta
  /-- What is asked for. -/
  spec : Option ClaimSpec
  /-- What was given. -/
  other : VolumeClaim.otherTable.Val
deriving DecidableEq

instance : ApiObject VolumeClaim where
  shape := .record (.object "v1" "PersistentVolumeClaim") <| .of [
    req "metadata" (shapeOf ObjectMeta), opt "spec" (shapeOf ClaimSpec)] VolumeClaim.otherTable
  ofVal := fun (metadata, spec, other) =>
    { metadata := ofVal metadata, spec := spec.map ofVal, other }
  toVal c := (toVal c.metadata, c.spec.map toVal, c.other)
  ofVal_toVal _ := by simp
  toVal_ofVal _ := by simp
  objectType := ⟨"v1", "PersistentVolumeClaim"⟩
  metadata c := c.metadata
  withMetadata c m := { c with metadata := m }
  metadata_withMetadata _ _ := rfl
  withMetadata_metadata _ := rfl
  withMetadata_withMetadata _ _ _ := rfl

/-- How the files of a secret are laid out. -/
def SecretVolume.otherTable : Table := .of [
  opt "defaultMode" .int32, opt "items" (.list keyToPath), opt "optional" .flag]

/-- **A secret as the source of a volume.** -/
structure SecretVolume where
  /-- The name of the secret. -/
  secretName : Option String
  /-- How its files are laid out. -/
  other : SecretVolume.otherTable.Val
deriving DecidableEq

instance : Shaped SecretVolume where
  shape := .record .platform <| .of [opt "secretName" .text] SecretVolume.otherTable
  ofVal := fun (secretName, other) => { secretName, other }
  toVal s := (s.secretName, s.other)
  ofVal_toVal _ := rfl
  toVal_ofVal _ := rfl

/-- A projected or mounted configuration map or secret: some keys of it, by name. -/
def keyProjection : Shape := .record .platform <| .of [
  opt "items" (.list keyToPath), opt "name" .text, opt "optional" .flag]

/-- The sources of a volume other than a secret. -/
def Volume.otherTable : Table :=
  let localRef := shapeOf LocalReference
  .of [
    opt "awsElasticBlockStore" (.record .platform <| .of [
      opt "fsType" .text, opt "partition" .int32, opt "readOnly" .flag, req "volumeID" .text]),
    opt "azureDisk" (.record .platform <| .of [
      opt "cachingMode" .text, req "diskName" .text, req "diskURI" .text, opt "fsType" .text,
      opt "kind" .text, opt "readOnly" .flag]),
    opt "azureFile" (.record .platform <| .of [
      opt "readOnly" .flag, req "secretName" .text, req "shareName" .text]),
    opt "cephfs" (.record .platform <| .of [
      req "monitors" (.list .text), opt "path" .text, opt "readOnly" .flag,
      opt "secretFile" .text, opt "secretRef" localRef, opt "user" .text]),
    opt "cinder" (.record .platform <| .of [
      opt "fsType" .text, opt "readOnly" .flag, opt "secretRef" localRef, req "volumeID" .text]),
    opt "configMap" (.record .platform <| .of [
      opt "defaultMode" .int32, opt "items" (.list keyToPath), opt "name" .text,
      opt "optional" .flag]),
    opt "csi" (.record .platform <| .of [
      req "driver" .text, opt "fsType" .text, opt "nodePublishSecretRef" localRef,
      opt "readOnly" .flag, opt "volumeAttributes" (.map .text)]),
    opt "downwardAPI" (.record .platform <| .of [
      opt "defaultMode" .int32, opt "items" (.list downwardFile)]),
    opt "emptyDir" (.record .platform <| .of [opt "medium" .text, opt "sizeLimit" .text]),
    opt "ephemeral" (.record .platform <| .of [
      opt "volumeClaimTemplate" (.record .platform <| .of [
        opt "metadata" (shapeOf ObjectMeta), req "spec" (shapeOf ClaimSpec)])]),
    opt "fc" (.record .platform <| .of [
      opt "fsType" .text, opt "lun" .int32, opt "readOnly" .flag, opt "targetWWNs" (.list .text),
      opt "wwids" (.list .text)]),
    opt "flexVolume" (.record .platform <| .of [
      req "driver" .text, opt "fsType" .text, opt "options" (.map .text), opt "readOnly" .flag,
      opt "secretRef" localRef]),
    opt "flocker" (.record .platform <| .of [opt "datasetName" .text, opt "datasetUUID" .text]),
    opt "gcePersistentDisk" (.record .platform <| .of [
      opt "fsType" .text, opt "partition" .int32, req "pdName" .text, opt "readOnly" .flag]),
    opt "gitRepo" (.record .platform <| .of [
      opt "directory" .text, req "repository" .text, opt "revision" .text]),
    opt "glusterfs" (.record .platform <| .of [
      req "endpoints" .text, req "path" .text, opt "readOnly" .flag]),
    opt "hostPath" (.record .platform <| .of [req "path" .text, opt "type" .text]),
    opt "iscsi" (.record .platform <| .of [
      opt "chapAuthDiscovery" .flag, opt "chapAuthSession" .flag, opt "fsType" .text,
      opt "initiatorName" .text, req "iqn" .text, opt "iscsiInterface" .text, req "lun" .int32,
      opt "portals" (.list .text), opt "readOnly" .flag, opt "secretRef" localRef,
      req "targetPortal" .text]),
    opt "nfs" (.record .platform <| .of [
      req "path" .text, opt "readOnly" .flag, req "server" .text]),
    opt "persistentVolumeClaim" (.record .platform <| .of [
      req "claimName" .text, opt "readOnly" .flag]),
    opt "photonPersistentDisk" (.record .platform <| .of [opt "fsType" .text, req "pdID" .text]),
    opt "portworxVolume" (.record .platform <| .of [
      opt "fsType" .text, opt "readOnly" .flag, req "volumeID" .text]),
    opt "projected" (.record .platform <| .of [
      opt "defaultMode" .int32,
      opt "sources" (.list (.record .platform <| .of [
        opt "configMap" keyProjection,
        opt "downwardAPI" (.record .platform <| .of [opt "items" (.list downwardFile)]),
        opt "secret" keyProjection,
        opt "serviceAccountToken" (.record .platform <| .of [
          opt "audience" .text, opt "expirationSeconds" .int64, req "path" .text])]))]),
    opt "quobyte" (.record .platform <| .of [
      opt "group" .text, opt "readOnly" .flag, req "registry" .text, opt "tenant" .text,
      opt "user" .text, req "volume" .text]),
    opt "rbd" (.record .platform <| .of [
      opt "fsType" .text, req "image" .text, opt "keyring" .text, req "monitors" (.list .text),
      opt "pool" .text, opt "readOnly" .flag, opt "secretRef" localRef, opt "user" .text]),
    opt "scaleIO" (.record .platform <| .of [
      opt "fsType" .text, req "gateway" .text, opt "protectionDomain" .text,
      opt "readOnly" .flag, req "secretRef" localRef, opt "sslEnabled" .flag,
      opt "storageMode" .text, opt "storagePool" .text, req "system" .text,
      opt "volumeName" .text]),
    opt "storageos" (.record .platform <| .of [
      opt "fsType" .text, opt "readOnly" .flag, opt "secretRef" localRef, opt "volumeName" .text,
      opt "volumeNamespace" .text]),
    opt "vsphereVolume" (.record .platform <| .of [
      opt "fsType" .text, opt "storagePolicyID" .text, opt "storagePolicyName" .text,
      req "volumePath" .text])]

/-- **A volume of a pod.** -/
structure Volume where
  /-- The name that mounts refer to. -/
  name : String
  /-- The secret whose keys are the volume's files. -/
  secret : Option SecretVolume
  /-- The other sources. -/
  other : Volume.otherTable.Val
deriving DecidableEq

instance : Shaped Volume where
  shape := .record .platform <| .of [
    req "name" .text, opt "secret" (shapeOf SecretVolume)] Volume.otherTable
  ofVal := fun (name, secret, other) => { name, secret := secret.map ofVal, other }
  toVal v := (v.name, v.secret.map toVal, v.other)
  ofVal_toVal _ := by simp
  toVal_ofVal _ := by simp

/-- The volume whose files are the keys of a secret. -/
def Volume.ofSecret (name secretName : String) : Volume :=
  { name, secret := some { secretName := some secretName, other := default }, other := default }

/-- What a mount carries besides its volume and place. -/
def VolumeMount.otherTable : Table := .of [
  opt "mountPropagation" .text, opt "subPath" .text, opt "subPathExpr" .text]

/-- **The place of a volume in a container.** -/
structure VolumeMount where
  /-- The name of the volume. -/
  name : String
  /-- Where it is mounted. -/
  mountPath : String
  /-- Whether the container may only read. -/
  readOnly : Option Bool
  /-- What else is said of the mount. -/
  other : VolumeMount.otherTable.Val
deriving DecidableEq

instance : Shaped VolumeMount where
  shape := .record .platform <| .of [
    req "name" .text, req "mountPath" .text, opt "readOnly" .flag] VolumeMount.otherTable
  ofVal := fun (name, mountPath, readOnly, other) => { name, mountPath, readOnly, other }
  toVal m := (m.name, m.mountPath, m.readOnly, m.other)
  ofVal_toVal _ := rfl
  toVal_ofVal _ := rfl

end AppOperator
