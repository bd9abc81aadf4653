import AppOperator.Shape.Shaped

/-!
# Names, labels and owners

What every object of a cluster carries: `ObjectMeta`, the references to its
owners, and the selectors by which one object picks others. An object type
that stands on its own is an `ApiObject`: it has a name in the API and its
metadata can be read and replaced.

Metadata that only the cluster keeps, such as the version of an object, is in `other`:
it is sent back as it was read, by which the cluster notices if another wrote in the
meantime. What the operator itself looks at has names here.
-/

namespace AppOperator

/-- **A reference from an object to one that owns it.** -/
structure OwnerReference where
  /-- The API group and version of the owner. -/
  apiVersion : String
  /-- The type of the owner. -/
  kind : String
  /-- The name of the owner. -/
  name : String
  /-- The identity of the owner. -/
  uid : String
  /-- Whether the owner controls the object; an object has one controller at most. -/
  controller : Option Bool
  /-- Whether the owner's deletion waits for the object. -/
  blockOwnerDeletion : Option Bool
deriving DecidableEq

instance : Shaped OwnerReference where
  shape := .record .platform <| .of [
    req "apiVersion" .text, req "kind" .text, req "name" .text, req "uid" .text,
    opt "controller" .flag, opt "blockOwnerDeletion" .flag]
  ofVal := fun (apiVersion, kind, name, uid, controller, blockOwnerDeletion, ()) =>
    { apiVersion, kind, name, uid, controller, blockOwnerDeletion }
  toVal r := (r.apiVersion, r.kind, r.name, r.uid, r.controller, r.blockOwnerDeletion, ())
  ofVal_toVal _ := rfl
  toVal_ofVal _ := rfl

/-- The record of who set which fields of an object. -/
def managedFields : Shape := .record .platform <| .of [
  opt "apiVersion" .text, opt "fieldsType" .text, opt "fieldsV1" .json, opt "manager" .text,
  opt "operation" .text, opt "subresource" .text, opt "time" .timestamp]

/-- The metadata that only the cluster keeps. -/
def ObjectMeta.otherTable : Table := .of [
  opt "creationTimestamp" .timestamp, opt "deletionGracePeriodSeconds" .int64,
  opt "deletionTimestamp" .timestamp, opt "finalizers" (.list .text),
  opt "managedFields" (.list managedFields), opt "resourceVersion" .text, opt "selfLink" .text]

/-- **The metadata of an object.** -/
structure ObjectMeta where
  /-- The name, unique among the objects of its type and namespace. -/
  name : Option String
  /-- What the cluster makes a name from when there is none. -/
  generateName : Option String
  /-- The namespace. -/
  ns : Option String
  /-- The identity; an object of the same name created later has another. -/
  uid : Option String
  /-- The number of the last change of what is asked for. -/
  generation : Option Int64
  /-- The labels, by which objects are selected. -/
  labels : Option Labels
  /-- The annotations, by which nothing is selected. -/
  annotations : Option Labels
  /-- The owners. -/
  ownerReferences : Option (List OwnerReference)
  /-- What only the cluster keeps. -/
  other : ObjectMeta.otherTable.Val
deriving DecidableEq

namespace ObjectMeta

instance : Shaped ObjectMeta where
  shape := .record .platform <| .of [
    opt "name" .text, opt "generateName" .text, opt "namespace" .text, opt "uid" .text,
    opt "generation" .int64,
    opt "labels" (.map .text), opt "annotations" (.map .text),
    opt "ownerReferences" (.list (shapeOf OwnerReference))] otherTable
  ofVal := fun (name, generateName, ns, uid, generation, labels, annotations, owners, other) =>
    { name, generateName, ns, uid, generation, labels, annotations,
      ownerReferences := owners.map ofVals, other }
  toVal m := (m.name, m.generateName, m.ns, m.uid, m.generation, m.labels, m.annotations,
    m.ownerReferences.map toVals, m.other)
  ofVal_toVal _ := by simp
  toVal_ofVal _ := by simp

instance : Inhabited ObjectMeta := ⟨blank ObjectMeta⟩

/-- The name, empty when unset. -/
def nameOrEmpty (m : ObjectMeta) : String := m.name.getD ""

/-- The best name known: the name, else what one is made from, else nothing. -/
def anyName (m : ObjectMeta) : String := (m.name.or m.generateName).getD ""

/-- The namespace, empty when unset. -/
def nsOrEmpty (m : ObjectMeta) : String := m.ns.getD ""

/-- The owners, none when unset. -/
def owners (m : ObjectMeta) : List OwnerReference := m.ownerReferences.getD []

/-- The metadata with more labels; an added label replaces one of its key. -/
def addLabels (m : ObjectMeta) (labels : Labels) : ObjectMeta :=
  { m with labels := some ((m.labels.getD .empty).extend labels) }

/-- The metadata with more annotations; nothing is added to unset annotations by none. -/
def addAnnotations (m : ObjectMeta) (annotations : Labels) : ObjectMeta :=
  if annotations.isEmpty then m
  else { m with annotations := some ((m.annotations.getD .empty).extend annotations) }

end ObjectMeta

/-- One condition on a label's value. -/
def labelRequirement : Shape := .record .platform <| .of [
  req "key" .text, req "operator" .text, opt "values" (.list .text)]

/-- The part of a label selector that the operator never writes. -/
def LabelSelector.otherTable : Table := .of [opt "matchExpressions" (.list labelRequirement)]

/-- **A selector of objects by their labels.** -/
structure LabelSelector where
  /-- Labels that a selected object must have. -/
  matchLabels : Option Labels
  /-- Further conditions. -/
  other : LabelSelector.otherTable.Val
deriving DecidableEq

instance : Shaped LabelSelector where
  shape := .record .platform <| .of [opt "matchLabels" (.map .text)] LabelSelector.otherTable
  ofVal := fun (matchLabels, other) => { matchLabels, other }
  toVal s := (s.matchLabels, s.other)
  ofVal_toVal _ := rfl
  toVal_ofVal _ := rfl

/-- The selector of objects with these labels. -/
def LabelSelector.ofLabels (labels : Labels) : LabelSelector :=
  { matchLabels := some labels, other := default }

/-- **A type of objects**: its API group and version, and its name there. -/
structure ObjectType where
  /-- The API group and version. -/
  apiVersion : String
  /-- The name of the type. -/
  kind : String
deriving DecidableEq

/-- **A type whose objects stand on their own in a cluster.** -/
class ApiObject (α : Type) extends Shaped α where
  /-- The type's name in the API. -/
  objectType : ObjectType
  /-- The metadata of an object. -/
  metadata : α → ObjectMeta
  /-- The object with other metadata. -/
  withMetadata : α → ObjectMeta → α
  metadata_withMetadata : ∀ a m, metadata (withMetadata a m) = m
  withMetadata_metadata : ∀ a, withMetadata a (metadata a) = a
  withMetadata_withMetadata : ∀ a m n, withMetadata (withMetadata a m) n = withMetadata a n

export ApiObject (objectType metadata withMetadata)

attribute [simp] ApiObject.metadata_withMetadata ApiObject.withMetadata_metadata
  ApiObject.withMetadata_withMetadata

/-- Changes the metadata of an object. -/
def mapMetadata {α : Type} [ApiObject α] (f : ObjectMeta → ObjectMeta) (a : α) : α :=
  withMetadata a (f (metadata a))

end AppOperator
