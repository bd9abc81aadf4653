import AppOperator.Kubernetes.Metadata
import AppOperator.Text.Bytes

/-!
# Secrets and configuration

The objects that hold data for others to read.

A secret that someone has just written may give values as text (`stringData`), and one
that is stored gives them as bytes. So `Secret.text?` looks at both, bytes first, and
`Secret.keys` takes the keys of both together. Bytes that are those of no text have no
value for the operator, although their key counts.
-/

namespace AppOperator

/-- What a secret carries besides its data. -/
def Secret.otherTable : Table := .of [opt "immutable" .flag]

/-- **A secret**: bytes by key. -/
structure Secret where
  /-- The metadata. -/
  metadata : ObjectMeta
  /-- The bytes of each key. -/
  data : Option (Dict String (List UInt8))
  /-- Values given as text; the cluster moves them to `data` when it stores them. -/
  stringData : Option Labels
  /-- What the secret is for. -/
  type : Option String
  /-- What else it carries. -/
  other : Secret.otherTable.Val
deriving DecidableEq

namespace Secret

instance : ApiObject Secret where
  shape := .record (.object "v1" "Secret") <| .of [
    req "metadata" (shapeOf ObjectMeta), opt "data" (.map .bytes), opt "stringData" (.map .text),
    opt "type" .text] otherTable
  ofVal := fun (m, data, stringData, type, other) =>
    { metadata := ofVal m, data, stringData, type, other }
  toVal s := (toVal s.metadata, s.data, s.stringData, s.type, s.other)
  ofVal_toVal _ := by simp
  toVal_ofVal _ := by simp
  objectType := ⟨"v1", "Secret"⟩
  metadata s := s.metadata
  withMetadata s m := { s with metadata := m }
  metadata_withMetadata _ _ := rfl
  withMetadata_metadata _ := rfl
  withMetadata_withMetadata _ _ _ := rfl

/-- **The text under a key**: bytes that are text come first, then text not yet stored. -/
def text? (s : Secret) (key : String) : Option String :=
  (((s.data.getD .empty).get? key).bind Utf8.text?).or ((s.stringData.getD .empty).get? key)

/-- The keys with bytes or text, in order and each once. -/
def keys (s : Secret) : List String :=
  (((s.data.getD .empty).map (fun _ => ())).extend
    ((s.stringData.getD .empty).map (fun _ => ()))).keys

end Secret

/-- What a configuration map carries besides its data. -/
def ConfigMap.otherTable : Table := .of [opt "binaryData" (.map .bytes), opt "immutable" .flag]

/-- **A configuration map**: texts by key. -/
structure ConfigMap where
  /-- The metadata. -/
  metadata : ObjectMeta
  /-- The text of each key. -/
  data : Option Labels
  /-- What else it carries. -/
  other : ConfigMap.otherTable.Val
deriving DecidableEq

namespace ConfigMap

instance : ApiObject ConfigMap where
  shape := .record (.object "v1" "ConfigMap") <| .of [
    req "metadata" (shapeOf ObjectMeta), opt "data" (.map .text)] otherTable
  ofVal := fun (m, data, other) => { metadata := ofVal m, data, other }
  toVal c := (toVal c.metadata, c.data, c.other)
  ofVal_toVal _ := by simp
  toVal_ofVal _ := by simp
  objectType := ⟨"v1", "ConfigMap"⟩
  metadata c := c.metadata
  withMetadata c m := { c with metadata := m }
  metadata_withMetadata _ _ := rfl
  withMetadata_metadata _ := rfl
  withMetadata_withMetadata _ _ _ := rfl

/-- The text under a key. -/
def text? (c : ConfigMap) (key : String) : Option String := (c.data.getD .empty).get? key

end ConfigMap
end AppOperator
