import AppOperator.Kubernetes.Metadata
import AppOperator.Text.Split

/-!
# Image streams

An image stream follows an image under a name of the cluster: for each tag it
lists what was pushed, latest first. An application may name its image by a
reference `[namespace/]name[:tag]` to one. Clusters may or may not serve this
API.
-/

namespace AppOperator

/-- **An image that was pushed.** -/
structure TagEvent where
  /-- The image, by a reference that any node can pull. -/
  dockerImageReference : String
  /-- The image, by its own name in the cluster. -/
  image : Option String
deriving DecidableEq

instance : Shaped TagEvent where
  shape := .record .custom <| .of [given "dockerImageReference" .text, opt "image" .text]
  ofVal := fun (reference, image, ()) => { dockerImageReference := reference, image }
  toVal e := (e.dockerImageReference, e.image, ())
  ofVal_toVal _ := rfl
  toVal_ofVal _ := rfl

/-- **What was pushed to a tag**, latest first. -/
structure TagHistory where
  /-- The tag. -/
  tag : String
  /-- The images. -/
  items : List TagEvent
deriving DecidableEq

instance : Shaped TagHistory where
  shape := .record .custom <| .of [given "tag" .text, implied "items" (.list (shapeOf TagEvent))]
  ofVal := fun (tag, items, ()) => { tag, items := ofVals items }
  toVal h := (h.tag, toVals h.items, ())
  ofVal_toVal _ := by simp
  toVal_ofVal _ := by simp

/-- **What an image stream has followed so far.** -/
structure ImageStreamStatus where
  /-- The repository of the images. -/
  dockerImageRepository : Option String
  /-- The tags. -/
  tags : List TagHistory
deriving DecidableEq

instance : Shaped ImageStreamStatus where
  shape := .record .custom <| .of [
    opt "dockerImageRepository" .text, implied "tags" (.list (shapeOf TagHistory))]
  ofVal := fun (repository, tags, ()) =>
    { dockerImageRepository := repository, tags := ofVals tags }
  toVal s := (s.dockerImageRepository, toVals s.tags, ())
  ofVal_toVal _ := by simp
  toVal_ofVal _ := by simp

/-- **Whether names of images in pods are looked up in the stream.** -/
structure LookupPolicy where
  /-- Whether they are. -/
  isLocal : Bool
deriving DecidableEq

instance : Shaped LookupPolicy where
  shape := .record .custom <| .of [implied "local" .flag]
  ofVal := fun (isLocal, ()) => { isLocal }
  toVal p := (p.isLocal, ())
  ofVal_toVal _ := rfl
  toVal_ofVal _ := rfl

/-- **What an image stream asks for.** -/
structure ImageStreamSpec where
  /-- The look-up of images. -/
  lookupPolicy : Option LookupPolicy
deriving DecidableEq

instance : Shaped ImageStreamSpec where
  shape := .record .custom <| .of [opt "lookupPolicy" (shapeOf LookupPolicy)]
  ofVal := fun (policy, ()) => { lookupPolicy := policy.map ofVal }
  toVal s := (s.lookupPolicy.map toVal, ())
  ofVal_toVal _ := by simp
  toVal_ofVal _ := by simp

/-- The API that serves image streams. -/
def ImageStream.apiVersion : String := "image.openshift.io/v1"

/-- **An image stream.** -/
structure ImageStream where
  /-- The metadata. -/
  metadata : ObjectMeta
  /-- What it asks for. -/
  spec : ImageStreamSpec
  /-- What it has followed so far. -/
  status : Option ImageStreamStatus
deriving DecidableEq

namespace ImageStream

instance : ApiObject ImageStream where
  shape := .record (.resource apiVersion "ImageStream") <| .of [
    given "metadata" (shapeOf ObjectMeta), given "spec" (shapeOf ImageStreamSpec),
    opt "status" (shapeOf ImageStreamStatus)]
  ofVal := fun (metadata, spec, status, ()) =>
    { metadata := ofVal metadata, spec := ofVal spec, status := status.map ofVal }
  toVal s := (toVal s.metadata, toVal s.spec, s.status.map toVal, ())
  ofVal_toVal _ := by simp
  toVal_ofVal _ := by simp
  objectType := ⟨apiVersion, "ImageStream"⟩
  metadata s := s.metadata
  withMetadata s m := { s with metadata := m }
  metadata_withMetadata _ _ := rfl
  withMetadata_metadata _ := rfl
  withMetadata_withMetadata _ _ _ := rfl

/-- **The image pushed last to a tag**, by the first listing of the tag. -/
def latest? (s : ImageStream) (tag : String) : Option String := do
  let history ← (← s.status).tags.find? (fun h => h.tag = tag)
  return (← history.items.head?).dockerImageReference

end ImageStream

/-- **A reference to a tag of an image stream.** -/
structure ImageReference where
  /-- The namespace of the stream. -/
  ns : String
  /-- The name of the stream. -/
  name : String
  /-- The tag. -/
  tag : String
deriving DecidableEq

namespace ImageReference

/-- **The stream that an image names**, if it names one. The tag follows the
last colon, unless a slash follows that too; without one it is `latest`. A
name with a registry's host before it or a digest after it names no stream. -/
def parse? (image defaultNs : String) : Option ImageReference :=
  let cs := image.toList
  if cs.isEmpty || cs.contains '@' then none
  else
    let (path, tag) := match Split.last? ':' cs with
      | some (path, tag) => if tag.contains '/' then (cs, "latest".toList) else (path, tag)
      | none => (cs, "latest".toList)
    let parts : Option (List Char × List Char) := match Split.parts '/' path with
      | [name] => some (defaultNs.toList, name)
      | [ns, name] => if ns.contains '.' || ns.contains ':' then none else some (ns, name)
      | _ => none
    match parts with
    | some (ns, name) =>
      if ns.isEmpty || name.isEmpty || tag.isEmpty then none
      else some ⟨String.ofList ns, String.ofList name, String.ofList tag⟩
    | none => none

end ImageReference
end AppOperator
