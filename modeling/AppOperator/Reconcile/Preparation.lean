import AppOperator.Cluster.Discovery
import AppOperator.Layer.Stack
import AppOperator.Operator.Config
import AppOperator.Reconcile.Pass

/-!
# Before the children

A pass first finds out what it has to bring about: the effective
specification between the layers of the stack, the settings, and the image
that the application runs, which may be named by a tag of an image stream.

Nothing is written here. The image that was found is noted in the status before
anything is made, so that the status tells what the children were made with even if
making them fails.
-/

namespace AppOperator

/-- The namespace with the layers and settings for an application. -/
def Config.operatorNsFor (c : Config) (app : Application) : String :=
  c.operatorNs.getD app.metadata.nsOrEmpty

/-- The tag of an image stream that the application's image names, if it names one. -/
def Application.imageReference? (app : Application) : Option ImageReference :=
  ImageReference.parse? app.spec.applicationImage app.metadata.nsOrEmpty

/-- **Finds the image that the application's tag of an image stream stands
for.** It is only looked for where the cluster serves image streams. -/
def Access.resolveImage (apis : ClusterApis) (app : Application) : Access (Option String) :=
  match app.imageReference? with
  | none => return none
  | some r =>
    if !apis.image then return none
    else return (← find ImageStream r.ns r.name).bind (·.latest? r.tag)

/-- **Prepares an application**: with its effective specification, its status
naming the image that was found. -/
def Pass.prepare (config : Config) (apis : ClusterApis) (app : Application) :
    Pass (Application × Settings) := do
  let ns := config.operatorNsFor app
  let layers ← Access.layers ns app.spec.stack
  let settings ← Access.settings ns
  let (app, admitted) := app.normalized layers
  admitted
  let image ← Access.resolveImage apis app
  Pass.note fun status => { status with imageReference := image }
  return ({ app with status := some (← Pass.status) }, settings)

end AppOperator
