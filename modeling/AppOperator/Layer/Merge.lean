import AppOperator.Application.Spec

/-!
# Layers of configuration

What an application leaves unset can be set for all applications of a stack,
in two layers around what the application asks for: defaults below it, which
count where it is silent, and constants above it, which always count. A field
is set by the highest layer that sets it. Three kinds of fields are merged
more finely: sections are merged field by field, lists whose items have a key
take the constants item by item, and defaults never ask for autoscaling that
the application did not ask for.

The two layers share one function for each kind of field, with the layer as an
argument, so what is above and what is below is decided in one place (`Layer.pick`).
-/

namespace AppOperator

/-- **A layer around what an application asks for.** -/
inductive Layer where
  /-- It counts where the application is silent. -/
  | defaults
  /-- It counts always. -/
  | constants
deriving DecidableEq

namespace Layer

/-- The value of an optional field. -/
def pick {α : Type} (layer : Layer) (own other : Option α) : Option α :=
  match layer with
  | .defaults => own.or other
  | .constants => other.or own

/-- The value of a text that counts as unset when empty. -/
def pickText (layer : Layer) (own other : String) : String :=
  match layer with
  | .defaults => if own.isEmpty then other else own
  | .constants => if other.isEmpty then own else other

/-- Merges the service section, field by field. -/
def mergeService (layer : Layer) (own other : Option ServiceSettings) : Option ServiceSettings :=
  match other with
  | none => own
  | some o =>
    let s := own.getD default
    some
      { type := layer.pick s.type o.type
        port := layer.pick s.port o.port
        targetPort := layer.pick s.targetPort o.targetPort
        nodePort := layer.pick s.nodePort o.nodePort
        portName := layer.pick s.portName o.portName
        annotations := layer.pick s.annotations o.annotations
        provides := layer.pick s.provides o.provides
        consumes := layer.pick s.consumes o.consumes }

/-- Merges the route section, field by field. -/
def mergeRoute (layer : Layer) (own other : Option RouteSettings) : Option RouteSettings :=
  match other with
  | none => own
  | some o =>
    let r := own.getD default
    some
      { annotations := layer.pick r.annotations o.annotations
        host := layer.pick r.host o.host
        path := layer.pick r.path o.path
        termination := layer.pick r.termination o.termination
        insecurePolicy := layer.pick r.insecurePolicy o.insecurePolicy
        certificateSecretRef := layer.pick r.certificateSecretRef o.certificateSecretRef }

/-- The fields of two autoscaling sections. -/
def mergeScaling (layer : Layer) (own other : Autoscaling) : Autoscaling :=
  { minReplicas := layer.pick own.minReplicas other.minReplicas
    maxReplicas := layer.pick own.maxReplicas other.maxReplicas
    targetCpu := layer.pick own.targetCpu other.targetCpu }

/-- Merges the autoscaling section, which defaults only refine. -/
def mergeAutoscaling (layer : Layer) (own other : Option Autoscaling) : Option Autoscaling :=
  match layer, own, other with
  | _, _, none => own
  | .defaults, none, some _ => none
  | .constants, none, some o => some (layer.mergeScaling default o)
  | _, some s, some o => some (layer.mergeScaling s o)

/-- Merges the fields that both layers treat alike. -/
def merge (layer : Layer) (own other : ApplicationSpec) : ApplicationSpec :=
  { own with
    applicationImage := layer.pickText own.applicationImage other.applicationImage
    version := layer.pick own.version other.version
    replicas := layer.pick own.replicas other.replicas
    pullPolicy := layer.pick own.pullPolicy other.pullPolicy
    pullSecret := layer.pick own.pullSecret other.pullSecret
    serviceAccountName := layer.pick own.serviceAccountName other.serviceAccountName
    readinessProbe := layer.pick own.readinessProbe other.readinessProbe
    livenessProbe := layer.pick own.livenessProbe other.livenessProbe
    resourceConstraints := layer.pick own.resourceConstraints other.resourceConstraints
    architecture := layer.pick own.architecture other.architecture
    storage := layer.pick own.storage other.storage
    monitoring := layer.pick own.monitoring other.monitoring
    initContainers := layer.pick own.initContainers other.initContainers
    sidecarContainers := layer.pick own.sidecarContainers other.sidecarContainers
    expose := layer.pick own.expose other.expose
    createKnativeService := layer.pick own.createKnativeService other.createKnativeService
    createAppDefinition := layer.pick own.createAppDefinition other.createAppDefinition
    applicationName := layer.pick own.applicationName other.applicationName
    autoscaling := layer.mergeAutoscaling own.autoscaling other.autoscaling
    service := layer.mergeService own.service other.service
    route := layer.mergeRoute own.route other.route }

end Layer

/-! ## Lists whose items have a key

Constants are put into a list item by item, each in the place of the first item that
has its key. Defaults fill in a list as a whole, where the application gives none. -/

section Keyed

variable {α κ : Type} [DecidableEq κ]

/-- Puts an item in the place of the first with its key, or at the end. -/
def putKeyed (key : α → κ) (item : α) : List α → List α
  | [] => [item]
  | old :: rest => if key old = key item then item :: rest else old :: putKeyed key item rest

/-- **A list with the items of the constants put into it**, one after the other. -/
def mergeKeyed (key : α → κ) (own constants : Option (List α)) : Option (List α) :=
  match constants with
  | none => own
  | some items => some (items.foldl (fun list item => putKeyed key item list) (own.getD []))

end Keyed

/-- What makes two sources of variables the same: the map, the secret and
what the names begin with. -/
def EnvFrom.key (e : EnvFrom) : Option String × Option String × Option String :=
  (e.configMapRef.bind (·.name), e.secretRef.bind (·.name), e.lead)

namespace ApplicationSpec

/-- **What an application asks for, filled in from the defaults.** -/
def fillFrom (spec defaults : ApplicationSpec) : ApplicationSpec :=
  { Layer.defaults.merge spec defaults with
    env := spec.env.or defaults.env
    envFrom := spec.envFrom.or defaults.envFrom
    volumes := spec.volumes.or defaults.volumes
    volumeMounts := spec.volumeMounts.or defaults.volumeMounts }

/-- **What an application asks for, overridden by the constants.** -/
def overrideBy (spec constants : ApplicationSpec) : ApplicationSpec :=
  { Layer.constants.merge spec constants with
    env := mergeKeyed (·.name) spec.env constants.env
    volumes := mergeKeyed (·.name) spec.volumes constants.volumes
    volumeMounts := mergeKeyed (·.mountPath) spec.volumeMounts constants.volumeMounts
    envFrom := mergeKeyed EnvFrom.key spec.envFrom constants.envFrom }

end ApplicationSpec
end AppOperator
