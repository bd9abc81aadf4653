import AppOperator.Application.Basic
import AppOperator.Binding.Wiring

/-!
# The pods of an application

Every workload of an application stamps its pods from one template. What is
set here is set again on every reconcile; whatever else a template carries,
such as defaults that the cluster filled in, stays as it is, so that writing
the template back changes nothing when nothing was asked for
(`Application.podTemplate` takes the template as it is stored).
-/

namespace AppOperator

/-- The value of `items` unless it is empty. -/
def unlessEmpty {α : Type} (items : List α) : Option (List α) :=
  if items.isEmpty then none else some items

/-! ## Processor architectures

An application may name the architectures that it runs on, in the order in which it
prefers them. All of them together are required, each of them is preferred, and the
weights fall from the first to the last. -/

/-- The label in which nodes show their architecture. -/
def architectureLabel : String := "kubernetes.io/arch"

/-- The nodes with one of some architectures. -/
def NodeTerm.ofArchitectures (names : List String) : NodeTerm :=
  { matchExpressions := some [{ key := architectureLabel, operator := "In", values := some names }],
    other := default }

/-- Preferences for architectures, each one weighing more than those after it. -/
def architecturePreferences : List String → List NodePreference
  | [] => []
  | name :: rest =>
    { weight := Int32.ofNat (rest.length + 1), preference := .ofArchitectures [name] }
      :: architecturePreferences rest

/-- **The affinity for some architectures**: one of them is required, the
earlier ones are preferred. -/
def Affinity.ofArchitectures? (names : List String) : Option Affinity :=
  if names.isEmpty then none
  else some
    { nodeAffinity := some
        { required := some { terms := [.ofArchitectures names] },
          preferred := some (architecturePreferences names) },
      other := default }

namespace Application

/-! ## The application's container

The application runs in one container with a fixed name. It is found by that name
among the containers of a stored template and set anew there; the other containers of
the template are those that the application asks for beside its own. -/

/-- The name of the container that runs the application. -/
def containerName : String := "app"

/-- The mounts of the application's container: its own, those of its
bindings, and its storage unless something is mounted there already. -/
def mounts (app : Application) (wiring : Wiring) : List VolumeMount :=
  let mounts := app.spec.volumeMounts.getD [] ++ wiring.mounts
  match app.spec.storage.bind (·.mountPath) with
  | some path =>
    if mounts.any (·.mountPath = path) then mounts
    else mounts ++ [{ name := app.storageClaimName, mountPath := path, readOnly := none,
                      other := default }]
  | none => mounts

/-- **The container that runs the application**, set in a container of that name. -/
def container (app : Application) (wiring : Wiring) (old : Container) : Container :=
  { old with
    name := containerName
    image := some app.image
    imagePullPolicy := app.spec.pullPolicy.map PullPolicy.word
    ports := some [{ ContainerPort.bare app.containerPort with
      name := some (app.portName?.getD "http"), protocol := some "TCP" }]
    readinessProbe := app.spec.readinessProbe
    livenessProbe := app.spec.livenessProbe
    resources := app.spec.resourceConstraints
    env := unlessEmpty (app.spec.env.getD [] ++ wiring.env)
    envFrom := app.spec.envFrom.bind unlessEmpty
    volumeMounts := unlessEmpty (app.mounts wiring) }

/-- The container of the application's name among some, or a new one. -/
def containerIn (containers : List Container) : Container :=
  (containers.find? (·.name = containerName)).getD (blank Container)

/-- **The pods of the application**, set in the specification of some pod. -/
def podSpec (app : Application) (wiring : Wiring) (old : PodSpec) : PodSpec :=
  { old with
    containers := app.container wiring (containerIn old.containers)
      :: app.spec.sidecarContainers.getD []
    initContainers := app.spec.initContainers.bind unlessEmpty
    volumes := unlessEmpty (app.spec.volumes.getD [] ++ wiring.volumes)
    serviceAccountName := some app.accountName
    imagePullSecrets := app.spec.pullSecret.map fun secret => [{ name := some secret }]
    affinity := Affinity.ofArchitectures? (app.spec.architecture.getD []) }

/-- **The template of the application's pods**, set in a stored template. -/
def podTemplate (app : Application) (wiring : Wiring) (old : PodTemplate) : PodTemplate :=
  { metadata := some (app.mark (old.metadata.getD default))
    spec := some (app.podSpec wiring (old.spec.getD default)) }

end Application
end AppOperator
