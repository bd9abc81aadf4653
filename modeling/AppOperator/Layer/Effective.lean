import AppOperator.Layer.Admission
import AppOperator.Layer.Merge

/-!
# The effective specification

What an application is run by: its own specification between the layers of
its stack, with the values that the operator itself gives to what is still
unset.

The order is fixed: the layer below fills what the application leaves open, the layer
above overrides, and only then `complete` gives values to what neither named.
Admission looks at the outcome and not at the parts, so a layer can supply what an
application lacks, and can also make it inadmissible (`Application.normalized`).
-/

namespace AppOperator

/-- **The layers of a stack.** -/
structure StackLayers where
  /-- The layer below the application. -/
  defaults : ApplicationSpec := default
  /-- The layer above it, if the stack has one. -/
  constants : Option ApplicationSpec := none
deriving DecidableEq, Inhabited

namespace ApplicationSpec

/-- A service section with a type and a port. -/
def servedBy (service : Option ServiceSettings) : ServiceSettings :=
  let s := service.getD default
  { s with
    type := some (s.type.getD .clusterIP)
    port := some (s.port.getD Application.defaultPort) }

/-- An autoscaling section with a lower limit. -/
def scaledBy (a : Autoscaling) : Autoscaling := { a with minReplicas := some a.least }

/-- **The specification with a value for everything that needs one.** -/
def complete (spec : ApplicationSpec) : ApplicationSpec :=
  { spec with
    pullPolicy := some (spec.pullPolicy.getD .ifNotPresent)
    replicas := some (spec.replicas.getD 1)
    expose := some (spec.expose.getD false)
    createKnativeService := some (spec.createKnativeService.getD false)
    createAppDefinition := some (spec.createAppDefinition.getD true)
    autoscaling := spec.autoscaling.map scaledBy
    service := some (servedBy spec.service) }

/-- **The effective specification.** -/
def effective (spec : ApplicationSpec) (layers : StackLayers) : ApplicationSpec :=
  let filled := spec.fillFrom layers.defaults
  (match layers.constants with
    | some constants => filled.overrideBy constants
    | none => filled).complete

end ApplicationSpec

/-- **The application with its effective specification**, which may turn out
to be inadmissible. -/
def Application.normalized (app : Application) (layers : StackLayers) :
    Application × Except OperatorError Unit :=
  let spec := app.spec.effective layers
  ({ app with spec }, spec.validate)

end AppOperator
