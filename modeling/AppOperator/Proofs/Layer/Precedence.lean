import AppOperator.Layer.Effective

/-!
# Which layer a value comes from

The effective specification is made in three steps: the defaults fill in what
the application leaves unset, the constants override what is there, and the
operator gives a value to what is still unset and needs one. None of the steps
says which layer a value comes from in the end. The rule that they come to is
the same for all fields that are set as a whole: the constants' value, else the
application's own, else the defaults', else the operator's
(`StackLayers.inForce`).

A field that is set as a whole is a `SpecField`. The fields of the service and
route sections are among them, since these sections are merged field by field.
Autoscaling is merged field by field as well, but whether there is any is not
for the defaults to say, so it has a rule of its own
(`StackLayers.scalingInForce`). With the four lists that are merged item by
item this is all that a specification has (`ApplicationSpec.ext_fields`), so no
step forgets a field.

The statement about all fields is not only shorter than one for each. The rule of
precedence is a definition that does not mention the three steps, so it can be read as
what the layers are for; and a step that treated some field in its own way, as one of
them does with autoscaling, cannot be hidden in a long list of similar lemmas.
-/

namespace AppOperator

/-! ## Fields

Fields are given by inductive families over the types of their values, so that a
statement about all fields is one statement, and `f.get` has the right type for each.
A field that was forgotten would show: the constructors are used to prove that two
specifications that agree in all of them are the same.

An image is the one field that cannot be unset, only empty. Seen as a field it is set
if it is not empty, which is how the layers treat it. -/

/-- A field of the service section, by the type of its value. -/
inductive ServiceField : Type → Type where
  | type : ServiceField ServiceType
  | port : ServiceField Int32
  | targetPort : ServiceField Int32
  | nodePort : ServiceField Int32
  | portName : ServiceField String
  | annotations : ServiceField Labels
  | provides : ServiceField Provides
  | consumes : ServiceField (List Consumes)

/-- A field of the route section, by the type of its value. -/
inductive RouteField : Type → Type where
  | annotations : RouteField Labels
  | host : RouteField String
  | path : RouteField String
  | termination : RouteField TlsTermination
  | insecurePolicy : RouteField InsecurePolicy
  | certificate : RouteField String

/-- **A field of a specification that a layer sets as a whole**, by the type of
its value. -/
inductive SpecField : Type → Type 1 where
  | image : SpecField String
  | version : SpecField String
  | replicas : SpecField Int32
  | pullPolicy : SpecField PullPolicy
  | pullSecret : SpecField String
  | serviceAccountName : SpecField String
  | readinessProbe : SpecField Probe
  | livenessProbe : SpecField Probe
  | resourceConstraints : SpecField Resources
  | architecture : SpecField (List String)
  | storage : SpecField Storage
  | monitoring : SpecField Monitoring
  | initContainers : SpecField (List Container)
  | sidecarContainers : SpecField (List Container)
  | expose : SpecField Bool
  | createKnativeService : SpecField Bool
  | createAppDefinition : SpecField Bool
  | applicationName : SpecField String
  | service {α : Type} (f : ServiceField α) : SpecField α
  | route {α : Type} (f : RouteField α) : SpecField α

variable {α : Type}

/-- The value that a service section sets a field to. -/
def ServiceField.get : ServiceField α → ServiceSettings → Option α
  | .type, s => s.type
  | .port, s => s.port
  | .targetPort, s => s.targetPort
  | .nodePort, s => s.nodePort
  | .portName, s => s.portName
  | .annotations, s => s.annotations
  | .provides, s => s.provides
  | .consumes, s => s.consumes

/-- The value that a route section sets a field to. -/
def RouteField.get : RouteField α → RouteSettings → Option α
  | .annotations, r => r.annotations
  | .host, r => r.host
  | .path, r => r.path
  | .termination, r => r.termination
  | .insecurePolicy, r => r.insecurePolicy
  | .certificate, r => r.certificateSecretRef

namespace SpecField

/-- The value that a specification sets a field to. An empty image is none. -/
def get : SpecField α → ApplicationSpec → Option α
  | .image, s => Application.filled (some s.applicationImage)
  | .version, s => s.version
  | .replicas, s => s.replicas
  | .pullPolicy, s => s.pullPolicy
  | .pullSecret, s => s.pullSecret
  | .serviceAccountName, s => s.serviceAccountName
  | .readinessProbe, s => s.readinessProbe
  | .livenessProbe, s => s.livenessProbe
  | .resourceConstraints, s => s.resourceConstraints
  | .architecture, s => s.architecture
  | .storage, s => s.storage
  | .monitoring, s => s.monitoring
  | .initContainers, s => s.initContainers
  | .sidecarContainers, s => s.sidecarContainers
  | .expose, s => s.expose
  | .createKnativeService, s => s.createKnativeService
  | .createAppDefinition, s => s.createAppDefinition
  | .applicationName, s => s.applicationName
  | .service f, s => s.service.bind f.get
  | .route f, s => s.route.bind f.get

/-- The value that the operator itself gives to a field that no layer sets. -/
def builtIn : SpecField α → Option α
  | .pullPolicy => some .ifNotPresent
  | .replicas => some 1
  | .expose => some false
  | .createKnativeService => some false
  | .createAppDefinition => some true
  | .service .type => some .clusterIP
  | .service .port => some 8080
  | _ => none

end SpecField

/-! ## Precedence

The rule as it is meant, in one line and for all fields. What the operator itself adds
is part of the rule and comes last; for most fields it adds nothing. The two rules for
autoscaling differ from it in what counts of the defaults: a value of theirs counts
only where there is autoscaling without them. -/

namespace StackLayers

/-- **The value in force** of a field: the constants' value, else the
application's own, else the defaults', else the operator's. -/
def inForce (layers : StackLayers) (own : ApplicationSpec) (f : SpecField α) : Option α :=
  (layers.constants.bind f.get).or <| (f.get own).or <| (f.get layers.defaults).or f.builtIn

/-- The value in force of a field of autoscaling. The defaults only count where
the application itself asks for autoscaling. -/
def limitInForce (layers : StackLayers) (own : ApplicationSpec)
    (limit : Autoscaling → Option Int32) : Option Int32 :=
  ((layers.constants.bind (·.autoscaling)).bind limit).or <| (own.autoscaling.bind limit).or <|
    if own.autoscaling.isSome then layers.defaults.autoscaling.bind limit else none

/-- **The autoscaling in force**: there is some if the application or the
constants ask for it. -/
def scalingInForce (layers : StackLayers) (own : ApplicationSpec) : Option Autoscaling :=
  if own.autoscaling.isSome || (layers.constants.bind (·.autoscaling)).isSome then
    some
      { minReplicas := (layers.limitInForce own (·.minReplicas)).or (some 1)
        maxReplicas := layers.limitInForce own (·.maxReplicas)
        targetCpu := layers.limitInForce own (·.targetCpu) }
  else none

end StackLayers

/-- **A specification is made by precedence** from an application's own and the
layers around it. -/
structure ByPrecedence (layers : StackLayers) (own result : ApplicationSpec) : Prop where
  /-- Each field that is set as a whole has the value in force. -/
  field : ∀ {α : Type} (f : SpecField α), f.get result = layers.inForce own f
  /-- Autoscaling is as in force. -/
  autoscaling : result.autoscaling = layers.scalingInForce own
  /-- There is a service section. -/
  service : result.service.isSome = true
  /-- There is a route section if any layer has one. -/
  route : result.route.isSome
    = ((layers.constants.bind (·.route)).isSome || own.route.isSome || layers.defaults.route.isSome)
  /-- The stack stays. -/
  stack : result.stack = own.stack

/-! ## What each step does to a field

Merging is one function with the layer as a parameter, which decides whether a value
that is there is kept or replaced. So there is one lemma for both layers,
`SpecField.get_merge`, and it is proved by going through the fields; sections are gone
through by the fields inside them, whether the section is there or not. Completing is
the only step that is not a merge. -/

namespace Layer

variable {σ : Type} {layer : Layer}

/-- A layer that sets nothing changes nothing. -/
theorem pick_none (own : Option α) : layer.pick own none = own := by
  cases layer with
  | defaults => exact Option.or_none
  | constants => exact Option.none_or

/-- A section that is not there sets none of its fields. -/
theorem get_section [Inhabited σ] {g : σ → Option α} (hblank : g default = none)
    (own : Option σ) : g (own.getD default) = own.bind g := by
  cases own with
  | none => exact hblank
  | some a => rfl

/-- **A section that is merged field by field** has in each field what is picked
from the two sections, whether they are there or not. -/
theorem bind_section [Inhabited σ] {merge : Option σ → Option σ → Option σ} {g : σ → Option α}
    (hkeep : ∀ own, merge own none = own) (hblank : g default = none)
    (hfield : ∀ own o, (merge own (some o)).bind g = layer.pick (g (own.getD default)) (g o))
    (own other : Option σ) : (merge own other).bind g = layer.pick (own.bind g) (other.bind g) := by
  cases other with
  | none => rw [hkeep, Option.bind_none, pick_none]
  | some o => rw [hfield, Option.bind_some, get_section hblank]

theorem filled_pickText (own other : String) :
    Application.filled (some (layer.pickText own other))
      = layer.pick (Application.filled (some own)) (Application.filled (some other)) := by
  unfold pickText pick Application.filled
  cases layer with
  | defaults => cases h : own.isEmpty <;> simp [Option.filter, h]
  | constants => cases h : other.isEmpty <;> simp [Option.filter, h]

end Layer

theorem ServiceField.get_default (f : ServiceField α) : f.get default = none := by
  cases f <;> rfl

theorem RouteField.get_default (f : RouteField α) : f.get default = none := by
  cases f <;> rfl

theorem ServiceField.bind_merge (f : ServiceField α) (layer : Layer)
    (own other : Option ServiceSettings) :
    (layer.mergeService own other).bind f.get = layer.pick (own.bind f.get) (other.bind f.get) :=
  Layer.bind_section (fun _ => rfl) f.get_default (fun _ _ => by cases f <;> rfl) own other

theorem RouteField.bind_merge (f : RouteField α) (layer : Layer)
    (own other : Option RouteSettings) :
    (layer.mergeRoute own other).bind f.get = layer.pick (own.bind f.get) (other.bind f.get) :=
  Layer.bind_section (fun _ => rfl) f.get_default (fun _ _ => by cases f <;> rfl) own other

/-- Completing a service section gives it a type and a port. -/
theorem ServiceField.get_servedBy (f : ServiceField α) (service : Option ServiceSettings) :
    f.get (ApplicationSpec.servedBy service)
      = (service.bind f.get).or (SpecField.service f).builtIn := by
  rw [← Layer.get_section f.get_default]
  cases f with
  | type | port => exact (Option.or_some ..).symm
  | _ => exact Option.or_none.symm

namespace SpecField

/-- **Merging a layer** picks the value of each field. -/
theorem get_merge (f : SpecField α) (layer : Layer) (own other : ApplicationSpec) :
    f.get (layer.merge own other) = layer.pick (f.get own) (f.get other) := by
  cases f with
  | image => exact Layer.filled_pickText _ _
  | service f => exact f.bind_merge layer own.service other.service
  | route f => exact f.bind_merge layer own.route other.route
  | _ => rfl

theorem get_fillFrom (f : SpecField α) (own defaults : ApplicationSpec) :
    f.get (own.fillFrom defaults) = (f.get own).or (f.get defaults) := by
  refine Eq.trans ?_ (f.get_merge .defaults own defaults)
  cases f <;> rfl

theorem get_overrideBy (f : SpecField α) (own constants : ApplicationSpec) :
    f.get (own.overrideBy constants) = (f.get constants).or (f.get own) := by
  refine Eq.trans ?_ (f.get_merge .constants own constants)
  cases f <;> rfl

/-- **Completing a specification** gives a value to what is unset. -/
theorem get_complete (f : SpecField α) (s : ApplicationSpec) :
    f.get s.complete = (f.get s).or f.builtIn := by
  cases f with
  | pullPolicy | replicas | expose | createKnativeService | createAppDefinition =>
    exact (Option.or_some ..).symm
  | service f => exact f.get_servedBy s.service
  | _ => exact Option.or_none.symm

/-- **A field of the effective specification** has the value in force. -/
theorem get_effective (f : SpecField α) (own : ApplicationSpec) (layers : StackLayers) :
    f.get (own.effective layers) = layers.inForce own f := by
  unfold ApplicationSpec.effective StackLayers.inForce
  rw [get_complete]
  cases layers.constants with
  | none => rw [get_fillFrom, Option.bind_none, Option.none_or, Option.or_assoc]
  | some constants =>
    rw [get_overrideBy, get_fillFrom, Option.bind_some, Option.or_assoc, Option.or_assoc]

end SpecField

/-! ## Autoscaling and the sections

What remains is that the values determine the specification. Two service sections with
the same values are the same, and so are two route sections, once it is known whether
they are there at all; together with autoscaling, the stack and the four lists this
makes up everything. -/

/-- Two service sections with the same values are the same. -/
theorem ServiceSettings.ext_fields {a b : Option ServiceSettings} (hsome : a.isSome = b.isSome)
    (field : ∀ {α : Type} (f : ServiceField α), a.bind f.get = b.bind f.get) : a = b := by
  cases a with
  | none => cases b with
    | none => rfl
    | some b => simp at hsome
  | some a => cases b with
    | none => simp at hsome
    | some b =>
      cases a
      cases b
      simp only [Option.some.injEq, ServiceSettings.mk.injEq]
      exact ⟨field .type, field .port, field .targetPort, field .nodePort, field .portName,
        field .annotations, field .provides, field .consumes⟩

/-- Two route sections with the same values are the same. -/
theorem RouteSettings.ext_fields {a b : Option RouteSettings} (hsome : a.isSome = b.isSome)
    (field : ∀ {α : Type} (f : RouteField α), a.bind f.get = b.bind f.get) : a = b := by
  cases a with
  | none => cases b with
    | none => rfl
    | some b => simp at hsome
  | some a => cases b with
    | none => simp at hsome
    | some b =>
      cases a
      cases b
      simp only [Option.some.injEq, RouteSettings.mk.injEq]
      exact ⟨field .annotations, field .host, field .path, field .termination,
        field .insecurePolicy, field .certificate⟩

namespace ApplicationSpec

variable (own : ApplicationSpec) (layers : StackLayers)

/-- **The effective autoscaling** is the autoscaling in force. -/
theorem autoscaling_effective :
    (own.effective layers).autoscaling = layers.scalingInForce own := by
  have hscaled : ∀ a : Autoscaling,
      scaledBy a = { a with minReplicas := a.minReplicas.or (some 1) } :=
    fun a => congrArg (Autoscaling.mk · a.maxReplicas a.targetCpu) (Option.or_some ..).symm
  have hblank : (default : Autoscaling) = ⟨none, none, none⟩ := rfl
  unfold effective StackLayers.scalingInForce StackLayers.limitInForce
  cases layers.constants with
  | none =>
    show (Layer.defaults.mergeAutoscaling own.autoscaling layers.defaults.autoscaling).map scaledBy
      = _
    cases own.autoscaling <;> cases layers.defaults.autoscaling <;>
      simp [Layer.mergeAutoscaling, Layer.mergeScaling, Layer.pick, hscaled]
  | some constants =>
    show (Layer.constants.mergeAutoscaling
      (Layer.defaults.mergeAutoscaling own.autoscaling layers.defaults.autoscaling)
      constants.autoscaling).map scaledBy = _
    simp only [Option.bind_some]
    cases own.autoscaling <;> cases layers.defaults.autoscaling <;> cases constants.autoscaling <;>
      simp [Layer.mergeAutoscaling, Layer.mergeScaling, Layer.pick, hscaled, hblank]

theorem isSome_service_effective : (own.effective layers).service.isSome = true := rfl

/-- The effective specification has a route section if any layer has one. -/
theorem isSome_route_effective : (own.effective layers).route.isSome
    = ((layers.constants.bind (·.route)).isSome || own.route.isSome
      || layers.defaults.route.isSome) := by
  have hmerge : ∀ (layer : Layer) (a b : Option RouteSettings),
      (layer.mergeRoute a b).isSome = (a.isSome || b.isSome) := by
    intro layer a b
    cases b with
    | none => exact (Bool.or_false _).symm
    | some b => exact (Bool.or_true _).symm
  unfold effective
  cases layers.constants with
  | none => exact hmerge .defaults own.route layers.defaults.route
  | some constants =>
    show (Layer.constants.mergeRoute (Layer.defaults.mergeRoute own.route layers.defaults.route)
      constants.route).isSome = _
    rw [hmerge, hmerge, Option.bind_some, Bool.or_comm, Bool.or_assoc]

theorem stack_effective : (own.effective layers).stack = own.stack := by
  unfold effective
  cases layers.constants with
  | none => rfl
  | some _ => rfl

/-- An image is what is set of it. -/
theorem getD_filled (image : String) : (Application.filled (some image)).getD "" = image := by
  unfold Application.filled
  cases h : image.isEmpty with
  | true => simp [Option.filter, String.isEmpty_iff.1 h]
  | false => simp [Option.filter, h]

/-- **Two specifications with the same values are the same.** -/
theorem ext_fields {s t : ApplicationSpec}
    (field : ∀ {α : Type} (f : SpecField α), f.get s = f.get t)
    (hservice : s.service.isSome = t.service.isSome) (hroute : s.route.isSome = t.route.isSome)
    (autoscaling : s.autoscaling = t.autoscaling) (stack : s.stack = t.stack) (env : s.env = t.env)
    (envFrom : s.envFrom = t.envFrom) (volumes : s.volumes = t.volumes)
    (volumeMounts : s.volumeMounts = t.volumeMounts) : s = t := by
  have himage : s.applicationImage = t.applicationImage := by
    rw [← getD_filled s.applicationImage, ← getD_filled t.applicationImage]
    exact congrArg (Option.getD · "") (field .image)
  have hs : s.service = t.service :=
    ServiceSettings.ext_fields hservice fun f => field (.service f)
  have hr : s.route = t.route := RouteSettings.ext_fields hroute fun f => field (.route f)
  cases s
  cases t
  simp only [ApplicationSpec.mk.injEq]
  exact ⟨field .version, himage, field .replicas, autoscaling, field .pullPolicy, field .pullSecret,
    volumes, volumeMounts, field .resourceConstraints, field .readinessProbe, field .livenessProbe,
    hs, field .expose, envFrom, env, field .serviceAccountName, field .architecture, field .storage,
    field .createKnativeService, stack, field .monitoring, field .createAppDefinition,
    field .applicationName, field .initContainers, field .sidecarContainers, hr⟩

end ApplicationSpec

/-- **Precedence leaves nothing open** but the four lists. -/
theorem ByPrecedence.unique {layers : StackLayers} {own a b : ApplicationSpec}
    (ha : ByPrecedence layers own a) (hb : ByPrecedence layers own b) (henv : a.env = b.env)
    (henvFrom : a.envFrom = b.envFrom) (hvolumes : a.volumes = b.volumes)
    (hmounts : a.volumeMounts = b.volumeMounts) : a = b :=
  ApplicationSpec.ext_fields (fun f => (ha.field f).trans (hb.field f).symm)
    (ha.service.trans hb.service.symm) (ha.route.trans hb.route.symm)
    (ha.autoscaling.trans hb.autoscaling.symm) (ha.stack.trans hb.stack.symm) henv henvFrom
    hvolumes hmounts

/-- **What an application is run by comes from its layers by precedence**,
whether it is admissible or not. -/
theorem Application.byPrecedence_normalized (app : Application) (layers : StackLayers) :
    ByPrecedence layers app.spec (app.normalized layers).1.spec where
  field f := f.get_effective app.spec layers
  autoscaling := app.spec.autoscaling_effective layers
  service := app.spec.isSome_service_effective layers
  route := app.spec.isSome_route_effective layers
  stack := app.spec.stack_effective layers

end AppOperator
