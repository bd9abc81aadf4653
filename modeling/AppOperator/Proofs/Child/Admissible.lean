import AppOperator.Binding.Consumer
import AppOperator.Child.Service
import AppOperator.Proofs.Child.Claims
import AppOperator.Proofs.Layer.Precedence

/-!
# What is made of an admitted application

A cluster refuses objects that contradict themselves: limits with nothing between
them, a port of the nodes on a service without one, a claim without a name. The
operator is to refuse the application first, with a message that names the fault.
What it checks is the effective specification, which three layers and the operator
itself have had a part in; what it makes of that, it makes in four generators, each
with values of its own for what is unset.

An admitted specification is in order, section by section, and from there on each
generator is a step (`Application.admissible_of_normalized`).

Two things are not checked. Nothing is said of the fewest pods but that they are not
more than the most, so a layer may set them below one; and a claim may give itself
an empty name, which is then the name of the storage
(`Application.not_admissible_of_unchecked`).

The fewest pods are a parameter of what is admissible, since it takes all three layers
to say what they are: the value in force, which the layers determine field by field,
or else one. So the statement also says that the autoscaler gets the limits that the
layers agree on, and not only some that are consistent.
-/

namespace AppOperator

/-- The fewest pods of the autoscaling in force are those in force, or else one. -/
theorem StackLayers.least_of_scalingInForce {layers : StackLayers} {own : ApplicationSpec}
    {scaling : Autoscaling} (h : layers.scalingInForce own = some scaling) :
    scaling.least = (layers.limitInForce own (·.minReplicas)).getD 1 := by
  unfold scalingInForce at h
  split at h
  · rw [← Option.some.inj h]
    show ((layers.limitInForce own (·.minReplicas)).or (some 1)).getD 1 = _
    rw [Option.or_some, Option.getD_some]
  · simp at h

namespace Application

variable {app : Application}

/-! ## The children

What a cluster would check is collected in `Application.Admissible`, each part about
one child as it is made: the limits of an autoscaler, the port of the nodes of a
service, the claims of a stateful set and the image that is run. It speaks of the
objects and not of the specification, so that it would be false of a generator that
takes its values from elsewhere.

Each part has its own lemma, from what the validation guarantees of one section of the
specification to what the generator makes of that section. The limits are stated for
any stored autoscaler, since they are set anew each time; the service and the stateful
set for a new one, since a port or a claim that is already there was checked when it
was made. -/

/-- **What an application asks for can be had**, where the fewest pods of an
autoscaler are given: the parts of its children that a cluster checks agree with each
other, in the children as they are made and whatever is stored before. -/
structure Admissible (app : Application) (least : Int32) : Prop where
  /-- An autoscaler scales between the fewest pods and no fewer, some at least. -/
  limits : app.spec.autoscaling.isSome = true → ∀ old, ∃ spec, (app.autoscaler old).spec = some spec
    ∧ spec.minReplicas = some least ∧ least ≤ spec.maxReplicas ∧ 1 ≤ spec.maxReplicas
  /-- The port of a new service is the one of the nodes that is asked for, and none is
  asked for of a service that has none. -/
  nodePort : ∃ spec port, (app.service (blank Service)).spec = some spec
    ∧ spec.ports = some [port] ∧ port.nodePort = (app.spec.service.getD default).nodePort
    ∧ (port.nodePort.isSome = true → spec.type = some "NodePort" ∨ spec.type = some "LoadBalancer")
  /-- A new stateful set has one claim. It has a name, which is not empty unless the
  claim that the application gives names itself so. -/
  claim : app.usesStorage = true → ∀ wiring, ∃ claim name,
    (app.statefulSet wiring (blank StatefulSet)).claims = [claim]
      ∧ claim.metadata.name = some name
      ∧ ((app.spec.storage.bind fun s => s.claimTemplate.bind (·.metadata.name)) ≠ some "" →
        name ≠ "")
  /-- Storage and Knative are not asked for together. -/
  storage : ¬ (app.usesStorage = true ∧ app.usesKnative = true)
  /-- Every service that is used has a name. -/
  consumes : ∀ entry ∈ app.consumes, allBlank entry.name = false
  /-- The application's container runs an image, where none was found for a tag. -/
  image : filled (app.status.bind (·.imageReference)) = none → ∀ wiring old, ∃ image,
    (containerIn ((app.podTemplate wiring old).spec.getD default).containers).image = some image
      ∧ allBlank image = false

/-- **The autoscaler has the limits of the specification.** -/
theorem limits_autoscaler {scaling : Autoscaling} (h : app.spec.autoscaling = some scaling)
    (hroom : scaling.HasRoom) (old : Autoscaler) : ∃ spec, (app.autoscaler old).spec = some spec
      ∧ spec.minReplicas = some scaling.least ∧ scaling.least ≤ spec.maxReplicas
      ∧ 1 ≤ spec.maxReplicas := by
  obtain ⟨most, hmost, hone, hleast⟩ := hroom
  unfold autoscaler
  rw [h]
  refine ⟨_, rfl, rfl, ?_⟩
  rw [hmost]
  exact ⟨hleast, hone⟩

/-- A service of a type with ports of the nodes says so by its word. -/
theorem word_of_allowsNodePort {type : ServiceType} (h : type.allowsNodePort = true) :
    type.word = "NodePort" ∨ type.word = "LoadBalancer" := by
  cases type with
  | nodePort => exact .inl rfl
  | loadBalancer => exact .inr rfl
  | clusterIP | externalName => simp [ServiceType.allowsNodePort] at h

/-- **A new service has the port of the nodes that is asked for.** -/
theorem nodePort_service_new (h : (app.spec.service.getD default).HasFitPort) :
    ∃ spec port, (app.service (blank Service)).spec = some spec ∧ spec.ports = some [port]
      ∧ port.nodePort = (app.spec.service.getD default).nodePort
      ∧ (port.nodePort.isSome = true →
        spec.type = some "NodePort" ∨ spec.type = some "LoadBalancer") := by
  refine ⟨_, _, rfl, rfl, ?_⟩
  have hnew : (firstPort ((blank Service).spec.getD default)).nodePort = none := rfl
  simp only [portOf, hnew, Option.or_none]
  cases hallows : ((app.spec.service.getD default).type.getD .clusterIP).allowsNodePort with
  | true =>
    refine ⟨rfl, fun _ => ?_⟩
    simpa using word_of_allowsNodePort hallows
  | false =>
    cases hasked : (app.spec.service.getD default).nodePort with
    | none => simp
    | some n =>
      have hfit := h (by rw [hasked]; rfl)
      rw [hallows] at hfit
      simp at hfit

/-- A claim's name is not empty unless the application gives it an empty one. -/
theorem storageClaimName_ne_empty
    (h : (app.spec.storage.bind fun s => s.claimTemplate.bind (·.metadata.name)) ≠ some "") :
    app.storageClaimName ≠ "" := by
  unfold storageClaimName
  cases hname : app.spec.storage.bind fun s => s.claimTemplate.bind (·.metadata.name) with
  | none => decide
  | some name =>
    rw [hname] at h
    exact fun he => h (congrArg some he)

/-- **A new stateful set has one claim**, that of the application. -/
theorem claims_statefulSet_new (hadmitted : app.Admitted) (hstorage : app.usesStorage = true)
    (wiring : Wiring) : ∃ claim, (app.statefulSet wiring (blank StatefulSet)).claims = [claim]
      ∧ claim.metadata.name = some app.storageClaimName := by
  obtain ⟨claim, hclaim⟩ := exists_storageClaim hadmitted hstorage
  have hnew : (blank StatefulSet).claims = [] := rfl
  refine ⟨claim, ?_, name_of_storageClaim hclaim⟩
  rw [claims_statefulSet, if_pos hnew, hclaim]
  rfl

theorem image_containerIn (wiring : Wiring) (old : PodTemplate) :
    (containerIn ((app.podTemplate wiring old).spec.getD default).containers).image
      = some app.image := rfl

/-- **What an admitted application asks for can be had.** For every application and
all layers around it: if the application passes with its effective specification, what
is made of that is admissible, the fewest pods being the value in force for them, or
one where no layer sets any. -/
theorem admissible_of_normalized (app : Application) (layers : StackLayers)
    (h : (app.normalized layers).2 = .ok ()) :
    (app.normalized layers).1.Admissible
      ((layers.limitInForce app.spec (·.minReplicas)).getD 1) := by
  have hadmitted := admitted_normalized h
  have horder := hadmitted.inOrder
  generalize hmade : (app.normalized layers).1 = made at hadmitted horder
  have hscaling : made.spec.autoscaling = layers.scalingInForce app.spec := by
    rw [← hmade]
    exact app.spec.autoscaling_effective layers
  -- each part of what is made goes back to what the verdict says of the same section; only
  -- the limits need the fewest pods in force besides
  refine ⟨fun hscaled old => ?_, nodePort_service_new ?_, fun hstorage wiring => ?_, ?_, ?_, ?_⟩
  · obtain ⟨scaling, hset⟩ := Option.isSome_iff_exists.1 hscaled
    have hleast := StackLayers.least_of_scalingInForce (hscaling.symm.trans hset)
    rw [← hleast]
    exact limits_autoscaler hset (horder.autoscaling scaling hset) old
  · cases hset : made.spec.service with
    | none => exact fun hasked => absurd hasked (by decide)
    | some s => exact (horder.service s hset).1
  · obtain ⟨claim, hclaims, hname⟩ := claims_statefulSet_new hadmitted hstorage wiring
    exact ⟨claim, _, hclaims, hname, storageClaimName_ne_empty⟩
  · rintro ⟨hstorage, hknative⟩
    obtain ⟨storage, hset⟩ := Option.isSome_iff_exists.1 hstorage
    exact absurd hknative (by simp [usesKnative, (horder.storage storage hset).2])
  · unfold consumes
    cases hset : made.spec.service with
    | none => simp
    | some s => exact (horder.service s hset).2
  · intro hnone wiring old
    refine ⟨_, image_containerIn wiring old, ?_⟩
    unfold image
    rw [hnone]
    exact horder.image

/-- An application with storage that leaves it to the layers how far it is scaled and
where its service is reached. -/
def scaling (storage : Storage) (limits : Autoscaling) (type : Option ServiceType) : Application :=
  let app := storing storage
  { app with spec := { app.spec with
      autoscaling := some limits, service := some { (default : ServiceSettings) with type } } }

theorem admissible_of_three_layers :
    let app := scaling .sized ⟨none, none, none⟩ (some .nodePort)
    let layers : StackLayers :=
      { defaults := { (default : ApplicationSpec) with autoscaling := some ⟨some 7, some 5, none⟩ }
        constants := some { (default : ApplicationSpec) with
          autoscaling := some ⟨some 2, none, none⟩
          service := some { (default : ServiceSettings) with nodePort := some 30080 } } }
    (app.normalized layers).2 = .ok () ∧ (app.normalized layers).1.Admissible 2 := by
  intro app layers
  have hadmitted : (app.normalized layers).1.Admitted := by decide +kernel
  exact ⟨hadmitted, admissible_of_normalized app layers hadmitted⟩

/-- **Neither the fewest pods nor the name of a claim is checked**: with none of the
one and an empty one of the other an application passes. -/
theorem not_admissible_of_unchecked :
    let app := scaling (.claimed "") ⟨some 0, some 3, none⟩ none
    let made := (app.normalized {}).1
    (app.normalized {}).2 = .ok ()
      ∧ ¬ (∃ spec least, (made.autoscaler (blank Autoscaler)).spec = some spec
        ∧ spec.minReplicas = some least ∧ 1 ≤ least ∧ least ≤ spec.maxReplicas)
      ∧ ¬ (∃ claim name, (made.statefulSet {} (blank StatefulSet)).claims = [claim]
        ∧ claim.metadata.name = some name ∧ name ≠ "") := by
  intro app made
  have hadmitted : made.Admitted := by decide +kernel
  refine ⟨hadmitted, ?_, ?_⟩
  · rintro ⟨spec, least, hspec, hleast, hone, -⟩
    have hzero : (made.autoscaler (blank Autoscaler)).spec.bind (·.minReplicas) = some 0 := by
      decide +kernel
    rw [hspec, Option.bind_some, hleast] at hzero
    rw [Option.some.inj hzero] at hone
    exact absurd hone (by decide)
  · rintro ⟨claim, name, hclaims, hname, hne⟩
    have hempty : (made.statefulSet {} (blank StatefulSet)).claims.map (·.metadata.name)
        = [some ""] := by
      decide +kernel
    rw [hclaims, List.map_singleton, hname] at hempty
    exact hne (by simpa using hempty)

end Application
end AppOperator
