import AppOperator.Proofs.Child.Labels
import AppOperator.Proofs.Shape.Frame

/-!
# What an application leaves alone in its children

A child is set in the object that is stored for it, which others have a hand
in as well: the cluster fills in defaults, addresses and ports, an autoscaler
sets the number of pods, an administrator adds labels. All of that is left
alone, whatever the application asks for and whatever is stored.

Of an object, of its specification, of its pods and of the container that
runs the application, it is said by name which fields the application sets;
all others are as before (`KeepsBut`). Labels and annotations are told apart
by their keys: those are left alone whose keys are not among the labels and
annotations that the application gives all of its children (`Application.mark`),
nor among the few that it gives children of one type (`ObjectMeta.Keeps`).

Some fields are set at times only. The number of pods is left to an
autoscaler, a host to the cluster if the application has none, and a port of
the nodes is the one that the cluster chose if services of the type have one
and the application does not choose it itself. In this last case the converse
holds too, and of each service on its own: where services of the type have no
such port, none that is there lasts, and where the application asks for one,
none but that one (`Application.KeepsNodePort`).
-/

namespace AppOperator

open Table (isSet isKept)

/-! ## Metadata

Labels and annotations are dictionaries in which others write too, so of them it is
not said that the field is as before but that each key is, some excepted.
`ObjectMeta.Keeps` says this together with what holds of the fields beside them, and
it composes: what two edits keep after each other is what both keep, with the keys of
both excepted. Each edit that the operator makes of metadata then needs one lemma, and
each child adds up those of the edits it is made with. -/

namespace ObjectMeta

/-- The value of an annotation. -/
def annotation? (m : ObjectMeta) (key : String) : Option String :=
  (m.annotations.getD .empty).get? key

/-- **What of metadata is as before**: labels and annotations of all keys but
some, and everything else. -/
structure Keeps (labels annotations : List String) (before after : ObjectMeta) : Prop where
  /-- Labels of other keys are as before. -/
  label : ∀ key ∉ labels, after.label? key = before.label? key
  /-- Annotations of other keys are as before. -/
  annotation : ∀ key ∉ annotations, after.annotation? key = before.annotation? key
  /-- All else is as before. -/
  fields : KeepsBut ["labels", "annotations"] before after

/-- Edits of labels and annotations touch no other field. -/
theorem Marking.keepsBut {f : ObjectMeta → ObjectMeta} (hf : Marking f) (m : ObjectMeta) :
    KeepsBut ["labels", "annotations"] m (f m) := by
  obtain ⟨l, a, -, -, h⟩ := hf
  rw [h]
  exact .of_agreeBut ⟨isKept, isKept, isKept, isKept, isKept, isSet, isSet, isKept,
    Table.agreeBut_refl _ _⟩

namespace Keeps

variable {labels annotations labels' annotations' : List String} {m n p : ObjectMeta}

protected theorem trans (h : Keeps labels annotations m n) (h' : Keeps labels' annotations' n p) :
    Keeps (labels ++ labels') (annotations ++ annotations') m p where
  label key hkey := by
    rw [List.mem_append, not_or] at hkey
    exact (h'.label key hkey.2).trans (h.label key hkey.1)
  annotation key hkey := by
    rw [List.mem_append, not_or] at hkey
    exact (h'.annotation key hkey.2).trans (h.annotation key hkey.1)
  fields := h.fields.trans h'.fields

theorem addLabels (m : ObjectMeta) (given : Labels) : Keeps given.keys [] m (m.addLabels given) where
  label key hkey := by
    rw [Dict.mem_keys, Option.not_isSome_iff_eq_none] at hkey
    rw [label?_addLabels, hkey, Option.none_or]
  annotation _ _ := rfl
  fields := (Marking.addLabels given).keepsBut m

theorem addAnnotations (m : ObjectMeta) (given : Labels) :
    Keeps [] given.keys m (m.addAnnotations given) where
  label key _ := label?_addAnnotations m key given
  annotation key hkey := by
    rw [Dict.mem_keys, Option.not_isSome_iff_eq_none] at hkey
    unfold ObjectMeta.addAnnotations annotation?
    split
    · rfl
    · rw [Option.getD_some, Dict.get?_extend, hkey, Option.none_or]
  fields := (Marking.addAnnotations given).keepsBut m

/-- **A mark leaves labels and annotations of other keys alone.** -/
theorem mark (app : Application) (m : ObjectMeta) :
    Keeps app.labels.keys app.annotations.keys m (app.mark m) := by
  have h := (addLabels m app.labels).trans (addAnnotations _ app.annotations)
  rwa [List.append_nil, List.nil_append] at h

theorem markMonitored (app : Application) (m : ObjectMeta) :
    Keeps [Label.monitored] [] m (app.markMonitored m) where
  label _ hkey := app.label?_markMonitored m fun h => hkey (List.mem_singleton.2 h)
  annotation _ _ := rfl
  fields := (Marking.markMonitored app).keepsBut m

theorem markVisibility (app : Application) (m : ObjectMeta) :
    Keeps [Label.visibility] [] m (app.markVisibility m) where
  label _ hkey := app.label?_markVisibility m fun h => hkey (List.mem_singleton.2 h)
  annotation _ _ := rfl
  fields := (Marking.markVisibility app).keepsBut m

end Keeps
end ObjectMeta

namespace Application

variable (app : Application) (wiring : Wiring)

/-- **What of a child is as before**: labels and annotations whose keys are not
those of the application or of some more, and the fields of the object but
for its metadata and some more. -/
structure KeepsChild {α : Type} [ApiObject α] (fields labels annotations : List String)
    (before after : α) : Prop where
  /-- Of its metadata, what the application does not give a value. -/
  metadata : ObjectMeta.Keeps (app.labels.keys ++ labels) (app.annotations.keys ++ annotations)
    (ApiObject.metadata before) (ApiObject.metadata after)
  /-- The other fields of the object. -/
  object : KeepsBut ("metadata" :: fields) before after

/-- Metadata that are marked and no more are kept as in any child. -/
theorem keeps_mark (m : ObjectMeta) :
    ObjectMeta.Keeps (app.labels.keys ++ []) (app.annotations.keys ++ []) m (app.mark m) := by
  rw [List.append_nil, List.append_nil]
  exact .mark app m

/-! ## Pods

A template is kept at three depths. Its metadata are kept as those of a child; its
specification but for six fields; and since one of these six is the list of
containers, what is kept of the application's own container is said for itself. That
container is found by its name, as the operator finds it, so nothing is assumed about
where in the list it stands, and containers beside it are set by the application and
not kept. -/

/-- The fields of a pod that the application sets. -/
def podFields : List String := [
  "containers", "initContainers", "volumes", "serviceAccountName", "imagePullSecrets", "affinity"]

/-- The fields of its container that the application sets. -/
def containerFields : List String := [
  "name", "image", "imagePullPolicy", "ports", "readinessProbe", "livenessProbe", "resources",
  "env", "envFrom", "volumeMounts"]

/-- **Whether the application's container is as before**, the first one of its
name, but for what the application sets in it. -/
def KeepsContainer (before after : List Container) : Prop :=
  ∀ c, before.find? (·.name = containerName) = some c →
    ∃ c', after.find? (·.name = containerName) = some c' ∧ KeepsBut containerFields c c'

/-- **What of the pods that a template stamps is as before.** -/
structure KeepsPods (before after : PodTemplate) : Prop where
  /-- Of their metadata, what the application does not give a value. -/
  metadata : ObjectMeta.Keeps app.labels.keys app.annotations.keys
    (before.metadata.getD default) (after.metadata.getD default)
  /-- The other fields of each pod. -/
  spec : KeepsBut podFields (before.spec.getD default) (after.spec.getD default)
  /-- The other fields of the application's container. -/
  container : KeepsContainer (before.spec.getD default).containers
    (after.spec.getD default).containers

theorem keepsBut_container (old : Container) :
    KeepsBut containerFields old (app.container wiring old) :=
  .of_agreeBut ⟨isSet, isSet, isSet, isSet, isSet, isSet, isSet, isSet, isSet, isSet,
    Table.agreeBut_refl _ _⟩

theorem keepsBut_podSpec (old : PodSpec) : KeepsBut podFields old (app.podSpec wiring old) :=
  .of_agreeBut ⟨isSet, isSet, isSet, isSet, isSet, isSet, Table.agreeBut_refl _ _⟩

theorem keepsContainer_podSpec (old : PodSpec) :
    KeepsContainer old.containers (app.podSpec wiring old).containers := fun c hc => by
  refine ⟨app.container wiring c, ?_, app.keepsBut_container wiring c⟩
  have hin : containerIn old.containers = c := by rw [containerIn, hc, Option.getD_some]
  rw [podSpec, hin]
  rfl

/-- **The pods are as before** but for what the application sets. -/
theorem keepsPods (old : PodTemplate) : app.KeepsPods old (app.podTemplate wiring old) where
  metadata := .mark app _
  spec := app.keepsBut_podSpec wiring _
  container := app.keepsContainer_podSpec wiring _

/-! ## Workloads

The two workloads differ in the fields of their specifications and agree in all else
that matters here: both stamp pods, and both have a number of them. So what is kept is
one structure with the way to the specification, to the number and to the template as
parameters, and a deployment and a stateful set are two cases of it.

The number of pods is the one field that is set or left depending on the application.
It is not among the fields that are kept, for without an autoscaler it is not, and has
a field of its own in the structure, under the condition that there is an autoscaler. -/

/-- **What of a workload is as before**, by its specification and what that says
of the number of pods and of each pod. -/
structure KeepsWorkload {α σ : Type} [ApiObject α] [Shaped σ] (fields : List String)
    (asked : α → σ) (number : σ → Option Int32) (template : σ → PodTemplate)
    (before after : α) : Prop extends app.KeepsChild ["spec"] [] [] before after where
  /-- The other fields of its specification. -/
  spec : KeepsBut fields (asked before) (asked after)
  /-- The number of pods, once an autoscaler sets it. -/
  replicas : app.spec.autoscaling.isSome = true → number (asked after) = number (asked before)
  /-- What of its pods is as before. -/
  pods : app.KeepsPods (template (asked before)) (template (asked after))

/-- **What of a deployment is as before.** -/
abbrev KeepsDeployment : Deployment → Deployment → Prop :=
  app.KeepsWorkload ["replicas", "selector", "template"]
    (·.spec.getD default) (·.replicas) (·.template)

/-- **What of a stateful set is as before.** -/
abbrev KeepsStatefulSet : StatefulSet → StatefulSet → Prop :=
  app.KeepsWorkload ["replicas", "serviceName", "podManagementPolicy", "selector",
    "volumeClaimTemplates", "template"] (·.spec.getD default) (·.replicas) (·.template)

/-- An autoscaler is left the number of pods. -/
theorem replicasFor_of_autoscaling (h : app.spec.autoscaling.isSome = true)
    (stored : Option Int32) : app.replicasFor stored = stored := by
  obtain ⟨scaling, hscaling⟩ := Option.isSome_iff_exists.1 h
  rw [replicasFor, hscaling]
  rfl

theorem keepsDeployment (old : Deployment) :
    app.KeepsDeployment old (app.deployment wiring old) where
  metadata := app.keeps_mark _
  object := .of_agreeBut ⟨isSet, isSet, Table.agreeBut_refl _ _⟩
  spec := .of_agreeBut ⟨isSet, isSet, isSet, Table.agreeBut_refl _ _⟩
  replicas h := app.replicasFor_of_autoscaling h _
  pods := app.keepsPods wiring _

theorem keepsStatefulSet (old : StatefulSet) :
    app.KeepsStatefulSet old (app.statefulSet wiring old) where
  metadata := app.keeps_mark _
  object := .of_agreeBut ⟨isSet, isSet, Table.agreeBut_refl _ _⟩
  spec := .of_agreeBut ⟨isSet, isSet, isSet, isSet, isSet, isSet, Table.agreeBut_refl _ _⟩
  replicas h := app.replicasFor_of_autoscaling h _
  pods := app.keepsPods wiring _

theorem keepsAutoscaler (old : Autoscaler) :
    app.KeepsChild ["spec"] [] [] old (app.autoscaler old) := by
  unfold autoscaler
  cases app.spec.autoscaling with
  | none => exact ⟨⟨fun _ _ => rfl, fun _ _ => rfl, .refl _ _⟩, .refl _ _⟩
  | some scaling =>
    exact ⟨app.keeps_mark _, .of_agreeBut ⟨isSet, isSet, Table.agreeBut_refl _ _⟩⟩

/-! ## Services

A service has one port that the operator cares for, the first of its list. Of that
port the fields that are set are named, like those of the service, with the port of
the nodes among them: whether that one is kept depends on the type of the service and
on what the application asks for.

It is therefore described by an equation (`KeepsNodePort.chosen`), which gives the
port of the nodes after for every port before, and from it for each service apart
whether the port that it has stays. Neither says anything of some service only: a type
without such ports drops every one of them, whichever service it is found on. -/

/-- The first port of a service, or a new one. -/
def portIn (service : Service) : ServicePort := firstPort (service.spec.getD default)

/-- The type of the service that an application asks for. -/
def serviceType : ServiceType := ((app.spec.service.getD default).type).getD .clusterIP

/-- The annotations that an application gives its service. -/
def serviceAnnotations : Labels := ((app.spec.service.getD default).annotations).getD .empty

/-- The fields of a service's port that the application sets. -/
def portFields : List String := ["name", "port", "targetPort", "protocol", "nodePort"]

/-- **What of a service is as before**: all but some fields of its
specification, some labels and some annotations. -/
structure KeepsService (fields labels annotations : List String) (before after : Service) : Prop
    extends app.KeepsChild ["spec"] labels annotations before after where
  /-- The other fields of its specification. -/
  spec : KeepsBut fields (before.spec.getD default) (after.spec.getD default)
  /-- The other fields of its first port. -/
  port : KeepsBut portFields (portIn before) (portIn after)

theorem keepsBut_portOf (old : ServicePort) (nodePort : Option Int32) :
    KeepsBut portFields old (app.portOf old nodePort) :=
  .of_agreeBut ⟨isSet, isSet, isSet, isSet, isSet, Table.agreeBut_refl _ _⟩

theorem keepsService (old : Service) :
    app.KeepsService ["type", "selector", "ports"] [Label.monitored] app.serviceAnnotations.keys
      old (app.service old) where
  metadata := by
    have h := ((ObjectMeta.Keeps.mark app old.metadata).trans (.markMonitored app _)).trans
      (.addAnnotations _ app.serviceAnnotations)
    rw [List.append_nil, List.append_nil] at h
    exact h
  object := .of_agreeBut ⟨isSet, isSet, Table.agreeBut_refl _ _⟩
  spec := .of_agreeBut ⟨isSet, isKept, isSet, isSet, Table.agreeBut_refl _ _⟩
  port := app.keepsBut_portOf _ _

theorem keepsService_headless (old : Service) :
    app.KeepsService ["type", "clusterIP", "selector", "ports"] [] []
      old (app.headlessService old) where
  metadata := app.keeps_mark _
  object := .of_agreeBut ⟨isSet, isSet, Table.agreeBut_refl _ _⟩
  spec := .of_agreeBut ⟨isSet, isSet, isSet, isSet, Table.agreeBut_refl _ _⟩
  port := app.keepsBut_portOf _ _

/-- **What becomes of the port of the nodes** that a service has on its first port. -/
structure KeepsNodePort (before after : Service) : Prop where
  /-- Where services of the type have such a port, it is the one that is asked for, or
  else the one that is there; elsewhere there is none. -/
  chosen : (portIn after).nodePort = if app.serviceType.allowsNodePort then
    ((app.spec.service.getD default).nodePort).or (portIn before).nodePort else none
  /-- So one that is there stays exactly if services of the type have one and no other
  is asked for. -/
  kept_iff : ∀ n, (portIn before).nodePort = some n →
    ((portIn after).nodePort = some n ↔ app.serviceType.allowsNodePort = true
      ∧ ∀ asked, (app.spec.service.getD default).nodePort = some asked → asked = n)

/-- **The port of the nodes of each service**, whichever it has. -/
theorem keepsNodePort (old : Service) : app.KeepsNodePort old (app.service old) where
  chosen := rfl
  kept_iff n hn := by
    show (if app.serviceType.allowsNodePort then
      ((app.spec.service.getD default).nodePort).or (portIn old).nodePort else none) = some n ↔ _
    rw [hn]
    cases hallows : app.serviceType.allowsNodePort with
    | false => simp
    | true =>
      cases (app.spec.service.getD default).nodePort with
      | none => simp
      | some asked => simp

/-! ## The account

The secrets by which images are pulled are a list that others add to, the cluster
among them. An application adds at most the one that it asks for, and only where it is
not there yet; so what was there is a prefix of what is there after, in the same
order. -/

/-- **What of an account is as before.** -/
structure KeepsAccount (before after : ServiceAccount) : Prop
    extends app.KeepsChild ["imagePullSecrets"] [] [] before after where
  /-- The secrets that are there; one may be added after them. -/
  secrets : before.imagePullSecrets.getD [] <+: after.imagePullSecrets.getD []

theorem keepsAccount (old : ServiceAccount) : app.KeepsAccount old (app.account old) where
  metadata := app.keeps_mark _
  object := .of_agreeBut ⟨isSet, isSet, Table.agreeBut_refl _ _⟩
  secrets := by
    unfold account
    cases filled app.spec.pullSecret with
    | none => exact List.prefix_refl _
    | some secret =>
      dsimp only
      split
      · exact List.prefix_refl _
      · exact List.prefix_append _ _

/-! ## The route

A host can come from three places: from the application, from the operator's default
domain, or from the cluster, which chooses one for a route that has none. The last is
a choice that is not to be made again with every pass, hence the condition under which
the host is as before. All else that a route says is set, and how traffic is secured
is set as a whole. -/

/-- The annotations that an application gives its route. -/
def routeAnnotations : Labels := ((app.spec.route.getD default).annotations).getD .empty

/-- **What of a route is as before**, where hosts are given in a domain, if in
any. -/
structure KeepsRoute (domain : Option String) (before after : Route) : Prop
    extends app.KeepsChild ["spec"] [] app.routeAnnotations.keys before after where
  /-- The other fields of its specification. -/
  spec : KeepsBut ["host", "path", "to", "port", "tls"] before.spec after.spec
  /-- The host, if the application neither asks for one nor is given one. -/
  host : app.host? domain = none → after.spec.host = before.spec.host

theorem keepsRoute (domain : Option String) (certificates : Option Certificates) (old : Route) :
    app.KeepsRoute domain old (app.route domain certificates old) where
  metadata := (ObjectMeta.Keeps.mark app old.metadata).trans (.addAnnotations _ _)
  object := .of_agreeBut ⟨isSet, isSet, Table.agreeBut_refl _ _⟩
  spec := .of_agreeBut ⟨isSet, isSet, isSet, isSet, isSet, Table.agreeBut_refl _ _⟩
  host h := by
    rw [route, h, Option.none_or]

/-! ## The Knative service

The revisions of a Knative service are stamped from a template inside it, which has
metadata of its own. They are marked like those of pods, and a label that hides the
service from outside stands on the service alone. What revisions ask for beside their
pods, such as how many requests a pod takes at once, is for others to set and is kept. -/

/-- What the revisions of a Knative service ask for. -/
def revisionSpec (service : KnativeService) : RevisionSpec :=
  (service.spec.template.getD default).spec.getD default

/-- **What of a Knative service is as before.** -/
structure KeepsKnative (before after : KnativeService) : Prop
    extends app.KeepsChild ["spec"] [Label.visibility] [] before after where
  /-- The other fields of its specification. -/
  spec : KeepsBut ["template"] before.spec after.spec
  /-- Of the metadata of its revisions, what the application does not give a value. -/
  revisions : ObjectMeta.Keeps app.labels.keys app.annotations.keys before.revisions after.revisions
  /-- The other fields of its revisions. -/
  revision : KeepsBut podFields (revisionSpec before) (revisionSpec after)
  /-- The other fields of the application's container. -/
  container : KeepsContainer (revisionSpec before).pod.containers (revisionSpec after).pod.containers

theorem keepsBut_withBarePorts (c : Container) : KeepsBut containerFields c (withBarePorts c) :=
  .of_agreeBut ⟨isKept, isKept, isKept, isSet, isSet, isSet, Table.agreeBut_refl _ _⟩

/-- With its ports left open the container is still the first of its name. -/
theorem KeepsContainer.withBarePorts {before after : List Container}
    (h : KeepsContainer before after) :
    KeepsContainer before (after.map Application.withBarePorts) := fun c hc => by
  obtain ⟨c', hfound, hkept⟩ := h c hc
  refine ⟨Application.withBarePorts c', ?_, hkept.trans (keepsBut_withBarePorts c')⟩
  rw [List.find?_map]
  exact congrArg (Option.map Application.withBarePorts) hfound

theorem keepsKnative (old : KnativeService) :
    app.KeepsKnative old (app.knativeService wiring old) where
  metadata := (ObjectMeta.Keeps.mark app old.metadata).trans (.markVisibility app _)
  object := .of_agreeBut ⟨isSet, isSet, Table.agreeBut_refl _ _⟩
  spec := .of_agreeBut ⟨isSet, Table.agreeBut_refl _ _⟩
  revisions := .mark app _
  revision := .of_agreeBut ⟨isKept, isKept, isKept, isKept, isSet, isSet, isSet, isSet, isSet,
    isSet, Table.agreeBut_refl _ _⟩
  container := (app.keepsContainer_podSpec wiring _).withBarePorts

/-! ## The service monitor

Monitors select services and say how these are scraped. The operator sets both, and it
knows no other field; what others set beside them is carried along without being
understood, which is what `KeepsBut` says of fields that are not modelled. -/

/-- The labels that an application gives its service monitor. -/
def monitorLabels : Labels := (app.spec.monitoring.bind (·.labels)).getD .empty

/-- **What of a service monitor is as before**, the fields included that are
not modelled. -/
structure KeepsMonitor (before after : ServiceMonitor) : Prop
    extends app.KeepsChild ["spec"] app.monitorLabels.keys [] before after where
  /-- The other fields of its specification. -/
  spec : KeepsBut ["selector", "endpoints"] before.spec after.spec

theorem keepsMonitor (old : ServiceMonitor) : app.KeepsMonitor old (app.serviceMonitor old) where
  metadata := by
    unfold monitorLabels serviceMonitor
    cases app.spec.monitoring.bind (·.labels) with
    | none => exact app.keeps_mark _
    | some labels => exact (ObjectMeta.Keeps.mark app old.metadata).trans (.addLabels _ labels)
  object := .of_agreeBut ⟨isSet, isSet, Table.agreeBut_refl _ _⟩
  spec := .of_agreeBut ⟨isSet, isSet, Table.agreeBut_refl _ _⟩

/-! ## All children

The parts are put together over all that an application can ask for: the statement
quantifies over the application, its bindings, the domain, the certificates and each
stored object. It has no hypotheses, since nothing that is stored and nothing that is
asked for makes the operator touch more than is listed. -/

/-- **What an application does not set in its children stays as it is**, in
children of every type, whatever the application asks for and whatever is
stored. -/
theorem keepsChildren (domain : Option String) (certificates : Option Certificates) :
    (∀ old, app.KeepsDeployment old (app.deployment wiring old))
    ∧ (∀ old, app.KeepsStatefulSet old (app.statefulSet wiring old))
    ∧ (∀ old, app.KeepsService ["type", "selector", "ports"] [Label.monitored]
        app.serviceAnnotations.keys old (app.service old))
    ∧ (∀ old, app.KeepsNodePort old (app.service old))
    ∧ (∀ old, app.KeepsService ["type", "clusterIP", "selector", "ports"] [] []
        old (app.headlessService old))
    ∧ (∀ old, app.KeepsRoute domain old (app.route domain certificates old))
    ∧ (∀ old, app.KeepsKnative old (app.knativeService wiring old))
    ∧ (∀ old, app.KeepsAccount old (app.account old))
    ∧ (∀ old, app.KeepsChild ["spec"] [] [] old (app.autoscaler old))
    ∧ ∀ old, app.KeepsMonitor old (app.serviceMonitor old) :=
  ⟨app.keepsDeployment wiring, app.keepsStatefulSet wiring, app.keepsService,
    app.keepsNodePort, app.keepsService_headless, app.keepsRoute domain certificates,
    app.keepsKnative wiring, app.keepsAccount, app.keepsAutoscaler, app.keepsMonitor⟩

/-- So it is for a service of which the cluster has chosen the address and the port of
the nodes, and to which someone has added a label. -/
theorem keepsChildren_of_node_port :
    let app : Application := { (default : Application) with
      spec := { (default : Application).spec with
        service := some { (default : ServiceSettings) with type := some .nodePort } } }
    let chosen : ServicePort := { (default : ServicePort) with nodePort := some 31555 }
    let old : Service := { (blank Service) with
      metadata := (blank Service).metadata.addLabels (.singleton "team" "web")
      spec := some { (default : ServiceSpec) with
        clusterIP := some "10.0.0.12", ports := some [chosen] } }
    (app.service old).metadata.label? "team" = some "web"
      ∧ (encode ((app.service old).spec.getD default)).get? "clusterIP" = some (.str "10.0.0.12")
      ∧ (portIn (app.service old)).nodePort = some 31555 := by
  intro app chosen old
  obtain ⟨-, -, hservice, hport, -⟩ := app.keepsChildren {} none none
  have hkept := hservice old
  exact ⟨hkept.metadata.label "team" (by decide +kernel), hkept.spec "clusterIP" (by decide),
    ((hport old).kept_iff 31555 rfl).2 ⟨by decide, nofun⟩⟩

end Application
end AppOperator
