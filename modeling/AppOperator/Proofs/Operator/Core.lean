import AppOperator.Proofs.Operator.Rounds
import AppOperator.Proofs.Reconcile.Resuming

/-!
# What a pass depends on

A client keeps a copy of what it last sent in an annotation, the cluster
counts generations, and the operator records conditions and the image that it
found. None of this is asked for, and a child that depended on it would change
with it: the annotation holds the whole specification, and the conditions are
written after each pass.

All that the children of an application are made from is its **core**
(`Application.core`): what it asks for, what it is called, where it is, its
identity, its labels, its annotations but one, and the image. That nothing
else is read is an equation of programs, the children of an application being
those of its core (`Pass.core_children`), and it goes through the generators
and the operations of a pass one by one.

The image is read from the status, and the status may hold one from before.
But a pass first looks for the image and notes what it found, be it nothing
(`Pass.image_of_prepare`). So two versions of an application may differ in
that, too, when a pass begins, and have one core when the children are made
(`Controller.pass_eq_of_agreesWith`).
-/

namespace AppOperator

/-- What of the metadata of an application its children are made from. Without
a name, an application goes by the best that is known of it. -/
def ObjectMeta.core (m : ObjectMeta) : ObjectMeta :=
  { (default : ObjectMeta) with
    name := m.name
    generateName := some m.anyName
    ns := m.ns
    uid := m.uid
    labels := some (m.labels.getD .empty)
    annotations := some ((m.annotations.getD .empty).erase Application.lastApplied) }

namespace Application

/-- **The core of an application**: all that its children are made from. -/
def core (app : Application) : Application :=
  { metadata := app.metadata.core
    spec := app.spec
    status := some { (default : ApplicationStatus) with
      imageReference := app.status.bind (·.imageReference) } }

variable (app : Application)

/-! ## What is read of an application

An application is read in a few places only: its name, its namespace, its labels and
annotations, its image and its specification. Each of these is the same for the core.
The lemmas are simplification rules, which rewrite away a core wherever it stands, so
that what follows has nothing left to prove but that nothing else is read. -/

@[simp] theorem core_spec : app.core.spec = app.spec := rfl

@[simp] theorem core_nsOrEmpty : app.core.metadata.nsOrEmpty = app.metadata.nsOrEmpty := rfl

@[simp] theorem core_name : app.core.name = app.name := by
  unfold name
  show (app.metadata.name.or (some app.metadata.anyName)).getD "" = app.metadata.anyName
  unfold ObjectMeta.anyName
  cases app.metadata.name with
  | none => rfl
  | some _ => rfl

@[simp] theorem core_labels : app.core.labels = app.labels := by
  unfold labels
  rw [core_name]
  rfl

/-- The annotation that is left out is left out once. -/
@[simp] theorem core_annotations : app.core.annotations = app.annotations := by
  refine Dict.ext fun k => ?_
  show (((app.metadata.annotations.getD .empty).erase lastApplied).erase lastApplied).get? k
    = ((app.metadata.annotations.getD .empty).erase lastApplied).get? k
  rw [Dict.get?_erase, Dict.get?_erase]
  split
  · rfl
  · rfl

@[simp] theorem core_selectorLabels : app.core.selectorLabels = app.selectorLabels := by
  rw [selectorLabels, core_name, selectorLabels]

@[simp] theorem core_mark : app.core.mark = app.mark := by
  funext m
  rw [mark, core_labels, core_annotations, mark]

@[simp] theorem core_headlessServiceName :
    app.core.headlessServiceName = app.headlessServiceName := by
  rw [headlessServiceName, core_name, headlessServiceName]

@[simp] theorem core_bindingSecretName : app.core.bindingSecretName = app.bindingSecretName := by
  rw [bindingSecretName, core_name, core_nsOrEmpty, bindingSecretName]

/-! ## What is made for an application

The generators are functions of an application and a stored object. For each of them
the equation is one of functions, over all stored objects at once, and most are seen
by unfolding the generator and rewriting what it reads. -/

@[simp] theorem core_account : app.core.account = app.account := by
  funext old
  rw [account, core_mark, account]
  rfl

@[simp] theorem core_service : app.core.service = app.service := by
  funext old
  rw [service, core_mark, core_selectorLabels, service]
  rfl

@[simp] theorem core_headlessService : app.core.headlessService = app.headlessService := by
  funext old
  rw [headlessService, core_mark, core_selectorLabels, headlessService]
  rfl

@[simp] theorem core_container (wiring : Wiring) :
    app.core.container wiring = app.container wiring := rfl

@[simp] theorem core_podTemplate (wiring : Wiring) :
    app.core.podTemplate wiring = app.podTemplate wiring := by
  funext old
  have haccount : app.core.accountName = app.accountName := by
    rw [accountName, core_name, accountName]
    rfl
  rw [podTemplate, core_mark, podSpec, haccount, core_container, podTemplate, podSpec]
  rfl

@[simp] theorem core_deployment (wiring : Wiring) :
    app.core.deployment wiring = app.deployment wiring := by
  funext old
  rw [deployment, core_mark, core_selectorLabels, core_podTemplate, deployment]
  rfl

@[simp] theorem core_statefulSet (wiring : Wiring) :
    app.core.statefulSet wiring = app.statefulSet wiring := by
  funext old
  have hclaim : app.core.storageClaim? = app.storageClaim? := by
    unfold storageClaim?
    rw [core_selectorLabels]
    rfl
  rw [statefulSet, core_mark, core_selectorLabels, core_podTemplate, core_headlessServiceName,
    hclaim, statefulSet]
  rfl

@[simp] theorem core_autoscaler : app.core.autoscaler = app.autoscaler := by
  funext old
  rw [autoscaler, core_mark, core_name, autoscaler]
  rfl

@[simp] theorem core_knativeService (wiring : Wiring) :
    app.core.knativeService wiring = app.knativeService wiring := by
  funext old
  rw [knativeService, core_mark, core_podTemplate, knativeService]
  rfl

@[simp] theorem core_route (domain : Option String) (found : Option Certificates) :
    app.core.route domain found = app.route domain found := by
  funext old
  have hhost : app.core.host? domain = app.host? domain := by
    rw [host?, core_name, core_nsOrEmpty, host?]
    rfl
  rw [route, core_mark, core_name, hhost, route]
  rfl

@[simp] theorem core_serviceMonitor : app.core.serviceMonitor = app.serviceMonitor := by
  funext old
  rw [serviceMonitor, core_mark, core_selectorLabels, serviceMonitor]
  rfl

@[simp] theorem core_binding (credentials : Credentials) :
    app.core.binding credentials = app.binding credentials := by
  have hhost : app.core.hostname = app.hostname := by
    rw [hostname, core_name, core_nsOrEmpty, hostname]
  unfold binding
  rw [hhost]
  rfl

@[simp] theorem core_bindingSecret (data : Labels) :
    app.core.bindingSecret data = app.bindingSecret data := by
  funext old
  rw [bindingSecret, core_mark, bindingSecret]

/-! ## What is owned

Operations on children read of an application who it is: its name and identity for the
reference, its namespace for the key. The equations are between computations, so they
cover every call and every failure that an operation may come to, whatever the cluster
answers. -/

@[simp] theorem core_ns : app.core.ns = app.ns := by
  unfold ns lacks
  rw [core_name]
  rfl

@[simp] theorem core_own (controls : Bool) (objectKind : String) (m : ObjectMeta) :
    app.core.own controls objectKind m = app.own controls objectKind m := by
  have hreference : app.core.ownerReference controls = app.ownerReference controls := by
    unfold ownerReference lacks
    rw [core_name]
    rfl
  unfold own
  rw [hreference]

end Application

namespace Access

variable (app : Application) {α : Type} [ApiObject α]

@[simp] theorem core_write (controls : Bool) (name : String) (update : α → α) :
    write app.core controls name update = write app controls name update := by
  unfold write desired
  simp only [Application.core_ns, Application.core_own]

@[simp] theorem core_deleteOwn (name : String) :
    deleteOwn α app.core name = deleteOwn α app name := by
  unfold deleteOwn
  rw [Application.core_ns]
  rfl

@[simp] theorem core_release (name : String) : release α app.core name = release α app name := by
  unfold release
  rw [Application.core_ns]
  rfl

@[simp] theorem core_keep (wanted : Bool) (name : String) (update : α → α) :
    keep wanted app.core name update = keep wanted app name update := by
  unfold keep writeOwn
  rw [core_write, core_deleteOwn]

@[simp] theorem core_drop (name : String) : drop α app.core name = drop α app name := by
  unfold drop
  rw [core_deleteOwn]

theorem core_account : account app.core = account app := by
  unfold account
  rw [core_keep, Application.core_name, Application.core_account]
  rfl

/-! ## Secrets

What an application publishes and copies is made of the same parts. Copying and giving
up are loops, and there the equation is carried along the list. -/

theorem core_publish : publish app.core = publish app := by
  unfold publish writeOwn
  simp only [core_write, core_deleteOwn, Application.core_bindingSecretName,
    Application.core_binding, Application.core_bindingSecret]
  rfl

theorem core_copyAll (consumed : List Consumed) :
    copyAll app.core consumed = copyAll app consumed := by
  induction consumed with
  | nil => rfl
  | cons c rest ih =>
    rw [copyAll_cons, copyAll_cons, ih]
    unfold copyOne writeShared
    simp only [core_write]

theorem core_releaseAll (names : List String) :
    releaseAll app.core names = releaseAll app names := by
  induction names with
  | nil => rfl
  | cons name rest ih => rw [releaseAll, releaseAll, ih, core_release]

/-! ## The launch

A launch is put together from generators and operations, and its branches depend on
the specification only. With the equations above every branch is one for the core. -/

theorem core_runKnative (apis : ClusterApis) (wiring : Wiring) :
    runKnative apis app.core wiring = runKnative apis app wiring := by
  unfold runKnative writeOwn
  simp only [core_write, core_drop, Application.core_name, Application.core_headlessServiceName,
    Application.core_knativeService]

theorem core_runPods (wiring : Wiring) : runPods app.core wiring = runPods app wiring := by
  unfold runPods writeOwn
  simp only [core_write, core_drop, Application.core_name, Application.core_headlessServiceName,
    Application.core_headlessService, Application.core_statefulSet, Application.core_deployment]
  rfl

theorem core_expose (settings : Settings) : expose settings app.core = expose settings app := by
  have hcertificates : certificates app.core = certificates app := rfl
  unfold expose writeOwn
  simp only [core_write, core_drop, Application.core_name, Application.core_route, hcertificates]
  rfl

theorem core_runWorkload (apis : ClusterApis) (settings : Settings) (wiring : Wiring) :
    runWorkload apis settings app.core wiring = runWorkload apis settings app wiring := by
  unfold runWorkload writeOwn
  simp only [core_write, core_drop, core_keep, core_runPods, core_expose, Application.core_name,
    Application.core_service, Application.core_autoscaler, Application.core_serviceMonitor,
    Application.core_spec]

theorem core_launch (apis : ClusterApis) (settings : Settings) (wiring : Wiring) :
    launch apis settings app.core wiring = launch apis settings app wiring := by
  unfold launch
  rw [core_runKnative, core_runWorkload]
  rfl

end Access

/-- **The children of an application are those of its core.** -/
theorem Pass.core_children (apis : ClusterApis) (settings : Settings) (app : Application) :
    Pass.children apis settings app.core = Pass.children apis settings app := by
  have hbindings : Pass.bindings app.core = Pass.bindings app := by
    have hread : app.core.bindings = app.bindings := rfl
    have hstale : app.core.stale = app.stale := by
      funext status b
      rw [Application.stale, Application.core_bindingSecretName, Application.stale]
    unfold Pass.bindings
    simp only [Access.core_publish, Access.core_copyAll, Access.core_releaseAll, hread, hstale]
  unfold Pass.children
  simp only [Access.core_account, hbindings, Access.core_launch]

/-! ## What a pass does not depend on

Two versions with the same core have the same children, so the question is when two
versions come to the same core. They do if they agree in what is asked for and in who
they are, and if the image that is found is the same; and the image that is found does
not depend on the one in the status, as it is looked for anew.

The comparison is between whole passes. It includes the calls, made in the same order
with the same objects, and the history that they leave, so nothing that an application
does not ask for can be seen from the cluster. -/

/-- What is done before the launch depends on a status by the secrets that it lists. -/
theorem Access.beforeLaunch_congr (app : Application) {status status' : ApplicationStatus}
    (h : status.consumedServices = status'.consumedServices) :
    beforeLaunch app status = beforeLaunch app status' := by
  have hreleased : app.releasedSecrets status = app.releasedSecrets status' := by
    unfold Application.releasedSecrets ApplicationStatus.secretsInUse
    rw [h]
  unfold beforeLaunch bindSecrets secretTasks
  rw [hreleased]

/-- **Children are the same** of applications with one core, from statuses
that list the same secrets. -/
theorem Pass.children_congr {a b : Application} (hcore : a.core = b.core)
    {status status' : ApplicationStatus}
    (hstatus : status.consumedServices = status'.consumedServices) (apis : ClusterApis)
    (settings : Settings) (s : Server) :
    ((Pass.children apis settings a).on status s).1
        = ((Pass.children apis settings b).on status' s).1
      ∧ ((Pass.children apis settings a).on status s).2.2
        = ((Pass.children apis settings b).on status' s).2.2
      ∧ ((Pass.children apis settings a).on status s).2.1.consumedServices
        = ((Pass.children apis settings b).on status' s).2.1.consumedServices := by
  rw [← core_children apis settings a, hcore, core_children, children_on, children_on,
    Access.beforeLaunch_congr b hstatus]
  rcases (Access.beforeLaunch b status').on s with ⟨e | found, s₁⟩
  · exact ⟨rfl, rfl, hstatus⟩
  · exact ⟨rfl, rfl, rfl⟩

namespace Application

/-- **Two versions of an application that agree** on all that its children may
depend on: what it asks for, what it is called and where it is, its identity,
its labels, its annotations but for the one that a client keeps for itself,
and the secrets that are listed as in use. What else is recorded of them may
differ. -/
structure AgreesWith (a b : Application) : Prop where
  /-- What it asks for. -/
  spec : a.spec = b.spec
  /-- The name. -/
  name : a.metadata.name = b.metadata.name
  /-- What it goes by, which is its name if it has one. -/
  called : a.name = b.name
  /-- The namespace. -/
  ns : a.metadata.ns = b.metadata.ns
  /-- The identity. -/
  uid : a.metadata.uid = b.metadata.uid
  /-- The labels. -/
  labels : a.metadata.labels = b.metadata.labels
  /-- The annotations. -/
  annotations : ∀ key ≠ lastApplied, (a.metadata.annotations.getD .empty).get? key
    = (b.metadata.annotations.getD .empty).get? key
  /-- The secrets in use. -/
  consumedServices : (a.status.getD default).consumedServices
    = (b.status.getD default).consumedServices

/-- The metadata of two versions that agree have one core. -/
theorem AgreesWith.core_metadata {a b : Application} (h : a.AgreesWith b) :
    a.metadata.core = b.metadata.core := by
  have hname : a.metadata.anyName = b.metadata.anyName := h.called
  have hannotations : (a.metadata.annotations.getD .empty).erase lastApplied
      = (b.metadata.annotations.getD .empty).erase lastApplied := by
    refine Dict.ext fun key => ?_
    rw [Dict.get?_erase, Dict.get?_erase]
    by_cases hkey : key = lastApplied
    · rw [if_pos hkey, if_pos hkey]
    · rw [if_neg hkey, if_neg hkey, h.annotations key hkey]
  rw [ObjectMeta.core, h.name, hname, h.ns, h.uid, h.labels, hannotations, ObjectMeta.core]

end Application

/-- **Of two versions that agree the same is wanted.** -/
theorem Access.on_wanted_congr {a b : Application} (h : a.AgreesWith b) (config : Config)
    (apis : ClusterApis) (s : Server) :
    (wanted config apis b).on s = match (wanted config apis a).on s with
      | (.ok (meant, settings, image), s') =>
        (.ok ({ b with spec := meant.spec }, settings, image), s')
      | (.error e, s') => (.error e, s') := by
  have hns : b.metadata.nsOrEmpty = a.metadata.nsOrEmpty := by
    rw [ObjectMeta.nsOrEmpty, ← h.ns, ObjectMeta.nsOrEmpty]
  have hoperator : config.operatorNsFor b = config.operatorNsFor a := by
    rw [Config.operatorNsFor, hns, Config.operatorNsFor]
  have hlift : ∀ {α : Type} (e : Except OperatorError α) (s : Server),
      (liftM e : Access α).on s = (e, s) := fun _ _ => rfl
  have hadmitted : ∀ layers, (b.normalized layers).2 = (a.normalized layers).2 := by
    intro layers
    rw [Application.normalized, ← h.spec, Application.normalized]
  have himage : ∀ layers,
      resolveImage apis (b.normalized layers).1 = resolveImage apis (a.normalized layers).1 := by
    intro layers
    unfold resolveImage Application.imageReference? Application.normalized
    rw [hns, ← h.spec]
  unfold wanted
  dsimp only
  simp only [on_bind, hlift, hoperator, ← h.spec, hadmitted, himage, on_pure]
  -- both come to the same answers, call by call
  rcases (layers (config.operatorNsFor a) a.spec.stack).on s with ⟨_ | layers, s₁⟩
  · rfl
  dsimp only
  rcases (Access.settings (config.operatorNsFor a)).on s₁ with ⟨_ | settings, s₂⟩
  · rfl
  dsimp only
  cases (a.normalized layers).2 with
  | error e => rfl
  | ok _ =>
    dsimp only
    rcases (resolveImage apis (a.normalized layers).1).on s₂ with ⟨_ | image, s₃⟩
    · rfl
    · dsimp only
      rw [Application.normalized, ← h.spec, Application.normalized]

/-- **The image that runs is the one that was found**, or else the one that is
asked for. What the status said before does not matter. -/
theorem Pass.image_of_prepare {config : Config} {apis : ClusterApis} {app meant : Application}
    {settings : Settings} {status noted : ApplicationStatus} {s s' : Server}
    (h : (Pass.prepare config apis app).on status s = (.ok (meant, settings), noted, s')) :
    ∃ found u, (Access.resolveImage apis { app with spec := meant.spec, status := none }).on u
        = (.ok found, s')
      ∧ ∀ wiring old, (meant.container wiring old).image
        = some ((Application.filled found).getD meant.spec.applicationImage) := by
  rw [on_prepare] at h
  rcases hwanted : (Access.wanted config apis app).on s with ⟨_ | ⟨spec, settings', image⟩, s₁⟩
  · rw [hwanted] at h
    simp at h
  rw [hwanted] at h
  obtain ⟨hmeant, hrest⟩ := Prod.mk.inj h
  obtain ⟨rfl, rfl⟩ := Prod.mk.inj (Except.ok.inj hmeant)
  obtain ⟨-, rfl⟩ := Prod.mk.inj hrest
  obtain ⟨layers, _, -, hwanted⟩ := Access.on_bind_ok.1 hwanted
  obtain ⟨_, _, -, hwanted⟩ := Access.on_bind_ok.1 hwanted
  obtain ⟨_, u, -, hwanted⟩ := Access.on_bind_ok.1 hwanted
  obtain ⟨found, _, hfound, hdone⟩ := Access.on_bind_ok.1 hwanted
  obtain ⟨heq, rfl⟩ := Prod.mk.inj hdone
  obtain ⟨rfl, hpair⟩ := Prod.mk.inj (Except.ok.inj heq)
  obtain ⟨-, rfl⟩ := Prod.mk.inj hpair
  exact ⟨found, u, hfound, fun _ _ => rfl⟩

/-- A pass finds out what is wanted and brings it about with the image that was found. -/
theorem Controller.on_pass (config : Config) (apis : ClusterApis) (app : Application)
    (status : ApplicationStatus) (s : Server) :
    (pass config apis app).on status s = match (Access.wanted config apis app).on s with
      | (.ok (meant, settings, image), s') =>
        (Pass.children apis settings
          { meant with status := some { status with imageReference := image } }).on
            { status with imageReference := image } s'
      | (.error e, s') => (.error e, status, s') := by
  unfold pass
  rw [Pass.on_bind, Pass.on_prepare]
  rcases (Access.wanted config apis app).on s with ⟨_ | _, _⟩
  · rfl
  · rfl

/-- **A pass depends on nothing else.** Passes for two versions that agree, on
any cluster and with whatever it refuses, make the same calls with the same
objects, come to the same result and leave the same objects. An image that a
status holds from before does not come into any container. -/
theorem Controller.pass_eq_of_agreesWith {a b : Application} (h : a.AgreesWith b)
    (config : Config) (apis : ClusterApis) (s : Server) :
    (((pass config apis a).on (a.status.getD default) s).1
        = ((pass config apis b).on (b.status.getD default) s).1
      ∧ ((pass config apis a).on (a.status.getD default) s).2.2
        = ((pass config apis b).on (b.status.getD default) s).2.2
      ∧ ((pass config apis a).on (a.status.getD default) s).2.1.consumedServices
        = ((pass config apis b).on (b.status.getD default) s).2.1.consumedServices)
    ∧ ∀ meant settings noted s',
      (Pass.prepare config apis a).on (a.status.getD default) s = (.ok (meant, settings), noted, s') →
      ∃ found u, (Access.resolveImage apis { a with spec := meant.spec, status := none }).on u
          = (.ok found, s')
        ∧ ∀ wiring old, (meant.container wiring old).image
          = some ((Application.filled found).getD meant.spec.applicationImage) := by
  refine ⟨?_, fun _ _ _ _ => Pass.image_of_prepare⟩
  rw [on_pass, on_pass, Access.on_wanted_congr h config apis s]
  rcases hwanted : (Access.wanted config apis a).on s with ⟨e | ⟨meant, settings, image⟩, s₁⟩
  · exact ⟨rfl, rfl, h.consumedServices⟩
  · refine Pass.children_congr ?_ ?_ apis settings s₁
    · simp only [Application.core, Access.metadata_of_wanted hwanted, h.core_metadata,
        Option.bind_some]
    · exact h.consumedServices

/-- An application of which a failure was recorded, with an image from before. -/
def Application.recorded (app : Application) (image : String) : Application :=
  { app with
    metadata := { app.metadata with
      generation := some 7
      annotations := some (.singleton lastApplied "{}") }
    status := some { (default : ApplicationStatus) with
      conditions := [.reconciled .no (some "KubeError") none .epoch]
      imageReference := some image
      observedGeneration := some 6 } }

theorem Application.agreesWith_recorded (ns name uid image : String) :
    (bound ns name uid false []).AgreesWith ((bound ns name uid false []).recorded image) where
  spec := rfl
  name := rfl
  called := rfl
  ns := rfl
  uid := rfl
  labels := rfl
  annotations key hkey := by
    show none = Assoc.get? key [(lastApplied, "{}")]
    rw [Assoc.get?_cons, if_neg hkey]
    rfl
  consumedServices := rfl

/-- A pass succeeds for a new application, and does the same for one with a
failure recorded and an image from before. -/
theorem Controller.pass_eq_of_recorded :
    ((pass default {} (.bound "shop" "web" "u1" false [])).on
        ((Application.bound "shop" "web" "u1" false []).status.getD default) (.offering [])).1.isOk
      = true
    ∧ ((pass default {} (.bound "shop" "web" "u1" false [])).on
        ((Application.bound "shop" "web" "u1" false []).status.getD default) (.offering [])).2.2
      = ((pass default {} ((Application.bound "shop" "web" "u1" false []).recorded "old")).on
        (((Application.bound "shop" "web" "u1" false []).recorded "old").status.getD default)
          (.offering [])).2.2 :=
  ⟨by decide +kernel, (pass_eq_of_agreesWith
    (Application.agreesWith_recorded "shop" "web" "u1" "old") default {} (.offering [])).1.2.1⟩

end AppOperator
