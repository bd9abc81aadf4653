import AppOperator.Proofs.Child.Labels
import AppOperator.Proofs.Reconcile.Formed

/-!
# Where labels stand

The labels of an application stand on its children, on the pods that are
stamped for it and on the secret of what it offers (`LabelPlace`). In all of
them a label is a matter of one part of what is stored, which owning and
naming leave alone (`LabelPlace.Bears`), and every update does the same to it:
it gives the label a value, or else leaves what is there
(`LabelPlace.SetBy`). So the label of a child that is written is the value
that is given, or else that of the child in whose place it is stored
(`LabelPlace.SetBy.label?`).

Which value is given differs in one place only: of a monitor more labels may
be asked for, and these come before the others.

The same equation serves for a label that is set and for one that is not, since what
is given is optional: where nothing is given, what was there stays. It is the reason
why a label that is not set any more remains, and no separate argument is needed to
show that it does.
-/

namespace AppOperator

/-! ## Where labels stand

A place is a key together with the part of the object that bears the labels, and
reading a label at a place is a computation on what is stored. That the part is not
disturbed by what else is done to the object, by naming and owning it above all, is
what `LabelPlace.Bears` says. With it a label of the child that is stored is a label
of the child that the update has made. -/

/-- **Where the labels of an application stand**: on what it controls, and on
the pods that are stamped for it. -/
inductive LabelPlace where
  /-- A child that runs the application. -/
  | child (c : Child)
  /-- The pods of the deployment. -/
  | deploymentPods
  /-- The pods of the stateful set. -/
  | statefulSetPods
  /-- The revisions of the Knative service. -/
  | revisions
  /-- The secret of what the application offers. -/
  | secret
deriving DecidableEq

namespace LabelPlace

/-- The child that they stand on, unless it is the secret. -/
def child? : LabelPlace → Option Child
  | child c => some c
  | deploymentPods => some .deployment
  | statefulSetPods => some .statefulSet
  | revisions => some .knativeService
  | secret => none

/-- Under which key the labels are stored. -/
def key (app : Application) (p : LabelPlace) : ObjectKey :=
  match p.child? with
  | some c => c.key app
  | none => .of Secret app.metadata.nsOrEmpty app.bindingSecretName

/-- The metadata that the labels are part of. -/
def bearer? (j : Json) : LabelPlace → Option ObjectMeta
  | child _ => j.metadata?
  | deploymentPods => (Access.read? Deployment j).map Deployment.pods
  | statefulSetPods => (Access.read? StatefulSet j).map StatefulSet.pods
  | revisions => (Access.read? KnativeService j).map KnativeService.revisions
  | secret => j.metadata?

/-- **What stands in a label**, if it is there. -/
def label? (p : LabelPlace) (app : Application) (objects : Dict ObjectKey Json) (key : String) :
    Option String := do
  let j ← objects.get? (p.key app)
  let m ← p.bearer? j
  m.label? key

/-- What the application asks for beside its labels: those by which a
Prometheus finds its monitor. -/
def asked (app : Application) (key : String) : LabelPlace → Option String
  | child .serviceMonitor => ((app.spec.monitoring.bind (·.labels)).getD .empty).get? key
  | _ => none

/-- **What an application gives a label**: what is asked for there comes before
what its labels say. -/
def given (p : LabelPlace) (app : Application) (l : SpecLabel) : Option String :=
  (p.asked app l.key).or (app.labels.get? l.key)

end LabelPlace

/-- **A part of a child that bears labels**, and where they stand: naming and
owning the child leaves them, and a new child has none. -/
structure LabelPlace.Bears (p : LabelPlace) (app : Application) {α : Type} [ApiObject α]
    (name : String) (part : α → ObjectMeta) : Prop where
  /-- The child is stored where they stand. -/
  key_eq : p.key app = .of α app.metadata.nsOrEmpty name
  /-- They are those of the part. -/
  bearer_eq : ∀ {j a}, Access.read? α j = some a → p.bearer? j = some (part a)
  /-- Other metadata of the same labels leave them. -/
  kept : ∀ a m key, m.label? key = (metadata a).label? key →
    (part (withMetadata a m)).label? key = (part a).label? key
  /-- A new child has none. -/
  new : ∀ key, (part (blank α)).label? key = none

namespace Access

variable {app : Application} {p : LabelPlace} {key : String}

section Bears

variable {α : Type} [ApiObject α] {name : String} {part : α → ObjectMeta} {update : α → α}

/-- The child itself bears labels. -/
theorem bears_metadata [Legible α] (hkey : p.key app = .of α app.metadata.nsOrEmpty name)
    (hwhole : ∀ j, p.bearer? j = j.metadata?) : p.Bears app name (metadata : α → ObjectMeta) where
  key_eq := hkey
  bearer_eq h := (hwhole _).trans (metadata?_of_read? h)
  kept a m key h := by rw [ApiObject.metadata_withMetadata, h]
  new key := by rw [Legible.metadata_blank, ObjectMeta.label?_blank]

/-- What a child stamps bears labels of its own, apart from those of the child. -/
theorem bears_stamped (hkey : p.key app = .of α app.metadata.nsOrEmpty name)
    (hpart : ∀ j, p.bearer? j = (read? α j).map part)
    (hkept : ∀ a m, part (withMetadata a m) = part a)
    (hnew : part (blank α) = blank ObjectMeta) : p.Bears app name part where
  key_eq := hkey
  bearer_eq h := (hpart _).trans (congrArg (Option.map part) h)
  kept a m key _ := by rw [hkept]
  new key := by rw [hnew, ObjectMeta.label?_blank]

/-- What stands in a label can be told by the child that is stored. -/
theorem label?_of_shows (hp : p.Bears app name part) {objects : Dict ObjectKey Json}
    {existing : Option α} (h : Shows objects α app.metadata.nsOrEmpty name existing) :
    p.label? app objects key = existing.bind fun a => (part a).label? key := by
  unfold LabelPlace.label?
  rw [hp.key_eq]
  cases existing with
  | none =>
    rw [shows_none.1 h]
    rfl
  | some a =>
    obtain ⟨j, hj, hread⟩ := shows_some.1 h
    simp only [hj, hp.bearer_eq hread, Option.bind_eq_bind, Option.bind_some]

variable {controls : Bool} {given : Option String}

/-- **What is to be stored has the labels that are given**, and else those of
what was stored. -/
theorem label?_of_desired (hp : p.Bears app name part)
    (hset : ∀ a, (part (update a)).label? key = given.or ((part a).label? key)) {ns : String}
    {existing : Option α} {child : α}
    (h : desired app controls ns name update existing = .ok child) :
    (part child).label? key = given.or (existing.bind fun a => (part a).label? key) := by
  obtain ⟨m, hm, rfl⟩ := desired_ok.1 h
  have hsame : m.label? key = (metadata (existing.getD (blank α))).label? key := by
    obtain ⟨r, -, -, rfl⟩ := Application.own_ok.1 hm
    rfl
  rw [hset, hp.kept _ _ _ hsame]
  cases existing with
  | none => rw [Option.getD_none, hp.new, Option.bind_none]
  | some a => rfl

end Bears

end Access

/-- **An update gives a label its value in some place**, where there is a
value, and leaves it as it is otherwise. -/
def LabelPlace.SetBy (p : LabelPlace) (app : Application) (key : String) (given : Option String)
    {α : Type} [ApiObject α] (name : String) (update : α → α) : Prop :=
  ∃ part, p.Bears app name part
    ∧ ∀ a, (part (update a)).label? key = given.or ((part a).label? key)

/-- **A child that is written has the label that is given**, and else keeps it. -/
theorem LabelPlace.SetBy.label? {p : LabelPlace} {app : Application} {key name : String}
    {given : Option String} {α : Type} [ApiObject α] {update : α → α}
    (hset : p.SetBy app key given name update) {before after : Dict ObjectKey Json}
    {controls : Bool} (h : Access.Written before after app controls name update) :
    p.label? app after key = given.or (p.label? app before key) := by
  obtain ⟨part, hp, hpart⟩ := hset
  obtain ⟨existing, child, hexisting, hchild, hshows⟩ := h
  rw [Access.label?_of_shows hp hexisting, Access.label?_of_shows hp hshows, Option.bind_some,
    Access.label?_of_desired hp hpart hchild]

/-! ## What sets labels

For each child one lemma says that its update gives a label what is given at that
place. They all have one form, so that a statement about all places can go through
them by cases; what differs is how far down in the child the labels stand, and that a
monitor is asked for more of them. -/

namespace LabelPlace

variable {app : Application} {l : SpecLabel} {c : Child} {p : LabelPlace} {wiring : Wiring}

/-- The forms of an application have their labels at the same places. -/
theorem label?_same {app' : Application} (p : LabelPlace) {key : String}
    (hns : app'.metadata.nsOrEmpty = app.metadata.nsOrEmpty) (hname : app'.name = app.name)
    (objects : Dict ObjectKey Json) : p.label? app' objects key = p.label? app objects key := by
  have hkey : p.key app' = p.key app := by
    unfold LabelPlace.key
    cases p.child? with
    | none => rw [Application.bindingSecretName, Application.bindingSecretName, hns, hname]
    | some c =>
      cases c <;> simp only [Child.key, Application.headlessServiceName, hns, hname]
  rw [label?, label?, hkey]

/-- The labels of a child, and of its pods, are stored with the child. -/
theorem key_of_child? (hp : p.child? = some c) : p.key app = c.key app := by
  rw [key, hp]

/-- Of children that stamp no pods the labels stand on the child alone. -/
theorem eq_child (hp : p.child? = some c) (hc : c ∉ Child.workloads) : p = .child c := by
  cases p with
  | child c' => rw [Option.some.inj hp]
  | secret => exact absurd hp nofun
  | _ =>
    obtain rfl := Option.some.inj hp
    exact absurd (by decide) hc

/-- Labels that do not stand on a child stand on the secret. -/
theorem eq_secret (hp : p.child? = none) : p = .secret := by
  cases p with
  | secret => rfl
  | _ => exact absurd hp nofun

/-- What is stored under the key of a child are labels of that child. -/
theorem child?_of_key (h : c.key app = p.key app) : p.child? = some c := by
  cases hp : p.child? with
  | some c' =>
    rw [key_of_child? hp] at h
    rw [Child.key_injective app h]
  | none =>
    obtain rfl := eq_secret hp
    cases c <;> exact absurd (ObjectKey.of_eq_iff.1 h).1 (by decide)

/-- What is stored under the key of a secret are labels of the application's own. -/
theorem eq_secret_of_key {ns name : String} (h : .of Secret ns name = p.key app) :
    p = .secret ∧ name = app.bindingSecretName := by
  cases hp : p.child? with
  | some c =>
    rw [key_of_child? hp] at h
    cases c <;> exact absurd (ObjectKey.of_eq_iff.1 h).1 (by decide)
  | none =>
    obtain rfl := eq_secret hp
    exact ⟨rfl, (ObjectKey.of_eq_iff.1 h).2.2⟩

section Whole

variable {α : Type} [ApiObject α] [Legible α] {name : String} {update : α → α}

/-- A child is given the labels of its application, and nothing is asked for beside them. -/
theorem setBy_whole (hkey : (child c).key app = .of α app.metadata.nsOrEmpty name)
    (hasked : (child c).asked app l.key = none)
    (hset : ∀ a, (metadata (update a)).label? l.key
      = (app.labels.get? l.key).or ((metadata a).label? l.key)) :
    (child c).SetBy app l.key ((child c).given app l) name update :=
  ⟨metadata, Access.bears_metadata hkey fun _ => rfl, fun a => by
    rw [given, hasked, Option.none_or, hset]⟩

end Whole

theorem setBy_account (hp : p.child? = some .account) :
    p.SetBy app l.key (p.given app l) app.name app.account := by
  obtain rfl := eq_child hp (by decide)
  exact setBy_whole rfl rfl fun _ => app.label?_mark _ _

theorem setBy_service (hp : p.child? = some .service) :
    p.SetBy app l.key (p.given app l) app.name app.service := by
  obtain rfl := eq_child hp (by decide)
  refine setBy_whole rfl rfl fun a => ?_
  exact (ObjectMeta.label?_addAnnotations _ _ _).trans
    ((app.label?_markMonitored _ l.key_ne_monitored).trans (app.label?_mark _ _))

theorem setBy_headlessService (hp : p.child? = some .headlessService) :
    p.SetBy app l.key (p.given app l) app.headlessServiceName app.headlessService := by
  obtain rfl := eq_child hp (by decide)
  exact setBy_whole rfl rfl fun _ => app.label?_mark _ _

theorem setBy_autoscaler (hscaled : app.spec.autoscaling.isSome = true)
    (hp : p.child? = some .autoscaler) :
    p.SetBy app l.key (p.given app l) app.name app.autoscaler := by
  obtain rfl := eq_child hp (by decide)
  refine setBy_whole rfl rfl fun a => ?_
  obtain ⟨scaling, hscaling⟩ := Option.isSome_iff_exists.1 hscaled
  rw [Application.autoscaler, hscaling]
  exact app.label?_mark _ _

theorem setBy_route {domain : Option String} {found : Option Certificates}
    (hp : p.child? = some .route) :
    p.SetBy app l.key (p.given app l) app.name (app.route domain found) := by
  obtain rfl := eq_child hp (by decide)
  refine setBy_whole rfl rfl fun a => ?_
  exact (ObjectMeta.label?_addAnnotations _ _ _).trans (app.label?_mark _ _)

/-- Of a monitor what is asked for comes before the labels of the application. -/
theorem setBy_serviceMonitor (hp : p.child? = some .serviceMonitor) :
    p.SetBy app l.key (p.given app l) app.name app.serviceMonitor := by
  obtain rfl := eq_child hp (by decide)
  refine ⟨ServiceMonitor.metadata, Access.bears_metadata rfl fun _ => rfl, fun a => ?_⟩
  rw [given, asked, Application.serviceMonitor]
  dsimp only
  cases app.spec.monitoring.bind (·.labels) with
  | none => exact app.label?_mark _ _
  | some labels =>
    rw [ObjectMeta.label?_addLabels, Application.label?_mark, Option.or_assoc]
    rfl

/-- A deployment and its pods are given the same labels. -/
theorem setBy_deployment (hp : p.child? = some .deployment) :
    p.SetBy app l.key (p.given app l) app.name (app.deployment wiring) := by
  cases p with
  | child c =>
    obtain rfl := Option.some.inj hp
    exact setBy_whole rfl rfl fun _ => app.label?_mark _ _
  | deploymentPods =>
    exact ⟨Deployment.pods, Access.bears_stamped rfl (fun _ => rfl) (fun _ _ => rfl) rfl,
      fun _ => app.label?_mark _ _⟩
  | _ => exact absurd hp nofun

/-- So are a stateful set and its pods. -/
theorem setBy_statefulSet (hp : p.child? = some .statefulSet) :
    p.SetBy app l.key (p.given app l) app.name (app.statefulSet wiring) := by
  cases p with
  | child c =>
    obtain rfl := Option.some.inj hp
    exact setBy_whole rfl rfl fun _ => app.label?_mark _ _
  | statefulSetPods =>
    exact ⟨StatefulSet.pods, Access.bears_stamped rfl (fun _ => rfl) (fun _ _ => rfl) rfl,
      fun _ => app.label?_mark _ _⟩
  | _ => exact absurd hp nofun

/-- So are a Knative service and its revisions. -/
theorem setBy_knativeService (hp : p.child? = some .knativeService) :
    p.SetBy app l.key (p.given app l) app.name (app.knativeService wiring) := by
  cases p with
  | child c =>
    obtain rfl := Option.some.inj hp
    refine setBy_whole rfl rfl fun a => ?_
    exact (app.label?_markVisibility _ l.key_ne_visibility).trans (app.label?_mark _ _)
  | revisions =>
    exact ⟨KnativeService.revisions, Access.bears_stamped rfl (fun _ => rfl) (fun _ _ => rfl) rfl,
      fun _ => app.label?_mark _ _⟩
  | _ => exact absurd hp nofun

/-- The secret of what the application offers is given its labels. -/
theorem setBy_bindingSecret (data : Labels) : secret.SetBy app l.key (secret.given app l)
    app.bindingSecretName (app.bindingSecret data) :=
  ⟨metadata, Access.bears_metadata rfl fun _ => rfl, fun _ => app.label?_mark _ _⟩

/-- A copy of a secret is given none. -/
theorem setBy_copyOf (source : Secret) :
    secret.SetBy app l.key none app.bindingSecretName source.copyOf := by
  refine ⟨metadata, Access.bears_metadata rfl fun _ => rfl, fun a => ?_⟩
  refine (ObjectMeta.label?_addLabels _ _ _).trans ?_
  rw [Dict.singleton, Dict.get?_insert, if_neg l.key_ne_managedBy, Dict.get?_empty]
  rfl

end LabelPlace
end AppOperator
