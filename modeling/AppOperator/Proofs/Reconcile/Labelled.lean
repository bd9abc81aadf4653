import AppOperator.Proofs.Reconcile.Labels
import AppOperator.Proofs.Reconcile.Ownership

/-!
# Labels after passes

After a pass that succeeded, a label on what the application controls is what
the application gives it, or else what it was before the pass
(`Pass.relabelled`). Nothing takes a label away. So one that the specification
sets says what the specification says, and one that it does not set any more
stays as long as the object does.

Where a label was never given it is not there: no call of a pass sets a label
that the application does not give, whether the pass succeeds or is cut off,
and so none is set along a run of passes (`Turn.label?_run`). With that it is
known of any run when the labels say at its end what the specification says
(`labels_exact`).

Places and labels are both parameters, so the statement is one for every label that a
specification can set and every object or template on which it may be set. What the
children do to labels is not looked at again here: it is the list of `setBy` lemmas.
-/

namespace AppOperator

namespace LabelPlace

variable {app : Application} {l : SpecLabel} {c : Child} {p : LabelPlace} {key : String}
  {before before' after after' : Dict ObjectKey Json}

/-! ## A pass

For each place where labels stand there is one step of a pass that sets them, and it
is known of that step which update it makes. So a place is labelled as its update
says, over what stood there before the pass, because nothing before that step was
about it. -/

/-- **A label as a pass leaves it**: what is given, or else what was there. -/
def Relabelled (app : Application) (l : SpecLabel) (before after : Dict ObjectKey Json)
    (p : LabelPlace) : Prop :=
  p.label? app after l.key = (p.given app l).or (p.label? app before l.key)

theorem label?_congr (h : after.get? (p.key app) = before.get? (p.key app)) :
    p.label? app after key = p.label? app before key := by
  unfold label?
  rw [h]

theorem Relabelled.congr (h : p.Relabelled app l before after)
    (hbefore : before.get? (p.key app) = before'.get? (p.key app))
    (hafter : after'.get? (p.key app) = after.get? (p.key app)) :
    p.Relabelled app l before' after' := by
  unfold Relabelled
  rw [label?_congr hafter, h, label?_congr hbefore]

end LabelPlace

namespace Access

variable {app : Application} {apis : ClusterApis} {settings : Settings} {wiring : Wiring}
  {l : SpecLabel} {c : Child} {p : LabelPlace} {s s' : Server}

/-- **Running the application labels its children** and their pods. -/
theorem relabelled_of_launch (h : (launch apis settings app wiring).on s = (.ok (), s'))
    (hp : p.child? = some c) (hc : c ≠ .account) (hserved : c.served apis = true)
    (hwanted : c.wanted app = true) : p.Relabelled app l s.objects s'.objects := by
  -- whatever child it is, it was written by a step of the branch taken; in the other branch
  -- it is not wanted
  unfold launch at h
  split at h
  · rename_i hknative
    cases c with
    | account => exact absurd rfl hc
    | knativeService =>
      exact (LabelPlace.setBy_knativeService hp).label? (written_of_runKnative h)
    | _ => exact absurd hwanted (by simp [Child.wanted, hknative])
  · rename_i hworkload
    have hwritten := written_of_runWorkload h
    cases c with
    | account => exact absurd rfl hc
    | knativeService => exact absurd hwanted hworkload
    | service => exact (LabelPlace.setBy_service hp).label? hwritten.service
    | deployment =>
      have hstorage : app.usesStorage = false := by
        simpa [Child.wanted, hworkload] using hwanted
      exact (LabelPlace.setBy_deployment hp).label? (hwritten.deployment hstorage)
    | statefulSet =>
      have hstorage : app.usesStorage = true := by
        simpa [Child.wanted, hworkload] using hwanted
      exact (LabelPlace.setBy_statefulSet hp).label? (hwritten.statefulSet hstorage)
    | headlessService =>
      have hstorage : app.usesStorage = true := by
        simpa [Child.wanted, hworkload] using hwanted
      exact (LabelPlace.setBy_headlessService hp).label? (hwritten.headlessService hstorage)
    | autoscaler =>
      have hscaled : app.spec.autoscaling.isSome = true := by
        simpa [Child.wanted, hworkload] using hwanted
      exact (LabelPlace.setBy_autoscaler hscaled hp).label? (hwritten.autoscaler hscaled)
    | route =>
      have hexposed : app.isExposed = true := by
        simpa [Child.wanted, hworkload] using hwanted
      obtain ⟨found, hroute⟩ := hwritten.route hserved hexposed
      exact (LabelPlace.setBy_route hp).label? hroute
    | serviceMonitor =>
      have hmonitored : app.spec.monitoring.isSome = true := by
        simpa [Child.wanted, hworkload] using hwanted
      exact (LabelPlace.setBy_serviceMonitor hp).label? (hwritten.serviceMonitor hserved hmonitored)

/-- **Keeping the account labels it**, if the application is to have one. -/
theorem relabelled_of_account (h : (account app).on s = (.ok (), s'))
    (hp : p.child? = some .account) (hwanted : Child.account.wanted app = true) :
    p.Relabelled app l s.objects s'.objects := by
  unfold account keep at h
  rw [if_pos (show (Application.filled _).isNone = true from hwanted)] at h
  exact (LabelPlace.setBy_account hp).label? (written_of_write app.steady_account h)

/-! ## Secrets

The application's own secret is published before copies are made, and if names collide
a copy is written over it. It keeps its labels then, as a copy adds one of its own and
takes none away. It is not the application's any more, but it may become so again, so
the labels are followed in this case too. -/

/-- **Copies leave the labels of the application's own secret**, even where
one is written under its name, and give the application no control of it. -/
theorem secret_kept_of_copyAll {consumed : List Consumed}
    (h : (copyAll app consumed).on s = (.ok (), s')) :
    LabelPlace.secret.label? app s'.objects l.key = LabelPlace.secret.label? app s.objects l.key
      ∧ (app.controls s'.objects (LabelPlace.secret.key app) = true →
        app.controls s.objects (LabelPlace.secret.key app) = true) := by
  induction consumed generalizing s with
  | nil =>
    obtain ⟨-, rfl⟩ := Prod.mk.inj h
    exact ⟨rfl, id⟩
  | cons c rest ih =>
    rw [copyAll_cons] at h
    obtain ⟨_, t, hone, hrest⟩ := on_bind_ok.1 h
    obtain ⟨hlabel, hcontrols⟩ := ih hrest
    suffices hstep : LabelPlace.secret.label? app t.objects l.key
          = LabelPlace.secret.label? app s.objects l.key
        ∧ (app.controls t.objects (LabelPlace.secret.key app) = true →
          app.controls s.objects (LabelPlace.secret.key app) = true) from
      ⟨hlabel.trans hstep.1, hstep.2 ∘ hcontrols⟩
    -- a copy under the name of the own secret is written into it; any other is elsewhere
    by_cases hkey : c.secretName = app.bindingSecretName
    · unfold copyOne at hone
      cases hfrom : c.copyFrom with
      | none =>
        rw [hfrom] at hone
        obtain ⟨-, rfl⟩ := Prod.mk.inj hone
        exact ⟨rfl, id⟩
      | some source =>
        rw [hfrom, hkey] at hone
        have hwritten := written_of_write source.steady_copyOf hone
        exact ⟨((LabelPlace.setBy_copyOf source).label? hwritten).trans Option.none_or,
          hwritten.controls source.steady_copyOf⟩
    · have hsame : t.objects.get? (LabelPlace.secret.key app)
          = s.objects.get? (LabelPlace.secret.key app) :=
        (touches_copyOne c).get?_of_on hone fun he => hkey (ObjectKey.of_eq_iff.1 he).2.2.symm
      exact ⟨LabelPlace.label?_congr hsame, (Application.controls_congr hsame).symm.trans⟩

/-- **Publishing labels the secret** of what the application offers. -/
theorem secret_relabelled_of_publish (hoffers : app.provides?.isSome = true)
    (h : (publish app).on s = (.ok (), s')) :
    LabelPlace.secret.Relabelled app l s.objects s'.objects := by
  unfold publish at h
  rw [if_pos hoffers] at h
  obtain ⟨credentials, t, hread, hwrite⟩ := on_bind_ok.1 h
  have hsame := (reads_credentials app).objects_of_on hread
  have hwritten := written_of_write (app.steady_bindingSecret _) hwrite
  exact hsame ▸ (LabelPlace.setBy_bindingSecret _).label? hwritten

end Access

/-- **Bringing the secrets up to date labels the application's own**, if the
application controls it then. -/
theorem Pass.secret_relabelled {app : Application} {l : SpecLabel}
    {status status' : ApplicationStatus} {s s' : Server} {b : Bindings} (ht : s.Truthful)
    (h : (Pass.bindings app).on status s = (.ok b, status', s'))
    (hcontrols : app.controls s'.objects (LabelPlace.secret.key app) = true) :
    LabelPlace.secret.Relabelled app l s.objects s'.objects := by
  obtain ⟨s₁, s₂, s₃, hpublish, -, hobjects, -, hcopy, hrelease, -⟩ := bindings_stages h
  have hreleased : s'.objects.get? (LabelPlace.secret.key app)
      = s₃.objects.get? (LabelPlace.secret.key app) :=
    Access.get?_of_releaseAll hrelease fun _ => app.own_not_released status
  obtain ⟨hlabel, hcontrolled⟩ := Access.secret_kept_of_copyAll (l := l) hcopy
  have hpublished : app.controls s₁.objects (LabelPlace.secret.key app) = true := by
    rw [← hobjects]
    exact hcontrolled ((Application.controls_congr hreleased).symm.trans hcontrols)
  have hoffers : app.provides?.isSome = true := by
    cases hoffers : app.provides?.isSome with
    | true => rfl
    | false =>
      unfold Access.publish at hpublish
      rw [hoffers, if_neg Bool.false_ne_true] at hpublish
      obtain ⟨_, hdelete⟩ := Access.on_discard_ok.1 hpublish
      exact absurd (hpublished.symm.trans (Access.controls_of_deleteOwn ht hdelete)) nofun
  have hrelabelled := Access.secret_relabelled_of_publish (l := l) hoffers hpublish
  unfold LabelPlace.Relabelled at hrelabelled ⊢
  rw [LabelPlace.label?_congr hreleased, hlabel, hobjects, hrelabelled]

/-- **A pass that succeeded labels what the application controls**: a label is
what is given, or else what was there. -/
theorem Pass.relabelled {app : Application} {apis : ClusterApis} {settings : Settings}
    {l : SpecLabel} {p : LabelPlace} {status status' : ApplicationStatus} {s s' : Server}
    (ht : s.Truthful) (hserved : ∀ c : Child, c.served apis = true)
    (h : (Pass.children apis settings app).on status s = (.ok (), status', s'))
    (hcontrols : app.controls s'.objects (p.key app) = true) :
    p.Relabelled app l s.objects s'.objects := by
  obtain ⟨s₁, b, s₂, haccount, hbindings, hlaunch⟩ := children_ok.1 h
  have ht₁ := Access.truthful_of_on ht haccount
  have ht₂ := truthful_of_on ht₁ hbindings
  cases hp : p.child? with
  | none =>
    -- the secret is seen to between the account and the launch
    obtain rfl := LabelPlace.eq_secret hp
    have hlaunched := Access.get?_secret_of_launch hlaunch app.metadata.nsOrEmpty
      app.bindingSecretName
    refine (secret_relabelled ht₁ hbindings ?_).congr
      (Access.get?_secret_of_account haccount _ _) hlaunched
    exact (Application.controls_congr hlaunched).symm.trans hcontrols
  | some c =>
    rw [LabelPlace.key_of_child? hp] at hcontrols
    by_cases hc : c = .account
    · subst hc
      have hlater := get?_account_after hbindings hlaunch
      have hwanted : Child.account.wanted app = true :=
        (Access.decides_account s s₁ ht haccount).symm.trans
          ((Application.controls_congr hlater).symm.trans hcontrols)
      rw [← LabelPlace.key_of_child? hp] at hlater
      exact (Access.relabelled_of_account haccount hp hwanted).congr rfl hlater
    · have hwanted : c.wanted app = true :=
        (Access.controls_of_launch ht₂ hlaunch hc (hserved c)).symm.trans hcontrols
      have hbefore := get?_before_launch haccount hbindings hc
      rw [← LabelPlace.key_of_child? hp] at hbefore
      exact (Access.relabelled_of_launch hlaunch hp hc (hserved c) hwanted).congr hbefore rfl

/-! ## Runs of passes

Along a run one needs to know that a label which was never given is not there, for
passes that may be cut off anywhere. This is a law about calls, like all laws of that
kind: no call of an application that does not give the label sets it. The applications
along the run are the same by namespace and name, and may differ in all else. -/

/-- **A call that sets no label** in some place: where it is unset it stays so. -/
def LabelPlace.LeavesUnset (p : LabelPlace) (app : Application) (key : String) (s : Server)
    (c : Call) : Prop :=
  p.label? app s.objects key = none → p.label? app (s.after c).objects key = none

namespace Access

variable {app : Application} {l : SpecLabel} {p : LabelPlace} {key : String} {s : Server}

theorem leavesUnset_of_within {K : ObjectKey → Prop} {c : Call} (hc : c.Within K)
    (hk : ¬ K (p.key app)) : p.LeavesUnset app key s c := fun h =>
  (LabelPlace.label?_congr (Server.after_get?_of_ne fun hw hkey => hk (hc hw _ hkey))).trans h

theorem leavesUnset_of_read {c : Call} (h : c.isWrite = false) : p.LeavesUnset app key s c :=
  leavesUnset_of_within (K := fun _ => False) (fun hw => absurd hw (by simp [h])) id

/-- Where nothing is stored no label is. -/
theorem leavesUnset_delete {at_ : ObjectKey} : p.LeavesUnset app key s (.delete at_) := by
  intro h
  rcases s.perform_cases (.delete at_) with ⟨r, -, ho⟩ | ⟨-, -, -, ho⟩
  · rw [ho, h]
  · rw [ho, Call.apply]
    by_cases hkey : p.key app = at_
    · rw [LabelPlace.label?, Dict.get?_erase, if_pos hkey]
      rfl
    · have hkept : (s.objects.erase at_).get? (p.key app) = s.objects.get? (p.key app) := by
        rw [Dict.get?_erase, if_neg hkey]
      rw [LabelPlace.label?_congr hkept, h]

section Write

variable {α : Type} [ApiObject α] [Legible α] {name : String} {update : α → α} {controls : Bool}

/-- Storing a child sets no label if the child has none. -/
theorem leavesUnset_store {part : α → ObjectMeta} {child : α} {c : Call}
    (hp : p.Bears app name part)
    (hc : c.apply s.objects
      = s.objects.insert (.of α app.metadata.nsOrEmpty name) (encode child))
    (hchild : p.label? app s.objects key = none → (part child).label? key = none) :
    p.LeavesUnset app key s c := by
  intro h
  rcases s.perform_cases c with ⟨r, -, ho⟩ | ⟨-, -, -, ho⟩
  · rw [ho, h]
  · rw [ho, hc, label?_of_shows hp (shows_insert _ _ _ child), Option.bind_some, hchild h]

/-- **Writing a child sets no label that is not given.** -/
theorem leavesUnset_write (hu : Steady update)
    (hset : keyOf α app name = p.key app → p.SetBy app key none name update) :
    (write app controls name update).Along (p.LeavesUnset app key) s := by
  by_cases hkey : keyOf α app name = p.key app
  · obtain ⟨part, hp, hpart⟩ := hset hkey
    refine along_write hu.keeps (leavesUnset_of_read rfl) (fun child hchild => ?_)
      fun current child hcurrent hchild => ?_
    · exact leavesUnset_store hp rfl fun _ => label?_of_desired hp hpart hchild
    · refine leavesUnset_store hp rfl fun h => ?_
      rw [Server.after_objects_get, label?_of_shows hp hcurrent] at h
      rw [label?_of_desired hp hpart hchild, Option.none_or, h]
  · exact Dialogue.Along.mono (touches_write hu.keeps s) fun _ _ hc =>
      leavesUnset_of_within hc fun hk => hkey hk.symm

end Write

/-- **No operation of an application that does not give a label sets it.** -/
theorem admitsChildren_leavesUnset (hnone : p.given app l = none) (apis : ClusterApis) :
    AdmitsChildren apis app (p.LeavesUnset app l.key) where
  read _ _ _ := leavesUnset_of_read rfl
  remove _ _ := along_deleteOwn (leavesUnset_of_read rfl) fun _ _ _ => leavesUnset_delete
  account _ := leavesUnset_write app.steady_account fun hkey =>
    hnone ▸ LabelPlace.setBy_account (LabelPlace.child?_of_key (c := .account) hkey)
  service _ := leavesUnset_write app.steady_service fun hkey =>
    hnone ▸ LabelPlace.setBy_service (LabelPlace.child?_of_key (c := .service) hkey)
  headlessService _ _ := leavesUnset_write app.steady_headlessService fun hkey =>
    hnone ▸ LabelPlace.setBy_headlessService
      (LabelPlace.child?_of_key (c := .headlessService) hkey)
  deployment _ wiring _ := leavesUnset_write (app.steady_deployment wiring) fun hkey =>
    hnone ▸ LabelPlace.setBy_deployment (LabelPlace.child?_of_key (c := .deployment) hkey)
  statefulSet _ wiring _ := leavesUnset_write (app.steady_statefulSet wiring) fun hkey =>
    hnone ▸ LabelPlace.setBy_statefulSet (LabelPlace.child?_of_key (c := .statefulSet) hkey)
  autoscaler hscaled _ := leavesUnset_write app.steady_autoscaler fun hkey =>
    hnone ▸ LabelPlace.setBy_autoscaler hscaled
      (LabelPlace.child?_of_key (c := .autoscaler) hkey)
  knativeService _ wiring _ := leavesUnset_write (app.steady_knativeService wiring) fun hkey =>
    hnone ▸ LabelPlace.setBy_knativeService (LabelPlace.child?_of_key (c := .knativeService) hkey)
  route _ host found _ := leavesUnset_write (app.steady_route host found) fun hkey =>
    hnone ▸ LabelPlace.setBy_route (LabelPlace.child?_of_key (c := .route) hkey)
  serviceMonitor _ _ := leavesUnset_write app.steady_serviceMonitor fun hkey =>
    hnone ▸ LabelPlace.setBy_serviceMonitor (LabelPlace.child?_of_key (c := .serviceMonitor) hkey)

/-- Neither does one on its secrets. -/
theorem admitsSecrets_leavesUnset (hnone : p.given app l = none) (status : ApplicationStatus) :
    AdmitsSecrets app status (p.LeavesUnset app l.key) where
  read _ _ _ := leavesUnset_of_read rfl
  publish data _ := leavesUnset_write (app.steady_bindingSecret data) fun hkey => by
    obtain ⟨rfl, -⟩ := LabelPlace.eq_secret_of_key hkey
    exact hnone ▸ LabelPlace.setBy_bindingSecret data
  unpublish _ := along_deleteOwn (leavesUnset_of_read rfl) fun _ _ _ => leavesUnset_delete
  copy _ _ source _ := leavesUnset_write source.steady_copyOf fun hkey => by
    obtain ⟨rfl, rfl⟩ := LabelPlace.eq_secret_of_key hkey
    exact LabelPlace.setBy_copyOf source
  release _ hname s := Dialogue.Along.mono (touches_release s) fun _ _ hc =>
    leavesUnset_of_within hc fun hk =>
      app.own_not_released status ((LabelPlace.eq_secret_of_key hk.symm).2 ▸ hname)

end Access

namespace Turn

variable {t : Turn} {turns : List Turn} {l : SpecLabel} {p : LabelPlace} {s : Server}

/-- **A turn sets no label that the application does not give**, however it ends. -/
theorem label?_after (hnone : p.given t.app l = none)
    (h : p.label? t.app s.objects l.key = none) :
    p.label? t.app (t.after s).objects l.key = none := by
  have halong : t.pass.Along (p.LeavesUnset t.app l.key) t.status s :=
    Pass.along_of_admits (Access.admitsSecrets_leavesUnset hnone _)
      (Access.admitsChildren_leavesUnset hnone t.apis) t.settings s
  exact (Dialogue.Along.invariant halong (I := fun s => p.label? t.app s.objects l.key = none) h
    fun _ _ hc hs => hc hs).1

/-- Neither do turns of the application in any of its forms. -/
theorem label?_run {app : Application}
    (hnone : ∀ u ∈ turns, u.app.metadata.nsOrEmpty = app.metadata.nsOrEmpty
      ∧ u.app.name = app.name ∧ p.given u.app l = none)
    (h : p.label? app s.objects l.key = none) :
    p.label? app (turns.foldl Turn.after s).objects l.key = none := by
  induction turns generalizing s with
  | nil => exact h
  | cons u rest ih =>
    obtain ⟨⟨hns, hname, hgiven⟩, hrest⟩ := List.forall_mem_cons.1 hnone
    have hsame : ∀ objects, p.label? u.app objects l.key = p.label? app objects l.key :=
      p.label?_same hns hname
    exact ih hrest ((hsame _).symm.trans (label?_after hgiven ((hsame _).trans h)))

theorem truthful_run (hs : s.Truthful) : (turns.foldl Turn.after s).Truthful := by
  induction turns generalizing s with
  | nil => exact hs
  | cons u rest ih => exact ih (Pass.truthful_of_on hs rfl)

end Turn

/-- **When labels say what the specification says.** After a turn that
succeeded, whatever turns there were before, the labels on what the
application controls say what its specification says, unless something else
is asked for there or the specification has nothing to say where a label was
set before. That was so only if some form of the application gave the label. -/
theorem labels_exact (l : SpecLabel) (p : LabelPlace) (turns : List Turn) (t : Turn)
    {s s' : Server} {status' : ApplicationStatus} (hs : s.Truthful)
    (hserved : ∀ c : Child, c.served t.apis = true) (hown : t.app.metadata.label? l.key = none)
    (h : t.pass.on t.status (turns.foldl Turn.after s) = (.ok (), status', s'))
    (hcontrols : t.app.controls s'.objects (p.key t.app) = true) :
    (p.label? t.app s'.objects l.key = l.value t.app ↔
        (∀ v, p.asked t.app l.key = some v → l.value t.app = some v)
          ∧ (l.value t.app = none →
            p.label? t.app (turns.foldl Turn.after s).objects l.key = none))
      ∧ ((∀ u ∈ turns, u.app.metadata.nsOrEmpty = t.app.metadata.nsOrEmpty
            ∧ u.app.name = t.app.name ∧ p.given u.app l = none) →
          p.label? t.app s.objects l.key = none →
          p.label? t.app (turns.foldl Turn.after s).objects l.key = none) := by
  refine ⟨?_, Turn.label?_run⟩
  have hlabel : p.Relabelled t.app l _ s'.objects :=
    Pass.relabelled (Turn.truthful_run hs) hserved h hcontrols
  rw [LabelPlace.Relabelled, LabelPlace.given, l.get?_labels, hown, Option.or_none] at hlabel
  rw [hlabel]
  cases p.asked t.app l.key with
  | none => cases l.value t.app <;> simp
  | some v =>
    rw [Option.some_or, Option.some_or]
    refine ⟨fun heq => ⟨fun _ hv => heq.symm.trans hv, fun hnone => ?_⟩, fun hagrees =>
      (hagrees.1 v rfl).symm⟩
    rw [hnone] at heq
    exact absurd heq (Option.some_ne_none v)

/-- A small application of some version, built from some stack. -/
def Application.versioned (version : Option String) (stack : String) (listed : Bool) :
    Application :=
  let app := Application.bound "shop" "web" "u1" true []
  { app with
    spec := { app.spec with version, stack, createAppDefinition := some listed } }

/-- A turn of an application where all APIs are served. -/
def Turn.served (app : Application) : Turn :=
  { app := app, apis := { route := true, knative := true, monitoring := true }, settings := {},
    status := default }

/-- So it is when the version changes. -/
theorem labels_exact_of_next_version :
    let old := Application.versioned (some "1.0") "" true
    let new := Application.versioned (some "2.0") "" true
    let p := LabelPlace.deploymentPods
    ∃ status' s', (Turn.served new).pass.on default ([Turn.served old].foldl Turn.after {})
        = (.ok (), status', s')
      ∧ p.label? new s'.objects Label.version = some "2.0" := by
  intro old new p
  have hrun : let r := (Turn.served new).pass.on default ([Turn.served old].foldl Turn.after {})
      r.1.isOk = true ∧ new.controls r.2.2.objects (p.key new) = true := by decide +kernel
  obtain ⟨hok, hcontrols⟩ := hrun
  obtain ⟨status', s', h⟩ := Pass.ok_of_isOk hok
  rw [h] at hcontrols
  obtain ⟨hiff, -⟩ := labels_exact .version p [Turn.served old] (Turn.served new)
    (Server.Open.truthful fun _ _ => rfl) (fun c => by cases c <;> rfl) rfl h hcontrols
  exact ⟨status', s', h, hiff.2 ⟨fun _ hv => absurd hv nofun, fun hnone => absurd hnone nofun⟩⟩

/-- **Labels that a specification does not set any more stay**, on the children
and on their pods. -/
theorem labels_kept_of_nothing_to_say :
    let old := Application.versioned (some "1.0") "nodejs" true
    let new := Application.versioned none "" false
    ∃ status' s', (Turn.served new).pass.on default ([Turn.served old].foldl Turn.after {})
        = (.ok (), status', s')
      ∧ ∀ l ∈ [SpecLabel.version, .stack, .listed],
        ∀ p ∈ [LabelPlace.child .deployment, .deploymentPods, .child .service, .secret],
          new.controls s'.objects (p.key new) = true ∧ l.value new = none
            ∧ p.label? new s'.objects l.key = l.value old := by
  intro old new
  have hrun : let r := (Turn.served new).pass.on default ([Turn.served old].foldl Turn.after {})
      r.1.isOk = true ∧ ∀ l ∈ [SpecLabel.version, .stack, .listed],
        ∀ p ∈ [LabelPlace.child .deployment, .deploymentPods, .child .service, .secret],
          new.controls r.2.2.objects (p.key new) = true ∧ l.value new = none
            ∧ p.label? new r.2.2.objects l.key = l.value old := by
    decide +kernel
  obtain ⟨hok, hkept⟩ := hrun
  obtain ⟨status', s', h⟩ := Pass.ok_of_isOk hok
  rw [h] at hkept
  exact ⟨status', s', h, hkept⟩

end AppOperator
