import AppOperator.Proofs.Cluster.Control
import AppOperator.Proofs.Reconcile.Quiet

/-!
# The children after a pass

Where a pass has succeeded, the application controls just the children that
its specification asks for (`Pass.controls_child`), whatever it controlled
before: children of an earlier form of the specification, or what a pass that
was cut off had come to.

Each child has one step in a pass, and no other step writes under its key
(`Access.taken_of_inOrder`). So what the step leaves is what is there at the
end, and it is enough to know of each step that it puts the application in
control of the child if the child is wanted, and out of it if not
(`Access.Decides`).

It is an equality of truth values and covers both directions for every child: what is
wanted is controlled, and what is not wanted is not. Whether the object is there at
all is a different question where it is not wanted, since one that somebody else
controls is left alone.
-/

namespace AppOperator

/-! ## The children of an application

The children are a small inductive type, and keys, what is served and what is
wanted are functions on it. So a statement about all children is a statement about
every `c : Child`, and cases that differ are told apart by evaluating these functions. -/

/-- **A child that may be made to run an application.** -/
inductive Child where
  /-- The account that the pods run under. -/
  | account
  /-- The Knative service. -/
  | knativeService
  /-- The deployment. -/
  | deployment
  /-- The stateful set. -/
  | statefulSet
  /-- The service through which the application is reached. -/
  | service
  /-- The service that names pods with storage. -/
  | headlessService
  /-- What sets the number of pods. -/
  | autoscaler
  /-- The way in from outside. -/
  | route
  /-- What has the application monitored. -/
  | serviceMonitor
deriving DecidableEq

namespace Child

/-- Under which key a child is stored. -/
def key (app : Application) : Child → ObjectKey
  | .account => .of ServiceAccount app.metadata.nsOrEmpty app.name
  | .knativeService => .of KnativeService app.metadata.nsOrEmpty app.name
  | .deployment => .of Deployment app.metadata.nsOrEmpty app.name
  | .statefulSet => .of StatefulSet app.metadata.nsOrEmpty app.name
  | .service => .of Service app.metadata.nsOrEmpty app.name
  | .headlessService => .of Service app.metadata.nsOrEmpty app.headlessServiceName
  | .autoscaler => .of Autoscaler app.metadata.nsOrEmpty app.name
  | .route => .of Route app.metadata.nsOrEmpty app.name
  | .serviceMonitor => .of ServiceMonitor app.metadata.nsOrEmpty app.name

/-- The children that may run an application. -/
def workloads : List Child := [.deployment, .statefulSet, .knativeService]

/-- Whether the cluster serves children of this type. -/
def served (apis : ClusterApis) : Child → Bool
  | .knativeService => apis.knative
  | .route => apis.route
  | .serviceMonitor => apis.monitoring
  | _ => true

/-- **Whether a specification asks for a child.** An application that runs as
a Knative service has its account beside it and nothing else. -/
def wanted (app : Application) : Child → Bool
  | .account => (Application.filled app.spec.serviceAccountName).isNone
  | .knativeService => app.usesKnative
  | .deployment => !app.usesKnative && !app.usesStorage
  | .statefulSet => !app.usesKnative && app.usesStorage
  | .service => !app.usesKnative
  | .headlessService => !app.usesKnative && app.usesStorage
  | .autoscaler => !app.usesKnative && app.spec.autoscaling.isSome
  | .route => !app.usesKnative && app.isExposed
  | .serviceMonitor => !app.usesKnative && app.spec.monitoring.isSome

/-- No two children are stored under one key. -/
theorem key_injective (app : Application) : Function.Injective (key app) := by
  have hname := Access.name_ne_headless app
  intro c c' h
  cases c <;> cases c' <;>
    first
    | rfl
    | exact absurd (ObjectKey.of_eq_iff.1 h).1 (by decide)
    | exact absurd (ObjectKey.of_eq_iff.1 h).2.2 hname
    | exact absurd (ObjectKey.of_eq_iff.1 h).2.2 hname.symm

/-- Every child but the account is neither a secret nor an account. -/
theorem not_beforeLaunch {c : Child} (hc : c ≠ .account) (app : Application) :
    ¬ Access.BeforeLaunch (c.key app) := by
  rintro ⟨ns, name, hkey⟩
  cases c with
  | account => exact hc rfl
  | _ =>
    rcases hkey with hkey | hkey
    · exact absurd (ObjectKey.of_eq_iff.1 hkey).1 (by decide)
    · exact absurd (ObjectKey.of_eq_iff.1 hkey).1 (by decide)

end Child

/-- **What a pass does before it runs the application** is about its account
and its secrets only. -/
theorem Pass.get?_before_launch {app : Application} {status status' : ApplicationStatus}
    {s s₁ s₂ : Server} {r : Except OperatorError Unit} {b : Bindings}
    (haccount : (Access.account app).on s = (r, s₁))
    (hbindings : (Pass.bindings app).on status s₁ = (.ok b, status', s₂)) {c : Child}
    (hc : c ≠ .account) : s₂.objects.get? (c.key app) = s.objects.get? (c.key app) := by
  have hapart := Child.not_beforeLaunch hc app
  rw [bindings_get?_of_ne hbindings fun ⟨ns, name, he⟩ => hapart ⟨ns, name, .inl he⟩]
  exact (Access.touches_account app).get?_of_on haccount fun he => hapart ⟨_, _, .inr he⟩

namespace Access

variable {app : Application} {apis : ClusterApis} {settings : Settings} {wiring : Wiring}
  {s s' : Server}

/-! ## Steps and what they leave

Of steps under different keys each one finds what was there before all of them, and
leaves what is there after all of them, under its own key. This reduces a statement
about the end of a pass to one about a single step. What a step decides is whether the
application controls what is stored under its key, and it decides this whatever was
there. -/

/-- **Of steps under different keys each is taken**: what it finds under its
key is what was there before all of them, and what it leaves is what all of
them leave there. -/
theorem taken_of_inOrder {tasks : List Task} (htouch : ∀ task ∈ tasks, Touches (· = task.1) task.2)
    (hnodup : (tasks.map Prod.fst).Nodup)
    (h : (inOrder tasks).on s = (.ok (), s')) {task : Task} (htask : task ∈ tasks) :
    ∃ t t', t.refuse = s.refuse ∧ task.2.on t = (.ok (), t')
      ∧ t.objects.get? task.1 = s.objects.get? task.1
      ∧ s'.objects.get? task.1 = t'.objects.get? task.1 := by
  induction tasks generalizing s with
  | nil => exact absurd htask List.not_mem_nil
  | cons first rest ih =>
    rw [inOrder_cons] at h
    obtain ⟨_, t, hfirst, hrest⟩ := on_bind_ok.1 h
    obtain ⟨hfresh, hnodup⟩ := List.nodup_cons.1 hnodup
    have htouch' := fun task htask => htouch task (List.mem_cons_of_mem _ htask)
    rcases List.mem_cons.1 htask with rfl | htask
    · exact ⟨s, t, rfl, hfirst, rfl, (touches_inOrder htouch').get?_of_on hrest hfresh⟩
    · obtain ⟨u, u', hrefuse, hstep, hfound, hleft⟩ := ih htouch' hnodup hrest htask
      have hsame := on_refuse first.2 s
      rw [hfirst] at hsame
      have hfirst' := (htouch first List.mem_cons_self).get?_of_on hfirst fun hkey =>
        hfresh (hkey ▸ List.mem_map_of_mem htask)
      exact ⟨u, u', hrefuse.trans hsame, hstep, hfound.trans hfirst', hleft⟩

/-- **A step that decides about a child**: once it was taken, the application
controls what is stored under the key if the child is wanted, and else not. -/
def Decides (app : Application) (key : ObjectKey) (wanted : Bool) (act : Access Unit) : Prop :=
  ∀ t t', t.Truthful → act.on t = (.ok (), t') → app.controls t'.objects key = wanted

section Decides

variable {α : Type} [ApiObject α] [Legible α] {name : String} {key : ObjectKey} {wanted : Bool}

theorem Decides.of_eq {act : Access Unit} {wanted' : Bool} (h : Decides app key wanted act)
    (heq : wanted = wanted') : Decides app key wanted' act :=
  heq ▸ h

theorem decides_writeOwn {update : α → α} (hu : Steady update) :
    Decides app (keyOf α app name) true (discard (writeOwn app name update)) := by
  intro t t' _ h
  obtain ⟨_, hwrite⟩ := on_discard_ok.1 h
  exact controls_of_writeOwn hu hwrite

theorem decides_drop : Decides app (keyOf α app name) false (drop α app name) := by
  intro t t' ht h
  obtain ⟨_, hdelete⟩ := on_discard_ok.1 h
  exact controls_of_deleteOwn ht hdelete

theorem decides_keep {update : α → α} (hu : Steady update) (wanted : Bool) :
    Decides app (keyOf α app name) wanted (keep wanted app name update) := by
  cases wanted with
  | true => exact decides_writeOwn hu
  | false => exact decides_drop

theorem decides_provided {c : Bool} {act : Access Unit} (hc : c = true)
    (h : Decides app key wanted act) : Decides app key wanted (provided c act) := by
  subst hc
  exact h

theorem decides_expose :
    Decides app (keyOf Route app app.name) app.isExposed (expose settings app) := by
  unfold expose
  cases app.isExposed with
  | false => exact decides_drop
  | true =>
    intro t t' ht h
    obtain ⟨found, t₁, hread, hwrite⟩ := on_bind_ok.1 h
    exact decides_writeOwn (app.steady_route _ found) t₁ t' (truthful_of_on ht hread) hwrite

end Decides

/-! ## The step of each child

For each way of running an application the step of each child is found in the list and
shown to decide as the child is wanted. It is here that what is wanted, which is read
off the specification, is compared with what the program does, branch by branch. -/

theorem decides_account :
    Decides app (Child.account.key app) (Child.account.wanted app) (account app) :=
  decides_keep app.steady_account _

/-- Run as a Knative service, every child but the account has its step. -/
theorem decided_knative (hknative : app.usesKnative = true) {c : Child} (hc : c ≠ .account)
    (hserved : c.served apis = true) : ∃ act, (c.key app, act) ∈ knativeTasks apis app wiring
      ∧ Decides app (c.key app) (c.wanted app) act := by
  have hunwanted : ∀ b, false = (!app.usesKnative && b) := by simp [hknative]
  -- the steps by their places in the list; all but the first remove what is not wanted
  cases c with
  | account => exact absurd rfl hc
  | knativeService =>
    refine ⟨_, List.mem_of_getElem? (i := 0) rfl, ?_⟩
    exact (decides_writeOwn (app.steady_knativeService wiring)).of_eq hknative.symm
  | deployment =>
    exact ⟨_, List.mem_of_getElem? (i := 1) rfl, decides_drop.of_eq (hunwanted _)⟩
  | statefulSet =>
    exact ⟨_, List.mem_of_getElem? (i := 2) rfl, decides_drop.of_eq (hunwanted _)⟩
  | service =>
    refine ⟨_, List.mem_of_getElem? (i := 3) rfl, decides_drop.of_eq ?_⟩
    simp [Child.wanted, hknative]
  | headlessService =>
    exact ⟨_, List.mem_of_getElem? (i := 4) rfl, decides_drop.of_eq (hunwanted _)⟩
  | autoscaler =>
    exact ⟨_, List.mem_of_getElem? (i := 5) rfl, decides_drop.of_eq (hunwanted _)⟩
  | route =>
    exact ⟨_, List.mem_of_getElem? (i := 6) rfl,
      (decides_provided hserved decides_drop).of_eq (hunwanted _)⟩
  | serviceMonitor =>
    exact ⟨_, List.mem_of_getElem? (i := 7) rfl,
      (decides_provided hserved decides_drop).of_eq (hunwanted _)⟩

/-- A child that depends on whether there is storage has its step among those
that run the pods. -/
theorem decided_pods {c : Child} (hc : c = .deployment ∨ c = .statefulSet ∨ c = .headlessService)
    (hknative : app.usesKnative = false) :
    ∃ act, (c.key app, act) ∈ podTasks app wiring
      ∧ Decides app (c.key app) (c.wanted app) act := by
  have hwanted : ∀ b, app.usesStorage = b → b = (!app.usesKnative && app.usesStorage)
      ∧ (!b) = (!app.usesKnative && !app.usesStorage) := by
    rintro b rfl
    simp [hknative]
  unfold podTasks
  cases hstorage : app.usesStorage with
  | true =>
    obtain ⟨hstored, hunstored⟩ := hwanted true hstorage
    rcases hc with rfl | rfl | rfl
    · exact ⟨_, List.mem_of_getElem? (i := 2) rfl, decides_drop.of_eq hunstored⟩
    · exact ⟨_, List.mem_of_getElem? (i := 1) rfl,
        (decides_writeOwn (app.steady_statefulSet wiring)).of_eq hstored⟩
    · exact ⟨_, List.mem_of_getElem? (i := 0) rfl,
        (decides_writeOwn app.steady_headlessService).of_eq hstored⟩
  | false =>
    obtain ⟨hstored, hunstored⟩ := hwanted false hstorage
    rcases hc with rfl | rfl | rfl
    · exact ⟨_, List.mem_of_getElem? (i := 0) rfl,
        (decides_writeOwn (app.steady_deployment wiring)).of_eq hunstored⟩
    · exact ⟨_, List.mem_of_getElem? (i := 1) rfl, decides_drop.of_eq hstored⟩
    · exact ⟨_, List.mem_of_getElem? (i := 2) rfl, decides_drop.of_eq hstored⟩

/-- Run by a deployment or a stateful set, every child but the account has its step. -/
theorem decided_workload (hknative : app.usesKnative = false) {c : Child} (hc : c ≠ .account)
    (hserved : c.served apis = true) :
    ∃ act, (c.key app, act) ∈ workloadTasks apis settings app wiring
      ∧ Decides app (c.key app) (c.wanted app) act := by
  have hwanted : ∀ b, b = (!app.usesKnative && b) := by simp [hknative]
  have hpods : c = .deployment ∨ c = .statefulSet ∨ c = .headlessService →
      ∃ act, (c.key app, act) ∈ workloadTasks apis settings app wiring
        ∧ Decides app (c.key app) (c.wanted app) act := fun hpod => by
    obtain ⟨act, hact, hdecides⟩ := decided_pods hpod hknative
    exact ⟨act, List.mem_append_left _ (.tail _ (.tail _ hact)), hdecides⟩
  -- the steps by their places: those before the pods, those of the pods, those after
  cases c with
  | account => exact absurd rfl hc
  | knativeService =>
    exact ⟨_, List.mem_append_left _ (.head _),
      (decides_provided hserved decides_drop).of_eq hknative.symm⟩
  | service =>
    refine ⟨_, List.mem_append_left _ (.tail _ (.head _)), ?_⟩
    exact (decides_writeOwn app.steady_service).of_eq (by simp [Child.wanted, hknative])
  | deployment => exact hpods (.inl rfl)
  | statefulSet => exact hpods (.inr (.inl rfl))
  | headlessService => exact hpods (.inr (.inr rfl))
  | autoscaler =>
    exact ⟨_, List.mem_append_right _ (.head _),
      (decides_keep app.steady_autoscaler _).of_eq (hwanted _)⟩
  | route =>
    exact ⟨_, List.mem_append_right _ (.tail _ (.head _)),
      (decides_provided hserved decides_expose).of_eq (hwanted _)⟩
  | serviceMonitor =>
    exact ⟨_, List.mem_append_right _ (.tail _ (.tail _ (.head _))),
      (decides_provided hserved (decides_keep app.steady_serviceMonitor _)).of_eq (hwanted _)⟩

/-- Steps under different keys decide about a child if one of them does. -/
theorem controls_of_inOrder {tasks : List Task} (hsettles : ∀ task ∈ tasks, StepSettles task)
    (hnodup : (tasks.map Prod.fst).Nodup) {c : Child}
    (hdecided : ∃ act, (c.key app, act) ∈ tasks ∧ Decides app (c.key app) (c.wanted app) act)
    (ht : s.Truthful) (h : (inOrder tasks).on s = (.ok (), s')) :
    app.controls s'.objects (c.key app) = c.wanted app := by
  obtain ⟨act, hact, hdecides⟩ := hdecided
  obtain ⟨t, t', hrefuse, hstep, -, hlast⟩ :=
    taken_of_inOrder (fun task htask => (hsettles task htask).touches) hnodup h hact
  rw [Application.controls_congr hlast]
  exact hdecides t t' (ht.congr hrefuse) hstep

/-- **Running the application decides about every child** but the account. -/
theorem controls_of_launch (ht : s.Truthful)
    (h : (launch apis settings app wiring).on s = (.ok (), s')) {c : Child} (hc : c ≠ .account)
    (hserved : c.served apis = true) : app.controls s'.objects (c.key app) = c.wanted app := by
  unfold launch at h
  split at h
  · rename_i hknative
    rw [runKnative_inOrder] at h
    obtain ⟨_, t, hserves, h⟩ := on_bind_ok.1 h
    exact controls_of_inOrder settles_knativeTasks nodup_knativeTasks
      (decided_knative hknative hc hserved) (truthful_of_on ht hserves) h
  · rename_i hworkload
    rw [runWorkload_inOrder] at h
    exact controls_of_inOrder settles_workloadTasks nodup_workloadTasks
      (decided_workload (Bool.eq_false_iff.2 hworkload) hc hserved) ht h

end Access

/-! ## The children of a pass

The account has its step before all others, and the children of the launch have theirs
after the secrets; the parts do not touch each other's keys. So each child is as its
own step has left it, and the equation holds for all of them. -/

/-- **The account is seen to first**, and nothing after it in a pass writes there. -/
theorem Pass.get?_account_after {app : Application} {apis : ClusterApis} {settings : Settings}
    {status status' : ApplicationStatus} {s₁ s₂ s' : Server} {b : Bindings}
    (hbindings : (Pass.bindings app).on status s₁ = (.ok b, status', s₂))
    (hlaunch : (Access.launch apis settings app b.wiring).on s₂ = (.ok (), s')) :
    s'.objects.get? (Child.account.key app) = s₁.objects.get? (Child.account.key app) := by
  refine (Access.settles_launch.touches.get?_of_on hlaunch
    fun hn => hn ⟨_, _, .inr rfl⟩).trans (bindings_get?_of_ne hbindings ?_)
  rintro ⟨ns, n, he⟩
  exact absurd (ObjectKey.of_eq_iff.1 he).1 (by decide)

/-- **After a pass that succeeded the application controls just the children
that it asks for**, of all whose types the cluster serves. -/
theorem Pass.controls_child {app : Application} {apis : ClusterApis} {settings : Settings}
    {status status' : ApplicationStatus} {s s' : Server} (ht : s.Truthful)
    (h : (Pass.children apis settings app).on status s = (.ok (), status', s')) (c : Child)
    (hserved : c.served apis = true) : app.controls s'.objects (c.key app) = c.wanted app := by
  obtain ⟨s₁, b, s₂, haccount, hbindings, hlaunch⟩ := children_ok.1 h
  have ht₁ := Access.truthful_of_on ht haccount
  by_cases hc : c = .account
  · subst hc
    rw [Application.controls_congr (get?_account_after hbindings hlaunch)]
    exact Access.decides_account s s₁ ht haccount
  · exact Access.controls_of_launch (truthful_of_on ht₁ hbindings) hlaunch hc hserved

/-- An application that asks for storage and for all else that it can have with it. -/
def Application.elaborate (app : Application) : Application :=
  { app with
    spec := { app.spec with
      storage := some { size := some "1Gi", mountPath := none, claimTemplate := none }
      autoscaling := some { (default : Autoscaling) with maxReplicas := some 3 }
      expose := some true
      monitoring := some default } }

/-- An application that runs as a Knative service. -/
def Application.onKnative (app : Application) : Application :=
  { app with spec := { app.spec with createKnativeService := some true } }

/-- So it is for an application that ran as a Knative service before. -/
theorem Pass.controls_child_after_knative :
    let app : Application := .bound "shop" "web" "u1" false []
    let apis : ClusterApis := { route := true, knative := true, monitoring := true }
    ∃ status s status' s',
      (Pass.children apis {} app.onKnative).on default (.offering []) = (.ok (), status, s)
        ∧ (Pass.children apis {} app.elaborate).on status s = (.ok (), status', s')
        ∧ ∀ c : Child, app.elaborate.controls s'.objects (c.key app) = c.wanted app.elaborate := by
  intro app apis
  have hok : ((Pass.children apis {} app.onKnative).on default (.offering [])).1.isOk = true := by
    decide +kernel
  have hok' : ((Pass.children apis {} app.elaborate).on
      ((Pass.children apis {} app.onKnative).on default (.offering [])).2.1
      ((Pass.children apis {} app.onKnative).on default (.offering [])).2.2).1.isOk = true := by
    decide +kernel
  obtain ⟨status, s, hbefore⟩ := ok_of_isOk hok
  rw [hbefore] at hok'
  obtain ⟨status', s', hrun⟩ := ok_of_isOk hok'
  have hopen : s.Open := Pass.open_of_on (Server.open_offering []) hbefore
  refine ⟨status, s, status', s', hbefore, hrun, fun c => ?_⟩
  exact controls_child hopen.truthful hrun c (by cases c <;> rfl)

end AppOperator
