import AppOperator.Proofs.Reconcile.Wanted

/-!
# From one kind of workload to another

An application is run by a deployment, a stateful set or a Knative service,
and a change of its specification can make it change over from one to
another. An application that runs keeps running all through a pass, wherever
the pass may be cut off, except where it starts over: it ran as a Knative
service only, and is to do so no more. Then the Knative service goes first
and is gone by the time that anything takes its place (`Pass.keepsRunning`).

Otherwise a pass is of two parts. Until the new workload is there no step
takes away what runs the application now (`Call.Spares`), and from then on no
step takes away the new one (`Access.along_handover`).

That the Knative service goes first is how a pass is ordered. The statement draws
the line exactly: which changes of a specification an application survives without
an interruption, and which it does not.
-/

namespace AppOperator

/-- **Whether an application runs**: it controls an object that runs it. -/
def Application.runs (app : Application) (objects : Dict ObjectKey Json) : Bool :=
  Child.workloads.any fun c => app.controls objects (c.key app)

/-- **Whether an application starts over**: it is to run by a deployment or a
stateful set and has neither, and if it has a Knative service that goes. -/
def Application.startsOver (app : Application) (apis : ClusterApis)
    (objects : Dict ObjectKey Json) : Bool :=
  !app.usesKnative && apis.knative && !app.controls objects (Child.deployment.key app)
    && !app.controls objects (Child.statefulSet.key app)

/-- **An application runs all through a pass**: it does after every call,
be it the last one before the pass is cut off. -/
def Pass.KeepsRunning (apis : ClusterApis) (settings : Settings) (app : Application)
    (status : ApplicationStatus) (s : Server) : Prop :=
  (Pass.children apis settings app).Along (fun s c => app.runs (s.after c).objects = true) status s

namespace Application

variable {app : Application} {objects objects' : Dict ObjectKey Json}

theorem runs_of_controls {c : Child} (hc : c ∈ Child.workloads)
    (h : app.controls objects (c.key app) = true) : app.runs objects = true :=
  List.any_eq_true.2 ⟨c, hc, h⟩

theorem runs_iff : app.runs objects = true
    ↔ ∃ c ∈ Child.workloads, app.controls objects (c.key app) = true :=
  List.any_eq_true

theorem runs_congr
    (h : ∀ c ∈ Child.workloads, objects'.get? (c.key app) = objects.get? (c.key app)) :
    app.runs objects' = app.runs objects := by
  simp only [runs, Child.workloads, List.any_cons, List.any_nil]
  simp only [Child.workloads, List.forall_mem_cons] at h
  rw [controls_congr h.1, controls_congr h.2.1, controls_congr h.2.2.1]

end Application

/-- The account runs nothing. -/
theorem Child.ne_account {c : Child} (hc : c ∈ workloads) : c ≠ .account := by
  rintro rfl
  exact absurd hc (by decide)

/-! ## As long as something runs the application

To run is to control some workload, so it is enough to follow one of them at a time:
the old one until the new one is made, and then the new one. The steps of a launch are
split at the step that makes the new one. Steps before it must spare the old workload,
and those after it are under other keys.

Where the application starts over there is no such split. The Knative service is
removed first, and the step that makes the deployment comes later, with others between
them; after the first of these steps nothing runs the application. -/

/-- An application runs all along a run whose calls leave it in control of
what runs it. -/
theorem Dialogue.Along.runs {β : Type} {d : Dialogue β} {app : Application} {s : Server}
    {held : Child} (h : d.Along (fun _ c => c.Spares app (held.key app)) s)
    (hheld : held ∈ Child.workloads) (hcontrols : app.controls s.objects (held.key app) = true) :
    d.Along (fun s c => app.runs (s.after c).objects = true) s :=
  (h.controls hcontrols).2.mono fun _ _ hc => Application.runs_of_controls hheld hc

namespace Access

variable {app : Application} {apis : ClusterApis} {settings : Settings} {wiring : Wiring}
  {s s' : Server} {held : Child}

/-- What is controlled before steps that leave it so is controlled after them. -/
theorem controls_of_on {β : Type} {act : Access β} {key : ObjectKey} {r : Except OperatorError β}
    (h : act.Along (fun _ c => c.Spares app key) s) (hs : act.on s = (r, s'))
    (hcontrols : app.controls s.objects key = true) : app.controls s'.objects key = true := by
  have hafter := (Dialogue.Along.controls h hcontrols).1
  change app.controls (act.on s).2.objects key = true at hafter
  rw [hs] at hafter
  exact hafter

/-- A step under another key leaves the application in control. -/
theorem StepSettles.spares {task : Task} (h : StepSettles task) {key : ObjectKey}
    (hkey : task.1 ≠ key) (s : Server) : task.2.Along (fun _ c => c.Spares app key) s :=
  Dialogue.Along.mono (h.touches s) fun _ _ hc => hc.spares fun he => hkey he.symm

/-- **What runs the application is handed over**: steps before the new
workload leave the application in control of the old one, and the steps
after it are not about the new one. -/
theorem along_handover {α : Type} [ApiObject α] [Legible α] {update : α → α} (hu : Steady update)
    (made : Child) (hmade : made ∈ Child.workloads) (hkey : made.key app = keyOf α app app.name)
    {tasks after : List Task} (before : List Task)
    (hsplit : tasks = before ++ (made.key app, discard (writeOwn app app.name update)) :: after)
    (hsettles : ∀ task ∈ tasks, StepSettles task) (hnodup : (tasks.map Prod.fst).Nodup)
    (hheld : held ∈ Child.workloads)
    (hbefore : ∀ task ∈ before, ∀ s, task.2.Along (fun _ c => c.Spares app (held.key app)) s)
    (hcontrols : app.controls s.objects (held.key app) = true) :
    (inOrder tasks).Along (fun s c => app.runs (s.after c).objects = true) s := by
  subst hsplit
  rw [inOrder_append, inOrder_cons]
  refine along_bind (Dialogue.Along.runs (along_inOrder hbefore s) hheld hcontrols) fun _ t ht => ?_
  have hheld' := controls_of_on (along_inOrder hbefore s) ht hcontrols
  refine along_bind (Dialogue.Along.runs (along_discard (spares_writeOwn hu)) hheld hheld')
    fun _ t' ht' => ?_
  -- from here on it is the new workload that runs the application
  obtain ⟨_, hwrite⟩ := on_discard_ok.1 ht'
  have hmade' : app.controls t'.objects (made.key app) = true :=
    hkey ▸ controls_of_writeOwn hu hwrite
  refine Dialogue.Along.runs (along_inOrder (fun task htask => ?_) t') hmade hmade'
  refine (hsettles task (List.mem_append_right _ (.tail _ htask))).spares fun he => ?_
  rw [List.map_append] at hnodup
  have hmem : task.1 ∈ after.map Prod.fst := List.mem_map_of_mem htask
  exact (List.nodup_cons.1 (List.nodup_append.1 hnodup).2.1).1 (he ▸ hmem)

/-- Before the pods, no step takes away what runs the application, unless it
is a Knative service that goes. -/
theorem spares_prelude (hheld : held = .knativeService → apis.knative = false)
    (hdistinct : held ∈ Child.workloads) (s : Server) :
    (provided apis.knative (drop KnativeService app app.name)).Along
      (fun _ c => c.Spares app (held.key app)) s := by
  refine along_provided fun hknative => ?_
  have hstep : StepSettles (keyOf KnativeService app app.name, drop KnativeService app app.name) :=
    step_drop
  refine hstep.spares (fun he => ?_) s
  simp only [Child.workloads, List.mem_cons, List.not_mem_nil, or_false] at hdistinct
  rcases hdistinct with rfl | rfl | rfl
  · exact absurd (ObjectKey.of_eq_iff.1 he).1 (by decide)
  · exact absurd (ObjectKey.of_eq_iff.1 he).1 (by decide)
  · rw [hheld rfl] at hknative
    exact Bool.false_ne_true hknative

/-- **An application that runs keeps running** while it is brought up to date
what runs it, unless that is a Knative service that goes. -/
theorem along_launch (hheld : held ∈ Child.workloads)
    (hstays : held = .knativeService → app.usesKnative = false → apis.knative = false)
    (hcontrols : app.controls s.objects (held.key app) = true) :
    (launch apis settings app wiring).Along
      (fun s c => app.runs (s.after c).objects = true) s := by
  refine along_ite (fun hknative => ?_) fun hworkload => ?_
  -- the Knative service is the first step of the list, so no step comes before it
  · rw [runKnative_inOrder]
    have hspares : (provided (!apis.knative) (throw (.apiUnavailable (apiOf KnativeService)))).Along
        (fun _ c => c.Spares app (held.key app)) s := along_provided fun _ => along_throw _
    refine along_bind (Dialogue.Along.runs hspares hheld hcontrols) fun _ t ht => ?_
    exact along_handover (app.steady_knativeService wiring) .knativeService (by decide) rfl [] rfl
      settles_knativeTasks nodup_knativeTasks hheld (fun _ h => absurd h List.not_mem_nil)
      (controls_of_on hspares ht hcontrols)
  -- steps before the workload spare what runs the application; with storage there is one more
  · have hprelude : ∀ s, (provided apis.knative (drop KnativeService app app.name)).Along
        (fun _ c => c.Spares app (held.key app)) s :=
      spares_prelude (fun he => hstays he (Bool.eq_false_iff.2 hworkload)) hheld
    have hservice : ∀ {name} {update : Service → Service}, Steady update → ∀ s,
        (discard (writeOwn app name update)).Along (fun _ c => c.Spares app (held.key app)) s :=
      fun hu s => along_discard (spares_writeOwn hu)
    rw [runWorkload_inOrder]
    cases hstorage : app.usesStorage with
    | true =>
      refine along_handover (app.steady_statefulSet wiring) .statefulSet (by decide) rfl [_, _, _]
        (by unfold workloadTasks podTasks; rw [if_pos hstorage]; rfl)
        settles_workloadTasks nodup_workloadTasks hheld ?_ hcontrols
      simp only [List.forall_mem_cons, List.not_mem_nil, false_imp_iff, implies_true, and_true]
      exact ⟨hprelude, hservice app.steady_service, hservice app.steady_headlessService⟩
    | false =>
      refine along_handover (app.steady_deployment wiring) .deployment (by decide) rfl [_, _]
        (by unfold workloadTasks podTasks; rw [if_neg (by simp [hstorage])]; rfl)
        settles_workloadTasks nodup_workloadTasks hheld ?_ hcontrols
      simp only [List.forall_mem_cons, List.not_mem_nil, false_imp_iff, implies_true, and_true]
      exact ⟨hprelude, hservice app.steady_service⟩

/-- **Where the application starts over it does not keep running**: when its
Knative service has gone, nothing runs it. -/
theorem not_along_launch (ht : s.Truthful) (hstarts : app.startsOver apis s.objects = true)
    (hruns : app.runs s.objects = true)
    (h : (launch apis settings app wiring).on s = (.ok (), s')) :
    ¬ (launch apis settings app wiring).Along
      (fun s c => app.runs (s.after c).objects = true) s := by
  simp only [Application.startsOver, Bool.and_eq_true, Bool.not_eq_true'] at hstarts
  obtain ⟨⟨⟨hknative, hserved⟩, hdeployment⟩, hstatefulSet⟩ := hstarts
  have hlaunch : launch apis settings app wiring
      = drop KnativeService app app.name >>= fun _ =>
        inOrder (workloadTasks apis settings app wiring).tail := by
    unfold launch
    rw [if_neg (by simp [hknative]), runWorkload_inOrder]
    unfold workloadTasks
    rw [List.cons_append, inOrder_cons, provided, if_pos hserved]
    rfl
  rw [hlaunch] at h ⊢
  intro halong
  -- at the state after the first step: neither workload was there before, the step is about
  -- another object, and the Knative service is gone
  obtain ⟨_, t, hdrop, -⟩ := on_bind_ok.1 h
  have hruns' := halong.first.keeps (I := fun t => app.runs t.objects = true) hruns
    fun _ _ hc _ => hc
  rw [hdrop] at hruns'
  obtain ⟨c, hc, hcontrols⟩ := Application.runs_iff.1 hruns'
  have hother : (c.key app ≠ keyOf KnativeService app app.name) →
      app.controls t.objects (c.key app) = app.controls s.objects (c.key app) := fun hne =>
    Application.controls_congr
      ((touches_deleteOwn (α := KnativeService)).discard.get?_of_on hdrop hne)
  simp only [Child.workloads, List.mem_cons, List.not_mem_nil, or_false] at hc
  rcases hc with rfl | rfl | rfl
  · rw [hother fun he => absurd (ObjectKey.of_eq_iff.1 he).1 (by decide), hdeployment] at hcontrols
    exact Bool.false_ne_true hcontrols
  · rw [hother fun he => absurd (ObjectKey.of_eq_iff.1 he).1 (by decide), hstatefulSet] at hcontrols
    exact Bool.false_ne_true hcontrols
  · rw [show Child.knativeService.key app = keyOf KnativeService app app.name from rfl,
      decides_drop s t ht hdrop] at hcontrols
    exact Bool.false_ne_true hcontrols

end Access

/-! ## All through a pass

What comes before the launch is about the account and the secrets and makes no
difference to what runs the application. So the result for a launch is one for a pass,
in both directions: the positive one holds up to any cut, and the negative one of
passes that succeed, since a pass that was cut off early may not have come to the
removal. -/

/-- Accounts and secrets are nothing that runs the application. -/
theorem Access.admits_spares {held : Child} (hheld : held ∈ Child.workloads) (app : Application) :
    Admits app (fun type _ => type = objectType (α := ServiceAccount)
        ∨ type = objectType (α := Secret))
      fun _ c => c.Spares app (held.key app) := by
  refine (admits_within app _).mono fun _ c hc => hc.spares ?_
  rintro ⟨_, name, rfl | rfl, hkey⟩
  · exact Child.not_beforeLaunch (Child.ne_account hheld) app ⟨_, name, .inr hkey⟩
  · exact Child.not_beforeLaunch (Child.ne_account hheld) app ⟨_, name, .inl hkey⟩

namespace Pass

variable {app : Application} {apis : ClusterApis} {settings : Settings}
  {status status' : ApplicationStatus} {s s' : Server}

/-- **An application that runs keeps running**, unless it does so as a Knative
service that goes. -/
theorem keepsRunning_of_held {held : Child} (hheld : held ∈ Child.workloads)
    (hstays : held = .knativeService → app.usesKnative = false → apis.knative = false)
    (hcontrols : app.controls s.objects (held.key app) = true) :
    KeepsRunning apis settings app status s := by
  have hadmits := Access.admits_spares hheld app
  have haccount := hadmits.account (.inl rfl) s
  refine along_onCluster_bind (Dialogue.Along.runs haccount hheld hcontrols) fun _ s₁ h₁ => ?_
  have hcontrols₁ := Access.controls_of_on haccount h₁ hcontrols
  have hbindings := (hadmits.secrets (fun _ => .inr rfl) status).bindings s₁
  refine along_bind (Dialogue.Along.runs hbindings hheld hcontrols₁) fun b status' s₂ h₂ => ?_
  have hcontrols₂ : app.controls ((Pass.bindings app).on status s₁).2.2.objects (held.key app)
      = true := (Dialogue.Along.controls hbindings hcontrols₁).1
  rw [h₂] at hcontrols₂
  exact along_onCluster.2 (Access.along_launch hheld hstays hcontrols₂)

/-- **Where it starts over it does not.** -/
theorem not_keepsRunning (ht : s.Truthful) (hstarts : app.startsOver apis s.objects = true)
    (hruns : app.runs s.objects = true)
    (h : (Pass.children apis settings app).on status s = (.ok (), status', s')) :
    ¬ KeepsRunning apis settings app status s := by
  obtain ⟨s₁, b, s₂, haccount, hbindings, hlaunch⟩ := children_ok.1 h
  -- what is done to accounts and secrets makes no difference to what runs the application
  have hsame : ∀ c ∈ Child.workloads, s₂.objects.get? (c.key app) = s.objects.get? (c.key app) :=
    fun c hc => get?_before_launch haccount hbindings (Child.ne_account hc)
  have hstarts₂ : app.startsOver apis s₂.objects = true := by
    unfold Application.startsOver
    rw [Application.controls_congr (hsame _ (by decide)),
      Application.controls_congr (hsame _ (by decide))]
    exact hstarts
  have hruns₂ : app.runs s₂.objects = true := (Application.runs_congr hsame).trans hruns
  have ht₂ := truthful_of_on (Access.truthful_of_on ht haccount) hbindings
  intro halong
  have haccounted : (onCluster (Access.account app)).on status s = (.ok (), status, s₁) := by
    rw [on_onCluster, haccount]
  exact Access.not_along_launch ht₂ hstarts₂ hruns₂ hlaunch
    (along_onCluster.1 ((halong.next haccounted).next hbindings))

/-- **An application that runs keeps running all through a pass**, wherever
that may be cut off, exactly if it does not start over. That it does not keep
running where it does is certain of a pass that succeeds. -/
theorem keepsRunning (hruns : app.runs s.objects = true) :
    (app.startsOver apis s.objects = false → KeepsRunning apis settings app status s)
      ∧ (app.startsOver apis s.objects = true → s.Truthful → ∀ status' s',
          (Pass.children apis settings app).on status s = (.ok (), status', s') →
            ¬ KeepsRunning apis settings app status s) := by
  refine ⟨fun hstays => ?_, fun hstarts ht status' s' h => not_keepsRunning ht hstarts hruns h⟩
  obtain ⟨held, hheld, hcontrols⟩ := Application.runs_iff.1 hruns
  by_cases hother : app.controls s.objects (Child.deployment.key app) = true
  · exact keepsRunning_of_held (by decide) (fun he => by simp at he) hother
  by_cases hother' : app.controls s.objects (Child.statefulSet.key app) = true
  · exact keepsRunning_of_held (by decide) (fun he => by simp at he) hother'
  refine keepsRunning_of_held hheld (fun _ hknative => ?_) hcontrols
  simpa [Application.startsOver, hknative, hother, hother'] using hstays

/-- So it is for an application that is run by a deployment, then as a Knative
service, and then by a deployment again. -/
theorem keepsRunning_to_knative_and_back :
    let app : Application := .bound "shop" "web" "u1" false []
    let apis : ClusterApis := { knative := true }
    ∃ status s status' s' status'' s'',
      (Pass.children apis {} app).on default (.offering []) = (.ok (), status, s)
        ∧ (Pass.children apis {} app.onKnative).on status s = (.ok (), status', s')
        ∧ (Pass.children apis {} app).on status' s' = (.ok (), status'', s'')
        ∧ KeepsRunning apis {} app.onKnative status s ∧ ¬ KeepsRunning apis {} app status' s' := by
  intro app apis
  let first := (Pass.children apis {} app).on default (.offering [])
  let second := (Pass.children apis {} app.onKnative).on first.2.1 first.2.2
  have hruns : first.1.isOk = true ∧ app.onKnative.runs first.2.2.objects = true
      ∧ second.1.isOk = true ∧ app.runs second.2.2.objects = true
      ∧ app.startsOver apis second.2.2.objects = true
      ∧ ((Pass.children apis {} app).on second.2.1 second.2.2).1.isOk = true := by
    decide +kernel
  obtain ⟨status, s, h⟩ := ok_of_isOk hruns.1
  simp only [second, first] at hruns
  rw [h] at hruns
  obtain ⟨-, hruns, hok', hrest⟩ := hruns
  obtain ⟨status', s', h'⟩ := ok_of_isOk hok'
  rw [h'] at hrest
  obtain ⟨hruns', hstarts', hok''⟩ := hrest
  obtain ⟨status'', s'', h''⟩ := ok_of_isOk hok''
  have hopen : s'.Open := open_of_on (open_of_on (Server.open_offering []) h) h'
  exact ⟨status, s, status', s', status'', s'', h, h', h'', (keepsRunning hruns).1 rfl,
    (keepsRunning hruns').2 hstarts' hopen.truthful _ _ h''⟩

/-- **An application can be left without anything that runs it.** Where the
Knative service was to be replaced and the service of the application could
not be made, the Knative service has gone and there is no deployment. -/
theorem not_runs_after_refused_service :
    let app : Application := .bound "shop" "web" "u1" false []
    let apis : ClusterApis := { knative := true }
    ∃ status s,
      (Pass.children apis {} app.onKnative).on default (.offering []) = (.ok (), status, s)
        ∧ app.runs s.objects = true
        ∧ app.runs ((Pass.children apis {} app).on status (s.interrupted 15)).2.2.objects
          = false := by
  intro app apis
  let first := (Pass.children apis {} app.onKnative).on default (.offering [])
  have hruns : first.1.isOk = true ∧ app.runs first.2.2.objects = true
      ∧ app.runs ((Pass.children apis {} app).on first.2.1
          (first.2.2.interrupted 15)).2.2.objects = false := by
    decide +kernel
  obtain ⟨status, s, h⟩ := ok_of_isOk hruns.1
  simp only [first] at hruns
  rw [h] at hruns
  exact ⟨status, s, h, hruns.2⟩

end Pass
end AppOperator
