import AppOperator.Proofs.Reconcile.Wanted

/-!
# How children are formed

Whom a child belongs to is one thing, what it says another. Each child that a
pass writes is what the application makes of the child that was there before,
or of a new one (`Access.Written`). So whatever an update sets is set in what
is stored, however the rest of it looks (`Access.Formed`), and what an update
leaves is as it was before the pass. This is said of the children by which an
application runs, for both ways of running it (`Access.Launched`,
`Access.written_of_runKnative`).

As for whom a child belongs to, the step of a child leaves what is there at
the end, because no other step writes under its key.

Two things are said of a child, and each has its use. That it was written
(`Access.Written`) relates it to what was stored before the pass, and it is what
labels need, which are kept unless they are set. That it is formed (`Access.Formed`)
forgets what was there before; it is enough for everything that an update sets, since
this is the same whatever it is set in.
-/

namespace AppOperator

namespace Access

variable {app : Application} {apis : ClusterApis} {settings : Settings} {wiring : Wiring}
  {objects objects' : Dict ObjectKey Json} {s s' : Server}

section Formed

variable {α : Type} [ApiObject α] {name : String} {update : α → α}

/-- **A child is stored as an update leaves it**, made from some child. -/
def Formed (objects : Dict ObjectKey Json) (app : Application) (name : String)
    (update : α → α) : Prop :=
  ∃ old, Shows objects α app.metadata.nsOrEmpty name (some (update old))

theorem Formed.congr (h : Formed objects app name update)
    (heq : objects'.get? (keyOf α app name) = objects.get? (keyOf α app name)) :
    Formed objects' app name update := by
  obtain ⟨old, hshows⟩ := h
  exact ⟨old, hshows.congr heq⟩

/-- **A child is written**: what is stored is what is to be stored in the
place of what was. -/
def Written (before after : Dict ObjectKey Json) (app : Application) (controls : Bool)
    (name : String) (update : α → α) : Prop :=
  ∃ existing child, Shows before α app.metadata.nsOrEmpty name existing
    ∧ desired app controls app.metadata.nsOrEmpty name update existing = .ok child
    ∧ Shows after α app.metadata.nsOrEmpty name (some child)

theorem Written.congr {controls : Bool} {before before' after after' : Dict ObjectKey Json}
    (h : Written before after app controls name update)
    (hbefore : before.get? (keyOf α app name) = before'.get? (keyOf α app name))
    (hafter : after'.get? (keyOf α app name) = after.get? (keyOf α app name)) :
    Written before' after' app controls name update := by
  obtain ⟨existing, child, hexisting, hchild, hshows⟩ := h
  exact ⟨existing, child, hexisting.congr hbefore.symm, hchild, hshows.congr hafter⟩

/-- What was written is formed by the update. -/
theorem Written.formed {controls : Bool} (h : Written objects objects' app controls name update) :
    Formed objects' app name update := by
  obtain ⟨existing, child, -, hchild, hshows⟩ := h
  obtain ⟨m, -, rfl⟩ := desired_ok.1 hchild
  exact ⟨_, hshows⟩

/-- **Sharing a child puts no application in control of it.** -/
theorem Written.controls [Legible α] (hu : Steady update)
    (h : Written objects objects' app false name update)
    (hcontrols : app.controls objects' (keyOf α app name) = true) :
    app.controls objects (keyOf α app name) = true := by
  obtain ⟨existing, child, hexisting, hchild, hshows⟩ := h
  rw [controls_of_shows hshows] at hcontrols
  rw [controls_of_shows hexisting]
  exact isControlledBy_of_desired_shared hu.keeps hchild hcontrols

/-- **Writing a child writes it.** -/
theorem written_of_write [Legible α] {controls : Bool} (hu : Steady update)
    (h : (discard (write app controls name update)).on s = (.ok (), s')) :
    Written s.objects s'.objects app controls name update :=
  have ⟨_, hwrite⟩ := on_discard_ok.1 h
  write_ok hu.keeps hwrite

/-- A route is written with the certificates that were found. -/
theorem written_of_expose (hexposed : app.isExposed = true)
    (h : (expose settings app).on s = (.ok (), s')) : ∃ found,
    Written s.objects s'.objects app true app.name (app.route settings.defaultHostName found) := by
  unfold expose at h
  rw [if_pos hexposed] at h
  obtain ⟨found, t, hread, hwrite⟩ := on_bind_ok.1 h
  refine ⟨found, (written_of_write (app.steady_route _ found) hwrite).congr ?_ rfl⟩
  rw [(reads_certificates app).objects_of_on hread]

end Formed

/-- The step of a child was taken: it found what was there before all steps,
and left what is there after them. -/
theorem taken_of_workload (h : (inOrder (workloadTasks apis settings app wiring)).on s
      = (.ok (), s')) {key : ObjectKey} {act : Access Unit}
    (hmem : (key, act) ∈ workloadTasks apis settings app wiring) :
    ∃ t t', act.on t = (.ok (), t') ∧ t.objects.get? key = s.objects.get? key
      ∧ s'.objects.get? key = t'.objects.get? key := by
  obtain ⟨t, t', -, htaken⟩ := taken_of_inOrder
    (fun task htask => (settles_workloadTasks task htask).touches) nodup_workloadTasks h hmem
  exact ⟨t, t', htaken⟩

/-- **The children by which an application runs** that is no Knative service,
by their names and what the application sets in them. -/
structure Launched (apis : ClusterApis) (settings : Settings) (app : Application)
    (wiring : Wiring) (R : ∀ {α : Type} [ApiObject α], String → (α → α) → Prop) : Prop where
  /-- The service. -/
  service : R app.name app.service
  /-- The service that names pods with storage. -/
  headlessService : app.usesStorage = true → R app.headlessServiceName app.headlessService
  /-- The stateful set. -/
  statefulSet : app.usesStorage = true → R app.name (app.statefulSet wiring)
  /-- The deployment. -/
  deployment : app.usesStorage = false → R app.name (app.deployment wiring)
  /-- What sets the number of pods. -/
  autoscaler : app.spec.autoscaling.isSome = true → R app.name app.autoscaler
  /-- The way in from outside. -/
  route : apis.route = true → app.isExposed = true →
    ∃ found, R app.name (app.route settings.defaultHostName found)
  /-- What has the application monitored. -/
  serviceMonitor : apis.monitoring = true → app.spec.monitoring.isSome = true →
    R app.name app.serviceMonitor

theorem Launched.mono {R R' : ∀ {α : Type} [ApiObject α], String → (α → α) → Prop}
    (h : Launched apis settings app wiring R)
    (hR : ∀ {α : Type} [ApiObject α] {name : String} {update : α → α},
      R name update → R' name update) : Launched apis settings app wiring R' where
  service := hR h.service
  headlessService hstorage := hR (h.headlessService hstorage)
  statefulSet hstorage := hR (h.statefulSet hstorage)
  deployment hstorage := hR (h.deployment hstorage)
  autoscaler hscaled := hR (h.autoscaler hscaled)
  route hserved hexposed := (h.route hserved hexposed).imp fun _ => hR
  serviceMonitor hserved hmonitored := hR (h.serviceMonitor hserved hmonitored)

/-- **Running the application writes its children.** -/
theorem written_of_runWorkload (h : (runWorkload apis settings app wiring).on s = (.ok (), s')) :
    Launched apis settings app wiring (Written s.objects s'.objects app true) := by
  rw [runWorkload_inOrder] at h
  have hpod : ∀ {key act}, (key, act) ∈ podTasks app wiring →
      (key, act) ∈ workloadTasks apis settings app wiring := fun hact =>
    List.mem_append_left _ (.tail _ (.tail _ hact))
  -- each child is written by one step of the list, and no other step has its key: what the
  -- step found was there before the pass, and what it left is there afterwards
  refine ⟨?_, fun hstorage => ?_, fun hstorage => ?_, fun hstorage => ?_, fun hscaled => ?_,
    fun hserved hexposed => ?_, fun hserved hmonitored => ?_⟩
  · obtain ⟨t, t', hstep, hfound, hleft⟩ :=
      taken_of_workload h (List.mem_append_left _ (.tail _ (.head _)))
    exact (written_of_write app.steady_service hstep).congr hfound hleft
  · obtain ⟨t, t', hstep, hfound, hleft⟩ := taken_of_workload h (hpod (by
      rw [podTasks, if_pos hstorage]
      exact .head _))
    exact (written_of_write app.steady_headlessService hstep).congr hfound hleft
  · obtain ⟨t, t', hstep, hfound, hleft⟩ := taken_of_workload h (hpod (by
      rw [podTasks, if_pos hstorage]
      exact .tail _ (.head _)))
    exact (written_of_write (app.steady_statefulSet wiring) hstep).congr hfound hleft
  · obtain ⟨t, t', hstep, hfound, hleft⟩ := taken_of_workload h (hpod (by
      rw [podTasks, if_neg (by simp [hstorage])]
      exact .head _))
    exact (written_of_write (app.steady_deployment wiring) hstep).congr hfound hleft
  · obtain ⟨t, t', hstep, hfound, hleft⟩ :=
      taken_of_workload h (List.mem_append_right _ (.head _))
    rw [keep, if_pos hscaled] at hstep
    exact (written_of_write app.steady_autoscaler hstep).congr hfound hleft
  · obtain ⟨t, t', hstep, hfound, hleft⟩ :=
      taken_of_workload h (List.mem_append_right _ (.tail _ (.head _)))
    rw [provided, if_pos hserved] at hstep
    obtain ⟨found, hwritten⟩ := written_of_expose hexposed hstep
    exact ⟨found, hwritten.congr hfound hleft⟩
  · obtain ⟨t, t', hstep, hfound, hleft⟩ :=
      taken_of_workload h (List.mem_append_right _ (.tail _ (.tail _ (.head _))))
    rw [provided, if_pos hserved, keep, if_pos hmonitored] at hstep
    exact (written_of_write app.steady_serviceMonitor hstep).congr hfound hleft

/-- So they are formed by what the application sets in them. -/
theorem launched_of_runWorkload (h : (runWorkload apis settings app wiring).on s = (.ok (), s')) :
    Launched apis settings app wiring (Formed s'.objects app) :=
  (written_of_runWorkload h).mono Written.formed

/-- **Running the application as a Knative service** writes that. -/
theorem written_of_runKnative (h : (runKnative apis app wiring).on s = (.ok (), s')) :
    Written s.objects s'.objects app true app.name (app.knativeService wiring) := by
  rw [runKnative_inOrder] at h
  obtain ⟨_, u, hserves, h⟩ := on_bind_ok.1 h
  obtain ⟨t, t', -, hstep, hfound, hleft⟩ := taken_of_inOrder
    (fun task htask => (settles_knativeTasks task htask).touches) nodup_knativeTasks h
    (List.mem_of_getElem? (i := 0) rfl)
  have hserved : u.objects = s.objects := by
    unfold provided at hserves
    split at hserves
    · simp at hserves
    · exact congrArg Server.objects (Prod.mk.inj hserves).2.symm
  exact (written_of_write (app.steady_knativeService wiring) hstep).congr
    (hserved ▸ hfound) hleft

/-- So it is formed by what the application sets in it. -/
theorem formed_of_runKnative (h : (runKnative apis app wiring).on s = (.ok (), s')) :
    Formed s'.objects app app.name (app.knativeService wiring) :=
  (written_of_runKnative h).formed

end Access
end AppOperator
