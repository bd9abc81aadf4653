import AppOperator.Proofs.Cluster.Resuming
import AppOperator.Proofs.Reconcile.Quiet
import Mathlib.Data.List.Nodup

/-!
# A pass that was cut off

A pass that is cut off leaves part of its work done and the status as far as
it was noted, and the next pass starts from there. It comes to the same end
as the first would have come to without the cut: the same objects are stored
and the status is the same (`Pass.children_resumes`).

What the operator does before it launches the application is one computation
on the cluster (`Access.beforeLaunch`), which can be taken up again: the
account, the application's own secret, the copies and the secrets that are
given up are each a step that does all of its work or none. The list of what
is to be given up is read from the status, and that is only replaced when all
of this is done; so a pass that was cut off before gives up the same secrets,
and after a pass that was cut off later there are none left to give up.
-/

namespace AppOperator

namespace Access

variable {app : Application} {apis : ClusterApis} {settings : Settings} {wiring : Wiring}
  {status : ApplicationStatus}

/-! ## Steps that do all or nothing

The operations on children do all of their work or none, and so does a step that
consists of one of them, taken or skipped. What runs an application is a list of such
steps under different keys, so it can be taken up again by the general law. -/

section Steps

variable {α : Type} [ApiObject α] {name : String}

theorem atomic_writeOwn {update : α → α} : Atomic (discard (writeOwn app name update)) :=
  Atomic.write.discard

theorem atomic_drop : Atomic (drop α app name) := Atomic.deleteOwn.discard

theorem atomic_keep {wanted : Bool} {update : α → α} : Atomic (keep wanted app name update) :=
  .ite atomic_writeOwn atomic_drop

theorem atomic_provided {c : Bool} {act : Access Unit} (h : Atomic act) : Atomic (provided c act) :=
  .ite h (.pure ())

theorem atomic_certificates : Atomic (certificates app) := by
  unfold certificates
  cases Application.filled (app.spec.route.bind (·.certificateSecretRef)) with
  | none => exact .pure _
  | some name =>
    refine .bind (.lookUp _ _ _) (.lookUp _ _) fun r => ?_
    cases r with
    | none => exact .throw _
    | some secret => exact .pure _

theorem atomic_expose : Atomic (expose settings app) :=
  .ite (.bind (reads_certificates app) atomic_certificates fun _ => atomic_writeOwn) atomic_drop

end Steps

theorem atomic_knativeTasks : ∀ task ∈ knativeTasks apis app wiring, Atomic task.2 := by
  simp only [knativeTasks, List.forall_mem_cons, List.not_mem_nil, false_imp_iff, implies_true,
    and_true]
  exact ⟨atomic_writeOwn, atomic_drop, atomic_drop, atomic_drop, atomic_drop, atomic_drop,
    atomic_provided atomic_drop, atomic_provided atomic_drop⟩

theorem atomic_podTasks : ∀ task ∈ podTasks app wiring, Atomic task.2 := by
  unfold podTasks
  split
  · simp only [List.forall_mem_cons, List.not_mem_nil, false_imp_iff, implies_true, and_true]
    exact ⟨atomic_writeOwn, atomic_writeOwn, atomic_drop⟩
  · simp only [List.forall_mem_cons, List.not_mem_nil, false_imp_iff, implies_true, and_true]
    exact ⟨atomic_writeOwn, atomic_drop, atomic_drop⟩

theorem atomic_workloadTasks : ∀ task ∈ workloadTasks apis settings app wiring, Atomic task.2 := by
  simp only [workloadTasks, List.forall_mem_cons, List.cons_append, List.forall_mem_append,
    List.not_mem_nil, false_imp_iff, implies_true, and_true]
  exact ⟨atomic_provided atomic_drop, atomic_writeOwn, atomic_podTasks, atomic_keep,
    atomic_provided atomic_expose, atomic_provided atomic_keep⟩

/-- Steps under different keys are different steps. -/
theorem resumes_tasks {tasks : List Task} (hatomic : ∀ task ∈ tasks, Atomic task.2)
    (hsettles : ∀ task ∈ tasks, StepSettles task) (hnodup : (tasks.map Prod.fst).Nodup)
    (hapart : ∀ task ∈ tasks, ¬ BeforeLaunch task.1) : Resumes (inOrder tasks) := by
  refine resumes_inOrder hatomic hsettles (fun task htask other hother hkey => ?_) ?_
  · exact List.inj_on_of_nodup_map hnodup hother htask hkey
  · rintro task htask ⟨ns, name, hkey⟩
    exact hapart task htask ⟨ns, name, .inl hkey⟩

/-- **Running the application can be taken up again.** -/
theorem resumes_launch : Resumes (launch apis settings app wiring) := by
  refine Resumes.ite ?_ ?_
  · rw [runKnative_inOrder]
    have hsettles : Settles (fun _ => False) (fun _ => False)
        (provided (!apis.knative) (throw (.apiUnavailable (apiOf KnativeService)))) :=
      .ite (settles_throw _) (settles_pure ())
    refine .bind hsettles ((atomic_provided (.throw _)).resumes hsettles) fun _ _ _ _ => ⟨?_, ?_⟩
    · exact resumes_tasks atomic_knativeTasks settles_knativeTasks nodup_knativeTasks
        knativeTasks_apart
    · exact keeps_of_touches hsettles (touches_inOrder fun task htask =>
        (settles_knativeTasks task htask).touches) fun _ => False.elim
  · rw [runWorkload_inOrder]
    exact resumes_tasks atomic_workloadTasks settles_workloadTasks nodup_workloadTasks
      workloadTasks_apart

/-! ## Secrets

The steps on secrets are different in that two of them may be under one key, when a
provider is named twice. Then they are the same step, as names are apart, and a step
that is made twice is quiet the second time. What is copied is only known after the
bindings were read, so the list of steps depends on what was found. -/

theorem atomic_readKey (ns : String) (selector : Option SecretKey) :
    Atomic (Credentials.readKey ns selector) := by
  unfold Credentials.readKey
  cases selector with
  | none => exact .pure _
  | some selector =>
    refine .bind (.lookUp _ _ _) (.lookUp _ _) fun r => ?_
    cases r with
    | none => exact .ite (.pure _) (.throw _)
    | some secret =>
      dsimp only
      cases secret.text? selector.key with
      | some text => exact .pure _
      | none => exact .ite (.pure _) (.throw _)

theorem atomic_publish : Atomic (publish app) := by
  have hcredentials : Atomic app.credentials := by
    unfold Application.credentials
    cases app.provides?.bind (·.auth) with
    | none => exact .pure _
    | some auth =>
      exact .bind (readsSecrets_readKey _ _).reads (atomic_readKey _ _) fun _ =>
        .bind (readsSecrets_readKey _ _).reads (atomic_readKey _ _) fun _ => .pure _
  exact .ite (.bind (reads_credentials app) hcredentials fun _ => atomic_writeOwn)
    Atomic.deleteOwn.discard

theorem atomic_bindings (own : String) (entries : List Consumes) (b : Bindings) :
    Atomic (Bindings.read own b entries) := by
  induction entries generalizing b with
  | nil => exact .pure _
  | cons entry rest ih =>
    refine .bind (.lookUp _ _ _) (.lookUp _ _) fun r => ?_
    cases r with
    | none => exact .throw _
    | some source => exact ih _

/-- The step of making a copy. -/
def copyTask (app : Application) (name : String) (source : Secret) : Task :=
  (keyOf Secret app name, discard (writeShared app name source.copyOf))

/-- The step of giving up a secret. -/
def releaseTask (app : Application) (name : String) : Task :=
  (keyOf Secret app name, discard (release Secret app name))

/-- **The steps of making copies and giving up secrets**, once it is known
what is used. -/
def secretTasks (app : Application) (status : ApplicationStatus) (b : Bindings) : List Task :=
  b.consumed.filterMap (fun c => c.copyFrom.map (copyTask app c.secretName))
    ++ (app.releasedSecrets status).map (releaseTask app)

theorem copyAll_inOrder (consumed : List Consumed) : copyAll app consumed
    = inOrder (consumed.filterMap fun c => c.copyFrom.map (copyTask app c.secretName)) := by
  induction consumed with
  | nil => rfl
  | cons c rest ih =>
    rw [copyAll_cons, ih]
    unfold copyOne
    cases hfrom : c.copyFrom with
    | none =>
      rw [List.filterMap_cons_none (by rw [hfrom]; rfl)]
      exact pure_bind () _
    | some source =>
      rw [List.filterMap_cons_some (by rw [hfrom]; rfl), inOrder_cons]
      rfl

theorem releaseAll_inOrder (names : List String) :
    releaseAll app names = inOrder (names.map (releaseTask app)) := by
  induction names with
  | nil => rfl
  | cons name rest ih =>
    rw [List.map_cons, inOrder_cons, ← ih]
    rfl

section SecretTasks

variable {b : Bindings} {task : Task}

theorem mem_secretTasks : task ∈ secretTasks app status b ↔
    (∃ c ∈ b.consumed, ∃ source, c.copyFrom = some source ∧ task = copyTask app c.secretName source)
      ∨ ∃ name ∈ app.releasedSecrets status, task = releaseTask app name := by
  unfold secretTasks
  simp only [List.mem_append, List.mem_filterMap, Option.map_eq_some_iff, List.mem_map]
  refine or_congr (exists_congr fun c => and_congr_right fun _ => ?_) ?_
  · exact exists_congr fun source => and_congr_right fun _ => eq_comm
  · exact exists_congr fun name => and_congr_right fun _ => eq_comm

theorem atomic_secretTasks : ∀ task ∈ secretTasks app status b, Atomic task.2 := by
  intro task htask
  rcases mem_secretTasks.1 htask with ⟨c, -, source, -, rfl⟩ | ⟨name, -, rfl⟩
  · exact Atomic.write.discard
  · exact Atomic.release.discard

theorem settles_secretTasks : ∀ task ∈ secretTasks app status b,
    Settles (· = task.1) (· = task.1) task.2 := by
  intro task htask
  rcases mem_secretTasks.1 htask with ⟨c, -, source, -, rfl⟩ | ⟨name, -, rfl⟩
  · exact settles_write source.steady_copyOf
  · exact settles_release

variable {objects : Dict ObjectKey Json}
  (hfrom : Bindings.from? app.metadata.nsOrEmpty objects {} app.consumes = some b)

include hfrom

/-- They are about secrets that are copied or given up. -/
theorem key_of_secretTasks (htask : task ∈ secretTasks app status b) :
    ∃ name ∈ app.copiedSecrets ++ app.releasedSecrets status, task.1 = keyOf Secret app name := by
  rcases mem_secretTasks.1 htask with ⟨c, hc, source, hsource, rfl⟩ | ⟨name, hname, rfl⟩
  · obtain ⟨entry, he, hother, -, hsecret⟩ := app.copied_of_mem hfrom hc hsource
    have hcopied := Application.mem_copiedSecrets he hother
    exact ⟨_, List.mem_append_left _ (hsecret ▸ hcopied), rfl⟩
  · exact ⟨name, List.mem_append_right _ hname, rfl⟩

/-- Where names are apart, steps about one secret are one step. -/
theorem secretTasks_eq (hnames : app.NamesApart) (htask : task ∈ secretTasks app status b)
    {other : Task} (hother : other ∈ secretTasks app status b) (hkey : other.1 = task.1) :
    other = task := by
  have hcopied : ∀ c ∈ b.consumed, ∀ source, c.copyFrom = some source →
      c.secretName ∉ app.releasedSecrets status := by
    intro c hc source hsource
    obtain ⟨entry, he, -, -, hsecret⟩ := app.copied_of_mem hfrom hc hsource
    exact hsecret ▸ app.not_released_of_used (List.mem_map_of_mem he)
  rcases mem_secretTasks.1 htask with ⟨c, hc, source, hsource, rfl⟩ | ⟨name, hname, rfl⟩
  · rcases mem_secretTasks.1 hother with ⟨c', hc', source', hsource', rfl⟩ | ⟨name', hname', rfl⟩
    · have hsecret : c'.secretName = c.secretName := (ObjectKey.of_eq_iff.1 hkey).2.2
      have hlast := lastCopy?_of_namesApart hnames hfrom hc hsource
      rw [← hsecret, lastCopy?_of_namesApart hnames hfrom hc' hsource'] at hlast
      rw [hsecret, Option.some.inj hlast]
    · obtain rfl : name' = c.secretName := (ObjectKey.of_eq_iff.1 hkey).2.2
      exact absurd hname' (hcopied c hc source hsource)
  · rcases mem_secretTasks.1 hother with ⟨c', hc', source', hsource', rfl⟩ | ⟨name', -, rfl⟩
    · obtain rfl : c'.secretName = name := (ObjectKey.of_eq_iff.1 hkey).2.2
      exact absurd hname (hcopied c' hc' source' hsource')
    · rw [show name' = name from (ObjectKey.of_eq_iff.1 hkey).2.2]

/-- **Making copies and giving up secrets can be taken up again.** -/
theorem resumes_secretTasks (hnames : app.NamesApart) :
    Resumes (inOrder (secretTasks app status b)) :=
  resumes_inOrder (R := fun _ => False) atomic_secretTasks
    (fun task htask => (settles_secretTasks task htask).mono (fun _ => id) fun _ => .inl)
    (fun _ htask _ hother => secretTasks_eq hfrom hnames htask hother) fun _ _ => id

/-- They leave alone what a computation depends on, if that is none of the
secrets that are copied or given up. -/
theorem keeps_secretTasks {α : Type} {act : Access α} {a : α} {W D : ObjectKey → Prop}
    (hs : Settles W D act)
    (hapart : ∀ name ∈ app.copiedSecrets ++ app.releasedSecrets status,
      ¬ D (keyOf Secret app name)) :
    Keeps act a (inOrder (secretTasks app status b) >>= fun _ => pure b) := by
  refine Keeps.bind (keeps_inOrder fun task htask => ?_) fun _ _ _ _ => keeps_pure b
  obtain ⟨name, hname, hkey⟩ := key_of_secretTasks hfrom htask
  refine keeps_of_touches hs (settles_secretTasks task htask).touches ?_
  rintro _ hD rfl
  exact hapart name hname (hkey ▸ hD)

end SecretTasks

/-! ## Before the launch

What is done before the launch is a computation on the cluster alone, once the status
that it starts from is given. It is put together from three computations, each of
which keeps the ones before it quiet, and for that the conditions on names are needed. -/

/-- Brings the secrets of the bindings up to date, from a status that says
what was in use. -/
def bindSecrets (app : Application) (status : ApplicationStatus) : Access Bindings := do
  publish app
  let b ← app.bindings
  inOrder (secretTasks app status b)
  return b

/-- **What is done before the launch.** -/
def beforeLaunch (app : Application) (status : ApplicationStatus) : Access Bindings := do
  account app
  bindSecrets app status

theorem touches_bindSecrets : Touches OfSecrets (bindSecrets app status) := by
  refine .bind (touches_publish.mono fun _ hk => ⟨_, _, hk⟩) fun _ =>
    .bind ((reads_bindings _ _ _).touches _) fun b => .bind ?_ fun _ => touches_pure _
  refine (touches_inOrder fun task htask => (settles_secretTasks task htask).touches).mono ?_
  rintro _ hk
  obtain ⟨task, htask, rfl⟩ := List.mem_map.1 hk
  rcases mem_secretTasks.1 htask with ⟨c, -, source, -, rfl⟩ | ⟨name, -, rfl⟩
  · exact ⟨_, _, rfl⟩
  · exact ⟨_, _, rfl⟩

/-- **Bringing the secrets up to date can be taken up again.** -/
theorem resumes_bindSecrets (hnames : app.NamesApart) (hauth : app.AuthApart status) :
    Resumes (bindSecrets app status) := by
  have hown : app.bindingSecretName ∉ app.authSecrets := fun hmem =>
    hauth _ hmem (List.mem_cons_self ..)
  have hpublish := settles_publish hown
  have hbindings := settles_bindings app.metadata.nsOrEmpty app.consumes {}
  refine .bind hpublish (atomic_publish.resumes hpublish) fun _ _ _ _ => ⟨?_, ?_⟩
  · refine .bind hbindings ((atomic_bindings _ _ _).resumes hbindings) fun b s s' hread => ?_
    have hfrom := Bindings.from?_of_read hread
    refine ⟨(resumes_secretTasks hfrom hnames).map fun _ => b, keeps_secretTasks hfrom hbindings ?_⟩
    -- no provider's secret is copied to or given up
    rintro name hname ⟨entry, he, hkey⟩
    obtain ⟨-, hlocal, rfl⟩ := ObjectKey.of_eq_iff.1 hkey
    rcases List.mem_append.1 hname with hcopied | hreleased
    · exact hnames.local_not_copied he hlocal.symm hcopied
    · exact app.not_released_of_used (List.mem_map_of_mem he) hreleased
  · refine Keeps.bind (keeps_of_touches hpublish (reads_bindings _ _ _) fun _ _ => id)
      fun b s s' hread => keeps_secretTasks (Bindings.from?_of_read hread) hpublish ?_
    rintro name hname (hkey | ⟨n, hn, hkey⟩)
    · obtain ⟨-, -, rfl⟩ := ObjectKey.of_eq_iff.1 hkey
      rcases List.mem_append.1 hname with hcopied | hreleased
      · exact hnames.own_not_copied hcopied
      · exact app.own_not_released status hreleased
    · obtain ⟨-, -, rfl⟩ := ObjectKey.of_eq_iff.1 hkey
      exact hauth name hn (List.mem_cons_of_mem _ hname)

/-- **All that is done before the launch can be taken up again.** -/
theorem resumes_beforeLaunch (hnames : app.NamesApart) (hauth : app.AuthApart status) :
    Resumes (beforeLaunch app status) := by
  refine .bind settles_account (atomic_keep.resumes settles_account) fun _ _ _ _ =>
    ⟨resumes_bindSecrets hnames hauth, keeps_of_touches settles_account touches_bindSecrets ?_⟩
  rintro _ rfl ⟨ns, name, hkey⟩
  exact absurd (ObjectKey.of_eq_iff.1 hkey).1 (by decide)

end Access

/-! ## A pass and the next

The status is noted between the two parts of a pass, so there are two cases. A pass
that was cut off in the first part leaves the status as it was, and the next pass
starts over from the same status. One that was cut off in the second part has noted
the new one; then the first part is quiet in the next pass, with nothing left to give
up, and the second is taken up again. -/

namespace Pass

variable {app : Application} {apis : ClusterApis} {settings : Settings}
  {status done noted : ApplicationStatus} {s s' s₁ : Server} {r : Except OperatorError Unit}

/-- The status that lists the secrets that are in use now. -/
def listing (status : ApplicationStatus) (b : Bindings) : ApplicationStatus :=
  { status with consumedServices := b.consumedServices }

/-- **Secrets are brought up to date on the cluster**, and then the status
lists them. -/
theorem bindings_on (status : ApplicationStatus) (s : Server) :
    (Pass.bindings app).on status s = match (Access.bindSecrets app status).on s with
      | (.ok b, s') => (.ok b, listing status b, s')
      | (.error e, s') => (.error e, status, s') := by
  unfold Access.bindSecrets
  show (onCluster (Access.publish app) >>= _).on status s = _
  rw [Pass.on_bind, on_onCluster, Access.on_bind]
  rcases (Access.publish app).on s with ⟨_ | _, s₁⟩
  · rfl
  dsimp only
  show (onCluster app.bindings >>= _).on status s₁ = _
  rw [Access.on_bind, Pass.on_bind, on_onCluster]
  rcases hread : app.bindings.on s₁ with ⟨_ | b, s₂⟩
  · rfl
  dsimp only
  -- what is given up is known once it is known what is used
  have hsteps : Access.inOrder (Access.secretTasks app status b)
      = Access.copyAll app b.consumed >>= fun _ => Access.releaseAll app (app.stale status b) := by
    rw [app.stale_eq status (Bindings.from?_of_read hread), Access.copyAll_inOrder,
      Access.releaseAll_inOrder, ← Access.inOrder_append]
    rfl
  show (onCluster (Access.copyAll app b.consumed) >>= _).on status s₂ = _
  rw [hsteps, bind_assoc, Access.on_bind, Pass.on_bind, on_onCluster]
  rcases (Access.copyAll app b.consumed).on s₂ with ⟨_ | _, s₃⟩
  · rfl
  dsimp only
  show (onCluster (Access.releaseAll app (app.stale status b)) >>= _).on status s₃ = _
  rw [Access.on_bind, Pass.on_bind, on_onCluster]
  rcases (Access.releaseAll app (app.stale status b)).on s₃ with ⟨_ | _, s₄⟩
  · rfl
  · rfl

/-- **A pass is what is done before the launch, and the launch**; in between
the status is noted. -/
theorem children_on (status : ApplicationStatus) (s : Server) :
    (Pass.children apis settings app).on status s = match (Access.beforeLaunch app status).on s with
      | (.ok b, s') =>
        (((Access.launch apis settings app b.wiring).on s').1, listing status b,
          ((Access.launch apis settings app b.wiring).on s').2)
      | (.error e, s') => (.error e, status, s') := by
  unfold Access.beforeLaunch
  show (onCluster (Access.account app) >>= _).on status s = _
  rw [Pass.on_bind, on_onCluster, Access.on_bind]
  rcases (Access.account app).on s with ⟨_ | _, s₁⟩
  · rfl
  dsimp only
  show (Pass.bindings app >>= _).on status s₁ = _
  rw [Pass.on_bind, bindings_on]
  rcases (Access.bindSecrets app status).on s₁ with ⟨_ | b, s₂⟩
  · rfl
  · exact on_onCluster _ _ _

/-- Where a pass ends: before the launch, with the status as it was, or in it
or after it, with the status noted. -/
theorem children_cases (h : (Pass.children apis settings app).on status s = (r, noted, s₁)) :
    (∃ e, (Access.beforeLaunch app status).on s = (.error e, s₁) ∧ r = .error e ∧ noted = status)
      ∨ ∃ b v, (Access.beforeLaunch app status).on s = (.ok b, v)
        ∧ (Access.launch apis settings app b.wiring).on v = (r, s₁) ∧ noted = listing status b := by
  rw [children_on] at h
  rcases hbefore : (Access.beforeLaunch app status).on s with ⟨e | b, v⟩
  · rw [hbefore] at h
    obtain ⟨rfl, hrest⟩ := Prod.mk.inj h
    obtain ⟨rfl, rfl⟩ := Prod.mk.inj hrest
    exact .inl ⟨e, rfl, rfl, rfl⟩
  · rw [hbefore] at h
    obtain ⟨rfl, hrest⟩ := Prod.mk.inj h
    obtain ⟨rfl, rfl⟩ := Prod.mk.inj hrest
    exact .inr ⟨b, v, rfl, rfl, rfl⟩

/-- **A pass that was cut off can be made again.** Where the pass would have
succeeded if nothing had been refused, the next pass, made from the status and
the cluster that the cut left, succeeds if nothing is refused to it, and the
same objects are stored and the status is the same at the end. -/
theorem children_resumes (hplain : s.Plain) (hnames : app.NamesApart) (hauth : app.AuthApart status)
    (hwhole : (Pass.children apis settings app).on status s.opened = (.ok (), done, s'))
    (hcut : (Pass.children apis settings app).on status s = (r, noted, s₁)) :
    ∃ s₂, (Pass.children apis settings app).on noted s₁.opened = (.ok (), done, s₂)
      ∧ s₂.objects = s'.objects := by
  obtain ⟨e, -, herror, -⟩ | ⟨b, v, hbefore, hlaunch, rfl⟩ := children_cases hwhole
  · simp at herror
  have hopen : v.Open := Access.open_of_on s.open_opened hbefore
  have hbegun := Access.resumes_beforeLaunch hnames hauth
  obtain ⟨e, hfailed, -, rfl⟩ | ⟨b', w, hdone, hcutoff, rfl⟩ := children_cases hcut
  · -- cut off before the launch: that is taken up again, and the launch is still to come
    obtain ⟨-, hagain⟩ := hbegun hplain s.open_opened s.alike_opened hbefore hfailed
    obtain ⟨t, ht, hvt⟩ := hagain s₁.opened s₁.open_opened s₁.alike_opened
    obtain ⟨t', ht', halike⟩ := Access.on_alike hlaunch hvt.symm hopen
      (Access.open_of_on s₁.open_opened ht)
    refine ⟨t', ?_, halike.1.symm⟩
    rw [children_on, ht]
    dsimp only
    rw [ht']
  · -- cut off in the launch: all before it is quiet, and the launch is taken up again
    obtain ⟨hdid, -⟩ := hbegun hplain s.open_opened s.alike_opened hbefore hdone
    obtain ⟨rfl, hwv⟩ := hdid b' rfl
    obtain ⟨-, hlaunched⟩ := Access.resumes_launch (Access.plain_of_on hplain hdone) hopen hwv.symm
      hlaunch hcutoff
    obtain ⟨_, v₁, haccount, hsecrets⟩ := Access.on_bind_ok.1 hbefore
    have hbindings : (Pass.bindings app).on status v₁ = (.ok b', listing status b', v) := by
      rw [bindings_on, hsecrets]
    have hsame : ∀ k, Access.BeforeLaunch k → s₁.objects.get? k = v.objects.get? k := by
      intro k hk
      rw [Access.settles_launch.touches.get?_of_on hcutoff fun hn => hn hk, hwv.1]
    obtain ⟨haccounted, hbound⟩ := quiet_before_launch s.open_opened.truthful hnames hauth haccount
      hbindings hsame
    obtain ⟨t₁, h₁, hopen₁, ho₁, -⟩ := haccounted s₁.opened s₁.open_opened rfl
    obtain ⟨t₂, h₂, hopen₂, ho₂, -⟩ := hbound t₁ hopen₁ ho₁
    have hapis : t₁.apis = s₁.opened.apis := Access.apis_of_on h₁
    have halike : t₂.Alike s₁ := ⟨ho₂, (Pass.apis_of_on h₂).trans hapis⟩
    obtain ⟨t₃, h₃, hend⟩ := hlaunched t₂ hopen₂ halike
    exact ⟨t₃, children_ok.2 ⟨t₁, b', t₂, h₁, h₂, h₃⟩, hend.1⟩

/-- So it is for an application where the second of two copies was not to be made. -/
theorem children_resumes_of_refused_copy :
    let app : Application := .bound "shop" "web" "u1" true [("a", "x"), ("b", "y")]
    let s : Server := (Server.offering [("a", "x"), ("b", "y")]).interrupted 9
    ∃ done s' e noted s₁ s₂, (Pass.children {} {} app).on default s.opened = (.ok (), done, s')
      ∧ (Pass.children {} {} app).on default s = (.error e, noted, s₁)
      ∧ (Pass.children {} {} app).on noted s₁.opened = (.ok (), done, s₂)
      ∧ s₂.objects = s'.objects := by
  intro app s
  have hfails : ((Pass.children {} {} app).on default s).1.isOk = false := by decide +kernel
  have hok : ((Pass.children {} {} app).on default s.opened).1.isOk = true := by decide +kernel
  obtain ⟨done, s', hwhole⟩ := ok_of_isOk hok
  rcases hcut : (Pass.children {} {} app).on default s with ⟨e | _, noted, s₁⟩
  · obtain ⟨s₂, hagain, hsame⟩ := children_resumes (Server.truthful_interrupted _ _).plain
      (by decide +kernel) (by decide +kernel) hwhole hcut
    exact ⟨done, s', e, noted, s₁, s₂, hwhole, rfl, hagain, hsame⟩
  · rw [hcut] at hfails
    simp [Except.isOk, Except.toBool] at hfails

end Pass
end AppOperator
