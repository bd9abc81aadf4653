import AppOperator.Proofs.Reconcile.Walk

/-!
# A pass that succeeded is not repeated

Where a pass has succeeded, the same pass finds everything as it should be:
it succeeds again and writes nothing (`Pass.children_quiet`). Otherwise the
operator would wake itself up by its own writes, time and again.

Each step by itself settles, and what is to be shown is that the steps do not
disturb each other. The steps that run the application write under different
keys. The secrets are the delicate part, for several steps write secrets of
one namespace, and some read there: the names of bindings have to be apart,
and the secrets with the name and password that a service asks for have to be
others than those that the pass writes or gives up.

That the second pass succeeds is part of what is shown and not assumed. It is why the
cluster is asked not to refuse anything in the second pass, while of the first it is
known only that it has succeeded, and that the cluster was truthful.
-/

namespace AppOperator

/-! ## The steps that run the application

Each step settles by itself and is under a key of its own, and none of them reads
anything but secrets, which they do not write. So all of them settle together, for
either way of running the application; it remains to check that the keys are
different, which for two services of one application is a matter of their names. -/

namespace Access

variable {app : Application} {apis : ClusterApis} {settings : Settings} {wiring : Wiring}

/-- The secrets that a step may read. -/
def OfSecrets (k : ObjectKey) : Prop := ∃ ns name, k = .of Secret ns name

theorem name_ne_headless (app : Application) : app.name ≠ app.headlessServiceName := by
  unfold Application.headlessServiceName
  intro h
  have hlength := congrArg String.length h
  rw [String.length_append] at hlength
  simp at hlength

/-- No two steps write under one key. -/
theorem nodup_knativeTasks : ((knativeTasks apis app wiring).map Prod.fst).Nodup := by
  simp +decide [knativeTasks, ObjectKey.of_eq_iff, name_ne_headless]

theorem nodup_workloadTasks : ((workloadTasks apis settings app wiring).map Prod.fst).Nodup := by
  unfold workloadTasks podTasks
  split
  · simp +decide [ObjectKey.of_eq_iff, name_ne_headless]
  · simp +decide [ObjectKey.of_eq_iff, name_ne_headless]

section Steps

variable {α : Type} [ApiObject α] {name : String}

/-- What a step under some key depends on. -/
def StepDepends (key k : ObjectKey) : Prop := k = key ∨ OfSecrets k

/-- **A step that settles** under its key. -/
abbrev StepSettles (task : Task) : Prop :=
  Settles (· = task.1) (StepDepends task.1) task.2

theorem step_write [Legible α] {update : α → α} (hu : Steady update) :
    StepSettles (keyOf α app name, discard (writeOwn app name update)) :=
  (settles_write hu).mono (fun _ => id) fun _ => .inl

theorem step_drop : StepSettles (keyOf α app name, drop α app name) :=
  settles_deleteOwn.mono (fun _ => id) fun _ => .inl

theorem step_keep [Legible α] {update : α → α} (hu : Steady update) (wanted : Bool) :
    StepSettles (keyOf α app name, keep wanted app name update) :=
  Settles.ite (step_write hu) step_drop

theorem step_provided {key : ObjectKey} {act : Access Unit} (h : StepSettles (key, act))
    (c : Bool) : StepSettles (key, provided c act) :=
  Settles.ite h (settles_pure ())

/-- The certificates of a route are read and not written. -/
theorem settles_certificates : Settles (fun _ => False) OfSecrets (certificates app) := by
  unfold certificates
  cases Application.filled (app.spec.route.bind (·.certificateSecretRef)) with
  | none => exact settles_pure _
  | some name =>
    have hread : Settles (fun _ => False) (· = keyOf Secret app name)
        (lookUp Secret app.metadata.nsOrEmpty name) := settles_lookUp
    refine (Settles.bind (V := fun _ => False) (E := OfSecrets) hread (fun r => ?_)
      fun _ _ => id).mono ?_ ?_
    · cases r with
      | none => exact settles_throw _
      | some secret => exact settles_pure _
    · rintro _ (hk | hk)
      · exact hk
      · exact hk
    · rintro _ (rfl | hk)
      · exact ⟨_, _, rfl⟩
      · exact hk

theorem step_expose : StepSettles (keyOf Route app app.name, expose settings app) := by
  have hwrite : ∀ found, Settles (· = keyOf Route app app.name)
      (StepDepends (keyOf Route app app.name))
      (discard (writeOwn app app.name (app.route settings.defaultHostName found))) :=
    fun found => step_write (app.steady_route _ found)
  show Settles _ _ (expose settings app)
  unfold expose
  refine Settles.ite ((settles_certificates.bind hwrite ?_).mono ?_ ?_) step_drop
  · rintro _ ⟨ns, name, rfl⟩ hk
    exact absurd (ObjectKey.of_eq_iff.1 hk).1 (by decide)
  · rintro _ (hk | hk)
    · exact hk.elim
    · exact hk
  · rintro _ (hk | hk)
    · exact .inr hk
    · exact hk

end Steps

/-- Every step of running the application settles. -/
theorem settles_knativeTasks : ∀ task ∈ knativeTasks apis app wiring, StepSettles task := by
  simp only [knativeTasks, List.forall_mem_cons, List.not_mem_nil, false_imp_iff, implies_true,
    and_true]
  exact ⟨step_write (app.steady_knativeService wiring), step_drop, step_drop, step_drop, step_drop,
    step_drop, step_provided step_drop _, step_provided step_drop _⟩

theorem settles_podTasks : ∀ task ∈ podTasks app wiring, StepSettles task := by
  unfold podTasks
  split
  · simp only [List.forall_mem_cons, List.not_mem_nil, false_imp_iff, implies_true, and_true]
    exact ⟨step_write app.steady_headlessService, step_write (app.steady_statefulSet wiring),
      step_drop⟩
  · simp only [List.forall_mem_cons, List.not_mem_nil, false_imp_iff, implies_true, and_true]
    exact ⟨step_write (app.steady_deployment wiring), step_drop, step_drop⟩

theorem settles_workloadTasks :
    ∀ task ∈ workloadTasks apis settings app wiring, StepSettles task := by
  simp only [workloadTasks, List.forall_mem_cons, List.cons_append, List.forall_mem_append,
    List.not_mem_nil, false_imp_iff, implies_true, and_true]
  exact ⟨step_provided step_drop _, step_write app.steady_service, settles_podTasks,
    step_keep app.steady_autoscaler _, step_provided step_expose _,
    step_provided (step_keep app.steady_serviceMonitor _) _⟩

/-- The keys of secrets and accounts, under which no step writes that runs
the application. -/
def BeforeLaunch (k : ObjectKey) : Prop :=
  ∃ ns name, k = .of Secret ns name ∨ k = .of ServiceAccount ns name

theorem knativeTasks_apart : ∀ task ∈ knativeTasks apis app wiring, ¬ BeforeLaunch task.1 := by
  unfold BeforeLaunch
  simp +decide [knativeTasks, ObjectKey.of_eq_iff]

theorem workloadTasks_apart :
    ∀ task ∈ workloadTasks apis settings app wiring, ¬ BeforeLaunch task.1 := by
  unfold BeforeLaunch workloadTasks podTasks
  split
  · simp +decide [ObjectKey.of_eq_iff]
  · simp +decide [ObjectKey.of_eq_iff]

/-- Steps that settle one by one do so together. -/
theorem settles_tasks {tasks : List Task} (h : ∀ task ∈ tasks, StepSettles task)
    (hnodup : (tasks.map Prod.fst).Nodup) (hapart : ∀ task ∈ tasks, ¬ BeforeLaunch task.1) :
    Settles (fun k => ¬ BeforeLaunch k) (fun _ => True) (inOrder tasks) := by
  refine (settles_inOrder tasks h hnodup ?_).mono ?_ fun _ _ => trivial
  · rintro task htask ⟨ns, name, hkey⟩
    exact hapart task htask ⟨ns, name, .inl hkey⟩
  · intro k hk
    obtain ⟨task, htask, rfl⟩ := List.mem_map.1 hk
    exact hapart task htask

/-- **Running the application settles**, whatever kind of object runs it. -/
theorem settles_launch :
    Settles (fun k => ¬ BeforeLaunch k) (fun _ => True) (launch apis settings app wiring) := by
  refine Settles.ite ?_ ?_
  · rw [runKnative_inOrder]
    refine (Settles.bind (W := fun _ => False) (D := fun _ => False) (Settles.ite (settles_throw _)
      (settles_pure _)) (fun _ => settles_tasks settles_knativeTasks nodup_knativeTasks
        knativeTasks_apart) fun _ => False.elim).mono (fun _ hk => hk.elim False.elim id)
      fun _ _ => trivial
  · rw [runWorkload_inOrder]
    exact settles_tasks settles_workloadTasks nodup_workloadTasks workloadTasks_apart

end Access

/-! ## Secrets

Publishing reads the secrets with the name and password and writes the application's
own; the bindings read those of the providers; copying writes copies and giving up
writes what is given up. What a later step writes must be none of what an earlier one
has read or written. Names that are apart see to this for the providers, and for the
secrets with name and password it is a condition of its own. -/

namespace Application

/-- The names of the secrets with the name and password that the service asks for. -/
def authSecrets (app : Application) : List String :=
  match app.provides?.bind (·.auth) with
  | none => []
  | some auth => (auth.username.toList ++ auth.password.toList).map fun key => key.name.getD ""

/-- **The secrets with name and password are apart** from those that a pass
writes or gives up. -/
def AuthApart (app : Application) (status : ApplicationStatus) : Prop :=
  ∀ name ∈ app.authSecrets,
    name ∉ app.bindingSecretName :: (app.copiedSecrets ++ app.releasedSecrets status)

instance (app : Application) (status : ApplicationStatus) : Decidable (app.AuthApart status) :=
  inferInstanceAs (Decidable (∀ name ∈ app.authSecrets, _))

end Application

namespace Access

variable {app : Application} {objects : Dict ObjectKey Json} {s s' : Server}

/-- Reading a key of a secret depends on that secret. -/
theorem settles_readKey (ns : String) (selector : Option SecretKey) :
    Settles (fun _ => False) (fun k => ∃ key ∈ selector, k = .of Secret ns (key.name.getD ""))
      (Credentials.readKey ns selector) := by
  unfold Credentials.readKey
  cases selector with
  | none => exact settles_pure _
  | some selector =>
    have hread : Settles (fun _ => False) (· = .of Secret ns (selector.name.getD ""))
        (lookUp Secret ns (selector.name.getD "")) := settles_lookUp
    refine (hread.bind (V := fun _ => False) (E := fun _ => False) (fun r => ?_)
      fun _ _ => id).mono ?_ ?_
    · cases r with
      | none => exact Settles.ite (settles_pure _) (settles_throw _)
      | some secret =>
        dsimp only
        cases secret.text? selector.key with
        | some text => exact settles_pure _
        | none => exact Settles.ite (settles_pure _) (settles_throw _)
    · exact fun _ hk => hk.elim id id
    · rintro _ (rfl | hk)
      · exact ⟨selector, rfl, rfl⟩
      · exact hk.elim

/-- Reading the name and password depends on the secrets that hold them. -/
theorem settles_credentials : Settles (fun _ => False)
    (fun k => ∃ name ∈ app.authSecrets, k = keyOf Secret app name) app.credentials := by
  unfold Application.credentials Application.authSecrets
  cases app.provides?.bind (·.auth) with
  | none => exact settles_pure _
  | some auth =>
    refine ((settles_readKey _ auth.username).bind (V := fun _ => False) (fun _ =>
      ((settles_readKey _ auth.password).bind (V := fun _ => False) (E := fun _ => False)
        (fun _ => settles_pure _) fun _ _ => id).mono (fun _ hk => hk.elim id id)
          fun _ hk => hk) fun _ _ => id).mono (fun _ hk => hk.elim id id) ?_
    rintro _ (⟨key, hkey, rfl⟩ | ⟨key, hkey, rfl⟩ | hk)
    · refine ⟨_, List.mem_map_of_mem (List.mem_append_left _ ?_), rfl⟩
      exact Option.mem_toList.2 hkey
    · refine ⟨_, List.mem_map_of_mem (List.mem_append_right _ ?_), rfl⟩
      exact Option.mem_toList.2 hkey
    · exact hk.elim

/-- **Publishing settles** if the secret is none of those that it is made from. -/
theorem settles_publish (hauth : app.bindingSecretName ∉ app.authSecrets) :
    Settles (· = keyOf Secret app app.bindingSecretName)
      (fun k => k = keyOf Secret app app.bindingSecretName
        ∨ ∃ name ∈ app.authSecrets, k = keyOf Secret app name) (publish app) := by
  refine Settles.ite ((settles_credentials.bind
    (fun credentials => settles_write (app.steady_bindingSecret (app.binding credentials))) ?_).mono
      ?_ ?_) (settles_deleteOwn.mono (fun _ => id) fun _ => .inl)
  · rintro _ ⟨name, hname, rfl⟩ hk
    exact hauth ((ObjectKey.of_eq_iff.1 hk).2.2 ▸ hname)
  · exact fun _ hk => hk.elim False.elim id
  · exact fun _ hk => hk.symm

/-- Reading the bindings depends on the secrets of the providers. -/
theorem settles_bindings (own : String) (entries : List Consumes) (b : Bindings) :
    Settles (fun _ => False) (fun k => ∃ entry ∈ entries,
      k = .of Secret (entry.providerNs own) (entry.secretName own))
      (Bindings.read own b entries) := by
  induction entries generalizing b with
  | nil => exact settles_pure _
  | cons entry rest ih =>
    have hread : Settles (fun _ => False)
        (· = .of Secret (entry.providerNs own) (entry.secretName own))
        (lookUp Secret (entry.providerNs own) (entry.secretName own)) := settles_lookUp
    refine (hread.bind (V := fun _ => False) (E := fun k => ∃ entry ∈ rest,
      k = .of Secret (entry.providerNs own) (entry.secretName own)) (fun r => ?_)
        fun _ _ => id).mono (fun _ hk => hk.elim id id) ?_
    · cases r with
      | none => exact settles_throw _
      | some source => exact ih _
    · rintro _ (rfl | ⟨e, he, rfl⟩)
      · exact ⟨entry, List.mem_cons_self .., rfl⟩
      · exact ⟨e, List.mem_cons_of_mem _ he, rfl⟩

/-- Copies that are as they should be are not written. -/
theorem quiet_copyAll (hns : app.ns = .ok app.metadata.nsOrEmpty) {consumed : List Consumed}
    (h : ∀ c ∈ consumed, ∀ source, c.copyFrom = some source → ∃ existing child,
      desired app false app.metadata.nsOrEmpty c.secretName source.copyOf existing = .ok child
        ∧ Shows objects Secret app.metadata.nsOrEmpty c.secretName (some child)) :
    Quiet objects (copyAll app consumed) () := by
  induction consumed with
  | nil => exact quiet_pure ()
  | cons c rest ih =>
    rw [copyAll_cons]
    refine Quiet.bind (a := ()) ?_ (ih fun c hc => h c (List.mem_cons_of_mem _ hc))
    unfold copyOne
    cases hfrom : c.copyFrom with
    | none => exact quiet_pure ()
    | some source =>
      obtain ⟨existing, child, hdesired, hshows⟩ := h c (List.mem_cons_self ..) source hfrom
      exact (quiet_write hns hshows (desired_desired source.steady_copyOf hdesired)).discard

end Access

/-! ## A pass after itself

The status matters in one respect: after the pass it lists what is used now, so
nothing is left to be given up. With that the steps of the second pass are the steps
of the first, without the last, and each is quiet on what the first pass has left.

It is stated for any cluster that stores what was left and refuses nothing, so
whatever else happened to it in between makes no difference. -/

/-- Seeing to the account settles. -/
theorem Access.settles_account {app : Application} :
    Settles (· = keyOf ServiceAccount app app.name) (· = keyOf ServiceAccount app app.name)
      (account app) :=
  Settles.ite (settles_write app.steady_account) settles_deleteOwn

/-- The account has been seen to, so the application has a namespace. -/
theorem Access.ns_of_account {app : Application} {s s' : Server}
    (h : (Access.account app).on s = (.ok (), s')) : app.ns = .ok app.metadata.nsOrEmpty := by
  change (if _ then _ else _ : Access Unit).on s = _ at h
  split at h
  · obtain ⟨_, hwrite⟩ := on_discard_ok.1 h
    exact ns_of_on hwrite
  · obtain ⟨_, hdelete⟩ := on_discard_ok.1 h
    exact ns_of_on hdelete

namespace Pass

variable {app : Application} {apis : ClusterApis} {settings : Settings}
  {status status' : ApplicationStatus} {s s' : Server} {b : Bindings}

/-- **A pass that is quiet about what is stored** and leaves the status. -/
def Quiet {α : Type} (objects : Dict ObjectKey Json) (pass : Pass α) (status : ApplicationStatus)
    (a : α) : Prop :=
  ∀ s : Server, s.Open → s.objects = objects →
    ∃ s', pass.on status s = (.ok a, status, s') ∧ s'.Open ∧ s'.objects = objects
      ∧ s'.writes = s.writes

/-- Bringing the secrets up to date touches nothing else. -/
theorem bindings_get?_of_ne (h : (Pass.bindings app).on status s = (.ok b, status', s'))
    {k : ObjectKey} (hk : ¬ Access.OfSecrets k) : s'.objects.get? k = s.objects.get? k := by
  have halong := ((Access.admits_within app fun type _ => type = objectType (α := Secret)).secrets
    (fun _ => rfl) status).bindings s
  have hget := halong.keeps (I := fun t => t.objects.get? k = s.objects.get? k) rfl
    fun u c hc hu => (Server.after_get?_of_ne fun hw e => hk ?_).trans hu
  · rw [h] at hget
    exact hget
  · obtain ⟨_, name, rfl, rfl⟩ := hc hw k e
    exact ⟨_, name, rfl⟩

/-- **The secrets are as they should be** once they were brought up to date,
whatever is done to objects of other types. -/
theorem bindings_quiet (ht : s.Truthful) (hns : app.ns = .ok app.metadata.nsOrEmpty)
    (hnames : app.NamesApart) (hauth : app.AuthApart status)
    (h : (Pass.bindings app).on status s = (.ok b, status', s')) {objects : Dict ObjectKey Json}
    (agree : ∀ k, Access.OfSecrets k → objects.get? k = s'.objects.get? k) :
    Pass.Quiet objects (Pass.bindings app) status' b := by
  obtain ⟨s₁, s₂, s₃, hpublish, hread, hread₂, hfrom, hcopy, hrelease, rfl⟩ := bindings_stages h
  -- what the later steps leave alone of what the earlier ones wrote
  have hkept : ∀ ns n, (ns = app.metadata.nsOrEmpty → n ∉ app.releasedSecrets status) →
      objects.get? (.of Secret ns n) = s₃.objects.get? (.of Secret ns n) := fun ns n hn =>
    (agree _ ⟨ns, n, rfl⟩).trans (Access.get?_of_releaseAll hrelease hn)
  have huncopied : ∀ ns n, (ns = app.metadata.nsOrEmpty → n ∉ app.copiedSecrets) →
      s₃.objects.get? (.of Secret ns n) = s₂.objects.get? (.of Secret ns n) := fun ns n hn =>
    Access.get?_of_copyAll hfrom hcopy hn
  have ht₁ := Access.truthful_of_on ht hpublish
  have hpublished : Access.Quiet objects (Access.publish app) () := by
    have hown : app.bindingSecretName ∉ app.authSecrets := fun hmem =>
      hauth _ hmem (List.mem_cons_self ..)
    have hsame : ∀ n, n ∉ app.releasedSecrets status → n ∉ app.copiedSecrets →
        objects.get? (Access.keyOf Secret app n) = s₁.objects.get? (Access.keyOf Secret app n) :=
      fun n hreleased hcopied => by
        rw [hkept _ _ fun _ => hreleased, huncopied _ _ fun _ => hcopied, hread₂]
    refine (Access.settles_publish hown).quiet s s₁ () ht hpublish objects ?_
    rintro _ (rfl | ⟨n, hn, rfl⟩)
    · exact hsame _ (app.own_not_released status) hnames.own_not_copied
    · have hfree := hauth n hn
      simp only [List.mem_cons, List.mem_append, not_or] at hfree
      exact hsame n hfree.2.2 hfree.2.1
  have hbindings : Access.Quiet objects app.bindings b := by
    refine (Access.settles_bindings _ app.consumes {}).quiet s₁ s₂ b ht₁ hread objects ?_
    rintro _ ⟨entry, he, rfl⟩
    rw [hkept _ _ fun _ => app.not_released_of_used (List.mem_map_of_mem he),
      huncopied _ _ (hnames.local_not_copied he)]
  have hcopied : Access.Quiet objects (Access.copyAll app b.consumed) () := by
    refine Access.quiet_copyAll hns fun c hc source hsource => ?_
    have hcopies := Access.copyAll_ok hcopy c.secretName
    rw [Access.lastCopy?_of_namesApart hnames hfrom hc hsource] at hcopies
    obtain ⟨existing, child, hdesired, hshows⟩ := hcopies
    obtain ⟨entry, he, -, -, hname⟩ := app.copied_of_mem hfrom hc hsource
    refine ⟨existing, child, hdesired, hshows.congr (hkept _ _ fun _ => ?_)⟩
    exact hname ▸ app.not_released_of_used (List.mem_map_of_mem he)
  -- the steps are quiet one after the other, and there is nothing left to give up
  intro t hopen hobjects
  obtain ⟨t₁, h₁, hopen₁, ho₁, hw₁⟩ := hpublished t hopen hobjects
  obtain ⟨t₂, h₂, hopen₂, ho₂, hw₂⟩ := hbindings t₁ hopen₁ ho₁
  obtain ⟨t₃, h₃, hopen₃, ho₃, hw₃⟩ := hcopied t₂ hopen₂ ho₂
  refine ⟨t₃, bindings_ok.2 ⟨t₁, t₂, t₃, h₁, h₂, h₃, ?_, rfl⟩, hopen₃, ho₃,
    hw₃.trans (hw₂.trans hw₁)⟩
  rw [app.stale_noted]
  rfl

/-- **What comes before the launch is quiet** once it was done, whatever is
done to objects of other types. -/
theorem quiet_before_launch (ht : s.Truthful) (hnames : app.NamesApart)
    (hauth : app.AuthApart status) {s₁ : Server}
    (haccount : (Access.account app).on s = (.ok (), s₁))
    (hbindings : (Pass.bindings app).on status s₁ = (.ok b, status', s'))
    {objects : Dict ObjectKey Json}
    (agree : ∀ k, Access.BeforeLaunch k → objects.get? k = s'.objects.get? k) :
    Access.Quiet objects (Access.account app) ()
      ∧ Pass.Quiet objects (Pass.bindings app) status' b := by
  constructor
  · refine Access.settles_account.quiet s s₁ () ht haccount objects ?_
    rintro _ rfl
    rw [agree _ ⟨_, _, .inr rfl⟩]
    refine bindings_get?_of_ne hbindings ?_
    rintro ⟨ns, n, he⟩
    exact absurd (ObjectKey.of_eq_iff.1 he).1 (by decide)
  · refine bindings_quiet (Access.truthful_of_on ht haccount) (Access.ns_of_account haccount) hnames
      hauth hbindings ?_
    rintro _ ⟨ns, n, rfl⟩
    exact agree _ ⟨ns, n, .inl rfl⟩

/-- **A pass that succeeded is quiet when it is made again**, with the status
that it left and on a cluster where what it left is stored: it succeeds, it
writes nothing, and the status stays as it is. -/
theorem children_quiet (ht : s.Truthful) (hnames : app.NamesApart) (hauth : app.AuthApart status)
    (h : (Pass.children apis settings app).on status s = (.ok (), status', s'))
    {t : Server} (hopen : t.Open) (hobjects : t.objects = s'.objects) :
    ∃ t', (Pass.children apis settings app).on status' t = (.ok (), status', t')
      ∧ t'.objects = t.objects ∧ t'.writes = t.writes := by
  obtain ⟨s₁, b, s₂, haccount, hbindings, hlaunch⟩ := children_ok.1 h
  have hlaunched : ∀ k, Access.BeforeLaunch k → t.objects.get? k = s₂.objects.get? k := fun k hk =>
    hobjects ▸ Access.settles_launch.touches.get?_of_on hlaunch fun hn => hn hk
  obtain ⟨haccounted, hbound⟩ := quiet_before_launch ht hnames hauth haccount hbindings hlaunched
  have hlaunching : Access.Quiet t.objects (Access.launch apis settings app b.wiring) () :=
    Access.settles_launch.quiet s₂ s' ()
      (truthful_of_on (Access.truthful_of_on ht haccount) hbindings) hlaunch t.objects
      fun _ _ => by rw [hobjects]
  obtain ⟨t₁, h₁, hopen₁, ho₁, hw₁⟩ := haccounted t hopen rfl
  obtain ⟨t₂, h₂, hopen₂, ho₂, hw₂⟩ := hbound t₁ hopen₁ ho₁
  obtain ⟨t₃, h₃, -, ho₃, hw₃⟩ := hlaunching t₂ hopen₂ ho₂
  exact ⟨t₃, children_ok.2 ⟨t₁, b, t₂, h₁, h₂, h₃⟩, ho₃, hw₃.trans (hw₂.trans hw₁)⟩

/-- So it is for an application that offers a service and has copies of two
secrets. -/
theorem children_quiet_of_two_copies :
    let app : Application := .bound "shop" "web" "u1" true [("a", "x"), ("b", "y")]
    let s : Server := .offering [("a", "x"), ("b", "y")]
    ∃ status' s' t, (Pass.children {} {} app).on default s = (.ok (), status', s')
      ∧ (Pass.children {} {} app).on status' s' = (.ok (), status', t)
      ∧ t.objects = s'.objects ∧ t.writes = s'.writes := by
  intro app s
  have hopen : s.Open := Server.open_offering _
  have hok : ((Pass.children {} {} app).on default s).1.isOk = true := by decide +kernel
  rcases hrun : (Pass.children {} {} app).on default s with ⟨r, status', s'⟩
  rw [hrun] at hok
  obtain ⟨⟨⟩, rfl⟩ := Except.eq_ok_of_isOk hok
  obtain ⟨t, ht⟩ := children_quiet hopen.truthful (by decide +kernel) (by decide +kernel) hrun
    (Pass.open_of_on hopen hrun) rfl
  exact ⟨status', s', t, rfl, ht⟩

end Pass

end AppOperator
