import AppOperator.Proofs.Binding.Secrets

/-!
# The calls of a pass

A pass consists of calls that read and of three operations on children:
writing one, removing one and giving one up. What is admissible of those,
each by itself and on any cluster, is admissible of the whole pass
(`Pass.along_children`). The walk through the pass is made here once; a law
about every call of a pass is stated by what it says of the operations.

Secrets are apart from the other children. Which of them a pass is about
depends on what it reads, and laws about them often depend on their names, so
what is admissible of them is said of each operation by itself
(`Access.AdmitsSecrets`). The other children are known beforehand, by their
types and names (`Access.HasChild`). A law about what they say is again one
about each operation (`Access.AdmitsChildren`); a law that only asks whose
they are is said once for all of them (`Access.Admits`).
-/

namespace AppOperator

namespace Access

variable {P : Server → Call → Prop} {app : Application} {s : Server}

/-! ## Operations on secrets

Publishing, copying and giving up are each about secrets of certain names, and what
is asked has one field for each, over all names that may occur. What is copied is
known from the specification even though the copies are made of what is read, so the
fields can be checked beforehand. -/

/-- **What is admissible of bringing secrets up to date** from a status:
reading secrets, and the operations on those that are offered, copied and
given up. -/
structure AdmitsSecrets (app : Application) (status : ApplicationStatus)
    (P : Server → Call → Prop) : Prop where
  /-- Reading a secret. -/
  read : ∀ s ns name, P s (.get (.of Secret ns name))
  /-- Writing the application's own secret. -/
  publish : ∀ data s, (writeOwn app app.bindingSecretName (app.bindingSecret data)).Along P s
  /-- Removing it. -/
  unpublish : ∀ s, (deleteOwn Secret app app.bindingSecretName).Along P s
  /-- Writing a copy. -/
  copy : ∀ name ∈ app.copiedSecrets, ∀ source s,
    (writeShared app name (Secret.copyOf source)).Along P s
  /-- Giving up a copy. -/
  release : ∀ name ∈ app.releasedSecrets status, ∀ s, (release Secret app name).Along P s

namespace AdmitsSecrets

variable {status : ApplicationStatus} (h : AdmitsSecrets app status P)

include h

/-- The secret that is offered. -/
theorem publishes (s : Server) : (Access.publish app).Along P s := by
  refine along_ite (fun _ => ?_) fun _ => along_discard (h.unpublish s)
  refine along_bind ((readsSecrets_credentials app).along h.read s) fun credentials t _ => ?_
  exact along_discard (h.publish _ t)

/-- The copies that are needed. -/
theorem copyAll (consumed : List Consumed)
    (hcopied : ∀ c ∈ consumed, c.copyFrom.isSome = true → c.secretName ∈ app.copiedSecrets)
    (s : Server) : (Access.copyAll app consumed).Along P s := by
  induction consumed generalizing s with
  | nil => exact along_pure _
  | cons c rest ih =>
    obtain ⟨hc, hrest⟩ := List.forall_mem_cons.1 hcopied
    rw [copyAll_cons]
    refine along_bind ?_ fun _ t _ => ih hrest t
    unfold copyOne
    cases hfrom : c.copyFrom with
    | none => exact along_pure _
    | some source => exact along_discard (h.copy _ (hc (by rw [hfrom]; rfl)) source s)

/-- The secrets that are given up. -/
theorem releaseAll (names : List String)
    (hnames : ∀ name ∈ names, name ∈ app.releasedSecrets status) (s : Server) :
    (Access.releaseAll app names).Along P s := by
  induction names generalizing s with
  | nil => exact along_pure _
  | cons name rest ih =>
    obtain ⟨hname, hrest⟩ := List.forall_mem_cons.1 hnames
    exact along_bind (along_discard (h.release name hname s)) fun _ t _ => ih hrest t

/-- **All secrets of the application's bindings.** -/
theorem bindings (s : Server) : (Pass.bindings app).Along P status s := by
  refine Pass.along_onCluster_bind (h.publishes s) fun _ s₁ _ => ?_
  refine Pass.along_onCluster_bind ((readsSecrets_bindings _ _ _).along h.read s₁) fun b s₂ hread => ?_
  have hfrom := Bindings.from?_of_read hread
  have hcopied : ∀ c ∈ b.consumed, c.copyFrom.isSome = true → c.secretName ∈ app.copiedSecrets := by
    intro c hc hsome
    obtain ⟨source, hsource⟩ := Option.isSome_iff_exists.1 hsome
    obtain ⟨entry, he, hother, -, hname⟩ := Application.copied_of_mem hfrom hc hsource
    exact hname ▸ Application.mem_copiedSecrets he hother
  refine Pass.along_onCluster_bind (h.copyAll _ hcopied s₂) fun _ s₃ _ => ?_
  refine Pass.along_bind Pass.along_status fun noted status' s hnoted => ?_
  obtain ⟨hstatus, hrest⟩ := Prod.mk.inj hnoted
  obtain ⟨rfl, rfl⟩ := Prod.mk.inj hrest
  obtain rfl := Except.ok.inj hstatus
  refine Pass.along_onCluster_bind (h.releaseAll _ (fun name hname => ?_) _) fun _ s₄ _ => ?_
  · exact Application.stale_eq _ hfrom ▸ hname
  · exact Pass.along_bind (Pass.along_note _) fun _ _ _ _ => Pass.along_pure _

end AdmitsSecrets

/-! ## Operations on children

There are nine children with an operation to write each, and any of them may be
removed. A law that depends on what is written has a field for each of them; a law
that only depends on which child it is, and on being written by an update that marks
the metadata, has a single one. The second kind implies the first
(`Access.Admits.others`). -/

/-- **The children that run an application**, by type and name, where the
cluster serves their types. -/
inductive HasChild (apis : ClusterApis) (app : Application) : ObjectType → String → Prop
  | account : HasChild apis app (objectType (α := ServiceAccount)) app.name
  | deployment : HasChild apis app (objectType (α := Deployment)) app.name
  | statefulSet : HasChild apis app (objectType (α := StatefulSet)) app.name
  | service : HasChild apis app (objectType (α := Service)) app.name
  | headlessService : HasChild apis app (objectType (α := Service)) app.headlessServiceName
  | autoscaler : HasChild apis app (objectType (α := Autoscaler)) app.name
  | knativeService (served : apis.knative = true) :
      HasChild apis app (objectType (α := KnativeService)) app.name
  | route (served : apis.route = true) : HasChild apis app (objectType (α := Route)) app.name
  | serviceMonitor (served : apis.monitoring = true) :
      HasChild apis app (objectType (α := ServiceMonitor)) app.name

/-- None of them is a secret. -/
theorem HasChild.ne_secret {apis : ClusterApis} {type : ObjectType} {name : String}
    (h : HasChild apis app type name) : type ≠ objectType (α := Secret) := by
  cases h <;> decide

/-- None of them is an application. -/
theorem HasChild.ne_application {apis : ClusterApis} {type : ObjectType} {name : String}
    (h : HasChild apis app type name) : type ≠ objectType (α := Application) := by
  cases h <;> decide

theorem along_keep {α : Type} [ApiObject α] {name : String} {update : α → α} {wanted : Bool}
    (hwrite : wanted = true → ∀ s, (writeOwn app name update).Along P s)
    (hremove : ∀ s, (deleteOwn α app name).Along P s) (s : Server) :
    (keep wanted app name update).Along P s :=
  along_ite (fun hwanted => along_discard (hwrite hwanted s)) fun _ => along_discard (hremove s)

/-- **What is admissible of bringing the children up to date** that run an
application: reading secrets, removing any child, and writing each as the
application asks for it. -/
structure AdmitsChildren (apis : ClusterApis) (app : Application) (P : Server → Call → Prop) :
    Prop where
  /-- Reading a secret. -/
  read : ∀ s ns name, P s (.get (.of Secret ns name))
  /-- Removing a child. -/
  remove : ∀ {α : Type} [ApiObject α] [Legible α] {name},
    HasChild apis app (objectType (α := α)) name → ∀ s, (deleteOwn α app name).Along P s
  /-- Writing the account. -/
  account : ∀ s, (writeOwn app app.name app.account).Along P s
  /-- Writing the service. -/
  service : ∀ s, (writeOwn app app.name app.service).Along P s
  /-- Writing the service that names the pods of a stateful set. -/
  headlessService : app.usesStorage = true →
    ∀ s, (writeOwn app app.headlessServiceName app.headlessService).Along P s
  /-- Writing the deployment. -/
  deployment : app.usesStorage = false →
    ∀ wiring s, (writeOwn app app.name (app.deployment wiring)).Along P s
  /-- Writing the stateful set. -/
  statefulSet : app.usesStorage = true →
    ∀ wiring s, (writeOwn app app.name (app.statefulSet wiring)).Along P s
  /-- Writing the autoscaler. -/
  autoscaler : app.spec.autoscaling.isSome = true →
    ∀ s, (writeOwn app app.name app.autoscaler).Along P s
  /-- Writing the Knative service. -/
  knativeService : apis.knative = true →
    ∀ wiring s, (writeOwn app app.name (app.knativeService wiring)).Along P s
  /-- Writing the route. -/
  route : apis.route = true →
    ∀ host found s, (writeOwn app app.name (app.route host found)).Along P s
  /-- Writing the monitor. -/
  serviceMonitor : apis.monitoring = true →
    ∀ s, (writeOwn app app.name app.serviceMonitor).Along P s

namespace AdmitsChildren

variable {apis : ClusterApis} (h : AdmitsChildren apis app P)

include h

theorem drop {α : Type} [ApiObject α] [Legible α] {name : String}
    (hchild : HasChild apis app (objectType (α := α)) name) (s : Server) :
    (Access.drop α app name).Along P s :=
  along_discard (h.remove hchild s)

/-- The account, if none is named. -/
theorem keepAccount (s : Server) : (Access.account app).Along P s :=
  along_keep (fun _ => h.account) (h.remove .account) s

theorem runKnative (wiring : Wiring) (s : Server) :
    (Access.runKnative apis app wiring).Along P s := by
  rw [runKnative_inOrder]
  refine along_bind (along_provided fun _ => along_throw _) fun _ t hrun => along_inOrder ?_ t
  have hserved : apis.knative = true := by
    cases hknative : apis.knative with
    | true => rfl
    | false =>
      rw [hknative] at hrun
      simp [provided] at hrun
  simp only [knativeTasks, List.forall_mem_cons, List.not_mem_nil, false_imp_iff, implies_true,
    and_true]
  exact ⟨fun s => along_discard (h.knativeService hserved wiring s),
    h.drop .deployment, h.drop .statefulSet, h.drop .service,
    h.drop .headlessService, h.drop .autoscaler,
    fun _ => along_provided fun hroute => h.drop (.route hroute) _,
    fun _ => along_provided fun hmonitor => h.drop (.serviceMonitor hmonitor) _⟩

theorem podTasks (wiring : Wiring) :
    ∀ task ∈ Access.podTasks app wiring, ∀ s, task.2.Along P s := by
  unfold Access.podTasks
  split
  · rename_i hstorage
    simp only [List.forall_mem_cons, List.not_mem_nil, false_imp_iff, implies_true, and_true]
    exact ⟨fun s => along_discard (h.headlessService hstorage s),
      fun s => along_discard (h.statefulSet hstorage wiring s), h.drop .deployment⟩
  · rename_i hstorage
    simp only [List.forall_mem_cons, List.not_mem_nil, false_imp_iff, implies_true, and_true]
    exact ⟨fun s => along_discard (h.deployment ((Bool.not_eq_true _).mp hstorage) wiring s),
      h.drop .statefulSet, h.drop .headlessService⟩

theorem expose (settings : Settings) (served : apis.route = true) (s : Server) :
    (Access.expose settings app).Along P s := by
  refine along_ite (fun _ => ?_) fun _ => h.drop (.route served) s
  refine along_bind ((readsSecrets_certificates app).along h.read s) fun found t _ => ?_
  exact along_discard (h.route served _ found t)

theorem runWorkload (settings : Settings) (wiring : Wiring) (s : Server) :
    (Access.runWorkload apis settings app wiring).Along P s := by
  rw [runWorkload_inOrder]
  refine along_inOrder ?_ s
  simp only [workloadTasks, List.forall_mem_cons, List.cons_append, List.forall_mem_append,
    List.not_mem_nil, false_imp_iff, implies_true, and_true]
  exact ⟨fun _ => along_provided fun hknative => h.drop (.knativeService hknative) _,
    fun s => along_discard (h.service s), h.podTasks wiring,
    along_keep h.autoscaler (h.remove .autoscaler),
    fun _ => along_provided fun hroute => h.expose settings hroute _,
    fun _ => along_provided fun hmonitor =>
      along_keep (fun _ => h.serviceMonitor hmonitor) (h.remove (.serviceMonitor hmonitor)) _⟩

/-- **All that runs the application**, none of which is a secret. -/
theorem launch (settings : Settings) (wiring : Wiring) (s : Server) :
    (Access.launch apis settings app wiring).Along P s :=
  along_ite (fun _ => h.runKnative wiring s) fun _ => h.runWorkload settings wiring s

end AdmitsChildren

/-- **What is admissible of a pass for an application**: calls that read, and
the operations on some children. -/
structure Admits (app : Application) (children : ObjectType → String → Prop)
    (P : Server → Call → Prop) : Prop where
  /-- Calls that read. -/
  read : ∀ s c, c.isWrite = false → P s c
  /-- Writing a child. -/
  write : ∀ {α : Type} [ApiObject α] [Legible α] {name}, children (objectType (α := α)) name →
    ∀ controls (update : α → α), Steady update → ∀ s,
      (write app controls name update).Along P s
  /-- Removing a child. -/
  deleteOwn : ∀ {α : Type} [ApiObject α] [Legible α] {name}, children (objectType (α := α)) name →
    ∀ s, (deleteOwn α app name).Along P s
  /-- Giving up a secret that is shared. -/
  release : ∀ {name}, children (objectType (α := Secret)) name →
    ∀ s, (release Secret app name).Along P s

/-- Operations on some children write under the keys of these. -/
theorem admits_within (app : Application) (children : ObjectType → String → Prop) :
    Admits app children fun _ c => c.Within fun k =>
      ∃ type name, children type name ∧ k = .ofType type app.metadata.nsOrEmpty name where
  read _ c hc hw := absurd hw (by simp [hc])
  write ht _ _ hu := (touches_write hu.keeps).mono fun _ hk => ⟨_, _, ht, hk⟩
  deleteOwn ht := touches_deleteOwn.mono fun _ hk => ⟨_, _, ht, hk⟩
  release ht := touches_release.mono fun _ hk => ⟨_, _, ht, hk⟩

namespace Admits

variable {children : ObjectType → String → Prop} (h : Admits app children P)

include h

theorem mono {Q : Server → Call → Prop} (hPQ : ∀ s c, P s c → Q s c) : Admits app children Q where
  read s c hc := hPQ s c (h.read s c hc)
  write ht _ _ hu s := Dialogue.Along.mono (h.write ht _ _ hu s) hPQ
  deleteOwn ht s := Dialogue.Along.mono (h.deleteOwn ht s) hPQ
  release ht s := Dialogue.Along.mono (h.release ht s) hPQ

/-- Two laws are admissible together of the children of which both are. -/
theorem and {others : ObjectType → String → Prop} {Q : Server → Call → Prop}
    (h' : Admits app others Q) :
    Admits app (fun type name => children type name ∧ others type name)
      fun s c => P s c ∧ Q s c where
  read s c hc := ⟨h.read s c hc, h'.read s c hc⟩
  write ht _ _ hu s := Dialogue.Along.and (h.write ht.1 _ _ hu s) (h'.write ht.2 _ _ hu s)
  deleteOwn ht s := Dialogue.Along.and (h.deleteOwn ht.1 s) (h'.deleteOwn ht.2 s)
  release ht s := Dialogue.Along.and (h.release ht.1 s) (h'.release ht.2 s)

/-- The account. -/
theorem account (ht : children (objectType (α := ServiceAccount)) app.name) (s : Server) :
    (Access.account app).Along P s :=
  along_keep (fun _ => h.write ht true _ app.steady_account) (h.deleteOwn ht) s

/-- **All that a pass does to secrets** is done to children. -/
theorem secrets (ht : ∀ name, children (objectType (α := Secret)) name)
    (status : ApplicationStatus) : AdmitsSecrets app status P where
  read s _ _ := h.read s _ rfl
  publish data s := h.write (ht _) true _ (app.steady_bindingSecret data) s
  unpublish s := h.deleteOwn (ht _) s
  copy name _ source s := h.write (ht name) false _ source.steady_copyOf s
  release name _ s := h.release (ht name) s

/-- **All that a pass does to the other children** is done to children. -/
theorem others {apis : ClusterApis}
    (ht : ∀ {type name}, HasChild apis app type name → children type name) :
    AdmitsChildren apis app P where
  read s _ _ := h.read s _ rfl
  remove hchild := h.deleteOwn (ht hchild)
  account := h.write (ht .account) true _ app.steady_account
  service := h.write (ht .service) true _ app.steady_service
  headlessService _ := h.write (ht .headlessService) true _ app.steady_headlessService
  deployment _ wiring := h.write (ht .deployment) true _ (app.steady_deployment wiring)
  statefulSet _ wiring := h.write (ht .statefulSet) true _ (app.steady_statefulSet wiring)
  autoscaler _ := h.write (ht .autoscaler) true _ app.steady_autoscaler
  knativeService hserved wiring :=
    h.write (ht (.knativeService hserved)) true _ (app.steady_knativeService wiring)
  route hserved host found := h.write (ht (.route hserved)) true _ (app.steady_route host found)
  serviceMonitor hserved := h.write (ht (.serviceMonitor hserved)) true _ app.steady_serviceMonitor

end Admits

/-- Running an application leaves all secrets as they are. -/
theorem get?_secret_of_launch {apis : ClusterApis} {settings : Settings} {wiring : Wiring}
    {s' : Server} {r : Except OperatorError Unit}
    (h : (launch apis settings app wiring).on s = (r, s')) (ns name : String) :
    s'.objects.get? (.of Secret ns name) = s.objects.get? (.of Secret ns name) := by
  refine Touches.get?_of_on
    (fun s => ((admits_within app fun type _ => type ≠ objectType (α := Secret)).others
      HasChild.ne_secret).launch settings wiring s) h ?_
  rintro ⟨⟨_, _⟩, _, hne, hkey⟩
  cases hkey
  exact hne rfl

end Access

/-- **All children of an application**: what is admissible of each operation
is admissible of the pass. -/
theorem Pass.along_of_admits {app : Application} {apis : ClusterApis} {P : Server → Call → Prop}
    {status : ApplicationStatus} (hsecrets : Access.AdmitsSecrets app status P)
    (h : Access.AdmitsChildren apis app P) (settings : Settings) (s : Server) :
    (Pass.children apis settings app).Along P status s := by
  refine Pass.along_onCluster_bind (h.keepAccount s) fun _ s₁ _ => ?_
  refine Pass.along_bind (hsecrets.bindings s₁) fun b status' s₂ _ => ?_
  exact Pass.along_onCluster.2 (h.launch settings b.wiring s₂)

/-- So it is if the children are known by their types and names. -/
theorem Pass.along_children {app : Application} {apis : ClusterApis} {P : Server → Call → Prop}
    {status : ApplicationStatus} (hsecrets : Access.AdmitsSecrets app status P)
    {children : ObjectType → String → Prop} (h : Access.Admits app children P)
    (ht : ∀ {type name}, Access.HasChild apis app type name → children type name)
    (settings : Settings) (s : Server) : (Pass.children apis settings app).Along P status s :=
  Pass.along_of_admits hsecrets (h.others ht) settings s

end AppOperator
