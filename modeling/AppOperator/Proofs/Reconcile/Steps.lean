import AppOperator.Proofs.Cluster.Settling
import AppOperator.Reconcile.Children

/-!
# The steps of a pass

A pass is written as one program, in which a step that is not called for
leaves no trace. Here it is brought into steps that are always there, of
which some do nothing (`Access.provided`), each listed with the key that it
writes under (`Access.workloadTasks`), and a pass that succeeded is taken
apart into what its parts came to (`Pass.children_ok`, `Pass.bindings_ok`).

These equations are where the program text is looked at. Everything later goes by the
lists of steps and by the parts of a pass, so that a change in the order of steps, or
a step that is added, is a change in this module first, and in others only as far as
it matters to what they say.
-/

namespace AppOperator

namespace Access

/-! ## Steps that may be skipped

A condition around the rest of a program is awkward to reason about, as it doubles the
program after it. With a step that does nothing in its place, the program after it is
the same in both cases, and the two forms are equal as computations. -/

/-- A step that is taken only where it is called for. -/
def provided (c : Bool) (act : Access Unit) : Access Unit := if c then act else pure ()

theorem along_provided {P : Server → Call → Prop} {c : Bool} {act : Access Unit} {s : Server}
    (h : c = true → act.Along P s) : (provided c act).Along P s :=
  along_ite h fun _ => along_pure _

/-- What was to be skipped may also be taken for done. -/
theorem ite_bind (c : Bool) (act rest : Access Unit) :
    (if c then act >>= fun _ => rest else rest) = provided c act >>= fun _ => rest := by
  unfold provided
  cases c with
  | true => rfl
  | false => exact (pure_bind () fun _ => rest).symm

/-- The copy of one secret, if it has to be copied. -/
def copyOne (app : Application) (c : Consumed) : Access Unit :=
  match c.copyFrom with
  | some source => discard (writeShared app c.secretName (Secret.copyOf source))
  | none => pure ()

theorem copyAll_cons (app : Application) (c : Consumed) (rest : List Consumed) :
    copyAll app (c :: rest) = copyOne app c >>= fun _ => copyAll app rest := by
  rw [copyAll]
  unfold copyOne
  cases c.copyFrom with
  | some source => rfl
  | none => exact (pure_bind () fun _ => copyAll app rest).symm

theorem runKnative_eq (apis : ClusterApis) (app : Application) (wiring : Wiring) :
    runKnative apis app wiring = (do
      provided (!apis.knative) (throw (.apiUnavailable (apiOf KnativeService)))
      discard (writeOwn app app.name (app.knativeService wiring))
      drop Deployment app app.name
      drop StatefulSet app app.name
      drop Service app app.name
      drop Service app app.headlessServiceName
      drop Autoscaler app app.name
      provided apis.route (drop Route app app.name)
      provided apis.monitoring (drop ServiceMonitor app app.name)) := by
  unfold runKnative
  simp only [ite_bind]
  rfl

theorem runWorkload_eq (apis : ClusterApis) (settings : Settings) (app : Application)
    (wiring : Wiring) :
    runWorkload apis settings app wiring = (do
      provided apis.knative (drop KnativeService app app.name)
      discard (writeOwn app app.name app.service)
      runPods app wiring
      keep app.spec.autoscaling.isSome app app.name app.autoscaler
      provided apis.route (expose settings app)
      provided apis.monitoring
        (keep app.spec.monitoring.isSome app app.name app.serviceMonitor)) := by
  unfold runWorkload
  simp only [ite_bind]
  rfl

/-! ## The steps that run the application

A list of steps, each with its key, is the form in which a launch is used from here
on: that keys are different, that each step settles, that the step of a child is among
them are statements about lists. The order is that of the program. -/

section Tasks

variable {app : Application} {apis : ClusterApis} {settings : Settings} {wiring : Wiring}

/-- Under which key a child of the application is stored. -/
abbrev keyOf (α : Type) [ApiObject α] (app : Application) (name : String) : ObjectKey :=
  .of α app.metadata.nsOrEmpty name

/-- The steps of running the application as a Knative service. -/
def knativeTasks (apis : ClusterApis) (app : Application) (wiring : Wiring) : List Task := [
  (keyOf KnativeService app app.name, discard (writeOwn app app.name (app.knativeService wiring))),
  (keyOf Deployment app app.name, drop Deployment app app.name),
  (keyOf StatefulSet app app.name, drop StatefulSet app app.name),
  (keyOf Service app app.name, drop Service app app.name),
  (keyOf Service app app.headlessServiceName, drop Service app app.headlessServiceName),
  (keyOf Autoscaler app app.name, drop Autoscaler app app.name),
  (keyOf Route app app.name, provided apis.route (drop Route app app.name)),
  (keyOf ServiceMonitor app app.name, provided apis.monitoring (drop ServiceMonitor app app.name))]

/-- The steps of running the pods. -/
def podTasks (app : Application) (wiring : Wiring) : List Task :=
  if app.usesStorage then [
    (keyOf Service app app.headlessServiceName,
      discard (writeOwn app app.headlessServiceName app.headlessService)),
    (keyOf StatefulSet app app.name, discard (writeOwn app app.name (app.statefulSet wiring))),
    (keyOf Deployment app app.name, drop Deployment app app.name)]
  else [
    (keyOf Deployment app app.name, discard (writeOwn app app.name (app.deployment wiring))),
    (keyOf StatefulSet app app.name, drop StatefulSet app app.name),
    (keyOf Service app app.headlessServiceName, drop Service app app.headlessServiceName)]

/-- The steps of running the application by a deployment or a stateful set. -/
def workloadTasks (apis : ClusterApis) (settings : Settings) (app : Application) (wiring : Wiring) :
    List Task :=
  (keyOf KnativeService app app.name, provided apis.knative (drop KnativeService app app.name))
    :: (keyOf Service app app.name, discard (writeOwn app app.name app.service))
    :: podTasks app wiring ++ [
    (keyOf Autoscaler app app.name,
      keep app.spec.autoscaling.isSome app app.name app.autoscaler),
    (keyOf Route app app.name, provided apis.route (expose settings app)),
    (keyOf ServiceMonitor app app.name, provided apis.monitoring
      (keep app.spec.monitoring.isSome app app.name app.serviceMonitor))]

theorem runKnative_inOrder : runKnative apis app wiring = (do
    provided (!apis.knative) (throw (.apiUnavailable (apiOf KnativeService)))
    inOrder (knativeTasks apis app wiring)) := by
  rw [runKnative_eq]
  rfl

theorem runWorkload_inOrder : runWorkload apis settings app wiring
    = inOrder (workloadTasks apis settings app wiring) := by
  rw [runWorkload_eq]
  unfold runPods workloadTasks podTasks
  split
  · simp only [bind_assoc]
    rfl
  · simp only [bind_assoc]
    rfl

end Tasks

/-! ## What is only read

A pass reads secrets to learn what to write. Nothing else is read but what
is stored of the child that is written. -/

/-- **A computation that reads secrets**, and makes no other calls. -/
def ReadsSecrets {α : Type} (act : Access α) : Prop :=
  ∀ s, act.Along (fun _ c => ∃ ns name, c = .get (.of Secret ns name)) s

namespace ReadsSecrets

variable {α β : Type} {act : Access α}

/-- What is admissible of reading a secret is admissible of reading secrets. -/
theorem along {P : Server → Call → Prop} (h : ReadsSecrets act)
    (hread : ∀ s ns name, P s (.get (.of Secret ns name))) (s : Server) : act.Along P s := by
  refine Dialogue.Along.mono (h s) ?_
  rintro t _ ⟨ns, name, rfl⟩
  exact hread t ns name

theorem reads (h : ReadsSecrets act) : Reads act :=
  h.along fun _ _ _ hw => absurd hw (by simp [Call.isWrite])

theorem pure (a : α) : ReadsSecrets (Pure.pure a : Access α) := fun _ => along_pure a

theorem throw (e : OperatorError) : ReadsSecrets (MonadExcept.throw e : Access α) := fun _ =>
  along_throw e

theorem bind {next : α → Access β} (h : ReadsSecrets act) (hnext : ∀ a, ReadsSecrets (next a)) :
    ReadsSecrets (act >>= next) := fun s => along_bind (h s) fun a s' _ => hnext a s'

theorem ite {c : Prop} [Decidable c] {a b : Access α} (ha : ReadsSecrets a)
    (hb : ReadsSecrets b) : ReadsSecrets (if c then a else b) := fun s =>
  along_ite (fun _ => ha s) fun _ => hb s

theorem lookUp (ns name : String) : ReadsSecrets (Access.lookUp Secret ns name) := by
  refine bind (fun _ => along_get ⟨ns, name, rfl⟩) fun r => ?_
  cases r with
  | none => exact pure _
  | some j =>
    dsimp only
    cases decode Secret j with
    | some a => exact pure _
    | none => exact throw _

end ReadsSecrets

/-- A key of a secret is read. -/
theorem readsSecrets_readKey (ns : String) (selector : Option SecretKey) :
    ReadsSecrets (Credentials.readKey ns selector) := by
  unfold Credentials.readKey
  cases selector with
  | none => exact .pure _
  | some selector =>
    refine .bind (.lookUp _ _) fun r => ?_
    cases r with
    | none => exact .ite (.pure _) (.throw _)
    | some secret =>
      dsimp only
      cases secret.text? selector.key with
      | some text => exact .pure _
      | none => exact .ite (.pure _) (.throw _)

/-- The name and password that are asked for are read. -/
theorem readsSecrets_credentials (app : Application) : ReadsSecrets app.credentials := by
  unfold Application.credentials
  cases app.provides?.bind (·.auth) with
  | none => exact .pure _
  | some auth =>
    exact .bind (readsSecrets_readKey _ _) fun _ => .bind (readsSecrets_readKey _ _) fun _ =>
      .pure _

/-- The secrets of providers are read. -/
theorem readsSecrets_bindings (own : String) (entries : List Consumes) (b : Bindings) :
    ReadsSecrets (Bindings.read own b entries) := by
  induction entries generalizing b with
  | nil => exact .pure _
  | cons entry rest ih =>
    refine .bind (.lookUp _ _) fun r => ?_
    cases r with
    | none => exact .throw _
    | some source => exact ih _

/-- The certificates of a route are read. -/
theorem readsSecrets_certificates (app : Application) : ReadsSecrets (certificates app) := by
  unfold certificates
  cases Application.filled (app.spec.route.bind (·.certificateSecretRef)) with
  | none => exact .pure _
  | some name =>
    refine .bind (.lookUp _ _) fun r => ?_
    cases r with
    | none => exact .throw _
    | some secret => exact .pure _

theorem reads_credentials (app : Application) : Reads app.credentials :=
  (readsSecrets_credentials app).reads

theorem reads_bindings (own : String) (entries : List Consumes) (b : Bindings) :
    Reads (Bindings.read own b entries) :=
  (readsSecrets_bindings own entries b).reads

theorem reads_certificates (app : Application) : Reads (certificates app) :=
  (readsSecrets_certificates app).reads

end Access

/-! ## The parts of a pass

That a pass has succeeded is the same as that each of its parts has, one after the
other, with the clusters and statuses in between. The equivalences are used from left
to right to take a pass apart, and from right to left to show that one succeeds. -/

namespace Pass

variable {app : Application} {status status' : ApplicationStatus} {s s' : Server} {b : Bindings}

/-- **The parts of bringing the secrets up to date.** -/
theorem bindings_ok : (Pass.bindings app).on status s = (.ok b, status', s') ↔
    ∃ s₁ s₂ s₃, (Access.publish app).on s = (.ok (), s₁) ∧ app.bindings.on s₁ = (.ok b, s₂)
      ∧ (Access.copyAll app b.consumed).on s₂ = (.ok (), s₃)
      ∧ (Access.releaseAll app (app.stale status b)).on s₃ = (.ok (), s')
      ∧ status' = { status with consumedServices := b.consumedServices } := by
  refine onCluster_bind_ok.trans ⟨?_, ?_⟩
  · rintro ⟨_, s₁, hpublish, h₁⟩
    obtain ⟨b', s₂, hread, h₂⟩ := onCluster_bind_ok.1 h₁
    obtain ⟨_, s₃, hcopy, h₃⟩ := onCluster_bind_ok.1 h₂
    obtain ⟨_, s₄, hrelease, h₄⟩ := onCluster_bind_ok.1 h₃
    obtain ⟨hb, hrest⟩ := Prod.mk.inj h₄
    obtain ⟨rfl, rfl⟩ := Prod.mk.inj hrest
    obtain rfl := Except.ok.inj hb
    exact ⟨s₁, s₂, s₃, hpublish, hread, hcopy, hrelease, rfl⟩
  · rintro ⟨s₁, s₂, s₃, hpublish, hread, hcopy, hrelease, rfl⟩
    refine ⟨(), s₁, hpublish, onCluster_bind_ok.2 ⟨b, s₂, hread, ?_⟩⟩
    refine onCluster_bind_ok.2 ⟨(), s₃, hcopy, ?_⟩
    exact onCluster_bind_ok.2 ⟨(), s', hrelease, rfl⟩

/-- **The parts of a pass.** -/
theorem children_ok {apis : ClusterApis} {settings : Settings} :
    (Pass.children apis settings app).on status s = (.ok (), status', s') ↔
      ∃ s₁ b s₂, (Access.account app).on s = (.ok (), s₁)
        ∧ (Pass.bindings app).on status s₁ = (.ok b, status', s₂)
        ∧ (Access.launch apis settings app b.wiring).on s₂ = (.ok (), s') := by
  refine onCluster_bind_ok.trans ⟨?_, ?_⟩
  · rintro ⟨_, s₁, haccount, h₁⟩
    obtain ⟨b, st, s₂, hbindings, h₂⟩ := on_bind_ok.1 h₁
    change (onCluster (Access.launch apis settings app b.wiring)).on st s₂ = _ at h₂
    rw [on_onCluster] at h₂
    obtain ⟨hlaunch, hrest⟩ := Prod.mk.inj h₂
    obtain ⟨rfl, rfl⟩ := Prod.mk.inj hrest
    exact ⟨s₁, b, s₂, haccount, hbindings, Prod.ext hlaunch rfl⟩
  · rintro ⟨s₁, b, s₂, haccount, hbindings, hlaunch⟩
    refine ⟨(), s₁, haccount, on_bind_ok.2 ⟨b, status', s₂, hbindings, ?_⟩⟩
    show (onCluster (Access.launch apis settings app b.wiring)).on status' s₂ = _
    rw [on_onCluster, hlaunch]

end Pass

/-! ## Small inputs

An application and a cluster of which little more is said than how services
are offered and used: enough to run a pass on. -/

/-- An application that may offer a service, and uses those of some providers. -/
def Application.bound (ns name uid : String) (offers : Bool) (uses : List (String × String)) :
    Application :=
  { (default : Application) with
    metadata := { (default : ObjectMeta) with name := some name, ns := some ns, uid := some uid }
    spec := { (default : ApplicationSpec) with
      applicationImage := "app"
      service := some { (default : ServiceSettings) with
        provides := if offers then some default else none
        consumes := some (uses.map fun p =>
          { name := p.2, ns := some p.1, category := .openApi, mountPath := none }) } } }

/-- A secret that says one thing. -/
def Secret.saying (url : String) : Secret :=
  { blank Secret with type := some "Opaque", data := some (.singleton "url" (Utf8.bytes url)) }

/-- A cluster in which some applications offer services. -/
def Server.offering (providers : List (String × String)) : Server :=
  { objects := providers.foldl (fun objects p => objects.insert
      (.of Secret p.1 (Binding.secretName p.1 p.2)) (encode (Secret.saying p.2))) .empty }

theorem Server.open_offering (providers : List (String × String)) : (offering providers).Open :=
  fun _ _ => rfl

/-- A refusal that says nothing about what is stored. -/
def Refusal.internal : Refusal :=
  { status := "Failure", message := "boom", reason := "InternalError", code := 500 }

/-- A cluster that refuses one call. -/
def Server.interrupted (s : Server) (number : Nat) : Server :=
  { s with refuse := fun n _ => if n = number then some .internal else none }

theorem Server.truthful_interrupted (s : Server) (number : Nat) :
    (s.interrupted number).Truthful := by
  intro n c r hr
  change (if n = number then some .internal else none) = some r at hr
  split at hr
  · obtain rfl := Option.some.inj hr
    decide
  · simp at hr

/-- Whether a computation comes to an answer can be told by running it. -/
theorem Except.eq_ok_of_isOk {ε α : Type} {r : Except ε α} (h : r.isOk = true) :
    ∃ a, r = .ok a := by
  cases r with
  | ok a => exact ⟨a, rfl⟩
  | error _ => simp [Except.isOk, Except.toBool] at h

/-- Whether a pass succeeds can be told by making it. -/
theorem Pass.ok_of_isOk {pass : Pass Unit} {status : ApplicationStatus} {s : Server}
    (h : (pass.on status s).1.isOk = true) :
    ∃ status' s', pass.on status s = (.ok (), status', s') := by
  rcases hrun : pass.on status s with ⟨r, status', s'⟩
  rw [hrun] at h
  obtain ⟨⟨⟩, rfl⟩ := Except.eq_ok_of_isOk h
  exact ⟨status', s', rfl⟩

end AppOperator
