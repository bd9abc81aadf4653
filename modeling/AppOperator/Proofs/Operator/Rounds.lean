import AppOperator.Operator.Controller
import AppOperator.Proofs.Reconcile.Ownership

/-!
# Rounds of the controller

A round is all that the controller does for an application once: it learns
what APIs there are, finds out what is wanted, makes the pass, and stores the
outcome with the application. All before the pass is reading, and storing the
outcome touches the application alone, so for everything else a round is the
turn that is taken in it (`Round.get?_after`), if it comes to one.

Rounds are the unit in which an operator acts, and so the unit of the inductions over
its life. What happens between two rounds is not part of them; statements about many
rounds say for themselves what may change in between.
-/

namespace AppOperator

/-! ## Before the pass

Before anything is written, a round asks four things of the cluster: which APIs it
serves, what the layers and the settings are, and which image is meant. All of this
only reads, so that a round which fails here has changed nothing; and what was found
out is collected as what is wanted of an application. -/

namespace Access

variable {app : Application} {s : Server}

theorem Reads.attempt {c : Call} (h : c.isWrite = false) : Reads (Access.attempt c) := fun _ =>
  (along_attempt c).2 fun hw => absurd hw (by simp [h])

theorem reads_isServed (apiVersion : String) : Reads (isServed apiVersion) := by
  refine .bind (.attempt rfl) fun answer => ?_
  cases answer with
  | ok types => exact .pure _
  | error r => exact .ite (.pure _) (.throw _)

theorem reads_discover : Reads discover :=
  .bind (reads_isServed _) fun _ => .bind (reads_isServed _) fun _ =>
    .bind (reads_isServed _) fun _ => .bind (reads_isServed _) fun _ => .pure _

theorem reads_layers (ns stack : String) : Reads (layers ns stack) :=
  .bind (.lookUp _ _ _) fun _ => .bind (.lookUp _ _ _) fun _ => .lift _

theorem reads_settings (ns : String) : Reads (settings ns) :=
  .bind (.lookUp _ _ _) fun _ => .pure _

theorem reads_resolveImage (apis : ClusterApis) : Reads (resolveImage apis app) := by
  unfold resolveImage
  cases app.imageReference? with
  | none => exact .pure _
  | some r => exact .ite (.pure _) (.bind (.find _ _ _) fun _ => .pure _)

/-- **What is wanted of an application**: it as it is meant, the settings, and
the image that was found. -/
def wanted (config : Config) (apis : ClusterApis) (app : Application) :
    Access (Application × Settings × Option String) := do
  let ns := config.operatorNsFor app
  let layers ← layers ns app.spec.stack
  let settings ← settings ns
  let (app, admitted) := app.normalized layers
  admitted
  let image ← resolveImage apis app
  return (app, settings, image)

theorem reads_wanted (config : Config) (apis : ClusterApis) (app : Application) :
    Reads (wanted config apis app) :=
  .bind (reads_layers _ _) fun _ => .bind (reads_settings _) fun _ => .bind (.lift _) fun _ =>
    .bind (reads_resolveImage _) fun _ => .pure _

/-- What is meant is the same application. -/
theorem metadata_of_wanted {config : Config} {apis : ClusterApis} {s' : Server}
    {meant : Application} {settings : Settings} {image : Option String}
    (h : (wanted config apis app).on s = (.ok (meant, settings, image), s')) :
    meant.metadata = app.metadata := by
  obtain ⟨layers, _, -, h⟩ := on_bind_ok.1 h
  obtain ⟨_, _, -, h⟩ := on_bind_ok.1 h
  obtain ⟨_, _, -, h⟩ := on_bind_ok.1 h
  obtain ⟨_, _, -, h⟩ := on_bind_ok.1 h
  obtain ⟨heq, -⟩ := Prod.mk.inj h
  obtain ⟨rfl, -⟩ := Prod.mk.inj (Except.ok.inj heq)
  rfl

end Access

namespace Pass

theorem on_lift {α : Type} (act : Access α) (status : ApplicationStatus) (s : Server) :
    (liftM act : Pass α).on status s = ((act.on s).1, status, (act.on s).2) :=
  on_onCluster act status s

theorem on_lift_except {α : Type} (e : Except OperatorError α) (status : ApplicationStatus)
    (s : Server) : (liftM e : Pass α).on status s = (e, status, s) :=
  on_onCluster (liftM e) status s

/-- **Preparing is finding out what is wanted**, and noting the image. -/
theorem on_prepare (config : Config) (apis : ClusterApis) (app : Application)
    (status : ApplicationStatus) (s : Server) :
    (Pass.prepare config apis app).on status s =
      match (Access.wanted config apis app).on s with
      | (.ok (meant, settings, image), s) =>
        (.ok ({ meant with status := some { status with imageReference := image } }, settings),
          { status with imageReference := image }, s)
      | (.error e, s) => (.error e, status, s) := by
  have hlift : ∀ {α : Type} (e : Except OperatorError α) (s : Server),
      (liftM e : Access α).on s = (e, s) := fun _ _ => rfl
  unfold Pass.prepare Access.wanted
  dsimp only
  simp only [Access.on_bind, Pass.on_bind, on_lift, on_lift_except, hlift, on_note, on_status,
    on_pure, Access.on_pure]
  -- both sides fail at the same steps, and with the same error
  rcases (Access.layers (config.operatorNsFor app) app.spec.stack).on s with ⟨_ | layers, s₁⟩
  · rfl
  dsimp only
  rcases (Access.settings (config.operatorNsFor app)).on s₁ with ⟨_ | settings, s₂⟩
  · rfl
  dsimp only
  cases (app.normalized layers).2 with
  | error e => rfl
  | ok _ =>
    dsimp only
    rcases (Access.resolveImage apis (app.normalized layers).1).on s₂ with ⟨_ | image, s₃⟩
    · rfl
    · rfl

end Pass

/-- Learning what APIs there are changes nothing that is stored. -/
theorem Discovery.served_frame (d : Discovery) (start complete : Nat) (s : Server) :
    (d.served start complete s).2.2.objects = s.objects
      ∧ (d.served start complete s).2.2.refuse = s.refuse := by
  unfold served
  cases d.fresh? start with
  | some apis => exact ⟨rfl, rfl⟩
  | none =>
    have hobjects := Access.reads_discover.objects_eq s
    have hrefuse := Access.on_refuse Access.discover s
    rcases hasked : Access.discover.on s with ⟨_ | apis, s'⟩
    · rw [hasked] at hobjects hrefuse
      exact ⟨hobjects, hrefuse⟩
    · rw [hasked] at hobjects hrefuse
      exact ⟨hobjects, hrefuse⟩

/-! ## After the pass

An outcome is stored by one call, about the application and nothing else. The call
merges, so the application must be there. Whether it was accepted decides if the round
counts as recorded, and it is known from the answer of the round. -/

namespace Access

variable {app : Application} {status : ApplicationStatus} {s s' : Server}

/-- The key under which an application is stored. -/
abbrev keyOfApplication (app : Application) : ObjectKey :=
  .of Application app.metadata.nsOrEmpty app.name

/-- Storing a status touches the application alone. -/
theorem touches_storeStatus : Touches (· = keyOfApplication app) (storeStatus app status) := by
  intro s
  refine along_bind (along_lift _) fun ns t hns => along_require ?_
  obtain rfl := Application.ns_ok (on_lift_ok.1 hns).1
  exact fun _ k hk => (Option.some.inj hk).symm

/-- **A status that was stored** was merged into the application. -/
theorem storeStatus_ok (h : (storeStatus app status).on s = (.ok (), s')) :
    s' = s.after (.patchStatus (keyOfApplication app) status.patch)
      ∧ (s.perform (.patchStatus (keyOfApplication app) status.patch)).1 = .ok () := by
  obtain ⟨ns, t, hns, h⟩ := on_bind_ok.1 h
  obtain ⟨hok, rfl⟩ := on_lift_ok.1 hns
  obtain rfl := Application.ns_ok hok
  exact require_ok h

/-- **What is stored of an application** once a status was stored with it. -/
theorem stored_of_storeStatus (h : (storeStatus app status).on s = (.ok (), s')) :
    ∃ j, s.objects.get? (keyOfApplication app) = some j
      ∧ s'.objects.get? (keyOfApplication app) = some (j.mergePatch status.patch) := by
  obtain ⟨rfl, hp⟩ := storeStatus_ok h
  obtain ⟨hanswer, hobjects⟩ := Server.answer_of_ok hp
  -- a status is only merged into what is there
  obtain ⟨j, hj⟩ := Server.get?_of_changed hanswer
  refine ⟨j, hj, ?_⟩
  rw [hobjects, Call.apply, Dict.get?_insert_self, hj]
  rfl

end Access

/-- **A pass is concluded by storing a status** that lists what the pass noted. -/
theorem Controller.conclude_eq (c : Controller) (app : Application)
    (result : Except OperatorError Unit) (status : ApplicationStatus) (t : Timing) (s : Server) :
    ∃ told : ApplicationStatus, told.consumedServices = status.consumedServices
      ∧ (c.conclude app result status t s).2.2 = ((Access.storeStatus app told).on s).2
      ∧ ((c.conclude app result status t s).1.unrecorded = none
        ↔ ((Access.storeStatus app told).on s).1 = .ok ()) := by
  unfold conclude
  cases result with
  | ok _ =>
    refine ⟨status.succeeded app.metadata.generation t.now, rfl, ?_⟩
    unfold Access.recordSuccess
    rcases (Access.storeStatus app _).on s with ⟨_ | _, s'⟩
    · simp
    · simp
  | error e =>
    refine ⟨status.failed app.metadata.generation e t.now, rfl, ?_⟩
    unfold Access.recordFailure
    dsimp only
    rw [Access.on_bind]
    rcases (Access.storeStatus app _).on s with ⟨_ | _, s'⟩
    · simp
    · simp

/-- No pass touches an application. -/
theorem Turn.get?_application (t : Turn) (s : Server) (ns name : String) :
    (t.after s).objects.get? (.of Application ns name)
      = s.objects.get? (.of Application ns name) := by
  have hadmits := Access.admits_within t.app fun type _ => type ≠ objectType (α := Application)
  have halong : t.pass.Along _ t.status s :=
    Pass.along_children (hadmits.secrets (fun _ => by decide) t.status) hadmits
      Access.HasChild.ne_application t.settings s
  refine halong.keeps (I := fun u => u.objects.get? (.of Application ns name) = _) rfl
    fun u c hc hu => (Server.after_get?_of_ne fun hw hkey => ?_).trans hu
  obtain ⟨type, _, hne, he⟩ := hc hw _ hkey
  cases type
  cases he
  exact hne rfl

/-! ## Rounds

A round is given by the controller, the application as it was read, and the time. It
may come to no turn, and then it is over before the children; if it comes to one, the
turn is a pass with the application as it is meant. Everything that is known of turns
carries over to rounds by two equations, one for objects other than the application
and one for what is recorded with it. -/

/-- **A round for an application**, as it is stored. -/
structure Round where
  /-- The controller. -/
  controller : Controller
  /-- The application. -/
  app : Application
  /-- When the round happens. -/
  timing : Timing

namespace Round

/-- The status that a round starts from. -/
def status (r : Round) : ApplicationStatus := r.app.status.getD default

/-- The cluster after a round, however it ended. -/
def after (s : Server) (r : Round) : Server := (r.controller.reconcile r.app r.timing s).2.2

/-- Whether the outcome was stored. -/
def recorded (r : Round) (s : Server) : Bool :=
  (r.controller.reconcile r.app r.timing s).1.unrecorded.isNone

/-- **The turn that a round comes to**, and the cluster on which it is taken. -/
def turn? (r : Round) (s : Server) : Option (Turn × Server) :=
  match r.controller.discovery.served r.timing.start r.timing.discovered s with
  | (.error _, _, _) => none
  | (.ok apis, _, s) =>
    match (Pass.prepare r.controller.config apis r.app).on r.status s with
    | (.error _, _, _) => none
    | (.ok (app, settings), status, s) => some (⟨app, apis, settings, status⟩, s)

/-- The status that a round comes to, before the outcome is put in. -/
def noted (r : Round) (s : Server) : ApplicationStatus :=
  match r.turn? s with
  | none => r.status
  | some (t, s) => t.noted s

variable {r : Round} {s s₁ : Server} {t : Turn}

/-- **What a round that comes to a turn has found out**: what is wanted, with
the image that was found put into the status. -/
theorem wanted_of_turn (h : r.turn? s = some (t, s₁)) : ∃ apis d s₀ meant image,
    r.controller.discovery.served r.timing.start r.timing.discovered s = (.ok apis, d, s₀)
      ∧ (Access.wanted r.controller.config apis r.app).on s₀
        = (.ok (meant, t.settings, image), s₁)
      ∧ t.status = { r.status with imageReference := image }
      ∧ t.app = { meant with status := some t.status } := by
  unfold turn? at h
  rcases hserved : r.controller.discovery.served r.timing.start r.timing.discovered s with
    ⟨_ | apis, d, s₀⟩
  · rw [hserved] at h
    simp at h
  · rw [hserved] at h
    dsimp only at h
    rw [Pass.on_prepare] at h
    rcases hwanted : (Access.wanted r.controller.config apis r.app).on s₀ with
      ⟨_ | ⟨meant, settings, image⟩, s₂⟩
    · rw [hwanted] at h
      simp at h
    · rw [hwanted] at h
      obtain ⟨rfl, rfl⟩ := Prod.mk.inj (Option.some.inj h)
      exact ⟨apis, d, s₀, meant, image, rfl, hwanted, rfl, rfl⟩

/-- The turn is one of the same application, on the same cluster. -/
theorem turn_frame (h : r.turn? s = some (t, s₁)) :
    s₁.objects = s.objects ∧ s₁.refuse = s.refuse ∧ t.app.metadata = r.app.metadata
      ∧ t.status.consumedServices = r.status.consumedServices := by
  obtain ⟨apis, d, s₀, meant, image, hserved, hwanted, hstatus, happ⟩ := wanted_of_turn h
  obtain ⟨hobjects, hrefuse⟩ := r.controller.discovery.served_frame r.timing.start
    r.timing.discovered s
  have hread := (Access.reads_wanted r.controller.config apis r.app).objects_eq s₀
  have hsame := Access.on_refuse (Access.wanted r.controller.config apis r.app) s₀
  rw [hserved] at hobjects hrefuse
  rw [hwanted] at hread hsame
  refine ⟨hread.trans hobjects, hsame.trans hrefuse, ?_, by rw [hstatus]⟩
  have hmeant := Access.metadata_of_wanted hwanted
  rw [happ]
  exact hmeant

/-- **A round is its turn, and then a status is stored** that lists what the
turn noted. -/
theorem after_eq (r : Round) (s : Server) : ∃ told s₁,
    told.consumedServices = (r.noted s).consumedServices
      ∧ (r.turn? s = none → s₁.objects = s.objects ∧ s₁.refuse = s.refuse)
      ∧ (∀ t s', r.turn? s = some (t, s') → s₁ = t.after s')
      ∧ r.after s = ((Access.storeStatus r.app told).on s₁).2
      ∧ (r.recorded s = true ↔ ((Access.storeStatus r.app told).on s₁).1 = .ok ()) := by
  obtain ⟨hobjects, hrefuse⟩ := r.controller.discovery.served_frame r.timing.start
    r.timing.discovered s
  unfold after recorded noted turn? Controller.reconcile
  simp only [Option.isNone_iff_eq_none]
  rw [show r.app.status.getD default = r.status from rfl]
  -- the places at which a round can end: no answer about APIs, nothing known to be wanted, and
  -- after the children; in each the same function stores the status
  rcases hserved : r.controller.discovery.served r.timing.start r.timing.discovered s with
    ⟨e | apis, d, s₂⟩
  · rw [hserved] at hobjects hrefuse
    obtain ⟨told, htold, hafter, hrecorded⟩ := Controller.conclude_eq
      { r.controller with discovery := d } r.app (.error e) r.status r.timing s₂
    exact ⟨told, s₂, htold, fun _ => ⟨hobjects, hrefuse⟩, fun _ _ h => by simp at h, hafter,
      hrecorded⟩
  · rw [hserved] at hobjects hrefuse
    dsimp only
    unfold Controller.pass
    rw [Pass.on_bind, Pass.on_prepare]
    have hread := (Access.reads_wanted r.controller.config apis r.app).objects_eq s₂
    have hsame := Access.on_refuse (Access.wanted r.controller.config apis r.app) s₂
    rcases hwanted : (Access.wanted r.controller.config apis r.app).on s₂ with
      ⟨e | ⟨meant, settings, image⟩, s₃⟩
    · rw [hwanted] at hread hsame
      obtain ⟨told, htold, hafter, hrecorded⟩ := Controller.conclude_eq
        { r.controller with discovery := d } r.app (.error e) r.status r.timing s₃
      exact ⟨told, s₃, htold, fun _ => ⟨hread.trans hobjects, hsame.trans hrefuse⟩,
        fun _ _ h => by simp at h, hafter, hrecorded⟩
    · let t : Turn := ⟨{ meant with status := some { r.status with imageReference := image } },
        apis, settings, { r.status with imageReference := image }⟩
      obtain ⟨told, htold, hafter, hrecorded⟩ := Controller.conclude_eq
        { r.controller with discovery := d } r.app (t.pass.on t.status s₃).1 (t.noted s₃) r.timing
        (t.after s₃)
      refine ⟨told, t.after s₃, htold, fun h => by simp at h, fun _ _ h => ?_, hafter, hrecorded⟩
      obtain ⟨rfl, rfl⟩ := Prod.mk.inj (Option.some.inj h)
      rfl

/-- **For all but the application a round is its turn**, if it comes to one. -/
theorem get?_after {k : ObjectKey} (hk : k ≠ Access.keyOfApplication r.app)
    (h : r.turn? s = some (t, s₁)) :
    (r.after s).objects.get? k = (t.after s₁).objects.get? k := by
  obtain ⟨told, s', -, -, hturn, hafter, -⟩ := r.after_eq s
  rw [hafter, Access.touches_storeStatus.get?_eq s' hk, hturn t s₁ h]

/-- A round that comes to no turn leaves all but the application as it is. -/
theorem get?_after_of_none {k : ObjectKey} (hk : k ≠ Access.keyOfApplication r.app)
    (h : r.turn? s = none) : (r.after s).objects.get? k = s.objects.get? k := by
  obtain ⟨told, s', -, hnone, -, hafter, -⟩ := r.after_eq s
  rw [hafter, Access.touches_storeStatus.get?_eq s' hk, (hnone h).1]

theorem refuse_after (r : Round) (s : Server) : (r.after s).refuse = s.refuse := by
  obtain ⟨told, s', -, hnone, hturn, hafter, -⟩ := r.after_eq s
  rw [hafter, Access.on_refuse]
  cases h : r.turn? s with
  | none => exact (hnone h).2
  | some turn =>
    obtain ⟨t, s₁⟩ := turn
    rw [hturn t s₁ h]
    exact (Pass.on_refuse _ _ _).trans (turn_frame h).2.1

end Round

end AppOperator
