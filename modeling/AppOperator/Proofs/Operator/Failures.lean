import AppOperator.Proofs.Binding.Orphans
import AppOperator.Proofs.Operator.Recorded

/-!
# What a round writes that fails

A mistake in a configuration should not tear down an application that runs.
So a round that fails before it comes to the children may report the failure
and do nothing else, and one that fails to read the bindings of others may
have brought up to date what comes before them, and nothing else: the
account, and the secret that the application publishes
(`Round.writes_of_failure`).

The calls of a round are told from the history that the cluster keeps. A
computation adds calls to it and takes none away, and those that it adds are
admissible wherever the computation is (`Dialogue.Along.writes`), so what is
known of the keys that a part of the pass touches is known of its calls
(`Access.Touches.writes`). The report itself is the last call: it is made
from the status as the round has noted it up to the failure, which before
the children is the status that the application had.
-/

namespace AppOperator

/-! ## The writes of a run

The cluster remembers every call, refused ones among them, so what a round has tried
to write can be read off at the end. Of a computation it is known under which keys it
may write; that the entries it adds are about these keys holds however it ends. A
failure in the middle thus bounds what was done by what comes before it. -/

/-- **A run only adds to the writes**, and what it adds is admissible. -/
theorem Dialogue.Along.writes {α : Type} {P : Server → Call → Prop} {d : Dialogue α} {s : Server}
    (h : d.Along P s) : ∃ made, (d.on s).2.writes = s.writes ++ made
      ∧ ∀ entry ∈ made, entry.call.isWrite = true ∧ ∃ t, P t entry.call := by
  obtain ⟨made, hhistory, hmade⟩ := h.history
  refine ⟨made.filter (·.call.isWrite), ?_, fun entry he => ?_⟩
  · rw [Server.writes, hhistory, List.filter_append]
    rfl
  · obtain ⟨he, hw⟩ := List.mem_filter.1 he
    exact ⟨hw, hmade entry he⟩

/-- A call that writes is about an object. -/
theorem Call.key?_of_isWrite {c : Call} (h : c.isWrite = true) : ∃ k, c.key? = some k := by
  cases c with
  | get _ | discover _ => simp [isWrite] at h
  | create key _ | replace key _ | delete key | patchStatus key _ => exact ⟨key, rfl⟩

/-- **What a computation touches, it writes to, and to nothing else.** -/
theorem Access.Touches.writes {α : Type} {act : Access α} {K : ObjectKey → Prop}
    (h : Touches K act) (s : Server) : ∃ made, (act.on s).2.writes = s.writes ++ made
      ∧ ∀ entry ∈ made, ∃ k, entry.call.key? = some k ∧ K k := by
  obtain ⟨made, hwrites, hmade⟩ := Dialogue.Along.writes (h s)
  refine ⟨made, hwrites, fun entry he => ?_⟩
  obtain ⟨hw, -, hwithin⟩ := hmade entry he
  obtain ⟨k, hk⟩ := Call.key?_of_isWrite hw
  exact ⟨k, hk, hwithin hw k hk⟩

/-- A computation of two parts that fails does so in one of them. -/
theorem Access.on_bind_error {α β : Type} {first : Access α} {next : α → Access β} {s s'' : Server}
    {e : OperatorError} : (first >>= next).on s = (.error e, s'')
      ↔ first.on s = (.error e, s'')
        ∨ ∃ a s', first.on s = (.ok a, s') ∧ (next a).on s' = (.error e, s'') := by
  rw [on_bind]
  rcases first.on s with ⟨_ | a, s'⟩
  · simp
  · exact ⟨fun h => .inr ⟨a, s', rfl, h⟩, by rintro (⟨⟨⟩⟩ | ⟨_, _, ⟨⟩, h⟩); exact h⟩

/-- Learning what APIs there are writes nothing. -/
theorem Discovery.writes_of_served (d : Discovery) (start complete : Nat) (s : Server) :
    (d.served start complete s).2.2.writes = s.writes := by
  unfold served
  cases d.fresh? start with
  | some apis => rfl
  | none =>
    have hwrites := Access.reads_discover.writes_eq s
    rcases hasked : Access.discover.on s with ⟨_ | apis, s'⟩
    · rw [hasked] at hwrites
      exact hwrites
    · rw [hasked] at hwrites
      exact hwrites

/-! ## The report of a failure

A report is a patch of the status, and what it says is stated by places in that patch:
the condition with its reason, the secrets in use and the image, each of the last two
as null where nothing was noted. The condition replaces the one of its type, so the
list has one of it, wherever it stands. -/

/-- **A change of an application that reports a failure**: that the last round
failed and why, with the secrets in use and the image that were noted, each
written as null where none is. -/
structure ApplicationStatus.ReportedBy (noted : ApplicationStatus) (e : OperatorError)
    (patch : Json) : Prop where
  /-- The secrets in use. -/
  consumedServices : patch.at? ["status", "consumedServices"]
    = some ((noted.consumedServices.map (Shape.map (.list .text)).encode).getD .null)
  /-- The image. -/
  imageReference : patch.at? ["status", "imageReference"] = some (.ofOption noted.imageReference)
  /-- The outcome and its cause. -/
  reconciled : ∃ conditions, patch.at? ["status", "conditions"] = some (.arr conditions)
    ∧ ∃ c ∈ conditions, c.text? "type" = some "Reconciled" ∧ c.text? "status" = some "False"
      ∧ c.text? "reason" = some e.reason

namespace ApplicationStatus

/-- A condition that is recorded is listed, with what it says. -/
theorem exists_mem_replaceCondition (c : Condition) (conditions : List Condition) :
    ∃ found ∈ replaceCondition c conditions,
      found.type = c.type ∧ found.status = c.status ∧ found.reason = c.reason := by
  induction conditions with
  | nil => exact ⟨c, List.mem_singleton_self _, rfl, rfl, rfl⟩
  | cons old rest ih =>
    rw [replaceCondition]
    split
    · refine ⟨c.following old, List.mem_cons_self .., ?_⟩
      unfold Condition.following
      split
      · exact ⟨rfl, rfl, rfl⟩
      · exact ⟨rfl, rfl, rfl⟩
    · obtain ⟨found, hfound, hsame⟩ := ih
      exact ⟨found, List.mem_cons_of_mem _ hfound, hsame⟩

/-- What a condition with a reason says in writing. -/
theorem text?_encode_condition {c : Condition} {reason : String} (htype : c.type = .reconciled)
    (hstatus : c.status = .no) (hreason : c.reason = some reason) :
    (encode c).text? "type" = some "Reconciled" ∧ (encode c).text? "status" = some "False"
      ∧ (encode c).text? "reason" = some reason := by
  obtain ⟨type, status, transition, update, _, message⟩ := c
  obtain rfl : type = .reconciled := htype
  obtain rfl : status = .no := hstatus
  obtain rfl := hreason
  cases transition <;> cases update <;> cases message <;> exact ⟨rfl, rfl, rfl⟩

/-- **What a change that records a status says** of it. -/
theorem at?_patch (status : ApplicationStatus) :
    status.patch.at? ["status", "conditions"] = some (.arr (status.conditions.map encode))
      ∧ status.patch.at? ["status", "consumedServices"]
        = some ((status.consumedServices.map (Shape.map (.list .text)).encode).getD .null)
      ∧ status.patch.at? ["status", "imageReference"]
        = some (.ofOption status.imageReference) := by
  obtain ⟨changes, hwhole, -, hconditions, hservices, himage, -⟩ := status.exists_whole_eq
  have hat : ∀ name, status.patch.at? ["status", name] = Assoc.get? name changes := by
    intro name
    show ((Json.obj [("status", status.whole)]).at? ["status", name]) = _
    rw [hwhole]
    simp [Json.at?, Json.child?, Assoc.get?_cons]
  exact ⟨(hat _).trans hconditions, (hat _).trans hservices, (hat _).trans himage⟩

/-- **The record of a failure reports it.** -/
theorem reportedBy_failed (noted : ApplicationStatus) (generation : Option Int64)
    (e : OperatorError) (now : Instant) :
    noted.ReportedBy e (noted.failed generation e now).patch := by
  obtain ⟨hconditions, hservices, himage⟩ := at?_patch (noted.failed generation e now)
  obtain ⟨c, hc, htype, hstatus, hreason⟩ := exists_mem_replaceCondition
    (.reconciled .no (some e.reason) (some e.message) now) noted.conditions
  exact ⟨hservices, himage, _, hconditions, encode c, List.mem_map_of_mem hc,
    text?_encode_condition htype hstatus hreason⟩

end ApplicationStatus

/-- **A status of an application with a namespace is stored by a single call.** -/
theorem Access.writes_of_storeStatus {app : Application} {ns : String} (hns : app.ns? = some ns)
    (status : ApplicationStatus) (s : Server) : ∃ refusal,
      ((storeStatus app status).on s).2.writes
        = s.writes ++ [⟨.patchStatus (.of Application ns app.name) status.patch, refusal⟩] := by
  have hok : app.ns = .ok ns := by
    rw [Application.ns, hns]
  unfold storeStatus require
  rw [hok, on_bind]
  change ∃ refusal, (Access.on (attempt _ >>= _) s).2.writes = _
  rw [on_bind, on_attempt]
  dsimp only
  cases (s.perform (.patchStatus (.of Application ns app.name) status.patch)).1 with
  | ok _ => exact Server.after_writes_of_write rfl
  | error _ => exact Server.after_writes_of_write rfl

/-- **A failed pass is concluded by reporting it**, whether or not the report is accepted. -/
theorem Controller.conclude_error (c : Controller) {app : Application} {ns : String}
    (hns : app.ns? = some ns) (e : OperatorError) (noted : ApplicationStatus) (t : Timing)
    (s : Server) :
    (c.conclude app (.error e) noted t s).1.failure = some e
      ∧ ∃ patch refusal, noted.ReportedBy e patch
        ∧ (c.conclude app (.error e) noted t s).2.2.writes
          = s.writes ++ [⟨.patchStatus (.of Application ns app.name) patch, refusal⟩] := by
  obtain ⟨refusal, hstored⟩ := Access.writes_of_storeStatus hns
    (noted.failed app.metadata.generation e t.now) s
  have hreport := noted.reportedBy_failed app.metadata.generation e t.now
  unfold conclude Access.recordFailure
  dsimp only
  rw [Access.on_bind]
  rcases hrun : (Access.storeStatus app _).on s with ⟨_ | _, s'⟩
  · rw [hrun] at hstored
    exact ⟨rfl, _, refusal, hreport, hstored⟩
  · rw [hrun] at hstored
    exact ⟨rfl, _, refusal, hreport, hstored⟩

/-! ## Where a round can fail before the children

Five places, one after the other, each of them a step that only reads or computes.
They are given as an inductive predicate with what came before each as its premises,
and it is proved that a round which does not come to a turn has failed at one of them,
so none has been forgotten. -/

namespace Round

/-- What APIs there are, as a round learns it. -/
def served (r : Round) (s : Server) : Except OperatorError ClusterApis × Discovery × Server :=
  r.controller.discovery.served r.timing.start r.timing.discovered s

/-- The namespace in which a round looks for layers and settings. -/
def operatorNs (r : Round) : String := r.controller.config.operatorNsFor r.app

/-- **A round fails before it comes to the children**: when it asks what APIs
there are, when it reads the layers of the stack or the settings, when the
application is not admitted, or when it looks for the image. -/
inductive FailsBefore (r : Round) (s : Server) (e : OperatorError) : Prop where
  | discovery {d s₁} (h : r.served s = (.error e, d, s₁))
  | layers {apis d s₁ s₂} (h : r.served s = (.ok apis, d, s₁))
      (hlayers : (Access.layers r.operatorNs r.app.spec.stack).on s₁ = (.error e, s₂))
  | settings {apis d s₁ layers s₂ s₃} (h : r.served s = (.ok apis, d, s₁))
      (hlayers : (Access.layers r.operatorNs r.app.spec.stack).on s₁ = (.ok layers, s₂))
      (hsettings : (Access.settings r.operatorNs).on s₂ = (.error e, s₃))
  | admission {apis d s₁ layers s₂ settings s₃} (h : r.served s = (.ok apis, d, s₁))
      (hlayers : (Access.layers r.operatorNs r.app.spec.stack).on s₁ = (.ok layers, s₂))
      (hsettings : (Access.settings r.operatorNs).on s₂ = (.ok settings, s₃))
      (hadmitted : (r.app.normalized layers).2 = .error e)
  | image {apis d s₁ layers s₂ settings s₃ s₄} (h : r.served s = (.ok apis, d, s₁))
      (hlayers : (Access.layers r.operatorNs r.app.spec.stack).on s₁ = (.ok layers, s₂))
      (hsettings : (Access.settings r.operatorNs).on s₂ = (.ok settings, s₃))
      (hadmitted : (r.app.normalized layers).2 = .ok ())
      (himage : (Access.resolveImage apis (r.app.normalized layers).1).on s₃ = (.error e, s₄))

variable {r : Round} {s s₁ s₂ s₃ s₄ : Server} {e : OperatorError} {t : Turn}

theorem writes_of_served {result : Except OperatorError ClusterApis} {d : Discovery}
    (h : r.served s = (result, d, s₁)) : s₁.writes = s.writes := by
  have hwrites := r.controller.discovery.writes_of_served r.timing.start r.timing.discovered s
  rw [show r.controller.discovery.served r.timing.start r.timing.discovered s
    = (result, d, s₁) from h] at hwrites
  exact hwrites

/-- Of the places at which a round can fail before the children, all but the
first are those at which finding out what is wanted can. -/
theorem failsBefore_iff : r.FailsBefore s e ↔
    (∃ d s₁, r.served s = (.error e, d, s₁))
      ∨ ∃ apis d s₁ s₂, r.served s = (.ok apis, d, s₁)
        ∧ (Access.wanted r.controller.config apis r.app).on s₁ = (.error e, s₂) := by
  -- both sides go down the same chain of steps, the one by its constructors and the other by
  -- where the first error arises
  constructor
  · rintro (h | ⟨h, hlayers⟩ | ⟨h, hlayers, hsettings⟩ | ⟨h, hlayers, hsettings, hadmitted⟩
      | ⟨h, hlayers, hsettings, hadmitted, himage⟩)
    · exact .inl ⟨_, _, h⟩
    · exact .inr ⟨_, _, _, _, h, Access.on_bind_error.2 (.inl hlayers)⟩
    · exact .inr ⟨_, _, _, _, h, Access.on_bind_error.2 (.inr ⟨_, _, hlayers,
        Access.on_bind_error.2 (.inl hsettings)⟩)⟩
    · exact .inr ⟨_, _, _, _, h, Access.on_bind_error.2 (.inr ⟨_, _, hlayers,
        Access.on_bind_error.2 (.inr ⟨_, _, hsettings,
          Access.on_bind_error.2 (.inl (congrArg (·, _) hadmitted))⟩)⟩)⟩
    · exact .inr ⟨_, _, _, _, h, Access.on_bind_error.2 (.inr ⟨_, _, hlayers,
        Access.on_bind_error.2 (.inr ⟨_, _, hsettings, Access.on_bind_error.2 (.inr
          ⟨(), _, congrArg (·, _) hadmitted, Access.on_bind_error.2 (.inl himage)⟩)⟩)⟩)⟩
  · rintro (⟨d, s₁, h⟩ | ⟨apis, d, s₁, s₂, h, hwanted⟩)
    · exact .discovery h
    · rcases Access.on_bind_error.1 hwanted with hlayers | ⟨layers, u, hlayers, hwanted⟩
      · exact .layers h hlayers
      rcases Access.on_bind_error.1 hwanted with hsettings | ⟨settings, v, hsettings, hwanted⟩
      · exact .settings h hlayers hsettings
      rcases Access.on_bind_error.1 hwanted with hadmitted | ⟨_, w, hadmitted, hwanted⟩
      · exact .admission h hlayers hsettings (congrArg Prod.fst hadmitted)
      obtain ⟨hok, rfl⟩ := Access.on_lift_ok.1 hadmitted
      rcases Access.on_bind_error.1 hwanted with himage | ⟨_, _, -, hdone⟩
      · exact .image h hlayers hsettings hok himage
      · simp at hdone

/-- **These are all the places**: a round comes to a turn or fails at one of them. -/
theorem turn?_eq_none_iff : r.turn? s = none ↔ ∃ e, r.FailsBefore s e := by
  simp only [failsBefore_iff]
  unfold turn? served
  rcases r.controller.discovery.served r.timing.start r.timing.discovered s with ⟨e | apis, d, s₁⟩
  · simp
  · simp only [Pass.on_prepare]
    rcases hwanted : (Access.wanted r.controller.config apis r.app).on s₁ with
      ⟨e | ⟨meant, settings, image⟩, s₂⟩
    · exact iff_of_true rfl ⟨e, .inr ⟨apis, d, s₁, s₂, rfl, hwanted⟩⟩
    · refine iff_of_false nofun ?_
      rintro ⟨e, ⟨_, _, ⟨⟩⟩ | ⟨_, _, _, _, ⟨⟩, hfailed⟩⟩
      rw [hwanted] at hfailed
      simp at hfailed

/-- **A round that fails before the children** is concluded with that failure,
as the application was found, and nothing was written. -/
theorem reconcile_of_failsBefore (h : r.FailsBefore s e) : ∃ (c : Controller) (s' : Server),
    s'.writes = s.writes
      ∧ r.controller.reconcile r.app r.timing s
        = c.conclude r.app (.error e) r.status r.timing s' := by
  rcases failsBefore_iff.1 h with ⟨d, s₁, hserved⟩ | ⟨apis, d, s₁, s₂, hserved, hwanted⟩
  · refine ⟨{ r.controller with discovery := d }, s₁, writes_of_served hserved, ?_⟩
    unfold Controller.reconcile
    rw [show r.controller.discovery.served r.timing.start r.timing.discovered s
      = (.error e, d, s₁) from hserved]
    rfl
  · have hread := (Access.reads_wanted r.controller.config apis r.app).writes_eq s₁
    rw [hwanted] at hread
    refine ⟨{ r.controller with discovery := d }, s₂,
      hread.trans (writes_of_served hserved), ?_⟩
    unfold Controller.reconcile
    rw [show r.controller.discovery.served r.timing.start r.timing.discovered s
      = (.ok apis, d, s₁) from hserved]
    dsimp only
    rw [Controller.pass, Pass.on_bind, Pass.on_prepare, hwanted]
    rfl

/-- **A round that comes to a turn** is concluded with what the turn came to,
and until then nothing was written. -/
theorem reconcile_of_turn (h : r.turn? s = some (t, s₁)) : s₁.writes = s.writes
    ∧ ∃ c : Controller, r.controller.reconcile r.app r.timing s
      = c.conclude r.app (t.pass.on t.status s₁).1 (t.noted s₁) r.timing (t.after s₁) := by
  unfold turn? at h
  rcases hserved : r.controller.discovery.served r.timing.start r.timing.discovered s with
    ⟨e | apis, d, s₂⟩
  · rw [hserved] at h
    simp at h
  · rw [hserved] at h
    dsimp only at h
    rw [Pass.on_prepare] at h
    have hread := (Access.reads_wanted r.controller.config apis r.app).writes_eq s₂
    rcases hwanted : (Access.wanted r.controller.config apis r.app).on s₂ with
      ⟨e | ⟨meant, settings, image⟩, s₃⟩
    · rw [hwanted] at h
      simp at h
    · rw [hwanted] at h hread
      obtain ⟨rfl, rfl⟩ := Prod.mk.inj (Option.some.inj h)
      refine ⟨hread.trans (writes_of_served hserved), { r.controller with discovery := d }, ?_⟩
      unfold Controller.reconcile
      rw [hserved]
      dsimp only
      rw [Controller.pass, Pass.on_bind, Pass.on_prepare,
        show r.app.status.getD default = r.status from rfl, hwanted]
      rfl

end Round

/-! ## What a pass does before it reads the bindings

Bindings come third in a pass, after the account and the secret that the application
publishes. The order is what the section is about: had the children come before the
bindings, a missing provider would leave an application half changed. -/

/-- A pass that cannot read the secrets of providers ends there. -/
theorem Pass.children_of_unread {apis : ClusterApis} {settings : Settings} {app : Application}
    {status : ApplicationStatus} {s s₁ s₂ s₃ : Server} {e : OperatorError}
    (haccount : (Access.account app).on s = (.ok (), s₁))
    (hpublish : (Access.publish app).on s₁ = (.ok (), s₂))
    (hread : app.bindings.on s₂ = (.error e, s₃)) :
    (Pass.children apis settings app).on status s = (.error e, status, s₃) := by
  have hbindings : (Pass.bindings app).on status s₁ = (.error e, status, s₃) := by
    unfold Pass.bindings
    rw [Pass.on_bind, Pass.on_lift, hpublish]
    dsimp only
    rw [Pass.on_bind, Pass.on_lift, hread]
  unfold Pass.children
  rw [Pass.on_bind, Pass.on_lift, haccount]
  dsimp only
  rw [Pass.on_bind, hbindings]

namespace Round

variable {r : Round} {s : Server} {e : OperatorError}

/-- **A round fails at the services that the application uses**: it comes to
a turn, keeps the account and publishes the application's own secret, and
then fails to read the secret of some provider. -/
inductive FailsAtBindings (r : Round) (s published : Server) (e : OperatorError) : Prop where
  | intro (t : Turn) (s₁ s₂ s₃ : Server) (turn : r.turn? s = some (t, s₁))
      (account : (Access.account t.app).on s₁ = (.ok (), s₂))
      (publish : (Access.publish t.app).on s₂ = (.ok (), published))
      (read : t.app.bindings.on published = (.error e, s₃))

/-- **Such a round is concluded with that failure**, with the services that
were listed before, and nothing was written since the secret was published. -/
theorem reconcile_of_failsAtBindings {published : Server} (h : r.FailsAtBindings s published e) :
    ∃ (c : Controller) (noted : ApplicationStatus) (s' : Server),
      noted.consumedServices = r.status.consumedServices ∧ s'.writes = published.writes
        ∧ r.controller.reconcile r.app r.timing s
          = c.conclude r.app (.error e) noted r.timing s' := by
  obtain ⟨t, s₁, s₂, s₃, hturn, haccount, hpublish, hread⟩ := h
  obtain ⟨-, c, hreconcile⟩ := reconcile_of_turn hturn
  have hpass : t.pass.on t.status s₁ = (.error e, t.status, s₃) :=
    Pass.children_of_unread haccount hpublish hread
  rw [Turn.noted, Turn.after, hpass] at hreconcile
  have hreads : (t.app.bindings.on published).2.writes = published.writes :=
    (Access.reads_bindings _ t.app.consumes {}).writes_eq published
  rw [hread] at hreads
  exact ⟨c, t.status, s₃, (turn_frame hturn).2.2.2, hreads, hreconcile⟩

/-- **Before it reads the bindings a round writes** to the account and to the
application's own secret, and to nothing else. -/
theorem writes_of_failsAtBindings {published : Server} (h : r.FailsAtBindings s published e) :
    ∃ made, published.writes = s.writes ++ made ∧ ∀ entry ∈ made,
      entry.call.key? = some (.of ServiceAccount r.app.metadata.nsOrEmpty r.app.name)
        ∨ entry.call.key? = some (.of Secret r.app.metadata.nsOrEmpty r.app.bindingSecretName) := by
  obtain ⟨t, s₁, s₂, s₃, hturn, haccount, hpublish, -⟩ := h
  have hsame : t.app.metadata = r.app.metadata := (turn_frame hturn).2.2.1
  obtain ⟨first, hfirst, hkeys⟩ := (Access.touches_account t.app).writes s₁
  have hpublishes : Access.Touches _ (Access.publish t.app) := Access.touches_publish
  obtain ⟨second, hsecond, hkeys'⟩ := hpublishes.writes s₂
  rw [haccount, (reconcile_of_turn hturn).1] at hfirst
  rw [hpublish] at hsecond
  refine ⟨first ++ second, ?_, fun entry he => ?_⟩
  · rw [hsecond, hfirst, List.append_assoc]
  · rw [Application.name, Application.bindingSecretName, Application.name, ← hsame]
    rcases List.mem_append.1 he with he | he
    · obtain ⟨k, hk, rfl⟩ := hkeys entry he
      exact .inl hk
    · obtain ⟨k, hk, rfl⟩ := hkeys' entry he
      exact .inr hk

/-! ## What a round that fails writes

One statement for both kinds of failure. It speaks of the calls that the cluster
remembers, in their order, and says that the last of them is the report, whether it
was accepted or not; what the others were is said by their keys. -/

/-- **A round that fails before the children** of an application with a
namespace writes nothing but one report of the failure, with what the
application's status listed before; and one that fails at the services that
the application uses wrote to the account and to the application's own secret
only, and then nothing but one such report. -/
theorem writes_of_failure (r : Round) (s : Server) {ns : String} (hns : r.app.ns? = some ns)
    (e : OperatorError) :
    (r.FailsBefore s e → (r.controller.reconcile r.app r.timing s).1.failure = some e
      ∧ ∃ patch refusal, r.status.ReportedBy e patch
        ∧ (r.after s).writes
          = s.writes ++ [⟨.patchStatus (.of Application ns r.app.name) patch, refusal⟩])
    ∧ ∀ published, r.FailsAtBindings s published e →
      (r.controller.reconcile r.app r.timing s).1.failure = some e
        ∧ ∃ (noted : ApplicationStatus) (made : List Entry) (patch : Json)
            (refusal : Option Refusal),
          noted.consumedServices = r.status.consumedServices
          ∧ noted.ReportedBy e patch
          ∧ (r.after s).writes = s.writes ++ made
            ++ [⟨.patchStatus (.of Application ns r.app.name) patch, refusal⟩]
          ∧ published.writes = s.writes ++ made
          ∧ ∀ entry ∈ made, entry.call.key? = some (.of ServiceAccount ns r.app.name)
            ∨ entry.call.key? = some (.of Secret ns r.app.bindingSecretName) := by
  have hempty : r.app.metadata.nsOrEmpty = ns := congrArg (·.getD "") hns
  constructor
  · intro h
    obtain ⟨c, s', hbefore, hreconcile⟩ := reconcile_of_failsBefore h
    obtain ⟨hfailure, patch, refusal, hreport, hwrites⟩ :=
      c.conclude_error hns e r.status r.timing s'
    rw [after, hreconcile, hwrites, hbefore]
    exact ⟨hfailure, patch, refusal, hreport, rfl⟩
  · intro published h
    obtain ⟨c, noted, s', hnoted, hbefore, hreconcile⟩ := reconcile_of_failsAtBindings h
    obtain ⟨hfailure, patch, refusal, hreport, hwrites⟩ := c.conclude_error hns e noted r.timing s'
    obtain ⟨made, hpublished, hmade⟩ := writes_of_failsAtBindings h
    rw [hempty] at hmade
    rw [after, hreconcile, hwrites, hbefore, hpublished]
    exact ⟨hfailure, noted, made, patch, refusal, hnoted, hreport, rfl, rfl, hmade⟩

end Round

/-- Whether two results are the same can be told if it can of what they hold. -/
instance Except.decidableEq {ε α : Type} [DecidableEq ε] [DecidableEq α] :
    DecidableEq (Except ε α)
  | .ok a, .ok b => decidable_of_iff (a = b) ⟨congrArg _, Except.ok.inj⟩
  | .error e, .error f => decidable_of_iff (e = f) ⟨congrArg _, Except.error.inj⟩
  | .ok _, .error _ => isFalse nofun
  | .error _, .ok _ => isFalse nofun

/-- Whether a round fails at the image can be told by making it. -/
theorem Round.failsBefore_of_reads {r : Round} {s : Server} {e : OperatorError}
    (apis : ClusterApis) (layers : StackLayers) (settings : Settings)
    (hserved : (r.served s).1 = .ok apis)
    (hlayers : ((Access.layers r.operatorNs r.app.spec.stack).on (r.served s).2.2).1 = .ok layers)
    (hsettings : ((Access.settings r.operatorNs).on
      ((Access.layers r.operatorNs r.app.spec.stack).on (r.served s).2.2).2).1 = .ok settings)
    (hadmitted : (r.app.normalized layers).2 = .ok ())
    (himage : ((Access.resolveImage apis (r.app.normalized layers).1).on
      ((Access.settings r.operatorNs).on
        ((Access.layers r.operatorNs r.app.spec.stack).on (r.served s).2.2).2).2).1 = .error e) :
    r.FailsBefore s e :=
  .image (Prod.ext hserved rfl) (Prod.ext hlayers rfl) (Prod.ext hsettings rfl) hadmitted
    (Prod.ext himage rfl)

/-- Whether a round fails at the services can be told by making it. -/
theorem Round.failsAtBindings_of_any {r : Round} {s : Server} {e : OperatorError}
    (h : ((r.turn? s).any fun turn =>
      let kept := (Access.account turn.1.app).on turn.2
      let published := (Access.publish turn.1.app).on kept.2
      kept.1 = .ok () ∧ published.1 = .ok () ∧ (turn.1.app.bindings.on published.2).1 = .error e)
        = true) :
    ∃ published, r.FailsAtBindings s published e := by
  obtain ⟨⟨t, s₁⟩, hturn, hruns⟩ := (Option.any_eq_true _ _).1 h
  obtain ⟨hkept, hpublished, hread⟩ := of_decide_eq_true hruns
  exact ⟨_, t, s₁, _, _, hturn, Prod.ext hkept rfl, Prod.ext hpublished rfl, Prod.ext hread rfl⟩

/-- An application that runs an image, with a status that a round has left. -/
def Application.running (app : Application) (image : String) : Application :=
  { app with
    spec := { app.spec with applicationImage := image }
    status := some { (default : ApplicationStatus) with
      consumedServices := some (.singleton "openapi" ["b-y"]), imageReference := some "app@1" } }

/-- So it is where the image stream of an application cannot be read, and
where an application that publishes a secret uses a service that does not. -/
theorem Round.writes_of_failure_of_two_rounds :
    let app : Application := .bound "shop" "web" "u1" true [("a", "x")]
    let streamed := app.running "app:1"
    let bound := app.running "app"
    let s' : Server :=
      { (Server.keeping streamed []).interrupted 7 with apis := .singleton (apiOf ImageStream) 1 }
    let s : Server := .keeping bound []
    (∃ patch refusal, streamed.round.status.ReportedBy (Access.refused .internal) patch
      ∧ (streamed.round.after s').writes
        = [⟨.patchStatus (.of Application "shop" "web") patch, refusal⟩])
    ∧ ∃ (noted : ApplicationStatus) (made : List Entry) (patch : Json) (refusal : Option Refusal),
      noted.consumedServices = bound.round.status.consumedServices
        ∧ noted.ReportedBy (Credentials.secretMissing "a" "a-x") patch
        ∧ (bound.round.after s).writes
          = made ++ [⟨.patchStatus (.of Application "shop" "web") patch, refusal⟩]
        ∧ ∀ entry ∈ made, entry.call.key? = some (.of ServiceAccount "shop" "web")
          ∨ entry.call.key? = some (.of Secret "shop" "shop-web") := by
  intro app streamed bound s' s
  constructor
  · have hfails : streamed.round.FailsBefore s' (Access.refused .internal) :=
      failsBefore_of_reads { image := true } {} {} (by decide +kernel) (by decide +kernel)
        (by decide +kernel) (by decide +kernel) (by decide +kernel)
    exact ((writes_of_failure streamed.round s' rfl _).1 hfails).2
  · obtain ⟨published, hfails⟩ : ∃ published,
        bound.round.FailsAtBindings s published (Credentials.secretMissing "a" "a-x") :=
      failsAtBindings_of_any (by decide +kernel)
    obtain ⟨-, noted, made, patch, refusal, hnoted, hreport, hwrites, -, hmade⟩ :=
      (writes_of_failure bound.round s rfl _).2 published hfails
    exact ⟨noted, made, patch, refusal, hnoted, hreport, hwrites, hmade⟩

end AppOperator
