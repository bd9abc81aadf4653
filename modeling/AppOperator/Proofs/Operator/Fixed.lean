import AppOperator.Proofs.Child.Fixed
import AppOperator.Proofs.Operator.Rounds
import AppOperator.Proofs.Reconcile.Evolving

/-!
# Fields that cannot change are not changed

What a workload keeps for good is as an application of its name makes it, and
setting the workload again, for any other edit of the application, keeps it.
That is a law about a single update. A cluster that refuses to change such
fields sees a history of calls instead: rounds for any applications, of which
any call may be refused, in which workloads are made, set again, removed and
made anew with storage or without.

Along such a history the workloads of a name go on to be as they were made
(`Access.MadeFor`), and each call that replaces one keeps what cannot be
changed of the one that is stored then (`Call.KeepsFixed`). Only admitted
applications come to a turn, which is what makes the first claims of a
stateful set more than an empty listing.

The theorem joins a step and a run. The step compares any two specifications of one
name and is what an editor sees; the run allows for everything that happens between
two edits, and for passes that were cut off in the middle, and it ends with the pass
that comes next, of which every call is accounted for.
-/

namespace AppOperator

/-! ## Workloads of a name

A name may have a deployment, a stateful set or both, and each is as an application of
the name makes it, or absent. A call keeps this if it stores such a workload, and it
keeps the fields if, where it replaces one, it has the same in them. Both are carried
through a pass by the operations on children: setting a workload is the only one that
has anything to show, and all others do not touch it. -/

/-- **The workloads of a name are as an application of that name makes them**,
as far as they cannot be changed. -/
structure Access.MadeFor (ns name : String) (objects : Dict ObjectKey Json) : Prop where
  /-- The deployment. -/
  deployment : ShowsOnly objects ns name (Deployment.IsFor name)
  /-- The stateful set. -/
  statefulSet : ShowsOnly objects ns name (StatefulSet.IsFor name)

/-- **A call that changes nothing of the workloads of a name that cannot be
changed**: where it stores one in the place of another, both can be read and
have the same, and it patches none. -/
structure Call.KeepsFixed (ns name : String) (objects : Dict ObjectKey Json) (c : Call) : Prop where
  /-- Of the deployment. -/
  deployment : ∀ object, c = .replace (.of Deployment ns name) object →
    ∃ old new, Access.Shows objects Deployment ns name (some old)
      ∧ Access.read? Deployment object = some new ∧ new.fixed = old.fixed
  /-- Of the stateful set. -/
  statefulSet : ∀ object, c = .replace (.of StatefulSet ns name) object →
    ∃ old new, Access.Shows objects StatefulSet ns name (some old)
      ∧ Access.read? StatefulSet object = some new ∧ new.fixed = old.fixed
  /-- Of either. -/
  unpatched : ∀ patch, c ≠ .patchStatus (.of Deployment ns name) patch
    ∧ c ≠ .patchStatus (.of StatefulSet ns name) patch

namespace Access

variable {ns name : String} {app : Application} {s : Server}

/-- What a call has to be for the workloads of a name. -/
def KeepsMade (ns name : String) (s : Server) (c : Call) : Prop :=
  Evolves (Deployment.IsFor name) (fun old new => new.fixed = old.fixed) ns name s c
    ∧ Evolves (StatefulSet.IsFor name) (fun old new => new.fixed = old.fixed) ns name s c

theorem KeepsMade.step {c : Call} (h : KeepsMade ns name s c) (hs : MadeFor ns name s.objects) :
    c.KeepsFixed ns name s.objects ∧ MadeFor ns name (s.after c).objects :=
  ⟨⟨h.1.replaces hs.deployment, h.2.replaces hs.statefulSet,
      fun patch => ⟨h.1.unpatched patch, h.2.unpatched patch⟩⟩,
    ⟨h.1.holds hs.deployment, h.2.holds hs.statefulSet⟩⟩

/-- Setting the deployment keeps what cannot be changed of it. -/
theorem evolves_deployment (wiring : Wiring) :
    (writeOwn app app.name (app.deployment wiring)).Along
      (Evolves (Deployment.IsFor name) (fun old new => new.fixed = old.fixed) ns name) s := by
  refine evolves_write (app.steady_deployment wiring) fun _ hname existing child hold hchild => ?_
  subst hname
  obtain ⟨m, -, rfl⟩ := desired_ok.1 hchild
  refine ⟨Application.isFor_deployment wiring _, fun current hcurrent => ?_⟩
  obtain rfl : existing = some current := hcurrent
  exact Application.fixed_deployment wiring
    (show (withMetadata current m).IsFor app.name from hold current rfl)

/-- Setting the stateful set of an admitted application does, too. -/
theorem evolves_statefulSet (hadmitted : app.Admitted) (hstorage : app.usesStorage = true)
    (wiring : Wiring) :
    (writeOwn app app.name (app.statefulSet wiring)).Along
      (Evolves (StatefulSet.IsFor name) (fun old new => new.fixed = old.fixed) ns name) s := by
  refine evolves_write (app.steady_statefulSet wiring) fun _ hname existing child hold hchild => ?_
  subst hname
  obtain ⟨m, -, rfl⟩ := desired_ok.1 hchild
  refine ⟨Application.isFor_statefulSet hadmitted hstorage wiring _, fun current hcurrent => ?_⟩
  obtain rfl : existing = some current := hcurrent
  exact Application.fixed_statefulSet wiring
    (show (withMetadata current m).IsFor app.name from hold current rfl)

/-- All operations on other children leave the workloads alone. -/
theorem admits_keepsMade (app : Application) (ns name : String) :
    Admits app (fun type _ => type ≠ objectType (α := Deployment)
      ∧ type ≠ objectType (α := StatefulSet)) (KeepsMade ns name) :=
  (admits_evolves _ _ ns name app).and (admits_evolves _ _ ns name app)

/-- **All operations of an admitted application** keep its workloads as they were made. -/
theorem admitsChildren_keepsMade (hadmitted : app.Admitted) (apis : ClusterApis)
    (ns name : String) : AdmitsChildren apis app (KeepsMade ns name) := by
  have hothers := admits_keepsMade app ns name
  exact {
    read := fun s _ _ => hothers.read s _ rfl
    remove := fun _ _ => Dialogue.Along.and evolves_deleteOwn evolves_deleteOwn
    account := hothers.write (by decide) true _ app.steady_account
    service := hothers.write (by decide) true _ app.steady_service
    headlessService := fun _ => hothers.write (by decide) true _ app.steady_headlessService
    deployment := fun _ wiring s => Dialogue.Along.and (evolves_deployment wiring)
      ((admits_evolves _ _ ns name app).write (by decide) true _ (app.steady_deployment wiring) s)
    statefulSet := fun hstorage wiring s => Dialogue.Along.and
      ((admits_evolves _ _ ns name app).write (by decide) true _ (app.steady_statefulSet wiring) s)
      (evolves_statefulSet hadmitted hstorage wiring)
    autoscaler := fun _ => hothers.write (by decide) true _ app.steady_autoscaler
    knativeService := fun _ wiring =>
      hothers.write (by decide) true _ (app.steady_knativeService wiring)
    route := fun _ host found => hothers.write (by decide) true _ (app.steady_route host found)
    serviceMonitor := fun _ => hothers.write (by decide) true _ app.steady_serviceMonitor }

end Access

/-! ## Rounds

A round that does not come to a turn writes nothing but a status, and one that does is
a turn of an admitted application. So the workloads of a name stay as they were made
from one round to the next, for rounds of this application or of any other, and the
calls of each turn keep what is fixed of what is stored when they are made. -/

/-- **A turn of an admitted application** keeps the workloads of a name as
they were made, and every call of it keeps what cannot be changed of them. -/
theorem Turn.along_keepsFixed {t : Turn} (hadmitted : t.app.Admitted) {ns name : String}
    {s : Server} (h : Access.MadeFor ns name s.objects) :
    Access.MadeFor ns name (t.after s).objects
      ∧ t.pass.Along (fun s c => c.KeepsFixed ns name s.objects) t.status s := by
  have hkeeps : t.pass.Along (Access.KeepsMade ns name) t.status s :=
    Pass.along_of_admits ((Access.admits_keepsMade t.app ns name).secrets (fun _ => by decide) _)
      (Access.admitsChildren_keepsMade hadmitted t.apis ns name) t.settings s
  obtain ⟨hafter, halong⟩ := Dialogue.Along.invariant hkeeps
    (I := fun s => Access.MadeFor ns name s.objects) h fun s c hc hs => (hc.step hs).2
  exact ⟨hafter, Dialogue.Along.mono halong fun s c hc => (hc.1.step hc.2.1).1⟩

namespace Round

variable {r : Round} {s s₁ : Server} {t : Turn} {ns name : String}

/-- Only an admitted application comes to a turn. -/
theorem admitted_of_turn (h : r.turn? s = some (t, s₁)) : t.app.Admitted := by
  obtain ⟨apis, d, s₀, meant, image, -, hwanted, -, happ⟩ := wanted_of_turn h
  obtain ⟨layers, _, -, hwanted⟩ := Access.on_bind_ok.1 hwanted
  obtain ⟨settings, _, -, hwanted⟩ := Access.on_bind_ok.1 hwanted
  obtain ⟨_, _, hadmitted, hwanted⟩ := Access.on_bind_ok.1 hwanted
  obtain ⟨_, _, -, hwanted⟩ := Access.on_bind_ok.1 hwanted
  obtain ⟨heq, -⟩ := Prod.mk.inj hwanted
  obtain ⟨rfl, -⟩ := Prod.mk.inj (Except.ok.inj heq)
  rw [happ]
  exact Application.admitted_normalized (Access.on_lift_ok.1 hadmitted).1

/-- **A round keeps the workloads of a name as they were made**, however it ends. -/
theorem madeFor_after (r : Round) (h : Access.MadeFor ns name s.objects) :
    Access.MadeFor ns name (r.after s).objects := by
  have hkeys : ∀ {α : Type} [ApiObject α], objectType (α := α) ≠ objectType (α := Application) →
      ObjectKey.of α ns name ≠ Access.keyOfApplication r.app := fun hne hkey =>
    hne (ObjectKey.of_eq_iff.1 hkey).1
  cases hturn : r.turn? s with
  | none =>
    exact ⟨h.deployment.congr (get?_after_of_none (hkeys (by decide)) hturn),
      h.statefulSet.congr (get?_after_of_none (hkeys (by decide)) hturn)⟩
  | some turn =>
    obtain ⟨t, s₁⟩ := turn
    have hstart : Access.MadeFor ns name s₁.objects := (turn_frame hturn).1 ▸ h
    obtain ⟨hafter, -⟩ := t.along_keepsFixed (admitted_of_turn hturn) hstart
    exact ⟨hafter.deployment.congr (get?_after (hkeys (by decide)) hturn),
      hafter.statefulSet.congr (get?_after (hkeys (by decide)) hturn)⟩

end Round

/-- **Fields that cannot be changed never are.** Setting a workload again, for
any other admitted application of the name and with any bindings, keeps them;
so along any rounds for any applications, wherever they are cut off, the
workloads of a name stay as an application of it makes them, and no call of
the pass that comes next would change such a field of what is stored then. -/
theorem fixed_fields_kept :
    (∀ (before after : Application) (wiring wiring' : Wiring), before.Admitted → after.Admitted →
        before.name = after.name →
        (∀ old : Deployment, (after.deployment wiring' (before.deployment wiring old)).fixed
          = (before.deployment wiring old).fixed)
        ∧ (before.usesStorage = true → after.usesStorage = true → ∀ old : StatefulSet,
          (after.statefulSet wiring' (before.statefulSet wiring old)).fixed
            = (before.statefulSet wiring old).fixed))
      ∧ ∀ (rounds : List Round) (next : Round) (s : Server) (ns name : String),
        Access.MadeFor ns name s.objects →
        Access.MadeFor ns name (rounds.foldl Round.after s).objects
          ∧ ∀ t s₁, next.turn? (rounds.foldl Round.after s) = some (t, s₁) →
            t.pass.Along (fun u c => c.KeepsFixed ns name u.objects) t.status s₁ := by
  refine ⟨fun before after wiring wiring' hbefore _ hname => ⟨fun old => ?_, fun hs _ old => ?_⟩,
    fun rounds next s ns name h => ?_⟩
  · exact Application.fixed_deployment wiring' (hname ▸ Application.isFor_deployment wiring old)
  · exact Application.fixed_statefulSet wiring'
      (hname ▸ Application.isFor_statefulSet hbefore hs wiring old)
  · have hrun : Access.MadeFor ns name (rounds.foldl Round.after s).objects := by
      induction rounds generalizing s with
      | nil => exact h
      | cons r rest ih => exact ih _ (r.madeFor_after h)
    refine ⟨hrun, fun t s₁ hturn => ?_⟩
    exact (t.along_keepsFixed (Round.admitted_of_turn hturn)
      ((Round.turn_frame hturn).1 ▸ hrun)).2

/-- So it is where storage of some size is turned into storage by a claim of
another name. -/
theorem fixed_fields_kept_of_other_claim :
    let round (app : Application) : Round := ⟨{ config := {} }, app, ⟨0, 0, 0, default⟩⟩
    let before := Application.storing .sized
    let after := Application.storing (.claimed "data")
    before.storageClaimName ≠ after.storageClaimName
      ∧ (after.statefulSet {} (before.statefulSet {} (blank StatefulSet))).fixed
        = (before.statefulSet {} (blank StatefulSet)).fixed
      ∧ ∃ t s₁, (round after).turn? ([round before].foldl Round.after {}) = some (t, s₁)
        ∧ t.pass.Along (fun u c => c.KeepsFixed "shop" "web" u.objects) t.status s₁ := by
  intro round before after
  obtain ⟨hupdate, hrun⟩ := fixed_fields_kept
  obtain ⟨-, hset⟩ := hupdate before after {} {} (by decide +kernel) (by decide +kernel) rfl
  have hempty : Access.MadeFor "shop" "web" (Dict.empty : Dict ObjectKey Json) :=
    ⟨Access.showsOnly_of_none rfl, Access.showsOnly_of_none rfl⟩
  obtain ⟨-, halong⟩ := hrun [round before] (round after) {} "shop" "web" hempty
  have hturn : ((round after).turn? ([round before].foldl Round.after {})).isSome = true := by
    decide +kernel
  obtain ⟨⟨t, s₁⟩, hturn⟩ := Option.isSome_iff_exists.1 hturn
  exact ⟨by decide +kernel, hset rfl rfl _, t, s₁, hturn, halong t s₁ hturn⟩

end AppOperator
