import AppOperator.Child.Workload
import AppOperator.Layer.Effective
import AppOperator.Proofs.Layer.Admission

/-!
# What a workload keeps for good

Some fields of a workload can be set only when it is made: which pods are its
own, and for a stateful set also the service that gives them their names, the
order in which they start, and the claims that are made for each. A cluster
refuses to change them, so whatever the application sets there must not
depend on anything that an edit of it can change.

The selector, the name of the service and the order depend on the name of the
application alone. The claims do depend on its specification, and they stay
because claims that are there are not set again; but an empty listing counts
as none. So it matters that the first one is not empty, which follows from
what storage is admitted (`Application.exists_storageClaim`): with a size, or
with a claim.

What holds of one step is stated here for any stored object and any two specifications
of one name. What holds of all the passes of an operator, in which the stored object
is what the passes before have left and others have edited, follows by induction over
its rounds.
-/

namespace AppOperator

/-! ## What is fixed

The fields that cannot be changed are collected into one value, by a function from the
workload to what of it is fixed. That a pass keeps them is then an equation between
two such values, which covers each of them and cannot leave one out by an oversight in
a list of statements.

Whether a workload was made for an application is said through the same value: it is
the one that the name of the application determines, with some claims in the case of a
stateful set. It is the invariant of what follows. Making establishes it, and setting
keeps it. -/

/-- **What of a deployment cannot be changed** once it is made. -/
def Deployment.fixed (deployment : Deployment) : Option LabelSelector :=
  deployment.spec.map (·.selector)

/-- The fields of a stateful set that can be set only when it is made. -/
structure StatefulSetSpec.Fixed where
  /-- Which pods are its own. -/
  selector : LabelSelector
  /-- The service that gives its pods their names. -/
  serviceName : String
  /-- Whether pods start one after the other. -/
  podManagementPolicy : Option String
  /-- The claims made for each pod. -/
  volumeClaimTemplates : Option (List VolumeClaim)

/-- **What of a stateful set cannot be changed** once it is made. -/
def StatefulSet.fixed (set : StatefulSet) : Option StatefulSetSpec.Fixed :=
  set.spec.map fun spec =>
    ⟨spec.selector, spec.serviceName, spec.podManagementPolicy, spec.volumeClaimTemplates⟩

/-- **Whether a deployment was made for an application** of this name, as far
as it cannot be changed. -/
def Deployment.IsFor (name : String) (deployment : Deployment) : Prop :=
  deployment.fixed = some (.ofLabels (.singleton Label.app name))

/-- **Whether a stateful set was made for an application** of this name, as
far as it cannot be changed: some claim is made for its pods. -/
def StatefulSet.IsFor (name : String) (set : StatefulSet) : Prop :=
  ∃ claims, claims ≠ [] ∧ set.fixed = some
    ⟨.ofLabels (.singleton Label.app name), name ++ "-headless", some "Parallel", some claims⟩

namespace Application

variable {app : Application}

/-! ## Storage that is admitted

Claims that are there are told from claims that are not by the list being empty. An
application that is admitted and uses storage makes a claim, so that the list is not
empty once the stateful set is there; without that, the second pass would set what the
cluster no longer lets it set. -/

/-- **An application with a specification that is admissible.** -/
def Admitted (app : Application) : Prop := app.spec.validate = .ok ()

/-- What passes the normalisation is admitted. -/
theorem admitted_normalized {layers : StackLayers} (h : (app.normalized layers).2 = .ok ()) :
    (app.normalized layers).1.Admitted := h

theorem admitted_iff : app.Admitted ↔ app.spec.faults = [] := app.spec.validate_eq_ok_iff

instance : DecidablePred Admitted := fun _ => decidable_of_iff _ admitted_iff.symm

/-- What is admitted is in order. -/
theorem Admitted.inOrder (h : app.Admitted) : app.spec.InOrder :=
  app.spec.faults_eq_nil_iff.1 (admitted_iff.1 h)

/-- **Storage that is admitted makes a claim.** -/
theorem exists_storageClaim (h : app.Admitted) (hs : app.usesStorage = true) :
    ∃ claim, app.storageClaim? = some claim := by
  obtain ⟨storage, hstorage⟩ := Option.isSome_iff_exists.1 hs
  rw [← Option.isSome_iff_exists, storageClaim?, hstorage]
  cases hclaim : storage.claimTemplate with
  | some claim => simp [hclaim]
  | none =>
    obtain ⟨size, hsize⟩ := Option.isSome_iff_exists.1
      ((h.inOrder.storage storage hstorage).1.resolve_right (by simp [hclaim]))
    simp [hclaim, hsize]

/-- The claim has the name by which the pods mount it. -/
theorem name_of_storageClaim {claim : VolumeClaim} (h : app.storageClaim? = some claim) :
    claim.metadata.name = some app.storageClaimName := by
  obtain ⟨storage, -, h⟩ := Option.bind_eq_some_iff.1 h
  cases hclaim : storage.claimTemplate with
  | some template =>
    simp only [hclaim] at h
    rw [← Option.some.inj h]
  | none =>
    simp only [hclaim] at h
    obtain ⟨size, -, h⟩ := Option.bind_eq_some_iff.1 h
    rw [← Option.some.inj h]

/-! ## What the application sets

One step, for any stored object. That the object after is one for the application
needs nothing of the object before, so the invariant holds from the first pass on,
also for a workload that somebody else has made; that what is fixed stays needs that
the one before was for the application. -/

/-- A deployment that the application sets is one for it. -/
theorem isFor_deployment (wiring : Wiring) (old : Deployment) :
    (app.deployment wiring old).IsFor app.name := rfl

/-- **A stateful set that the application sets is one for it**, with the
claims that it was made with, or else with the application's own. -/
theorem isFor_statefulSet (h : app.Admitted) (hs : app.usesStorage = true) (wiring : Wiring)
    (old : StatefulSet) : (app.statefulSet wiring old).IsFor app.name := by
  obtain ⟨claim, hclaim⟩ := exists_storageClaim h hs
  by_cases hnone : ((old.spec.getD default).volumeClaimTemplates.getD []).isEmpty = true
  · refine ⟨[claim], by simp, ?_⟩
    simp only [StatefulSet.fixed, statefulSet, Option.map_some, hnone, if_true, hclaim]
    rfl
  · refine ⟨(old.spec.getD default).volumeClaimTemplates.getD [], by simpa using hnone, ?_⟩
    have hsome : (old.spec.getD default).volumeClaimTemplates
        = some ((old.spec.getD default).volumeClaimTemplates.getD []) := by
      cases hclaims : (old.spec.getD default).volumeClaimTemplates with
      | none => simp [hclaims] at hnone
      | some claims => rfl
    simp only [StatefulSet.fixed, statefulSet, Option.map_some, hnone]
    rw [← hsome]
    rfl

/-- A deployment for the application keeps what cannot be changed. -/
theorem fixed_deployment (wiring : Wiring) {old : Deployment} (h : old.IsFor app.name) :
    (app.deployment wiring old).fixed = old.fixed :=
  (isFor_deployment wiring old).trans h.symm

/-- **A stateful set for the application keeps what cannot be changed**, the
claims among it, however the application's storage is set by now. -/
theorem fixed_statefulSet (wiring : Wiring) {old : StatefulSet} (h : old.IsFor app.name) :
    (app.statefulSet wiring old).fixed = old.fixed := by
  obtain ⟨claims, hclaims, hfixed⟩ := h
  obtain ⟨spec, hspec, hfields⟩ := Option.map_eq_some_iff.1 hfixed
  rw [StatefulSetSpec.Fixed.mk.injEq] at hfields
  rw [hfixed]
  simp only [StatefulSet.fixed, statefulSet, hspec, Option.getD_some, hfields.2.2.2,
    Option.map_some, List.isEmpty_iff, hclaims, if_false]
  rfl

end Application

/-! ## Small inputs

Applications and storage by which the general statements, here and elsewhere, are
shown not to be empty. -/

/-- An application that keeps storage. -/
def Application.storing (storage : Storage) : Application :=
  { (default : Application) with
    metadata := { (default : ObjectMeta) with
      name := some "web", ns := some "shop", uid := some "u1" }
    spec := { (default : ApplicationSpec) with
      applicationImage := "app", storage := some storage } }

/-- Storage of some size. -/
def Storage.sized : Storage :=
  { size := some "1Gi", mountPath := some "/data", claimTemplate := none }

/-- Storage that is made by a claim of some name. -/
def Storage.claimed (name : String) : Storage :=
  { size := none, mountPath := some "/data",
    claimTemplate := some { blank VolumeClaim with
      metadata := { (default : ObjectMeta) with name := some name } } }

end AppOperator
