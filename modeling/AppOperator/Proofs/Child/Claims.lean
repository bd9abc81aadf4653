import AppOperator.Proofs.Child.Fixed

/-!
# Storage and where it is mounted

The pods of a stateful set find their storage under the name of a claim. The
claims are set once, by the first specification that the stateful set is made
for; the mount is set again with every specification, under the name that the
storage has by then. The two are in step as long as that name is the one that
it was at first, and only so (`Application.mountsClaim_iff`): if storage of
some size becomes storage by a claim with a name, or a claim is given another
name, the pods mount what no claim makes.

The argument follows the claims along the history. After the first
specification there is a claim, since storage is admitted only if it makes
one, and from then on claims stay (`Application.claims_after`).

Both directions are needed by whoever edits an application. That storage named as at
first is mounted says that growing it, or setting anything else of it, is safe; that
no other is says that there is no way to rename it in place. Nothing is assumed of the
histories but that each specification was admitted and has storage, which the operator
checks before it sets anything.
-/

namespace AppOperator

/-! ## Claims and mounts of a stateful set

What matters of a stateful set are two lists that lie far apart in it: the claims in
its own specification, and the mounts in the container that runs the application. The
storage is where it should be if the one mount at its path bears the name of one of
the claims. A mount that bears another name makes pods that never start, and nothing
in either list shows it.

A history is a list of applications, each with what its bindings are wired to, and the
stateful set is what folding over it leaves. The specification that is set last is the
one whose mount is looked at, and the one that is set first is the one whose claims
are there. -/

namespace StatefulSet

/-- The claims that are made for each pod. -/
def claims (set : StatefulSet) : List VolumeClaim :=
  (set.spec.bind (·.volumeClaimTemplates)).getD []

/-- What the container that runs the application mounts at a path. -/
def mountsAt (set : StatefulSet) (path : String) : List VolumeMount :=
  let containers := ((set.spec.bind (·.template.spec)).map (·.containers)).getD []
  (((Application.containerIn containers).volumeMounts).getD []).filter (·.mountPath = path)

/-- **The storage is mounted at a path**: there is one mount, and it is that
of a claim. -/
def MountsClaim (set : StatefulSet) (path : String) : Prop :=
  ∃ mount, set.mountsAt path = [mount]
    ∧ ∃ claim ∈ set.claims, claim.metadata.name = some mount.name

/-- **The stateful set of a history** of applications with their bindings,
each set in turn in what the ones before have left, beginning with a new one. -/
def after (history : List (Application × Wiring)) : StatefulSet :=
  history.foldl (fun set p => p.1.statefulSet p.2 set) (blank StatefulSet)

theorem after_concat (earlier : List (Application × Wiring)) (app : Application)
    (wiring : Wiring) :
    after (earlier ++ [(app, wiring)]) = app.statefulSet wiring (after earlier) :=
  List.foldl_append ..

end StatefulSet

namespace Application

variable {app : Application} {wiring : Wiring}

/-- **Claims that are there stay**; else the application's own are made. -/
theorem claims_statefulSet (old : StatefulSet) :
    (app.statefulSet wiring old).claims
      = if old.claims = [] then app.storageClaim?.toList else old.claims := by
  have hclaims : old.claims = (old.spec.getD default).volumeClaimTemplates.getD [] := by
    unfold StatefulSet.claims
    cases old.spec with
    | none => rfl
    | some spec => rfl
  rw [hclaims]
  simp only [StatefulSet.claims, statefulSet, Option.bind_some, List.isEmpty_iff]
  split
  · cases app.storageClaim? <;> rfl
  · rfl

/-- **The claims of a stateful set are those of the first specification** that
it was made for, as long as all are admitted. -/
theorem claims_after {history : List (Application × Wiring)}
    (h : ∀ p ∈ history, p.1.Admitted ∧ p.1.usesStorage = true) :
    (StatefulSet.after history).claims
      = (history.head?.bind (·.1.storageClaim?)).toList := by
  -- claims that are there stay, whatever comes after the first
  have hstay : ∀ (rest : List (Application × Wiring)) (set : StatefulSet), set.claims ≠ [] →
      (rest.foldl (fun set p => p.1.statefulSet p.2 set) set).claims = set.claims := by
    intro rest
    induction rest with
    | nil => exact fun _ _ => rfl
    | cons p rest ih =>
      intro set hset
      have hnext : (p.1.statefulSet p.2 set).claims = set.claims := by
        rw [claims_statefulSet, if_neg hset]
      rw [List.foldl_cons, ih _ (hnext ▸ hset), hnext]
  cases history with
  | nil => rfl
  | cons p rest =>
    obtain ⟨hadmitted, hstorage⟩ := h p (List.mem_cons_self ..)
    obtain ⟨claim, hclaim⟩ := exists_storageClaim hadmitted hstorage
    have hfirst : (p.1.statefulSet p.2 (blank StatefulSet)).claims = [claim] := by
      have hnew : (blank StatefulSet).claims = [] := rfl
      rw [claims_statefulSet, if_pos hnew, hclaim]
      rfl
    rw [StatefulSet.after, List.foldl_cons, hstay rest _ (by simp [hfirst]), hfirst,
      List.head?_cons, Option.bind_some, hclaim]
    rfl

/-- **The storage is mounted under the name that it has now**, where nothing
else is mounted. -/
theorem mountsAt_statefulSet {path : String} (old : StatefulSet)
    (hpath : app.spec.storage.bind (·.mountPath) = some path)
    (hfree : ∀ m ∈ app.spec.volumeMounts.getD [] ++ wiring.mounts, m.mountPath ≠ path) :
    (app.statefulSet wiring old).mountsAt path = [
      { name := app.storageClaimName, mountPath := path, readOnly := none, other := default }] := by
  have hlisted : ∀ mounts : List VolumeMount, (unlessEmpty mounts).getD [] = mounts := by
    intro mounts
    cases mounts <;> rfl
  show ((unlessEmpty (app.mounts wiring)).getD []).filter _ = _
  rw [hlisted, mounts, hpath]
  dsimp only
  generalize app.spec.volumeMounts.getD [] ++ wiring.mounts = others at hfree
  have hothers : others.filter (·.mountPath = path) = [] := by
    simpa using hfree
  rw [if_neg (by simpa using hfree), List.filter_append, hothers]
  simp

/-- **Mount and claim are in step exactly if the storage is named as at first.**
For every history of admitted specifications with storage, each set in the
stateful set that the others have left, beginning with a new one: where the
specification that is set last mounts its storage, and nothing else is mounted
there, it mounts a claim if and only if its storage has the name that storage
had in the first. -/
theorem mountsClaim_iff (earlier : List (Application × Wiring)) (app : Application)
    (wiring : Wiring) {path : String}
    (hearlier : ∀ p ∈ earlier, p.1.Admitted ∧ p.1.usesStorage = true) (happ : app.Admitted)
    (hpath : app.spec.storage.bind (·.mountPath) = some path)
    (hfree : ∀ m ∈ app.spec.volumeMounts.getD [] ++ wiring.mounts, m.mountPath ≠ path) :
    (StatefulSet.after (earlier ++ [(app, wiring)])).MountsClaim path
      ↔ app.storageClaimName
        = ((earlier.head?.map Prod.fst).getD app).storageClaimName := by
  have hstorage : app.usesStorage = true := by
    obtain ⟨storage, hstorage, -⟩ := Option.bind_eq_some_iff.1 hpath
    exact Option.isSome_iff_exists.2 ⟨storage, hstorage⟩
  -- the history with the specification that is set last
  have hall : ∀ p ∈ earlier ++ [(app, wiring)], p.1.Admitted ∧ p.1.usesStorage = true :=
    List.forall_mem_append.2 ⟨hearlier, List.forall_mem_singleton.2 ⟨happ, hstorage⟩⟩
  generalize hfirst : ((earlier.head?.map Prod.fst).getD app) = first
  have hhead : (earlier ++ [(app, wiring)]).head?.bind (·.1.storageClaim?) = first.storageClaim?
      ∧ first.Admitted ∧ first.usesStorage = true := by
    cases earlier with
    | nil =>
      obtain rfl : app = first := hfirst
      exact ⟨rfl, happ, hstorage⟩
    | cons p rest =>
      obtain rfl : p.1 = first := hfirst
      exact ⟨rfl, hearlier p (List.mem_cons_self ..)⟩
  obtain ⟨hclaims, hadmitted, hstored⟩ := hhead
  obtain ⟨claim, hclaim⟩ := exists_storageClaim hadmitted hstored
  unfold StatefulSet.MountsClaim
  rw [claims_after hall, hclaims, hclaim, StatefulSet.after_concat,
    mountsAt_statefulSet _ hpath hfree]
  simp [name_of_storageClaim hclaim, eq_comm]

/-- So it is where the storage becomes larger. -/
theorem mountsClaim_iff_of_larger :
    let larger : Storage := { Storage.sized with size := some "2Gi" }
    (StatefulSet.after [(.storing .sized, {}), (.storing larger, {})]).MountsClaim "/data" := by
  intro larger
  exact (mountsClaim_iff [(.storing .sized, {})] (.storing larger) {} (by decide +kernel)
    (by decide +kernel) rfl (by decide +kernel)).2 rfl

/-- **Pods can mount what no claim makes**: where storage of some size becomes
storage by a claim of another name. -/
theorem not_mountsClaim_of_claimed :
    let before : Application := .storing .sized
    let current : Application := .storing (.claimed "data")
    before.Admitted ∧ current.Admitted ∧ before.usesStorage = true ∧ current.usesStorage = true
      ∧ current.spec.storage.bind (·.mountPath) = some "/data"
      ∧ (∀ m ∈ current.spec.volumeMounts.getD [], m.mountPath ≠ "/data")
      ∧ ¬ (StatefulSet.after [(before, {}), (current, {})]).MountsClaim "/data" := by
  intro before current
  refine ⟨by decide +kernel, by decide +kernel, rfl, rfl, rfl, by decide +kernel, ?_⟩
  rintro ⟨mount, hmount, claim, hclaim, hname⟩
  have hmounted : (StatefulSet.after [(before, {}), (current, {})]).mountsAt "/data"
      = [{ name := "data", mountPath := "/data", readOnly := none, other := default }] := by
    decide +kernel
  obtain rfl := List.singleton_inj.1 (hmount.symm.trans hmounted)
  have hclaims : (StatefulSet.after [(before, {}), (current, {})]).claims.all
      (·.metadata.name = some "pvc") = true := by
    decide +kernel
  have hpvc := of_decide_eq_true (List.all_eq_true.1 hclaims claim hclaim)
  rw [hname] at hpvc
  simp at hpvc

end Application
end AppOperator
