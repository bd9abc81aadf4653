import AppOperator.Proofs.Cluster.Owners

/-!
# Owners under any sequence of operations

Two operations make an application an owner of an object, one as its
controller and one as an owner beside others, and an application may use now
the one and now the other while further applications do the same
(`Owning`, `ObjectMeta.takeAll`).

A step is refused on two grounds only: the application cannot be named in a
reference, or another owner controls the object (`Application.Barred`). It
takes a name as well as an identity to be named, so an application without
a name is refused although nothing else controls the object
(`ObjectMeta.not_owned_without_name`). A refused step changes nothing. Any
other step puts one reference in the place where the application stood, or
at the end, and leaves all other places as they were; so the owners stay in
order however long the sequence is, and after such a step the object is
controlled by its application exactly if the step asked for it.

The result is about metadata alone and so holds of objects of every type. Nothing is
said of who else writes owners: a sequence may begin with any object whose owners are
in order, whoever has put them there.
-/

namespace AppOperator

namespace OwnerReference

variable {r : OwnerReference} {owners : List OwnerReference}

instance (owners : List OwnerReference) : Decidable (Orderly owners) :=
  inferInstanceAs (Decidable (owners.Pairwise fun p q =>
    p.uid ≠ q.uid ∧ ¬ (p.controls = true ∧ q.controls = true)))

/-- The reference to an application. -/
def toApplication (name uid : String) (controls : Bool) : OwnerReference :=
  { apiVersion := Application.apiVersion, kind := Application.kind, name, uid,
    controller := some controls, blockOwnerDeletion := none }

/-- The place of an owner among others: where it stands, else the end. -/
def place (uid : String) (owners : List OwnerReference) : Nat :=
  owners.findIdx fun r => decide (r.uid = uid)

theorem place_cons (uid : String) (old : OwnerReference) (rest : List OwnerReference) :
    place uid (old :: rest) = if old.uid = uid then 0 else place uid rest + 1 := by
  unfold place
  rw [List.findIdx_cons]
  by_cases h : old.uid = uid <;> simp [h]

/-- An owner is put in its place, -/
theorem getElem?_upsert_place (r : OwnerReference) (owners : List OwnerReference) :
    (r.upsert owners)[place r.uid owners]? = some r := by
  induction owners with
  | nil => rfl
  | cons old rest ih =>
    rw [upsert, place_cons]
    split
    · rfl
    · rw [List.getElem?_cons_succ, ih]

/-- and every other place is as it was. -/
theorem getElem?_upsert_of_ne {i : Nat} (h : i ≠ place r.uid owners) :
    (r.upsert owners)[i]? = owners[i]? := by
  induction owners generalizing i with
  | nil =>
    obtain ⟨j, rfl⟩ := Nat.exists_eq_succ_of_ne_zero h
    rfl
  | cons old rest ih =>
    rw [place_cons] at h
    rw [upsert]
    -- the place is the first one, or one among the rest
    split
    · rename_i heq
      rw [if_pos heq] at h
      obtain ⟨j, rfl⟩ := Nat.exists_eq_succ_of_ne_zero h
      rfl
    · rename_i hne
      rw [if_neg hne] at h
      cases i with
      | zero => rfl
      | succ j =>
        rw [List.getElem?_cons_succ, List.getElem?_cons_succ]
        exact ih fun hj => h (congrArg (· + 1) hj)

end OwnerReference

/-! ## One step

A step is refused or it is not, and in both cases everything after it is determined.
When it is refused is said without the operation, by what bars an application from an
object; what it does otherwise is said place by place, which includes that no other
owner was moved, dropped or changed. -/

/-- **One operation on the owners of an object**: an application becomes its
controller, or an owner beside others. -/
structure Owning where
  /-- The application. -/
  app : Application
  /-- Whether it is to control the object. -/
  controls : Bool

/-- What the operation comes to. -/
def Owning.on (step : Owning) (objectKind : String) (m : ObjectMeta) :
    Except OperatorError ObjectMeta :=
  step.app.own step.controls objectKind m

namespace Application

/-- **What bars an application from owning an object**: it cannot be named in
a reference, or another owner controls the object. -/
def Barred (app : Application) (m : ObjectMeta) : Prop :=
  app.metadata.name = none ∨ app.metadata.uid = none
    ∨ ∃ r ∈ m.owners, r.controls = true ∧ app.metadata.uid ≠ some r.uid

/-- **An object after an application has become an owner**: a reference by
its present name stands in the application's place, every other place is as it
was, and nothing but the owners changed. -/
structure BecameOwner (app : Application) (controls : Bool) (before now : ObjectMeta) : Prop where
  /-- The application stands in its old place, or at the end. -/
  placed : ∃ name uid, app.metadata.name = some name ∧ app.metadata.uid = some uid
    ∧ now.owners[OwnerReference.place uid before.owners]? = some (.toApplication name uid controls)
    ∧ ∀ i, i ≠ OwnerReference.place uid before.owners → now.owners[i]? = before.owners[i]?
  /-- The rest of the metadata is as it was. -/
  rest : now = { before with ownerReferences := some now.owners }
  /-- It controls the object if that was asked for. -/
  controlled : now.isControlledBy app = controls

variable {app : Application} {controls : Bool} {objectKind : String} {m m' : ObjectMeta}

/-- An application needs a name and an identity to be named in a reference. -/
theorem ownerReference_eq (controls : Bool) {name uid : String}
    (hname : app.metadata.name = some name) (huid : app.metadata.uid = some uid) :
    app.ownerReference controls = .ok (.toApplication name uid controls) := by
  unfold ownerReference
  rw [hname, huid]
  rfl

/-- **An application that nothing bars becomes an owner.** -/
theorem own_of_not_barred (controls : Bool) (objectKind : String) (h : ¬ app.Barred m) :
    ∃ now, app.own controls objectKind m = .ok now := by
  obtain ⟨hname, huid, hother⟩ :
      app.metadata.name ≠ none ∧ app.metadata.uid ≠ none
        ∧ ∀ r ∈ m.owners, r.controls = true → app.metadata.uid = some r.uid := by
    simpa only [Barred, not_or, not_exists, not_and, ne_eq, Decidable.not_not] using h
  obtain ⟨name, hname⟩ := Option.ne_none_iff_exists'.1 hname
  obtain ⟨uid, huid⟩ := Option.ne_none_iff_exists'.1 huid
  refine ⟨_, own_ok.2 ⟨_, ownerReference_eq controls hname huid, ?_, rfl⟩⟩
  refine ObjectMeta.otherController?_eq_none.2 fun r hr hc => ?_
  exact (Option.some.inj (huid.symm.trans (hother r hr hc))).symm

/-- **An application that became an owner was not barred.** -/
theorem not_barred_of_own (h : app.own controls objectKind m = .ok m') : ¬ app.Barred m := by
  obtain ⟨r, hr, hother, -⟩ := own_ok.1 h
  have huid := (ownerReference_ok hr).1
  rintro (hname | hnone | ⟨q, hq, hc, hne⟩)
  · unfold ownerReference at hr
    rw [hname] at hr
    simp at hr
  · rw [hnone] at huid
    simp at huid
  · rw [ObjectMeta.otherController?_eq_none.1 hother q hq hc] at hne
    exact hne huid

/-- Becoming an owner fails on these grounds alone. -/
theorem own_error_iff :
    (∃ e, app.own controls objectKind m = .error e) ↔ app.Barred m := by
  constructor
  · rintro ⟨e, he⟩
    refine Classical.byContradiction fun hbarred => ?_
    obtain ⟨now, hnow⟩ := own_of_not_barred controls objectKind hbarred
    simp [he] at hnow
  · intro hbarred
    cases hown : app.own controls objectKind m with
    | error e => exact ⟨e, rfl⟩
    | ok now => exact absurd hbarred (not_barred_of_own hown)

/-- Whether an application controls an object it has just become an owner of. -/
theorem isControlledBy_of_own (horderly : OwnerReference.Orderly m.owners)
    (h : app.own controls objectKind m = .ok m') : m'.isControlledBy app = controls := by
  obtain ⟨r, hr, hother, rfl⟩ := own_ok.1 h
  obtain ⟨huid, hcontrols⟩ := ownerReference_ok hr
  have hnow : OwnerReference.Orderly (m.withOwner r).owners :=
    horderly.upsert (ObjectMeta.otherController?_eq_none.1 hother)
  have hself : r ∈ (m.withOwner r).owners := OwnerReference.mem_upsert_self r m.owners
  rw [Bool.eq_iff_iff, ObjectMeta.isControlledBy_iff huid]
  constructor
  · rintro ⟨q, hq, hquid, hqc⟩
    -- of owners in order, only this reference bears the identity
    rw [← hcontrols, ← hnow.eq_of_uid hq hself hquid]
    exact hqc
  · intro hc
    exact ⟨r, hself, rfl, hcontrols.trans hc⟩

/-- **What becoming an owner does.** -/
theorem becameOwner_of_own (horderly : OwnerReference.Orderly m.owners)
    (h : app.own controls objectKind m = .ok m') : app.BecameOwner controls m m' where
  placed := by
    have hfree := not_barred_of_own h
    obtain ⟨name, hname⟩ := Option.ne_none_iff_exists'.1 fun hn => hfree (.inl hn)
    obtain ⟨uid, huid⟩ := Option.ne_none_iff_exists'.1 fun hn => hfree (.inr (.inl hn))
    obtain ⟨r, hr, -, rfl⟩ := own_ok.1 h
    obtain rfl := Except.ok.inj ((ownerReference_eq controls hname huid).symm.trans hr)
    exact ⟨name, uid, hname, huid, OwnerReference.getElem?_upsert_place _ _,
      fun i hi => OwnerReference.getElem?_upsert_of_ne hi⟩
  rest := by
    obtain ⟨r, -, -, rfl⟩ := own_ok.1 h
    rfl
  controlled := isControlledBy_of_own horderly h

end Application

/-! ## Any sequence

The steps of a sequence may be by different applications, and by applications of which
some are renamed or made anew in between. The invariant is that the owners are in
order; it is all that a step needs to know of the steps before it, so the last step of
any sequence is like a first. -/

namespace ObjectMeta

/-- The metadata after an operation; one that is refused leaves it as it was. -/
def take (objectKind : String) (m : ObjectMeta) (step : Owning) : ObjectMeta :=
  match step.on objectKind m with
  | .ok now => now
  | .error _ => m

/-- **The metadata after a sequence of operations.** -/
def takeAll (objectKind : String) (m : ObjectMeta) (steps : List Owning) : ObjectMeta :=
  steps.foldl (take objectKind) m

variable {objectKind : String} {m : ObjectMeta}

/-- A step keeps the owners in order. -/
theorem orderly_take (h : OwnerReference.Orderly m.owners) (step : Owning) :
    OwnerReference.Orderly (m.take objectKind step).owners := by
  unfold take
  cases hstep : step.on objectKind m with
  | error e => exact h
  | ok now =>
    obtain ⟨r, -, hother, rfl⟩ := Application.own_ok.1 hstep
    exact h.upsert (otherController?_eq_none.1 hother)

/-- **Owners stay in order** along any sequence of steps. -/
theorem orderly_takeAll (h : OwnerReference.Orderly m.owners) (steps : List Owning) :
    OwnerReference.Orderly (m.takeAll objectKind steps).owners := by
  induction steps generalizing m with
  | nil => exact h
  | cons step rest ih => exact ih (orderly_take h step)

/-- **What each step of a sequence does**: of an object whose owners are in
order, after any steps by any applications, the next is refused exactly if the
application is barred and then changes nothing, and otherwise puts the
application in its place; either way the owners are still in order. -/
theorem step_of_takeAll (objectKind : String) {m : ObjectMeta}
    (horderly : OwnerReference.Orderly m.owners) (steps : List Owning) (step : Owning) :
    let before := m.takeAll objectKind steps
    let now := m.takeAll objectKind (steps ++ [step])
    OwnerReference.Orderly before.owners ∧ OwnerReference.Orderly now.owners
      ∧ ((∃ e, step.on objectKind before = .error e) ↔ step.app.Barred before)
      ∧ ((∃ e, step.on objectKind before = .error e) → now = before)
      ∧ ∀ result, step.on objectKind before = .ok result →
          now = result ∧ step.app.BecameOwner step.controls before now := by
  intro before now
  have hbefore : OwnerReference.Orderly before.owners := orderly_takeAll horderly steps
  have hnow : now = before.take objectKind step := by
    simp only [now, before, takeAll, List.foldl_append, List.foldl_cons, List.foldl_nil]
  refine ⟨hbefore, orderly_takeAll horderly _, Application.own_error_iff, ?_, ?_⟩
  · rintro ⟨e, he⟩
    rw [hnow, take, he]
  · intro result hresult
    have heq : now = result := by rw [hnow, take, hresult]
    exact ⟨heq, heq ▸ Application.becameOwner_of_own hbefore hresult⟩

/-- Take an object with an owner of another type and one reference to an
application that has another name by now. After a second application joined,
the first becomes the controller in its old place and by its present name. -/
theorem step_of_takeAll_of_renamed :
    let keep : OwnerReference :=
      { apiVersion := "v1", kind := "ConfigMap", name := "keep", uid := "u3", controller := none,
        blockOwnerDeletion := none }
    let m : ObjectMeta :=
      { (default : ObjectMeta) with
        ownerReferences := some [keep, .toApplication "renamed" "u1" false] }
    let web : Application :=
      { (default : Application) with
        metadata := { (default : ObjectMeta) with name := some "web", uid := some "u1" } }
    let shop : Application :=
      { (default : Application) with
        metadata := { (default : ObjectMeta) with name := some "shop", uid := some "u2" } }
    let before := m.takeAll "Deployment" [⟨shop, false⟩]
    let now := m.takeAll "Deployment" [⟨shop, false⟩, ⟨web, true⟩]
    OwnerReference.Orderly m.owners ∧ web.BecameOwner true before now
      ∧ now.owners = [keep, .toApplication "web" "u1" true, .toApplication "shop" "u2" false]
      ∧ (now.takeAll "Deployment" [⟨shop, false⟩]).owners = now.owners := by
  intro keep m web shop before now
  have horderly : OwnerReference.Orderly m.owners := by decide
  have hstep := step_of_takeAll "Deployment" horderly [⟨shop, false⟩] ⟨web, true⟩
  exact ⟨horderly, (hstep.2.2.2.2 _ rfl).2, by decide, by decide⟩

/-- An application that has an identity but no name cannot own an object
that nothing controls: its identity alone does not say when it is refused. -/
theorem not_owned_without_name :
    let nameless : Application :=
      { (default : Application) with
        metadata := { (default : ObjectMeta) with ns := some "shop", uid := some "u1" } }
    let m : ObjectMeta := { (default : ObjectMeta) with name := some "web", ns := some "shop" }
    OwnerReference.Orderly m.owners ∧
      ¬ ((∃ e, nameless.own true "Deployment" m = .error e)
        ↔ nameless.metadata.uid = none
          ∨ ∃ r ∈ m.owners, r.controls = true ∧ nameless.metadata.uid ≠ some r.uid) := by
  intro nameless m
  refine ⟨by decide, fun hiff => ?_⟩
  rcases hiff.1 ⟨_, rfl⟩ with huid | ⟨r, hr, -⟩
  · simp [nameless] at huid
  · exact List.not_mem_nil hr

end ObjectMeta
end AppOperator
