import AppOperator.Cluster.Ownership

/-!
# Laws of ownership

An object is owned in order if no owner is named twice and at most one
controls it (`OwnerReference.Orderly`). The operator keeps it so: an owner is
put in the place of the same owner, and becomes the controller only where no
other is (`Orderly.upsert`), and giving up an owner leaves fewer of them.

To own an object a second time changes nothing (`Application.own_own`), which
is what lets a child that is as it should be stay untouched.

The order of owners matters to nobody, but their places do, as an owner that moved
would make a difference to what is stored and be written again and again. So an owner
is put where it stands already, and the laws are about lists and not about sets.

That something is owned is said in two ways, by an identity among the owners and by a
reference that controls. The first is what copies of secrets are shared by, and the
second is what a child has one of. They are read off the same list, and putting an
owner in its place decides both.
-/

namespace AppOperator

/-- What comes to an answer in two parts. -/
theorem Except.bind_eq_ok {ε α β : Type} {first : Except ε α} {next : α → Except ε β} {b : β} :
    (first >>= next) = .ok b ↔ ∃ a, first = .ok a ∧ next a = .ok b := by
  cases first with
  | error e => simp [bind, Except.bind]
  | ok a => simp [bind, Except.bind]

namespace OwnerReference

variable {r : OwnerReference} {owners : List OwnerReference}

/-- **Owners in order**: no identity twice, and at most one controller. -/
def Orderly (owners : List OwnerReference) : Prop :=
  owners.Pairwise fun p q => p.uid ≠ q.uid ∧ ¬ (p.controls = true ∧ q.controls = true)

/-- Of owners in order one controls at most. -/
theorem Orderly.uid_eq (h : Orderly owners) {p q : OwnerReference} (hp : p ∈ owners)
    (hq : q ∈ owners) (hcp : p.controls = true) (hcq : q.controls = true) : p.uid = q.uid := by
  refine List.Pairwise.forall_of_forall_of_flip
    (R := fun p q => p.controls = true → q.controls = true → p.uid = q.uid)
    (fun _ _ _ _ => rfl) (h.imp fun hpq hp hq => absurd ⟨hp, hq⟩ hpq.2)
    (h.imp fun hpq hp hq => absurd ⟨hq, hp⟩ hpq.2) hp hq hcp hcq

/-- Of owners in order each is named once. -/
theorem Orderly.eq_of_uid (h : Orderly owners) {p q : OwnerReference} (hp : p ∈ owners)
    (hq : q ∈ owners) (huid : p.uid = q.uid) : p = q :=
  List.Pairwise.forall_of_forall_of_flip (R := fun p q => p.uid = q.uid → p = q)
    (fun _ _ _ => rfl) (h.imp fun hpq he => absurd he hpq.1)
    (h.imp fun hpq he => absurd he.symm hpq.1) hp hq huid

theorem mem_upsert {q : OwnerReference} (h : q ∈ r.upsert owners) : q = r ∨ q ∈ owners := by
  induction owners with
  | nil => exact .inl (List.mem_singleton.1 h)
  | cons old rest ih =>
    rw [upsert] at h
    split at h
    · exact (List.mem_cons.1 h).imp_right (List.mem_cons_of_mem _)
    · rcases List.mem_cons.1 h with rfl | h
      · exact .inr (List.mem_cons_self ..)
      · exact (ih h).imp_right (List.mem_cons_of_mem _)

theorem mem_upsert_self (r : OwnerReference) (owners : List OwnerReference) :
    r ∈ r.upsert owners := by
  induction owners with
  | nil => exact List.mem_singleton.2 rfl
  | cons old rest ih =>
    rw [upsert]
    split
    · exact List.mem_cons_self ..
    · exact List.mem_cons_of_mem _ ih

theorem mem_upsert_of_ne {q : OwnerReference} (h : q ∈ owners) (hne : q.uid ≠ r.uid) :
    q ∈ r.upsert owners := by
  induction owners with
  | nil => simp at h
  | cons old rest ih =>
    rw [upsert]
    split
    · rename_i hold
      rcases List.mem_cons.1 h with rfl | h
      · exact absurd hold hne
      · exact List.mem_cons_of_mem _ h
    · rcases List.mem_cons.1 h with rfl | h
      · exact List.mem_cons_self ..
      · exact List.mem_cons_of_mem _ (ih h)

/-- An owner is put among others, if it was known by no other reference. -/
theorem mem_upsert_iff {q : OwnerReference} (hself : ∀ q ∈ owners, q.uid = r.uid → q = r) :
    q ∈ r.upsert owners ↔ q = r ∨ q ∈ owners := by
  refine ⟨mem_upsert, ?_⟩
  rintro (rfl | h)
  · exact mem_upsert_self _ _
  · by_cases huid : q.uid = r.uid
    · exact hself q h huid ▸ mem_upsert_self _ _
    · exact mem_upsert_of_ne h huid

/-- An owner is brought up to date once. -/
@[simp] theorem upsert_upsert (r : OwnerReference) (owners : List OwnerReference) :
    r.upsert (r.upsert owners) = r.upsert owners := by
  induction owners with
  | nil => simp [upsert]
  | cons old rest ih =>
    rw [upsert]
    split
    · rw [upsert, if_pos rfl]
    · rename_i hne
      rw [upsert, if_neg hne, ih]

/-- **An owner beside no other controller** leaves the owners in order,
whether it becomes the controller or not. -/
theorem Orderly.upsert (h : Orderly owners)
    (hother : ∀ q ∈ owners, q.controls = true → q.uid = r.uid) :
    Orderly (r.upsert owners) := by
  induction owners with
  | nil => exact List.pairwise_singleton _ _
  | cons old rest ih =>
    obtain ⟨hold, hrest⟩ := List.pairwise_cons.1 h
    rw [OwnerReference.upsert]
    -- in its old place the owner is beside the same others, at the end beside all
    split
    · rename_i heq
      refine List.pairwise_cons.2 ⟨fun q hq => ?_, hrest⟩
      have hne : r.uid ≠ q.uid := heq ▸ (hold q hq).1
      exact ⟨hne, fun hc => hne (hother q (List.mem_cons_of_mem _ hq) hc.2).symm⟩
    · rename_i hne
      refine List.pairwise_cons.2
        ⟨fun q hq => ?_, ih hrest fun q hq => hother q (List.mem_cons_of_mem _ hq)⟩
      rcases mem_upsert hq with rfl | hq
      · exact ⟨hne, fun hc => hne (hother old (List.mem_cons_self ..) hc.1)⟩
      · exact hold q hq

/-- Fewer owners are still in order. -/
theorem Orderly.filter (h : Orderly owners) (keep : OwnerReference → Bool) :
    Orderly (owners.filter keep) :=
  List.Pairwise.filter keep h

end OwnerReference

namespace ObjectMeta

variable {m : ObjectMeta} {uid : String}

/-- Whether something with an identity is among the owners. -/
def OwnedBy (m : ObjectMeta) (uid : String) : Prop := ∃ r ∈ m.owners, r.uid = uid

@[simp] theorem owners_withOwner (m : ObjectMeta) (r : OwnerReference) :
    (m.withOwner r).owners = r.upsert m.owners := rfl

@[simp] theorem withOwner_withOwner (m : ObjectMeta) (r : OwnerReference) :
    (m.withOwner r).withOwner r = m.withOwner r := by
  show { m with ownerReferences := some (r.upsert (m.withOwner r).owners) } = m.withOwner r
  rw [owners_withOwner, OwnerReference.upsert_upsert]
  rfl

@[simp] theorem owners_withoutOwner (m : ObjectMeta) (uid : String) :
    (m.withoutOwner uid).owners = m.owners.filter (·.uid ≠ uid) := rfl

theorem otherController?_eq_none :
    m.otherController? uid = none ↔ ∀ r ∈ m.owners, r.controls = true → r.uid = uid := by
  unfold otherController?
  rw [List.find?_eq_none]
  simp

/-- Who controls an object can be told by the owners. -/
theorem isControlledBy_iff {app : Application} (huid : app.metadata.uid = some uid) :
    m.isControlledBy app = true ↔ ∃ r ∈ m.owners, r.uid = uid ∧ r.controls = true := by
  unfold isControlledBy
  rw [huid, List.any_eq_true]
  simp only [Bool.and_eq_true, decide_eq_true_eq]
  exact exists_congr fun r => and_congr_right fun _ => and_comm

/-- Nothing else controls an object once it has an owner beside no other controller. -/
theorem otherController?_withOwner {r : OwnerReference} (h : m.otherController? r.uid = none) :
    (m.withOwner r).otherController? r.uid = none := by
  rw [otherController?_eq_none] at h ⊢
  intro q hq hc
  rcases OwnerReference.mem_upsert hq with rfl | hq
  · rfl
  · exact h q hq hc

end ObjectMeta

namespace Application

variable {app : Application} {controls : Bool} {objectKind : String} {m m' : ObjectMeta}
  {r : OwnerReference}

/-- The reference to an application bears its identity. -/
theorem ownerReference_ok (h : app.ownerReference controls = .ok r) :
    app.metadata.uid = some r.uid ∧ r.controls = controls := by
  unfold ownerReference at h
  split at h
  · rename_i name uid hname huid
    obtain rfl := Except.ok.inj h
    exact ⟨huid, by cases controls <;> rfl⟩
  · simp at h

/-- **What it takes to own an object**: an identity, and that nothing else
controls the object. -/
theorem own_ok : app.own controls objectKind m = .ok m' ↔
    ∃ r, app.ownerReference controls = .ok r ∧ m.otherController? r.uid = none
      ∧ m' = m.withOwner r := by
  unfold own
  rw [Except.bind_eq_ok]
  refine exists_congr fun r => and_congr_right fun _ => ?_
  cases m.otherController? r.uid with
  | some c => simp [throw, throwThe, MonadExceptOf.throw]
  | none =>
    simp only [true_and]
    exact ⟨fun h => (Except.ok.inj h).symm, fun h => congrArg Except.ok h.symm⟩

/-- An object that an application owns is owned already. -/
theorem own_own (h : app.own controls objectKind m = .ok m') :
    app.own controls objectKind m' = .ok m' := by
  obtain ⟨r, hr, ho, rfl⟩ := own_ok.1 h
  exact own_ok.2 ⟨r, hr, ObjectMeta.otherController?_withOwner ho, (m.withOwner_withOwner r).symm⟩

/-- That an object is owned already only depends on its owners. -/
theorem own_self_congr (h : app.own controls objectKind m = .ok m)
    (heq : m'.ownerReferences = m.ownerReferences) : app.own controls objectKind m' = .ok m' := by
  obtain ⟨r, hr, ho, hself⟩ := own_ok.1 h
  refine own_ok.2 ⟨r, hr, ?_, ?_⟩
  · rw [ObjectMeta.otherController?_eq_none, ObjectMeta.owners, heq]
    exact ObjectMeta.otherController?_eq_none.1 ho
  · have hreferences : m'.ownerReferences = some (r.upsert m'.owners) := by
      rw [ObjectMeta.owners, heq]
      exact congrArg ObjectMeta.ownerReferences hself
    unfold ObjectMeta.withOwner
    rw [← hreferences]

end Application
end AppOperator
