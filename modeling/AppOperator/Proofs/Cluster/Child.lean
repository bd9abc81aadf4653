import AppOperator.Proofs.Child.Steady
import AppOperator.Proofs.Cluster.Access
import AppOperator.Proofs.Cluster.Owners

/-!
# What becomes of a child

Writing a child, removing it and giving it up each read what is stored and
make one more call at most. This module says once for each of them which
calls it can make, and on what grounds (`along_write`, `along_deleteOwn`,
`along_release`), and what is stored when it has succeeded (`write_ok`,
`deleteOwn_ok`, `release_ok`). All later laws follow from these.

Which call is made depends on the child that was found and on nothing else, and a law
of calls is asked for only in the cases in which the call is made. The laws come in
two strengths. The exact cases (`write_cases`, `deleteOwn_cases`, `release_cases`)
hold on every cluster and say which call was made and answered how; the shorter forms
are for clusters that are truthful, on which what was found is what is stored.
-/

namespace AppOperator

/-! ## What is to be stored

Before a child is written it is computed from the stored one, without a call.
`Access.desired` can fail, if the application cannot be named as an owner or if
another one controls the child, and what is known when it does not fail is collected
here: the name, the owners, and that a child that is as it should be is computed from
itself unchanged. The last is why a second write is none. -/

theorem Application.ns_ok {app : Application} {ns : String} (h : app.ns = .ok ns) :
    app.metadata.nsOrEmpty = ns := by
  unfold Application.ns at h
  split at h
  · rename_i ns' hns
    obtain rfl := Except.ok.inj h
    exact congrArg (·.getD "") hns
  · simp at h

namespace Access

variable {α : Type} [ApiObject α] {app : Application} {controls : Bool} {ns name : String}
  {update : α → α} {existing : Option α} {child : α}

/-- **The child that is to be stored** is the stored one, or a new one, under
its name and owned by the application, with what the application sets. -/
theorem desired_ok : desired app controls ns name update existing = .ok child ↔
    ∃ m, app.own controls (objectType (α := α)).kind
        { metadata (existing.getD (blank α)) with name := some name, ns := some ns } = .ok m
      ∧ child = update (withMetadata (existing.getD (blank α)) m) := by
  unfold desired
  rw [Except.bind_eq_ok]
  refine exists_congr fun m => and_congr_right fun _ => ?_
  exact ⟨fun h => (Except.ok.inj h).symm, fun h => congrArg Except.ok h.symm⟩

/-- The child bears its name, and its owners are those of the stored one with
the application among them. -/
theorem metadata_of_desired (hu : KeepsIdentity update)
    (h : desired app controls ns name update existing = .ok child) :
    (metadata child).name = some name ∧ (metadata child).ns = some ns
      ∧ ∃ r, app.ownerReference controls = .ok r
        ∧ (metadata (existing.getD (blank α))).otherController? r.uid = none
        ∧ (metadata child).owners = r.upsert (metadata (existing.getD (blank α))).owners := by
  obtain ⟨m, hm, rfl⟩ := desired_ok.1 h
  obtain ⟨r, hr, ho, rfl⟩ := Application.own_ok.1 hm
  refine ⟨?_, ?_, r, hr, ho, ?_⟩
  · rw [hu.name_eq, ApiObject.metadata_withMetadata]
    rfl
  · rw [hu.ns_eq, ApiObject.metadata_withMetadata]
    rfl
  · rw [ObjectMeta.owners, hu.ownerReferences_eq, ApiObject.metadata_withMetadata]
    rfl

/-- A child that is written as the application's alone is controlled by it. -/
theorem isControlledBy_of_desired (hu : KeepsIdentity update)
    (h : desired app true ns name update existing = .ok child) :
    (metadata child).isControlledBy app = true := by
  obtain ⟨-, -, r, hr, -, howners⟩ := metadata_of_desired hu h
  obtain ⟨huid, hcontrols⟩ := Application.ownerReference_ok hr
  exact (ObjectMeta.isControlledBy_iff huid).2
    ⟨r, howners ▸ OwnerReference.mem_upsert_self _ _, rfl, hcontrols⟩

/-- One that is shared is not, if its owners are in order. -/
theorem not_isControlledBy_of_desired (hu : KeepsIdentity update)
    (h : desired app false ns name update existing = .ok child)
    (horderly : OwnerReference.Orderly (metadata child).owners) :
    ¬ (metadata child).isControlledBy app = true := by
  obtain ⟨-, -, r, hr, -, howners⟩ := metadata_of_desired hu h
  obtain ⟨huid, hshared⟩ := Application.ownerReference_ok hr
  rw [ObjectMeta.isControlledBy_iff huid]
  rintro ⟨q, hq, hself, hcontrols⟩
  obtain rfl := horderly.eq_of_uid hq (howners ▸ OwnerReference.mem_upsert_self _ _) hself
  rw [hshared] at hcontrols
  exact Bool.false_ne_true hcontrols

/-- A new child has no owners. -/
theorem owners_blank [Legible α] : (metadata (blank α)).owners = [] := by
  rw [Legible.metadata_blank]
  rfl

/-- Being shared puts no application in control of a child. -/
theorem isControlledBy_of_desired_shared [Legible α] (hu : KeepsIdentity update)
    (h : desired app false ns name update existing = .ok child)
    (hcontrols : (metadata child).isControlledBy app = true) :
    existing.any (fun a => (metadata a).isControlledBy app) = true := by
  obtain ⟨-, -, r, hr, -, howners⟩ := metadata_of_desired hu h
  obtain ⟨huid, hshared⟩ := Application.ownerReference_ok hr
  obtain ⟨q, hq, hself, hcontrols⟩ := (ObjectMeta.isControlledBy_iff huid).1 hcontrols
  rcases OwnerReference.mem_upsert (howners ▸ hq) with rfl | hq
  · rw [hshared] at hcontrols
    exact absurd hcontrols Bool.false_ne_true
  · cases existing with
    | none =>
      rw [Option.getD_none, owners_blank] at hq
      exact absurd hq List.not_mem_nil
    | some a => exact (ObjectMeta.isControlledBy_iff huid).2 ⟨q, hq, hself, hcontrols⟩

/-- **A child that is as it should be is to be stored as it is.** -/
theorem desired_desired (hu : Steady update)
    (h : desired app controls ns name update existing = .ok child) :
    desired app controls ns name update (some child) = .ok child := by
  obtain ⟨hname, hns, -⟩ := metadata_of_desired hu.keeps h
  obtain ⟨m, hm, rfl⟩ := desired_ok.1 h
  generalize hstart : withMetadata (existing.getD (blank α)) m = start at hname hns ⊢
  have hstay : { metadata (update start) with name := some name, ns := some ns }
      = metadata (update start) := by
    rw [← hname, ← hns]
  -- the update leaves the owners alone, so the child is owned as it was before it
  have howners : (metadata (update start)).ownerReferences = m.ownerReferences := by
    rw [hu.keeps.ownerReferences_eq, ← hstart, ApiObject.metadata_withMetadata]
  refine desired_ok.2 ⟨metadata (update start), ?_, ?_⟩
  · rw [Option.getD_some, hstay]
    exact Application.own_self_congr (Application.own_own hm) howners
  · rw [Option.getD_some, ApiObject.withMetadata_metadata, hu.settled]

end Access

/-! ## What is stored comes first

All three operations begin alike: the application's namespace is needed, and the
stored child is read. What holds of this beginning is stated for any way of going on
with it, once for the calls that are made and once for what is known when it
succeeded. -/

namespace Access

variable {α β : Type} [ApiObject α] {P : Server → Call → Prop} {s s' : Server} {app : Application}
  {name : String}

/-- What goes on in the namespace of the application needs one. -/
theorem ns_of_on {next : String → Access β} {b : β}
    (h : (do let ns ← app.ns; next ns : Access β).on s = (.ok b, s')) :
    app.ns = .ok app.metadata.nsOrEmpty := by
  obtain ⟨ns, t, hns, -⟩ := on_bind_ok.1 h
  obtain ⟨hok, -⟩ := on_lift_ok.1 hns
  rw [Application.ns_ok hok, hok]

section Stored

variable {next : String → Option α → Access β}

/-- **The calls of an operation on a child**: the stored one is read, and the
rest goes on with it. -/
theorem along_onStored (hget : P s (.get (.of α app.metadata.nsOrEmpty name)))
    (hnext : ∀ existing,
      (∀ child ∈ existing, Shows s.objects α app.metadata.nsOrEmpty name (some child)) →
      (next app.metadata.nsOrEmpty existing).Along P
        (s.after (.get (.of α app.metadata.nsOrEmpty name)))) :
    (do let ns ← app.ns; let existing ← find α ns name; next ns existing : Access β).Along P s := by
  refine along_bind (along_lift _) fun ns t hns => ?_
  obtain ⟨hok, rfl⟩ := on_lift_ok.1 hns
  obtain rfl := Application.ns_ok hok
  refine along_bind (along_find hget) fun existing t hfind => ?_
  obtain ⟨rfl, ⟨child, rfl, hshows⟩ | ⟨rfl, -⟩⟩ := find_ok hfind
  · refine hnext (some child) fun _ hchild => ?_
    obtain rfl := Option.some.inj hchild
    exact hshows
  · exact hnext none fun _ hchild => by simp at hchild

/-- **What an operation goes on with was found.** -/
theorem onStored_found {b : β}
    (h : (do let ns ← app.ns; let existing ← find α ns name; next ns existing : Access β).on s
      = (.ok b, s')) :
    ∃ existing t, (find α app.metadata.nsOrEmpty name).on s = (.ok existing, t)
      ∧ (next app.metadata.nsOrEmpty existing).on t = (.ok b, s') := by
  obtain ⟨ns, t, hns, h⟩ := on_bind_ok.1 h
  obtain ⟨hok, rfl⟩ := on_lift_ok.1 hns
  obtain rfl := Application.ns_ok hok
  exact on_bind_ok.1 h

/-- So it is stored, and on a truthful cluster nothing is if the operation
goes on with nothing. -/
theorem onStored_ok {b : β}
    (h : (do let ns ← app.ns; let existing ← find α ns name; next ns existing : Access β).on s
      = (.ok b, s')) :
    ∃ existing, (∀ child ∈ existing, Shows s.objects α app.metadata.nsOrEmpty name (some child))
      ∧ (s.Truthful → Shows s.objects α app.metadata.nsOrEmpty name existing)
      ∧ (next app.metadata.nsOrEmpty existing).on
        (s.after (.get (.of α app.metadata.nsOrEmpty name))) = (.ok b, s') := by
  obtain ⟨existing, t, hfind, h⟩ := onStored_found h
  obtain ⟨rfl, ⟨child, rfl, hshows⟩ | ⟨rfl, hnone⟩⟩ := find_ok hfind
  · refine ⟨some child, fun _ hchild => ?_, fun _ => hshows, h⟩
    obtain rfl := Option.some.inj hchild
    exact hshows
  · exact ⟨none, fun _ hchild => by simp at hchild, hnone, h⟩

end Stored

/-! ## Writing

A write is one of three things, and which one it was is known from its answer.
`Access.write_cases` keeps the whole account, with the writes that the cluster
remembers; `Access.write_ok` is what is left of it when only the stored child matters,
as it mostly does. -/

section Write

variable {controls : Bool} {update : α → α}

/-- **The calls of a write**: the stored child is read, and then one is
created, replaced or neither, with the child that is to be stored. -/
theorem along_write (hu : KeepsIdentity update)
    (hget : P s (.get (.of α app.metadata.nsOrEmpty name)))
    (hcreate : ∀ child, desired app controls app.metadata.nsOrEmpty name update none = .ok child →
      P (s.after (.get (.of α app.metadata.nsOrEmpty name)))
        (.create (.of α app.metadata.nsOrEmpty name) (encode child)))
    (hreplace : ∀ current child, Shows s.objects α app.metadata.nsOrEmpty name (some current) →
      desired app controls app.metadata.nsOrEmpty name update (some current) = .ok child →
      P (s.after (.get (.of α app.metadata.nsOrEmpty name)))
        (.replace (.of α app.metadata.nsOrEmpty name) (encode child))) :
    (write app controls name update).Along P s := by
  refine along_onStored hget fun existing hexisting => ?_
  refine along_bind (along_lift _) fun child t hdesired => ?_
  obtain ⟨hchild, rfl⟩ := on_lift_ok.1 hdesired
  cases existing with
  | none =>
    refine along_bind (along_require ?_) fun _ _ _ => along_pure _
    have hname := (metadata_of_desired hu hchild).1
    rw [ObjectMeta.nameOrEmpty, hname]
    exact hcreate child hchild
  | some current =>
    show (if encode current = encode child then pure .unchanged
      else do replace _ name child; pure .updated : Access Outcome).Along P _
    split
    · exact along_pure _
    · refine along_bind (along_require ?_) fun _ _ _ => along_pure _
      exact hreplace current child (hexisting current rfl) hchild

theorem touches_write (hu : KeepsIdentity update) :
    Touches (· = .of α app.metadata.nsOrEmpty name) (write app controls name update) := fun _ =>
  along_write hu (fun hw => absurd hw (by simp [Call.isWrite]))
    (fun _ _ _ k hk => (Option.some.inj hk).symm) fun _ _ _ _ _ k hk => (Option.some.inj hk).symm

/-- **What a write has done that succeeded**: it made the child where there was
none, it found the child as it is to be, or it put the child in the place of another. -/
theorem write_cases [Legible α] (hu : KeepsIdentity update) {outcome : Outcome}
    (h : (write app controls name update).on s = (.ok outcome, s')) :
    ∃ existing child, Shows s.objects α app.metadata.nsOrEmpty name existing
      ∧ desired app controls app.metadata.nsOrEmpty name update existing = .ok child
      ∧ ((outcome = .created ∧ existing = none
          ∧ s'.objects = s.objects.insert (.of α app.metadata.nsOrEmpty name) (encode child)
          ∧ s'.writes = s.writes
            ++ [⟨.create (.of α app.metadata.nsOrEmpty name) (encode child), none⟩])
        ∨ (outcome = .unchanged ∧ existing = some child
          ∧ s'.objects = s.objects ∧ s'.writes = s.writes)
        ∨ (outcome = .updated ∧ existing.isSome
          ∧ s'.objects = s.objects.insert (.of α app.metadata.nsOrEmpty name) (encode child)
          ∧ s'.writes = s.writes
            ++ [⟨.replace (.of α app.metadata.nsOrEmpty name) (encode child), none⟩])) := by
  obtain ⟨existing, hexisting, -, h⟩ := onStored_ok h
  obtain ⟨child, t, hdesired, h⟩ := on_bind_ok.1 h
  obtain ⟨hchild, rfl⟩ := on_lift_ok.1 hdesired
  have hread : (s.after (.get (.of α app.metadata.nsOrEmpty name))).writes = s.writes :=
    Server.after_writes_of_read rfl
  refine ⟨existing, child, ?_⟩
  cases existing with
  | none =>
    obtain ⟨_, t, hcreate, h⟩ := on_bind_ok.1 h
    obtain ⟨hout, rfl⟩ := Prod.mk.inj h
    obtain ⟨rfl, hp⟩ := require_ok hcreate
    rw [ObjectMeta.nameOrEmpty, (metadata_of_desired hu hchild).1] at hp ⊢
    obtain ⟨hanswer, hobjects⟩ := Server.answer_of_ok hp
    have habsent := Server.get?_of_created hanswer
    rw [Server.after_objects_get] at habsent hobjects
    have hwrites := Server.after_writes_of_ok hp rfl
    rw [hread] at hwrites
    exact ⟨shows_none.2 habsent, hchild,
      .inl ⟨(Except.ok.inj hout).symm, rfl, hobjects, hwrites⟩⟩
  | some current =>
    refine ⟨hexisting current rfl, hchild, .inr ?_⟩
    change (if encode current = encode child then pure .unchanged
      else do replace _ name child; pure .updated : Access Outcome).on _ = _ at h
    split at h
    · -- written alike the two are the same, so the child is stored already
      rename_i hsame
      obtain ⟨hout, rfl⟩ := Prod.mk.inj h
      exact .inl ⟨(Except.ok.inj hout).symm, congrArg some (encode_injective hsame),
        Server.after_objects_get _ _, hread⟩
    · obtain ⟨_, t, hreplace, h⟩ := on_bind_ok.1 h
      obtain ⟨hout, rfl⟩ := Prod.mk.inj h
      obtain ⟨rfl, hp⟩ := require_ok hreplace
      have hobjects := (Server.answer_of_ok hp).2
      rw [Server.after_objects_get] at hobjects
      have hwrites := Server.after_writes_of_ok hp rfl
      rw [hread] at hwrites
      exact .inr ⟨(Except.ok.inj hout).symm, rfl, hobjects, hwrites⟩

/-- **A child that was written is stored**, made from what was stored before,
whatever else the cluster refused. -/
theorem write_ok [Legible α] (hu : KeepsIdentity update) {outcome : Outcome}
    (h : (write app controls name update).on s = (.ok outcome, s')) :
    ∃ existing child, Shows s.objects α app.metadata.nsOrEmpty name existing
      ∧ desired app controls app.metadata.nsOrEmpty name update existing = .ok child
      ∧ Shows s'.objects α app.metadata.nsOrEmpty name (some child) := by
  obtain ⟨existing, child, hshows, hchild, hcases⟩ := write_cases hu h
  refine ⟨existing, child, hshows, hchild, ?_⟩
  rcases hcases with ⟨-, -, ho, -⟩ | ⟨-, rfl, ho, -⟩ | ⟨-, -, ho, -⟩
  · exact ho ▸ shows_insert _ _ _ child
  · exact ho ▸ hshows
  · exact ho ▸ shows_insert _ _ _ child

end Write

/-! ## Removing and giving up

Both take something away only where it is the application's: a removal needs that the
application controls the child, giving up that it is among its owners. Where it is the
only owner, giving up ends in the same call as a removal, without a look at who
controls the child.

What is left after giving up is a function of what was there, `Access.givenUp`. It
does nothing the second time, which is used for names that are given up more than
once. -/

/-- **The calls of a removal**: the stored child is read, and deleted only if
the application controls it. -/
theorem along_deleteOwn (hget : P s (.get (.of α app.metadata.nsOrEmpty name)))
    (hdelete : ∀ child, Shows s.objects α app.metadata.nsOrEmpty name (some child) →
      (metadata child).isControlledBy app = true →
      P (s.after (.get (.of α app.metadata.nsOrEmpty name)))
        (.delete (.of α app.metadata.nsOrEmpty name))) :
    (deleteOwn α app name).Along P s := by
  refine along_onStored hget fun existing hexisting => ?_
  cases existing with
  | none => exact along_pure _
  | some child =>
    refine Access.along_ite (fun hcontrols => ?_) fun _ => along_pure _
    exact along_delete (hdelete child (hexisting child rfl) hcontrols)

theorem touches_deleteOwn :
    Touches (· = .of α app.metadata.nsOrEmpty name) (deleteOwn α app name) := fun _ =>
  along_deleteOwn (fun hw => absurd hw (by simp [Call.isWrite]))
    fun _ _ _ _ k hk => (Option.some.inj hk).symm

/-- **What a removal has done that succeeded**: nothing, or it deleted a child
that the application controls. -/
theorem deleteOwn_cases {removed : Bool} (h : (deleteOwn α app name).on s = (.ok removed, s')) :
    ∃ existing t, (find α app.metadata.nsOrEmpty name).on s = (.ok existing, t)
      ∧ (((∀ child ∈ existing, (metadata child).isControlledBy app = false)
          ∧ removed = false ∧ s' = t)
        ∨ ∃ child, existing = some child ∧ (metadata child).isControlledBy app = true
          ∧ (delete (.of α app.metadata.nsOrEmpty name)).on t = (.ok removed, s')) := by
  obtain ⟨existing, t, hfind, h⟩ := onStored_found h
  refine ⟨existing, t, hfind, ?_⟩
  cases existing with
  | none =>
    obtain ⟨hremoved, rfl⟩ := Prod.mk.inj h
    exact .inl ⟨fun _ hchild => by simp at hchild, (Except.ok.inj hremoved).symm, rfl⟩
  | some child =>
    change (if (metadata child).isControlledBy app then delete _ else pure false : Access Bool).on _
      = _ at h
    cases hcontrols : (metadata child).isControlledBy app with
    | true =>
      rw [hcontrols] at h
      exact .inr ⟨child, rfl, hcontrols, h⟩
    | false =>
      rw [hcontrols] at h
      obtain ⟨hremoved, rfl⟩ := Prod.mk.inj h
      refine .inl ⟨fun _ hchild => ?_, (Except.ok.inj hremoved).symm, rfl⟩
      obtain rfl := Option.some.inj hchild
      exact hcontrols

/-- **Of a child that was removed nothing is left that the application
controls**, and what it does not control stays. -/
theorem deleteOwn_ok (ht : s.Truthful) {removed : Bool}
    (h : (deleteOwn α app name).on s = (.ok removed, s')) :
    ∃ existing, Shows s.objects α app.metadata.nsOrEmpty name existing
      ∧ Shows s'.objects α app.metadata.nsOrEmpty name
        (existing.filter fun child => !(metadata child).isControlledBy app) := by
  obtain ⟨existing, t, hfind, hcases⟩ := deleteOwn_cases h
  obtain ⟨rfl, hshows⟩ := find_stored ht hfind
  refine ⟨existing, hshows, ?_⟩
  rcases hcases with ⟨hnone, -, rfl⟩ | ⟨child, rfl, hcontrols, hdelete⟩
  · have hall : existing.filter (fun child => !(metadata child).isControlledBy app)
        = existing := by
      cases existing with
      | none => rfl
      | some child => rw [Option.filter_some, hnone child rfl, Bool.not_false, if_pos rfl]
    rw [hall]
    exact hshows.congr (by rw [Server.after_objects_get])
  · rw [Option.filter_some, hcontrols]
    exact shows_none.2 (delete_ok (ht.after _) hdelete).2

/-- **The calls of giving up a shared child**: the stored one is read, and
deleted if no other owner is left, or else replaced by one without the
application among its owners. -/
theorem along_release (hget : P s (.get (.of α app.metadata.nsOrEmpty name)))
    (hdelete : ∀ child uid, Shows s.objects α app.metadata.nsOrEmpty name (some child) →
      app.metadata.uid = some uid → (∀ r ∈ (metadata child).owners, r.uid = uid) →
      P (s.after (.get (.of α app.metadata.nsOrEmpty name)))
        (.delete (.of α app.metadata.nsOrEmpty name)))
    (hreplace : ∀ child uid, Shows s.objects α app.metadata.nsOrEmpty name (some child) →
      app.metadata.uid = some uid →
      P (s.after (.get (.of α app.metadata.nsOrEmpty name)))
        (.replace (.of α app.metadata.nsOrEmpty name)
          (encode (mapMetadata (·.withoutOwner uid) child)))) :
    (release α app name).Along P s := by
  refine along_onStored hget fun existing hexisting => ?_
  cases existing with
  | none => exact along_pure _
  | some child =>
    have hshows := hexisting child rfl
    cases huid : app.metadata.uid with
    | none => exact along_pure _
    | some uid =>
      refine Access.along_ite (fun _ => along_pure _) fun _ => ?_
      refine Access.along_ite (fun hempty => along_delete (hdelete child uid hshows huid ?_))
        fun _ => along_bind (along_require (hreplace child uid hshows huid))
          fun _ _ _ => along_pure _
      intro r hr
      simpa using List.filter_eq_nil_iff.1 (List.isEmpty_iff.1 hempty) r hr

theorem touches_release :
    Touches (· = .of α app.metadata.nsOrEmpty name) (release α app name) := fun _ =>
  along_release (fun hw => absurd hw (by simp [Call.isWrite]))
    (fun _ _ _ _ _ _ k hk => (Option.some.inj hk).symm)
    fun _ _ _ _ _ k hk => (Option.some.inj hk).symm

/-- **What is left of a child that an owner gives up**: nothing if there was no
other owner, and the child as it is if the owner is none. -/
def givenUp (uid : String) (child : α) : Option α :=
  if ∀ r ∈ (metadata child).owners, r.uid ≠ uid then some child
  else if ∀ r ∈ (metadata child).owners, r.uid = uid then none
  else some (mapMetadata (·.withoutOwner uid) child)

/-- A child that was given up is not the owner's any more. -/
theorem not_ownedBy_of_givenUp {uid : String} {child left : α} (h : givenUp uid child = some left) :
    ¬ (metadata left).OwnedBy uid := by
  unfold givenUp at h
  split at h
  · rename_i hnone
    obtain rfl := Option.some.inj h
    rintro ⟨r, hr, he⟩
    exact hnone r hr he
  · split at h
    · simp at h
    · obtain rfl := Option.some.inj h
      rintro ⟨r, hr, he⟩
      rw [mapMetadata, ApiObject.metadata_withMetadata, ObjectMeta.owners_withoutOwner] at hr
      exact absurd he (by simpa using (List.mem_filter.1 hr).2)

theorem givenUp_of_not_ownedBy {uid : String} {child : α} (h : ¬ (metadata child).OwnedBy uid) :
    givenUp uid child = some child :=
  if_pos fun r hr he => h ⟨r, hr, he⟩

/-- To give up what was given up changes nothing. -/
theorem bind_givenUp_bind_givenUp (uid : String) (existing : Option α) :
    (existing.bind (givenUp uid)).bind (givenUp uid) = existing.bind (givenUp uid) := by
  cases existing with
  | none => rfl
  | some child =>
    rw [Option.bind_some]
    cases hleft : givenUp uid child with
    | none => rfl
    | some left =>
      exact givenUp_of_not_ownedBy (not_ownedBy_of_givenUp hleft)

/-- **What giving up a child has done that succeeded**: nothing, or it deleted
a child without other owners, or it left a child to the others. -/
theorem release_cases {removed : Bool} (h : (release α app name).on s = (.ok removed, s')) :
    ∃ existing t, (find α app.metadata.nsOrEmpty name).on s = (.ok existing, t)
      ∧ (((∀ child ∈ existing, ∀ uid ∈ app.metadata.uid, ¬ (metadata child).OwnedBy uid)
          ∧ removed = false ∧ s' = t)
        ∨ ∃ child uid, existing = some child ∧ app.metadata.uid = some uid
          ∧ (metadata child).OwnedBy uid
          ∧ (((∀ r ∈ (metadata child).owners, r.uid = uid)
              ∧ (delete (.of α app.metadata.nsOrEmpty name)).on t = (.ok removed, s'))
            ∨ ((∃ r ∈ (metadata child).owners, r.uid ≠ uid) ∧ removed = false
              ∧ (replace app.metadata.nsOrEmpty name
                (mapMetadata (·.withoutOwner uid) child)).on t = (.ok (), s')))) := by
  obtain ⟨existing, t, hfind, h⟩ := onStored_found h
  refine ⟨existing, t, hfind, ?_⟩
  cases existing with
  | none =>
    obtain ⟨hremoved, rfl⟩ := Prod.mk.inj h
    exact .inl ⟨fun _ hchild => by simp at hchild, (Except.ok.inj hremoved).symm, rfl⟩
  | some child =>
    cases huid : app.metadata.uid with
    | none =>
      rw [huid] at h
      obtain ⟨hremoved, rfl⟩ := Prod.mk.inj h
      exact .inl ⟨fun _ _ _ hsome => by simp at hsome, (Except.ok.inj hremoved).symm, rfl⟩
    | some uid =>
      rw [huid] at h
      change (if ((metadata child).owners.filter (·.uid ≠ uid)).length
          = (metadata child).owners.length
        then pure false
        else if ((metadata child).owners.filter (·.uid ≠ uid)).isEmpty then delete _
        else do replace _ name (mapMetadata (·.withoutOwner uid) child); pure false :
          Access Bool).on _ = _ at h
      simp only [List.length_filter_eq_length_iff, decide_eq_true_eq, List.isEmpty_iff,
        List.filter_eq_nil_iff, ne_eq, Decidable.not_not] at h
      split at h
      · -- no owner would go away, so the application is none
        rename_i hnone
        obtain ⟨hremoved, rfl⟩ := Prod.mk.inj h
        refine .inl ⟨?_, (Except.ok.inj hremoved).symm, rfl⟩
        rintro _ hchild _ hsome ⟨r, hr, he⟩
        obtain rfl := Option.some.inj hchild
        obtain rfl := Option.some.inj hsome
        exact hnone r hr he
      · rename_i hsome
        refine .inr ⟨child, uid, rfl, rfl, by simpa [ObjectMeta.OwnedBy] using hsome, ?_⟩
        split at h
        · rename_i hall
          exact .inl ⟨hall, h⟩
        · rename_i hothers
          obtain ⟨_, t', hreplace, h⟩ := on_bind_ok.1 h
          obtain ⟨hremoved, rfl⟩ := Prod.mk.inj h
          exact .inr ⟨by simpa using hothers, (Except.ok.inj hremoved).symm, hreplace⟩

/-- **Of a child that was given up** the other owners keep what is theirs. -/
theorem release_ok [Legible α] (ht : s.Truthful) {removed : Bool} {uid : String}
    (huid : app.metadata.uid = some uid)
    (h : (release α app name).on s = (.ok removed, s')) :
    ∃ existing, Shows s.objects α app.metadata.nsOrEmpty name existing
      ∧ Shows s'.objects α app.metadata.nsOrEmpty name (existing.bind (givenUp uid)) := by
  obtain ⟨existing, t, hfind, hcases⟩ := release_cases h
  obtain ⟨rfl, hshows⟩ := find_stored ht hfind
  refine ⟨existing, hshows, ?_⟩
  rcases hcases with ⟨hnone, -, rfl⟩ | ⟨child, uid', rfl, huid', howned, hcases⟩
  · have hself : existing.bind (givenUp uid) = existing := by
      cases existing with
      | none => rfl
      | some child => exact givenUp_of_not_ownedBy (hnone child rfl uid huid)
    rw [hself]
    exact hshows.congr (by rw [Server.after_objects_get])
  · obtain rfl := Option.some.inj (huid.symm.trans huid')
    obtain ⟨r, hr, he⟩ := howned
    rw [Option.bind_some, givenUp, if_neg fun hnone => hnone r hr he]
    rcases hcases with ⟨hall, hdelete⟩ | ⟨⟨q, hq, hne⟩, -, hreplace⟩
    · rw [if_pos hall]
      exact shows_none.2 (delete_ok (ht.after _) hdelete).2
    · rw [if_neg fun hall => hne (hall q hq)]
      obtain ⟨rfl, hp⟩ := require_ok hreplace
      rw [(Server.answer_of_ok hp).2]
      exact shows_insert _ _ _ _

end Access

end AppOperator
