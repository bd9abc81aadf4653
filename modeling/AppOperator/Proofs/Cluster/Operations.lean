import AppOperator.Proofs.Cluster.Resuming

/-!
# What the operations on a child report

Writing a child, removing it and giving it up come to an answer or to a
failure, and both are to be relied upon. Whatever is refused, an operation
makes one write at most, and of no other object than the one that it names;
where it fails nothing has changed (`Access.Single`). Where it succeeds its
answer says what was done: a child was created if there was none, unchanged
if nothing was written, and removed if it was the application's to remove.

The last of these has one exception, and it is a matter of design. A refusal
that says that an object is not there is taken at its word, both when the
object is read and when it is to be deleted, so a cluster that refuses a
call for another reason but in these words makes an operation report that
there was nothing to remove, while the object is still there
(`Access.not_removed_of_refusal`). An operation can only be relied upon as
far as the cluster is frank about its calls (`Server.Frank`). Nothing of the
kind can happen to a write: what was not found is then created, and the
cluster accepts that only if there is nothing.
-/

namespace AppOperator

/-! ## Refusals that are taken for absence

A cluster is frank about a single call, in the place where it is made, and not at all
times: the statements below say which of the two calls of an operation had to be
answered honestly for the answer to be right. For any other call nothing is asked, as
no other refusal is ever taken for an answer. -/

/-- **A cluster that is frank about a call**: should it refuse the call from
outside, it does not do so as if the object were not there. -/
def Server.Frank (s : Server) : Call → Prop
  | .get key => ∀ r, s.refuse s.history.length (.get key) = some r → r.reason ≠ "NotFound"
  | .delete key => ∀ r, s.refuse s.history.length (.delete key) = some r → r.code ≠ 404
  | _ => True

theorem Server.frank_of_heard {s : Server} {c : Call}
    (h : s.refuse s.history.length c = none) : s.Frank c := by
  cases c with
  | get key | delete key =>
    intro r hr
    rw [h] at hr
    simp at hr
  | _ => trivial

namespace Access

variable {α : Type} [ApiObject α] {s s' : Server} {ns name : String}

/-- What is read of an object was not refused, and neither was what is not
read if the cluster is frank. -/
theorem get_heard {key : ObjectKey} {r : Option Json} (h : (get key).on s = (.ok r, s'))
    (hfrank : r ≠ none ∨ s.Frank (.get key)) :
    s.refuse s.history.length (.get key) = none ∧ r = s.objects.get? key := by
  have hheard : s.refuse s.history.length (.get key) = none := by
    cases hrefuse : s.refuse s.history.length (.get key) with
    | none => rfl
    | some refusal =>
      have hp : (s.perform (.get key)).1 = .error refusal := Server.perform_refused hrefuse
      rw [get, on_bind, on_attempt, hp] at h
      change (if refusal.reason = "NotFound" then pure none else throw (refused refusal) :
        Access (Option Json)).on _ = _ at h
      split at h
      · rename_i hreason
        obtain ⟨hr, -⟩ := Prod.mk.inj h
        rcases hfrank with hsome | hfrank
        · exact absurd (Except.ok.inj hr).symm hsome
        · exact absurd hreason (hfrank refusal hrefuse)
      · simp at h
  rw [get_on_heard hheard] at h
  exact ⟨hheard, (Except.ok.inj (Prod.mk.inj h).1).symm⟩

/-- So it is with a child: on a cluster that is frank about reading it,
nothing is stored where nothing is found. -/
theorem find_heard {r : Option α} (h : (find α ns name).on s = (.ok r, s'))
    (hfrank : r ≠ none ∨ s.Frank (.get (.of α ns name))) :
    s.refuse s.history.length (.get (.of α ns name)) = none ∧ Shows s.objects α ns name r := by
  obtain ⟨seen, t, hlook, hseen⟩ := on_bind_ok.1 h
  obtain ⟨stored, t', hget, hstored⟩ := on_bind_ok.1 hlook
  have hnone : stored = none → r = none := by
    rintro rfl
    obtain rfl := Except.ok.inj (Prod.mk.inj hstored).1
    exact (Except.ok.inj (Prod.mk.inj hseen).1).symm
  obtain ⟨hheard, hobject⟩ := get_heard hget (hfrank.imp_left fun hr hs => hr (hnone hs))
  refine ⟨hheard, ?_⟩
  obtain ⟨-, ⟨a, rfl, hshows⟩ | ⟨rfl, -⟩⟩ := find_ok h
  · exact hshows
  · -- an object that is there is found or fails to be read
    cases stored with
    | none => exact shows_none.2 hobject.symm
    | some j =>
      dsimp only at hstored
      cases hu : untyped? j with
      | none =>
        rw [hu] at hstored
        simp at hstored
      | some object =>
        rw [hu] at hstored
        obtain rfl := Except.ok.inj (Prod.mk.inj hstored).1
        dsimp only at hseen
        cases hd : decode α object with
        | none =>
          rw [hd] at hseen
          simp at hseen
        | some a =>
          rw [hd] at hseen
          simp at hseen

/-- **Whether an object was removed**: it was if it was there and the cluster
is frank about removing it, and else nothing has changed. -/
theorem delete_reports {key : ObjectKey} {removed : Bool}
    (h : (delete key).on s = (.ok removed, s')) :
    (removed = true ↔ s.objects.get? key ≠ none ∧ s.Frank (.delete key))
      ∧ (removed = true → s'.objects = s.objects.erase key)
      ∧ (removed = false → s'.objects = s.objects) := by
  obtain ⟨answer, t, hattempt, h⟩ := on_bind_ok.1 h
  rw [on_attempt] at hattempt
  obtain ⟨hanswer, rfl⟩ := Prod.mk.inj hattempt
  obtain rfl := Except.ok.inj hanswer
  -- a refusal with the code of absence is taken as absence, so of refusals frankness has to
  -- say which are about the object
  cases hp : (s.perform (.delete key)).1 with
  | ok reply =>
    rw [hp] at h
    obtain ⟨hremoved, rfl⟩ := Prod.mk.inj h
    obtain rfl := Except.ok.inj hremoved
    obtain ⟨hstored, hobjects⟩ := Server.answer_of_ok hp
    obtain ⟨j, hj⟩ := Server.get?_of_changed hstored
    have hfrank : s.Frank (.delete key) := Server.frank_of_heard (Server.after_of_ok hp).1
    exact ⟨⟨fun _ => ⟨by simp [hj], hfrank⟩, fun _ => rfl⟩, fun _ => hobjects, by simp⟩
  | error refusal =>
    rw [hp] at h
    change (if refusal.code = 404 then pure false else throw (refused refusal) : Access Bool).on _
      = _ at h
    split at h
    · rename_i hcode
      obtain ⟨hremoved, rfl⟩ := Prod.mk.inj h
      obtain rfl := Except.ok.inj hremoved
      refine ⟨⟨by simp, fun ⟨hthere, hfrank⟩ => ?_⟩, by simp, fun _ => ?_⟩
      · cases hrefuse : s.refuse s.history.length (.delete key) with
        | some r =>
          obtain rfl := Except.error.inj ((Server.perform_refused hrefuse).symm.trans hp)
          exact absurd hcode (hfrank r hrefuse)
        | none =>
          have hstored := (Server.answer_of_heard hrefuse).symm.trans hp
          exact absurd (Server.get?_of_unchanged hstored) hthere
      · rcases s.perform_cases (.delete key) with ⟨_, -, ho⟩ | ⟨_, hr, -⟩
        · exact ho
        · rw [hp] at hr
          simp at hr
    · simp at h

end Access

/-! ## One object at most

That an operation makes at most one write follows from a property of its calls: each
that writes finds that nothing was written yet. Together with the key of the call this
gives the frame for every other object, and with what is known of failures, that a
failed operation is none. None of this depends on the type of the object or on what is
stored. -/

/-- **A computation on a single object**: whatever is refused, it makes one
write at most and none of another object, and where it fails nothing has changed. -/
structure Access.Single {β : Type} (act : Access β) (key : ObjectKey) (s : Server) : Prop where
  /-- It makes one write at most, which is of the object. -/
  one_write : ∃ made, (act.on s).2.writes = s.writes ++ made ∧ made.length ≤ 1
    ∧ ∀ entry ∈ made, entry.call.key? = some key
  /-- Every other object stays as it is. -/
  elsewhere : ∀ k, k ≠ key → (act.on s).2.objects.get? k = s.objects.get? k
  /-- Where it fails the cluster stores and serves what it did before. -/
  unchanged : ∀ e s', act.on s = (.error e, s') → s'.Alike s

/-- A call that is the first to write, and writes a single object. -/
def Call.FirstWrite (s : Server) (key : ObjectKey) (t : Server) (c : Call) : Prop :=
  c.isWrite = true → t.writes = s.writes ∧ c.key? = some key

namespace Access

variable {β : Type} {act : Access β} {key : ObjectKey} {s : Server}

/-- **Where each write is the first there is one at most.** -/
theorem Along.single (h : act.Along (Call.FirstWrite s key) s) (hatomic : Atomic act) :
    act.Single key s := by
  -- either nothing was written yet, or the one call that was is of the object
  have hwrites : ∃ made, (act.on s).2.writes = s.writes ++ made ∧ made.length ≤ 1
      ∧ ∀ entry ∈ made, entry.call.key? = some key := by
    refine h.keeps (I := fun t => ∃ made, t.writes = s.writes ++ made ∧ made.length ≤ 1
      ∧ ∀ entry ∈ made, entry.call.key? = some key) ⟨[], by simp⟩ ?_
    rintro t c hc ⟨made, hmade, hlength, hkeys⟩
    cases hw : c.isWrite with
    | false => exact ⟨made, by rw [Server.after_writes_of_read hw, hmade], hlength, hkeys⟩
    | true =>
      obtain ⟨hfirst, hkey⟩ := hc hw
      obtain ⟨refusal, hafter⟩ := Server.after_writes_of_write (s := t) hw
      exact ⟨[⟨c, refusal⟩], by rw [hafter, hfirst], by simp, by simpa using hkey⟩
  refine ⟨hwrites, fun k hk => ?_, fun e s' hon => ⟨hatomic.unchanged hon, apis_of_on hon⟩⟩
  refine h.keeps (I := fun t => t.objects.get? k = s.objects.get? k) rfl fun t c hc ht => ?_
  refine (Server.after_get?_of_ne fun hw hkey => hk ?_).trans ht
  exact Option.some.inj (hkey.symm.trans (hc hw).2)

section Operations

variable {α : Type} [ApiObject α] {app : Application} {name : String}

/-- The write of an operation on a child comes after reading it. -/
theorem firstWrite_of_get {at_ : ObjectKey} {c : Call} (hkey : c.key? = some key) :
    Call.FirstWrite s key (s.after (.get at_)) c := fun _ =>
  ⟨Server.after_writes_of_read rfl, hkey⟩

/-- **Writing a child** is a matter of the child alone, -/
theorem single_write {controls : Bool} {update : α → α} (hu : KeepsIdentity update) :
    (write app controls name update).Single (.of α app.metadata.nsOrEmpty name) s :=
  (along_write hu (fun hw => by simp [Call.isWrite] at hw) (fun _ _ => firstWrite_of_get rfl)
    fun _ _ _ _ => firstWrite_of_get rfl).single .write

/-- removing it is, -/
theorem single_deleteOwn : (deleteOwn α app name).Single (.of α app.metadata.nsOrEmpty name) s :=
  (along_deleteOwn (fun hw => by simp [Call.isWrite] at hw)
    fun _ _ _ => firstWrite_of_get rfl).single .deleteOwn

/-- and so is giving it up. -/
theorem single_release : (release α app name).Single (.of α app.metadata.nsOrEmpty name) s :=
  (along_release (fun hw => by simp [Call.isWrite] at hw)
    (fun _ _ _ _ _ => firstWrite_of_get rfl)
    fun _ _ _ _ => firstWrite_of_get rfl).single .release

end Operations

end Access

/-! ## What success means

The answers are tied to what was stored before: read without a refusal, which is what
`Server.stored` says. That a child is there includes that it can be read; one that
cannot be makes every operation fail, so nothing is claimed of it.

The reports come in one form for removals of both kinds. What differs is when a
removal is due, and this is a parameter: that the application controls the child, or
that it is the only owner. -/

/-- **What is known of a child**: what reading it gives if that is not refused. -/
def Server.stored (s : Server) (α : Type) [ApiObject α] (ns name : String) :
    Except OperatorError (Option α) :=
  ((Access.find α ns name).on s.opened).1

namespace Application

variable (α : Type) [ApiObject α] (app : Application)

/-- A child is stored that the application controls. -/
def ControlsStored (s : Server) (name : String) : Prop :=
  ∃ child : α, s.stored α app.metadata.nsOrEmpty name = .ok (some child)
    ∧ (ApiObject.metadata child).isControlledBy app = true

/-- A child is stored of which the application is the only owner. -/
def OwnsStoredAlone (s : Server) (name : String) : Prop :=
  ∃ (child : α) (uid : String), s.stored α app.metadata.nsOrEmpty name = .ok (some child)
    ∧ app.metadata.uid = some uid ∧ (ApiObject.metadata child).OwnedBy uid
    ∧ ∀ r ∈ (ApiObject.metadata child).owners, r.uid = uid

/-- **A child is left to its other owners**: it was the application's and theirs,
and is stored as it was, but without the application among its owners. -/
def LeavesToOthers (s s' : Server) (name : String) : Prop :=
  ∃ (child : α) (uid : String), s.stored α app.metadata.nsOrEmpty name = .ok (some child)
    ∧ app.metadata.uid = some uid ∧ (ApiObject.metadata child).OwnedBy uid
    ∧ (∃ r ∈ (ApiObject.metadata child).owners, r.uid ≠ uid)
    ∧ s'.objects = s.objects.insert (.of α app.metadata.nsOrEmpty name)
      (encode (mapMetadata (·.withoutOwner uid) child))

end Application

namespace Access

/-- **What the answer of a write says**, and what is stored after it: the
stored child, or a new one, under its name and owned by the application, with
what was to be set in it. -/
structure WriteReport {α : Type} [ApiObject α] (app : Application) (controls : Bool)
    (name : String) (update : α → α) (s s' : Server) (outcome : Outcome) : Prop where
  /-- A child was created if there was none. -/
  created_iff : outcome = .created ↔ s.objects.get? (.of α app.metadata.nsOrEmpty name) = none
  /-- It is unchanged if nothing was written. -/
  unchanged_iff : outcome = .unchanged ↔ s'.writes = s.writes
  /-- What is read afterwards is what was to be made of what was read before. -/
  stored : ∃ (existing : Option α) (r : OwnerReference),
    s.stored α app.metadata.nsOrEmpty name = .ok existing
      ∧ app.ownerReference controls = .ok r
      ∧ s'.stored α app.metadata.nsOrEmpty name
        = .ok (some (update (withMetadata (existing.getD (blank α))
            ({ metadata (existing.getD (blank α)) with
              name := some name, ns := some app.metadata.nsOrEmpty }.withOwner r))))

/-- **What the answer of a removal says**: the object was removed if that was
due, unless one of the two calls for it was refused as if it were not there;
and then it is gone. -/
structure RemovalReport (due : Prop) (key : ObjectKey) (s s' : Server) (removed : Bool) :
    Prop where
  /-- An object is removed where that is due, if the cluster is frank. -/
  removed_iff : removed = true
    ↔ due ∧ s.Frank (.get key) ∧ (s.after (.get key)).Frank (.delete key)
  /-- What was removed is gone. -/
  gone : removed = true → s'.objects = s.objects.erase key

variable {α : Type} [ApiObject α] {app : Application} {ns name : String} {s s' : Server}

theorem stored_eq_ok {existing : Option α} :
    s.stored α ns name = .ok existing ↔ Shows s.objects α ns name existing := by
  constructor
  · intro h
    obtain ⟨-, ⟨a, rfl, hshows⟩ | ⟨rfl, hnone⟩⟩ := find_ok (Prod.ext h rfl)
    · exact hshows
    · exact hnone s.open_opened.truthful
  · intro h
    exact congrArg Prod.fst (find_on_open s.open_opened h)

/-- **A write does what it reports.** -/
theorem write_reports [Legible α] {controls : Bool} {update : α → α} (hu : KeepsIdentity update)
    {outcome : Outcome} (h : (write app controls name update).on s = (.ok outcome, s')) :
    WriteReport app controls name update s s' outcome := by
  obtain ⟨existing, child, hbefore, hdesired, hcases⟩ := write_cases hu h
  obtain ⟨existing', child', hbefore', hdesired', hafter⟩ := write_ok hu h
  obtain rfl := hbefore.unique hbefore'
  obtain rfl := Except.ok.inj (hdesired.symm.trans hdesired')
  obtain ⟨m, hown, hchild⟩ := desired_ok.1 hdesired
  obtain ⟨r, hr, -, rfl⟩ := Application.own_ok.1 hown
  have habsent : s.objects.get? (.of α app.metadata.nsOrEmpty name) = none ↔ existing = none := by
    rw [← shows_none]
    exact ⟨fun hnone => hbefore.unique hnone, fun hnone => hnone ▸ hbefore⟩
  have hstored := stored_eq_ok.2 hafter
  rw [hchild] at hstored
  have hmade := And.intro (stored_eq_ok.2 hbefore) (And.intro hr hstored)
  rcases hcases with ⟨rfl, hnone, -, hwrites⟩ | ⟨rfl, hsome, -, hwrites⟩ | ⟨rfl, hsome, -, hwrites⟩
  · exact ⟨by simp [habsent, hnone], by simp [hwrites], existing, r, hmade⟩
  · exact ⟨by simp [habsent, hsome], by simp [hwrites], existing, r, hmade⟩
  · have hne : existing ≠ none := by
      rintro rfl
      simp at hsome
    exact ⟨by simp [habsent, hne], by simp [hwrites], existing, r, hmade⟩

/-- What is not removed because that is not due. -/
theorem removalReport_of_idle {due : Prop} {existing : Option α} {t : Server}
    (hfind : (find α ns name).on s = (.ok existing, t))
    (hdue : s.stored α ns name = .ok existing → ¬ due) :
    RemovalReport due (.of α ns name) s s' false where
  removed_iff := by
    refine ⟨by simp, fun ⟨h, hfrank, _⟩ => ?_⟩
    exact absurd h (hdue (stored_eq_ok.2 (find_heard hfind (.inr hfrank)).2))
  gone := by simp

/-- What is removed where that is due. -/
theorem removalReport_of_delete {due : Prop} {child : α} {t : Server} {removed : Bool}
    (hfind : (find α ns name).on s = (.ok (some child), t))
    (hdue : s.stored α ns name = .ok (some child) → due)
    (h : (delete (.of α ns name)).on t = (.ok removed, s')) :
    RemovalReport due (.of α ns name) s s' removed := by
  obtain ⟨hheard, hshows⟩ := find_heard hfind (.inl (by simp))
  obtain ⟨rfl, -⟩ := find_ok hfind
  obtain ⟨hiff, hgone, -⟩ := delete_reports h
  rw [Server.after_objects_get] at hiff hgone
  obtain ⟨j, hj, -⟩ := shows_some.1 hshows
  have hthere : s.objects.get? (.of α ns name) ≠ none := by simp [hj]
  refine ⟨?_, hgone⟩
  rw [hiff]
  exact ⟨fun hd => ⟨hdue (stored_eq_ok.2 hshows), Server.frank_of_heard hheard, hd.2⟩,
    fun hd => ⟨hthere, hd.2.2⟩⟩

/-- Finding a child leaves everything as it is. -/
theorem objects_of_find {r : Option α} {t : Server}
    (h : (find α ns name).on s = (.ok r, t)) : t.objects = s.objects := by
  obtain ⟨rfl, -⟩ := find_ok h
  exact Server.after_objects_get _ _

/-- **A removal does what it reports.** -/
theorem deleteOwn_reports {removed : Bool} (h : (deleteOwn α app name).on s = (.ok removed, s')) :
    RemovalReport (app.ControlsStored α s name) (.of α app.metadata.nsOrEmpty name) s s' removed
      ∧ (removed = false → s'.objects = s.objects) := by
  obtain ⟨existing, t, hfind, hcases⟩ := deleteOwn_cases h
  rcases hcases with ⟨hnone, rfl, rfl⟩ | ⟨child, rfl, hcontrols, hdelete⟩
  · refine ⟨removalReport_of_idle hfind fun hstored => ?_, fun _ => objects_of_find hfind⟩
    rintro ⟨child, hchild, hcontrols⟩
    have hself := hnone child (Except.ok.inj (hstored.symm.trans hchild))
    exact Bool.false_ne_true (hself.symm.trans hcontrols)
  · exact ⟨removalReport_of_delete hfind (fun hstored => ⟨child, hstored, hcontrols⟩) hdelete,
      fun hkept => ((delete_reports hdelete).2.2 hkept).trans (objects_of_find hfind)⟩

/-- **Giving up a child does what it reports.** Where the child is not removed
it stays as it is, or stays with its other owners. -/
theorem release_reports {removed : Bool} (h : (release α app name).on s = (.ok removed, s')) :
    RemovalReport (app.OwnsStoredAlone α s name) (.of α app.metadata.nsOrEmpty name) s s' removed
      ∧ (removed = false → s'.objects = s.objects ∨ app.LeavesToOthers α s s' name) := by
  obtain ⟨existing, t, hfind, hcases⟩ := release_cases h
  rcases hcases with ⟨hnone, rfl, rfl⟩ | ⟨child, uid, rfl, huid, howned, hcases⟩
  · refine ⟨removalReport_of_idle hfind fun hstored => ?_, fun _ => .inl (objects_of_find hfind)⟩
    rintro ⟨child, uid, hchild, huid, howned, -⟩
    exact hnone child (Except.ok.inj (hstored.symm.trans hchild)) uid huid howned
  · rcases hcases with ⟨hall, hdelete⟩ | ⟨⟨q, hq, hne⟩, rfl, hreplace⟩
    · exact ⟨removalReport_of_delete hfind
          (fun hstored => ⟨child, uid, hstored, huid, howned, hall⟩) hdelete,
        fun hkept => .inl (((delete_reports hdelete).2.2 hkept).trans (objects_of_find hfind))⟩
    · have hstored := stored_eq_ok.2 (find_heard hfind (.inl (by simp))).2
      refine ⟨removalReport_of_idle hfind fun _ => ?_, fun _ => .inr
        ⟨child, uid, hstored, huid, howned, ⟨q, hq, hne⟩, ?_⟩⟩
      · rintro ⟨_, uid', hchild, huid', -, hall⟩
        obtain rfl := Option.some.inj (Except.ok.inj (hstored.symm.trans hchild))
        obtain rfl := Option.some.inj (huid.symm.trans huid')
        exact hne (hall q hq)
      · obtain ⟨rfl, hp⟩ := require_ok hreplace
        rw [(Server.answer_of_ok hp).2, ← objects_of_find hfind]
        rfl

/-- **The operations on a child do what they report**, for objects of every
type and whatever the cluster stores and refuses. Each is a matter of the
child alone and changes nothing where it fails. -/
theorem operations_report (α : Type) [ApiObject α] [Legible α] (app : Application) (name : String)
    (s : Server) {update : α → α} (hu : KeepsIdentity update) :
    let key : ObjectKey := .of α app.metadata.nsOrEmpty name
    (∀ controls, (write app controls name update).Single key s
        ∧ ∀ outcome s', (write app controls name update).on s = (.ok outcome, s') →
          WriteReport app controls name update s s' outcome)
      ∧ ((deleteOwn α app name).Single key s
        ∧ ∀ removed s', (deleteOwn α app name).on s = (.ok removed, s') →
          RemovalReport (app.ControlsStored α s name) key s s' removed
            ∧ (removed = false → s'.objects = s.objects))
      ∧ ((release α app name).Single key s
        ∧ ∀ removed s', (release α app name).on s = (.ok removed, s') →
          RemovalReport (app.OwnsStoredAlone α s name) key s s' removed
            ∧ (removed = false →
              s'.objects = s.objects ∨ app.LeavesToOthers α s s' name)) :=
  ⟨fun _ => ⟨single_write hu, fun _ _ => write_reports hu⟩,
    ⟨single_deleteOwn, fun _ _ => deleteOwn_reports⟩,
    ⟨single_release, fun _ _ => release_reports⟩⟩

/-- On a cluster that has nothing, a deployment is created, and then it is
there to be removed. -/
theorem operations_report_of_deployment :
    let app : Application :=
      { (default : Application) with
        metadata := { (default : ObjectMeta) with
          name := some "web", ns := some "shop", uid := some "u1" } }
    ∃ s₁ s₂, (writeOwn app "web" (app.deployment {})).on {} = (.ok .created, s₁)
      ∧ WriteReport app true "web" (app.deployment {}) {} s₁ .created
      ∧ (deleteOwn Deployment app "web").on s₁ = (.ok true, s₂)
      ∧ RemovalReport (app.ControlsStored Deployment s₁ "web") (.of Deployment "shop" "web")
          s₁ s₂ true := by
  intro app
  have hu : KeepsIdentity (app.deployment {}) := (app.steady_deployment {}).keeps
  have hcreated : ((writeOwn app "web" (app.deployment {})).on {}).1.toOption = some .created := by
    decide +kernel
  have hremoved : ((deleteOwn Deployment app "web").on
      ((writeOwn app "web" (app.deployment {})).on {}).2).1.toOption = some true := by
    decide +kernel
  obtain ⟨s₁, hwrite⟩ := on_of_toOption hcreated
  rw [hwrite] at hremoved
  obtain ⟨s₂, hdelete⟩ := on_of_toOption hremoved
  exact ⟨s₁, s₂, hwrite,
    ((operations_report Deployment app "web" {} hu).1 true).2 _ _ hwrite, hdelete,
    ((operations_report Deployment app "web" s₁ hu).2.1.2 _ _ hdelete).1⟩

/-- A refusal that says that an object is not there is taken at its word: the
application controls the deployment and its removal comes to an answer, which
is that there was nothing to remove. -/
theorem not_removed_of_refusal :
    let app : Application :=
      { (default : Application) with
        metadata := { (default : ObjectMeta) with
          name := some "web", ns := some "shop", uid := some "u1" } }
    let child : Deployment :=
      { blank Deployment with
        metadata := { (default : ObjectMeta) with
          name := some "web", ns := some "shop", ownerReferences := some [
            { apiVersion := Application.apiVersion, kind := Application.kind, name := "web",
              uid := "u1", controller := some true, blockOwnerDeletion := none }] } }
    let key : ObjectKey := .of Deployment "shop" "web"
    let s : Server :=
      { objects := Dict.empty.insert key (encode child)
        refuse := fun _ c => if c = .delete key then some (Server.absent "web") else none }
    ∃ removed s', (deleteOwn Deployment app "web").on s = (.ok removed, s')
      ∧ ¬ (removed = true ↔ app.ControlsStored Deployment s "web") ∧ s'.objects = s.objects := by
  intro app child key s
  have hanswer : ((deleteOwn Deployment app "web").on s).1.toOption = some false := by
    decide +kernel
  obtain ⟨s', hdelete⟩ := on_of_toOption hanswer
  have hcontrols : app.ControlsStored Deployment s "web" :=
    ⟨child, stored_eq_ok.2 (shows_insert .empty "shop" "web" child), by decide⟩
  exact ⟨false, s', hdelete, by simp [hcontrols], (deleteOwn_reports hdelete).2 rfl⟩

end Access
end AppOperator
