import AppOperator.Proofs.Reconcile.Walk

/-!
# Whose an object is

Applications share a cluster with each other and with whatever else keeps
objects there, and nothing but the references to owners says whose an object
is. What a pass may do to an object follows from them (`Call.Respects`): what
something else controls is not deleted, and of its owners the application can
only take away itself; what is made is the application's from the start; and
an application without an identity, which nothing could be marked with,
changes nothing at all.

None of this would hold where two owners control one object. That no object
comes to be owned so (`Server.WellOwned`) is kept by every call of every
pass, so both hold along all runs of passes, wherever they are cut off.

The converse is not claimed. Something else may take an object away from an
application that owns it, and the operator cannot prevent it. What is claimed is that
the operator never does this to anything else, in whatever order passes are made for
whatever applications.
-/

namespace AppOperator

/-! ## Clusters that are in order

Being in order is a property of the cluster, and it is about all objects, whoever has
written them. Calls that store only objects in order keep it. What a call may do to an
object that is not the application's is put in terms of the object as it is stored at
that moment, so the law is meaningful at any point of a run.

An object whose metadata cannot be read counts as controlled by something else: it is
not free for anybody. The operator fails on such objects, and so it leaves them alone. -/

/-- The owners of a stored object, as far as its metadata can be read. -/
def Json.owners (j : Json) : List OwnerReference := (j.metadata?.map ObjectMeta.owners).getD []

/-- **A cluster in which every object is owned in order**: no owner twice,
and at most one controller. -/
def Server.WellOwned (s : Server) : Prop :=
  ∀ key j, s.objects.get? key = some j → OwnerReference.Orderly j.owners

/-- **Whether an object is free for the owner of an identity**: its metadata
can be read, and nothing else controls it. -/
def Json.FreeFor (j : Json) (uid : String) : Prop :=
  ∃ m, j.metadata? = some m ∧ ∀ r ∈ m.owners, r.controls = true → r.uid = uid

namespace Call

/-- A call that stores, if it does, an object that is owned in order. -/
def Orderly : Call → Prop
  | .create _ object => OwnerReference.Orderly object.owners
  | .replace _ object => OwnerReference.Orderly object.owners
  | .patchStatus _ _ => False
  | _ => True

/-- **A call for an application that respects whose objects are.** What is
not free for the application is not deleted, and stays what it is but for the
application's own place among the owners. -/
def Respects (app : Application) (objects : Dict ObjectKey Json) : Call → Prop
  | .get _ => True
  | .discover _ => True
  | .create _ object =>
    ∃ uid, app.metadata.uid = some uid ∧ ∃ r ∈ object.owners, r.uid = uid
  | .replace key object =>
    ∃ uid, app.metadata.uid = some uid ∧
      ∀ j, objects.get? key = some j → j.FreeFor uid ∨
        ∃ secret, Access.read? Secret j = some secret
          ∧ Access.read? Secret object = some (mapMetadata (·.withoutOwner uid) secret)
  | .delete key =>
    ∃ uid, app.metadata.uid = some uid ∧
      ∀ j, objects.get? key = some j → j.FreeFor uid
  | .patchStatus _ _ => False

end Call

/-- Storing one more object that is owned in order. -/
theorem orderly_insert {objects : Dict ObjectKey Json} {at_ key : ObjectKey} {object j : Json}
    (h : ∀ key j, objects.get? key = some j → OwnerReference.Orderly j.owners)
    (ho : OwnerReference.Orderly object.owners)
    (hj : (objects.insert at_ object).get? key = some j) : OwnerReference.Orderly j.owners := by
  rw [Dict.get?_insert] at hj
  split at hj
  · obtain rfl := Option.some.inj hj
    exact ho
  · exact h key j hj

/-- **A cluster in order stays in order** by calls that store objects in order. -/
theorem Server.WellOwned.after {s : Server} {c : Call} (h : s.WellOwned) (hc : c.Orderly) :
    (s.after c).WellOwned := by
  intro key j hj
  rcases s.perform_cases c with ⟨-, -, ho⟩ | ⟨-, -, -, ho⟩
  · exact h key j (ho ▸ hj)
  · rw [ho] at hj
    cases c with
    | get _ => exact h key j hj
    | discover _ => exact h key j hj
    | patchStatus _ _ => exact hc.elim
    | create at_ object => exact orderly_insert h hc hj
    | replace at_ object => exact orderly_insert h hc hj
    | delete at_ =>
      rw [Call.apply, Dict.get?_erase] at hj
      split at hj
      · simp at hj
      · exact h key j hj

/-! ## The operations

Both laws are shown together for each operation, since whether a call respects owners
depends on the cluster being in order. Writing is the case with content: the owners of
what is stored are those of what was there with the application put among them, and it
is only written if nothing else controls it. -/

namespace Access

variable {α : Type} [ApiObject α] [Legible α] {app : Application} {s : Server} {name : String}

/-- What a call of a pass has to be on a cluster in order. -/
def Guarded (app : Application) (s : Server) (c : Call) : Prop :=
  s.WellOwned → c.Respects app s.objects ∧ c.Orderly

theorem guarded_of_read (c : Call) (h : c.isWrite = false) : Guarded app s c := by
  intro _
  cases c with
  | get _ => exact ⟨trivial, trivial⟩
  | discover _ => exact ⟨trivial, trivial⟩
  | _ => simp [Call.isWrite] at h

theorem owners_of_read? {j : Json} {a : α} (h : read? α j = some a) :
    j.owners = (metadata a).owners := by
  rw [Json.owners, metadata?_of_read? h]
  rfl

@[simp] theorem owners_encode (a : α) : (encode a).owners = (metadata a).owners :=
  owners_of_read? (read?_encode a)

/-- A child that is shown is owned in order where the cluster is. -/
theorem Shows.orderly {ns : String} {a : α} (h : s.WellOwned)
    (hshows : Shows s.objects α ns name (some a)) :
    OwnerReference.Orderly (metadata a).owners := by
  obtain ⟨j, hj, hread⟩ := shows_some.1 hshows
  exact owners_of_read? hread ▸ h _ j hj

/-- A child is free for an application if no other controller is among its owners. -/
theorem Shows.freeFor {ns : String} {a : α} {uid : String}
    (hshows : Shows s.objects α ns name (some a))
    (h : ∀ r ∈ (metadata a).owners, r.controls = true → r.uid = uid) {j : Json}
    (hj : s.objects.get? (.of α ns name) = some j) : j.FreeFor uid := by
  obtain ⟨j', hj', hread⟩ := shows_some.1 hshows
  rw [hj'] at hj
  obtain rfl := Option.some.inj hj
  exact ⟨metadata a, metadata?_of_read? hread, h⟩

/-- The owners of what is to be stored are in order if those of what is
stored are. -/
theorem orderly_of_desired {controls : Bool} {ns : String} {update : α → α} {existing : Option α}
    {child : α} (hu : Steady update)
    (h : desired app controls ns name update existing = .ok child)
    (hold : OwnerReference.Orderly (metadata (existing.getD (blank α))).owners) :
    OwnerReference.Orderly (encode child).owners := by
  obtain ⟨-, -, r, -, hother, howners⟩ := metadata_of_desired hu.keeps h
  rw [owners_encode, howners]
  exact hold.upsert (ObjectMeta.otherController?_eq_none.1 hother)

/-- **Writing respects whose objects are**: a new child is the application's,
and a child that something else controls is not replaced. -/
theorem guarded_write {controls : Bool} {update : α → α} (hu : Steady update) :
    (write app controls name update).Along (Guarded app) s := by
  refine along_write hu.keeps (guarded_of_read _ rfl) (fun child hchild hs => ?_)
    fun current child hcurrent hchild hs => ?_
  -- a new child has no owners but the application
  · obtain ⟨-, -, r, hr, -, howners⟩ := metadata_of_desired hu.keeps hchild
    refine ⟨⟨r.uid, (Application.ownerReference_ok hr).1, r, ?_, rfl⟩, ?_⟩
    · rw [owners_encode, howners]
      exact OwnerReference.mem_upsert_self _ _
    · refine orderly_of_desired hu hchild ?_
      rw [Option.getD_none, owners_blank]
      exact List.Pairwise.nil
  · rw [Server.WellOwned, Server.after_objects_get] at hs
    obtain ⟨-, -, r, hr, hother, -⟩ := metadata_of_desired hu.keeps hchild
    refine ⟨⟨r.uid, (Application.ownerReference_ok hr).1, fun j hj => .inl ?_⟩,
      orderly_of_desired hu hchild (hcurrent.orderly hs)⟩
    rw [Server.after_objects_get] at hj
    exact hcurrent.freeFor (ObjectMeta.otherController?_eq_none.1 hother) hj

/-- **Removing a child respects whose objects are**: what something else
controls is not controlled by the application. -/
theorem guarded_deleteOwn : (deleteOwn α app name).Along (Guarded app) s := by
  refine along_deleteOwn (guarded_of_read _ rfl) fun child hchild hcontrols hs => ⟨?_, trivial⟩
  rw [Server.WellOwned, Server.after_objects_get] at hs
  have horderly := hchild.orderly hs
  cases huid : app.metadata.uid with
  | none => simp [ObjectMeta.isControlledBy, huid] at hcontrols
  | some uid =>
    obtain ⟨r, hr, hself, hc⟩ := (ObjectMeta.isControlledBy_iff huid).1 hcontrols
    refine ⟨uid, huid, fun j hj => ?_⟩
    rw [Server.after_objects_get] at hj
    exact hchild.freeFor (fun q hq hcq => (horderly.uid_eq hq hr hcq hc).trans hself) hj

/-- **Giving up a shared secret respects whose objects are**: it is deleted
only if nothing else owns it, and else loses this one owner. -/
theorem guarded_release : (release Secret app name).Along (Guarded app) s := by
  refine along_release (guarded_of_read _ rfl) (fun secret uid hsecret huid howners hs => ?_)
    fun secret uid hsecret huid hs => ?_
  · refine ⟨⟨uid, huid, fun j hj => ?_⟩, trivial⟩
    rw [Server.after_objects_get] at hj
    exact hsecret.freeFor (fun q hq _ => howners q hq) hj
  · rw [Server.WellOwned, Server.after_objects_get] at hs
    refine ⟨⟨uid, huid, fun j hj => .inr ⟨secret, ?_, read?_encode _⟩⟩, ?_⟩
    · obtain ⟨j', hj', hread⟩ := shows_some.1 hsecret
      rw [Server.after_objects_get, hj'] at hj
      exact Option.some.inj hj ▸ hread
    · rw [Call.Orderly, owners_encode, mapMetadata, ApiObject.metadata_withMetadata]
      exact (hsecret.orderly hs).filter _

/-- **All operations of a pass** respect whose objects are. -/
theorem admits_guarded (app : Application) : Admits app (fun _ _ => True) (Guarded app) where
  read _ c h := guarded_of_read c h
  write _ _ _ hu _ := guarded_write hu
  deleteOwn _ _ := guarded_deleteOwn
  release _ _ := guarded_release

end Access

/-! ## Runs of passes

A turn is all that a pass depends on beside the cluster, so a run is a list of turns,
each by any application and with any status, and the cluster after it is a fold. The
statement about the next pass speaks of each of its calls, with the cluster as the
call finds it, and holds of passes that are cut off. -/

/-- **A turn of an application**: what is known and wanted when a pass is made for it. -/
structure Turn where
  /-- The application. -/
  app : Application
  /-- What is known of the cluster's APIs. -/
  apis : ClusterApis
  /-- The settings. -/
  settings : Settings
  /-- The status that the pass starts from. -/
  status : ApplicationStatus

/-- The pass of a turn. -/
def Turn.pass (t : Turn) : Pass Unit := Pass.children t.apis t.settings t.app

/-- The cluster after a turn, however it ended. -/
def Turn.after (s : Server) (t : Turn) : Server := (t.pass.on t.status s).2.2

/-- The status that a turn leaves, however it ended. -/
def Turn.noted (t : Turn) (s : Server) : ApplicationStatus := (t.pass.on t.status s).2.1

/-- **A cluster in order stays in order** through a pass, and every call of
the pass respects whose objects are. -/
theorem Turn.along_pass (t : Turn) {s : Server} (h : s.WellOwned) :
    (t.after s).WellOwned ∧
      t.pass.Along (fun s c => s.WellOwned ∧ c.Respects t.app s.objects) t.status s := by
  have hguarded : t.pass.Along (Access.Guarded t.app) t.status s :=
    Pass.along_children ((Access.admits_guarded t.app).secrets (fun _ => trivial) t.status)
      (Access.admits_guarded t.app) (fun _ => trivial) t.settings s
  obtain ⟨hafter, halong⟩ := Dialogue.Along.invariant hguarded h
    fun s c hc hs => hs.after (hc hs).2
  exact ⟨hafter, Dialogue.Along.mono halong fun s c hc => ⟨hc.2.1, (hc.1 hc.2.1).1⟩⟩

/-- **Ownership is safe over whole runs.** From a cluster that is in order,
any passes for any applications lead to one that is, whether they succeed or
are cut off; and at any time in the pass that comes next the cluster is in
order and the call respects whose objects are. -/
theorem ownership_safe (turns : List Turn) (next : Turn) (s : Server) (h : s.WellOwned) :
    (turns.foldl Turn.after s).WellOwned ∧
      next.pass.Along (fun s c => s.WellOwned ∧ c.Respects next.app s.objects) next.status
        (turns.foldl Turn.after s) := by
  have hrun : (turns.foldl Turn.after s).WellOwned := by
    induction turns generalizing s with
    | nil => exact h
    | cons t rest ih => exact ih _ (t.along_pass h).1
  exact ⟨hrun, (next.along_pass hrun).2⟩

/-- Nothing is owned in a cluster in which applications just offer services. -/
theorem Server.owners_offering (providers : List (String × String)) :
    ∀ key j, (Server.offering providers).objects.get? key = some j → j.owners = [] := by
  have hfold : ∀ objects : Dict ObjectKey Json,
      (∀ key j, objects.get? key = some j → j.owners = []) →
      ∀ key j, (providers.foldl (fun objects p => objects.insert
        (.of Secret p.1 (Binding.secretName p.1 p.2)) (encode (Secret.saying p.2)))
        objects).get? key = some j → j.owners = [] := by
    induction providers with
    | nil => exact fun objects h => h
    | cons p rest ih =>
      refine fun objects h => ih _ fun key j hj => ?_
      rw [Dict.get?_insert] at hj
      split at hj
      · obtain rfl := Option.some.inj hj
        exact Access.owners_encode _
      · exact h key j hj
  exact hfold .empty (by simp)

/-- A secret that something called by an identity controls. -/
def Secret.controlledBy (uid : String) : Secret :=
  { blank Secret with
    metadata := { (default : ObjectMeta) with
      ownerReferences := some [
        { apiVersion := "apps/v1", kind := "Deployment", name := "db", uid,
          controller := some true, blockOwnerDeletion := none }] } }

/-- So it is for two turns of an application where something else controls
the secret that the application would publish. -/
theorem ownership_safe_beside_other :
    let s : Server :=
      { objects := .singleton (.of Secret "shop" "shop-web") (encode (Secret.controlledBy "u2")) }
    let turn : Turn := ⟨.bound "shop" "web" "u1" true [], {}, {}, default⟩
    s.WellOwned ∧ ([turn].foldl Turn.after s).WellOwned ∧
      turn.pass.Along (fun s c => s.WellOwned ∧ c.Respects turn.app s.objects) turn.status
        ([turn].foldl Turn.after s) := by
  intro s turn
  have hs : s.WellOwned := by
    have hempty : ∀ key j, (Dict.empty : Dict ObjectKey Json).get? key = some j →
        OwnerReference.Orderly j.owners := by simp
    refine fun key j hj => orderly_insert hempty ?_ hj
    rw [Access.owners_encode]
    exact List.pairwise_singleton _ _
  exact ⟨hs, ownership_safe [turn] turn s hs⟩

end AppOperator
