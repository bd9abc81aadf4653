import AppOperator.Binding.Consumer
import AppOperator.Proofs.Cluster.Child
import AppOperator.Proofs.Cluster.Versions

/-!
# What is done to a shared copy

Applications of one namespace that use the same provider elsewhere share one copy
of its secret. Each of them writes the copy or gives it up in two calls at most:
the copy is read, and by what was read it is made, replaced or removed, or left as
it is. This module says once what an operation can go on with after its read
(`Sharers.GoesOn`), in the words that matter to the others: which owners the copy
will have, and in which version it was read.

That the version of what was read stands in what is stored in its place is not
said anywhere in the operations. It follows from how a child is made: from the
object that was read, of which nothing is changed but what the application asks
for.
-/

namespace AppOperator

/-! ## Owners

Owners are told by their identities. To join is to put one's reference among the
others, in the place of an older one if there is one; to leave is to take out all
references of one identity. In either case it is told of each other identity that it
is an owner after exactly if it was before, which is all that the other applications
care for. -/

namespace OwnerReference

/-- **An owner that is put among others** leaves the others where they are. -/
theorem uid_mem_upsert {r : OwnerReference} {owners : List OwnerReference} {uid : String} :
    (∃ q ∈ r.upsert owners, q.uid = uid) ↔ r.uid = uid ∨ ∃ q ∈ owners, q.uid = uid := by
  induction owners with
  | nil => simp [upsert]
  | cons old rest ih =>
    rw [upsert]
    split
    · rename_i heq
      simp only [List.mem_cons, exists_eq_or_imp, heq, or_self_left]
    · simp only [List.mem_cons, exists_eq_or_imp, ih]
      exact or_left_comm

end OwnerReference

theorem ObjectMeta.ownedBy_withoutOwner {m : ObjectMeta} {uid other : String} :
    (m.withoutOwner uid).OwnedBy other ↔ other ≠ uid ∧ m.OwnedBy other := by
  unfold OwnedBy
  rw [owners_withoutOwner]
  simp only [List.mem_filter, ne_eq, decide_eq_true_eq]
  constructor
  · rintro ⟨q, ⟨hq, hne⟩, rfl⟩
    exact ⟨hne, q, hq, rfl⟩
  · rintro ⟨hne, q, hq, rfl⟩
    exact ⟨q, ⟨hq, hne⟩, rfl⟩

/-! ## Reading as a single call

An operation on a stored object makes one call to read it and makes something of the
answer without any further call. So its dialogue is a call followed by a function of
the answer, and the answer can be cut down to what it says of the object: it is there,
it is not, or it cannot be told (`Access.found`). -/

namespace Access

variable {α β : Type} [ApiObject α]

/-- What the answer to a read says of an object that the operator may have made. -/
def found (α : Type) [ApiObject α] : Except Refusal Json → Except OperatorError (Option α)
  | .ok j =>
    match untyped? j with
    | none => .error (.callFailed .unreadable)
    | some object =>
      match decode α object with
      | some a => .ok (some a)
      | none => .error .unreadableObject
  | .error r => if r.reason = "NotFound" then .ok none else .error (refused r)

theorem found_encode [Legible α] (a : α) : found α (.ok (encode a)) = .ok (some a) := by
  obtain ⟨object, hobject, hdecode⟩ := Option.bind_eq_some_iff.1 (read?_encode a)
  unfold found
  simp only [hobject, hdecode]

/-- To find an object is to read it and to make something of the answer. -/
theorem find_eq (ns name : String) :
    find α ns name = attempt (.get (.of α ns name)) >>= fun reply => liftM (found α reply) := by
  unfold find look get
  simp only [bind_assoc]
  refine bind_congr fun reply => ?_
  unfold found
  cases reply with
  | error r =>
    dsimp only
    split
    · simp only [pure_bind]
      rfl
    · rfl
  | ok j =>
    simp only [pure_bind]
    cases untyped? j with
    | none => rfl
    | some object =>
      simp only [pure_bind]
      cases decode α object with
      | none => rfl
      | some a => rfl

/-- **An operation on a stored object begins with one read**, and goes on with
what the answer says. -/
theorem run_onStored {app : Application} {ns name : String} (next : String → Option α → Access β)
    (hns : app.ns? = some ns) :
    (do let ns ← app.ns; let existing ← find α ns name; next ns existing : Access β).run
      = .call (.get (.of α ns name)) fun reply => (liftM (found α reply) >>= next ns).run := by
  have hok : app.ns = .ok ns := by
    unfold Application.ns
    rw [hns]
  rw [hok]
  show (find α ns name >>= next ns).run = _
  rw [find_eq, bind_assoc]
  rfl

end Access

/-- What was made of an answer without a failure is gone on with. -/
theorem Access.run_lift_ok {α β : Type} (a : α) (next : α → Access β) :
    (liftM (.ok a : Except OperatorError α) >>= next : Access β).run = (next a).run := rfl

/-! ## The applications

The applications are given as a family, with an identity for each, and what each of
them does is one of two tasks. What a task goes on with after its read is described as
a relation rather than as a function: by the calls that may follow, with what is
stored in them, and by the result that is due at once where no call follows. In this
form it can be matched against a call that some interleaving makes next. -/

/-- **What an application does to a shared copy.** -/
inductive SharingTask where
  /-- It writes the copy. -/
  | share
  /-- It gives the copy up. -/
  | giveUp
deriving DecidableEq

/-- **Applications that share a copy**: they live in one namespace and can be told
apart. -/
structure Sharers (ι : Type) where
  /-- The namespace. -/
  ns : String
  /-- The name of the copy. -/
  copy : String
  /-- The provider's secret. -/
  source : Secret
  /-- The applications. -/
  app : ι → Application
  /-- Their identities. -/
  uid : ι → String
  /-- They live in the namespace. -/
  app_ns : ∀ i, (app i).ns? = some ns
  /-- They have these identities. -/
  app_uid : ∀ i, (app i).metadata.uid = some (uid i)
  /-- No two have the same. -/
  distinct : Function.Injective uid

namespace Sharers

variable {ι : Type} (C : Sharers ι)

/-- The key of the copy. -/
def key : ObjectKey := .of Secret C.ns C.copy

/-- **What an application does, call by call**; it comes to whether it succeeded. -/
def dialogue (i : ι) : SharingTask → Dialogue Bool
  | .share =>
    Except.isOk <$> (Access.writeShared (C.app i) C.copy (Secret.copyOf C.source)).run
  | .giveUp => Except.isOk <$> (Access.release Secret (C.app i) C.copy).run

/-- **What an application can go on with** after it has read the copy, or has read
that there is none. -/
inductive GoesOn (i : ι) (seen : Option Secret) : SharingTask → Dialogue Bool → Prop
  /-- It failed. -/
  | fails {task : SharingTask} : GoesOn i seen task (.done false)
  /-- The copy is as it should be, so the application is one of its owners. -/
  | stands {a : Secret} (hseen : seen = some a) (howned : a.metadata.OwnedBy (C.uid i)) :
    GoesOn i seen .share (.done true)
  /-- There is nothing to give up. -/
  | leaves : GoesOn i seen .giveUp (.done true)
  /-- It makes the copy, with itself as the only owner. -/
  | creates {a : Secret} {next : Except Refusal Unit → Dialogue Bool}
    (howners : ∀ uid, a.metadata.OwnedBy uid ↔ C.uid i = uid)
    (hnext : ∀ reply, next reply = .done reply.isOk) :
    GoesOn i seen .share (.call (.create C.key (encode a)) next)
  /-- It replaces the copy that it read by one that it owns as well. -/
  | joins {a b : Secret} {next : Except Refusal Unit → Dialogue Bool} (hseen : seen = some a)
    (hversion : b.version = a.version)
    (howners : ∀ uid, b.metadata.OwnedBy uid ↔ C.uid i = uid ∨ a.metadata.OwnedBy uid)
    (hnext : ∀ reply, next reply = .done reply.isOk) :
    GoesOn i seen .share (.call (.replace C.key (encode b)) next)
  /-- It replaces the copy that it read by one that it does not own any more. -/
  | withdraws {a b : Secret} {next : Except Refusal Unit → Dialogue Bool} (hseen : seen = some a)
    (hversion : b.version = a.version)
    (howners : ∀ uid, b.metadata.OwnedBy uid ↔ uid ≠ C.uid i ∧ a.metadata.OwnedBy uid)
    (hnext : ∀ reply, next reply = .done reply.isOk) :
    GoesOn i seen .giveUp (.call (.replace C.key (encode b)) next)
  /-- It removes the copy, of which it read that nobody else owns it. -/
  | removes {a : Secret} {next : Except Refusal Unit → Dialogue Bool} (hseen : seen = some a)
    (howners : ∀ uid, a.metadata.OwnedBy uid → uid = C.uid i)
    (hnext : ∀ reply, ∃ ok, next reply = .done ok) :
    GoesOn i seen .giveUp (.call (.delete C.key) next)

/-- What the answer to a read shows of the copy. -/
def seen (reply : Except Refusal Json) : Option Secret :=
  (Access.found Secret reply).toOption.join

variable {C} {i : ι}

/-- What is to be stored in the place of a copy has its version, since nothing of
the copy is changed but its name, its owners, its label and its contents. -/
theorem version_of_desired {current child : Secret}
    (h : Access.desired (C.app i) false C.ns C.copy (Secret.copyOf C.source) (some current)
      = .ok child) : child.version = current.version := by
  obtain ⟨m, hm, rfl⟩ := Access.desired_ok.1 h
  obtain ⟨r, -, -, rfl⟩ := Application.own_ok.1 hm
  rfl

/-- The owners of a copy that is to be stored are those of the copy that was read,
or of none, and the application. -/
theorem ownedBy_of_desired {existing : Option Secret} {child : Secret}
    (h : Access.desired (C.app i) false C.ns C.copy (Secret.copyOf C.source) existing = .ok child)
    (uid : String) : child.metadata.OwnedBy uid ↔ C.uid i = uid
      ∨ (metadata (existing.getD (blank Secret))).OwnedBy uid := by
  obtain ⟨-, -, r, hr, -, howners⟩ := Access.metadata_of_desired (Secret.steady_copyOf _).keeps h
  have huid : r.uid = C.uid i :=
    Option.some.inj ((Application.ownerReference_ok hr).1.symm.trans (C.app_uid i))
  show (∃ q ∈ (metadata child).owners, q.uid = uid) ↔ _
  rw [howners, ← huid]
  exact OwnerReference.uid_mem_upsert

@[simp] theorem seen_error (r : Refusal) : seen (.error r) = none := by
  unfold seen Access.found
  dsimp only
  split
  · rfl
  · rfl

@[simp] theorem seen_encode (a : Secret) : seen (.ok (encode a)) = some a := by
  unfold seen
  rw [Access.found_encode]
  rfl

theorem seen_of_found {reply : Except Refusal Json} {existing : Option Secret}
    (h : Access.found Secret reply = .ok existing) : seen reply = existing := by
  unfold seen
  rw [h]
  rfl

/-- **An application that writes the copy** reads it first. Then it makes one of
its own, joins the owners of the copy that it read, or finds itself among them. -/
theorem dialogue_share (C : Sharers ι) (i : ι) : ∃ next,
    C.dialogue i .share = .call (.get C.key) next
      ∧ ∀ reply, C.GoesOn i (seen reply) .share (next reply) := by
  refine ⟨_, congrArg (Except.isOk <$> ·) (Access.run_onStored _ (C.app_ns i)), fun reply => ?_⟩
  dsimp only
  cases hfound : Access.found Secret reply with
  | error e => exact .fails
  | ok existing =>
    rw [seen_of_found hfound, Access.run_lift_ok]
    -- what is to be stored is decided by what was read alone: nothing of the present enters
    cases hdesired :
      Access.desired (C.app i) false C.ns C.copy (Secret.copyOf C.source) existing with
    | error e => exact .fails
    | ok child =>
      rw [Access.run_lift_ok]
      have howners := ownedBy_of_desired hdesired
      cases existing with
      | none =>
        have hkey : C.key = .of Secret C.ns (metadata child).nameOrEmpty := by
          rw [ObjectMeta.nameOrEmpty,
            (Access.metadata_of_desired (Secret.steady_copyOf _).keeps hdesired).1]
          rfl
        have hnobody : ∀ uid, ¬ (metadata (blank Secret)).OwnedBy uid := by
          rintro uid ⟨q, hq, -⟩
          exact List.not_mem_nil hq
        show C.GoesOn i none .share (.call (.create (.of Secret C.ns _) (encode child)) _)
        rw [← hkey]
        exact .creates (fun uid => (howners uid).trans (or_iff_left (hnobody uid)))
          fun reply => by cases reply <;> rfl
      | some current =>
        dsimp only
        split
        · rename_i hsame
          obtain rfl := encode_injective hsame
          exact .stands rfl ((howners _).2 (.inl rfl))
        · exact .joins rfl (version_of_desired hdesired) howners fun reply => by
            cases reply <;> rfl

/-- **An application that gives the copy up** reads it first. Then it takes itself
off the owners of the copy that it read, or removes it if it read no other owner. -/
theorem dialogue_giveUp (C : Sharers ι) (i : ι) : ∃ next,
    C.dialogue i .giveUp = .call (.get C.key) next
      ∧ ∀ reply, C.GoesOn i (seen reply) .giveUp (next reply) := by
  refine ⟨_, congrArg (Except.isOk <$> ·) (Access.run_onStored _ (C.app_ns i)), fun reply => ?_⟩
  dsimp only
  cases hfound : Access.found Secret reply with
  | error e => exact .fails
  | ok existing =>
    rw [seen_of_found hfound, Access.run_lift_ok, C.app_uid i]
    -- whether an owner is left is decided on the copy as it was read, and the removal that may
    -- follow names the copy only
    cases existing with
    | none => exact .leaves
    | some current =>
      dsimp only
      split
      · exact .leaves
      · split
        · rename_i hempty
          refine .removes rfl (fun uid ⟨q, hq, huid⟩ => ?_) fun reply => ?_
          · rw [← huid]
            simpa using List.filter_eq_nil_iff.1 (List.isEmpty_iff.1 hempty) q hq
          · cases reply with
            | ok _ => exact ⟨true, rfl⟩
            | error r =>
              show ∃ ok, Except.isOk <$> (if r.code = 404 then pure false
                else throw (Access.refused r) : Access Bool).run = .done ok
              split
              · exact ⟨true, rfl⟩
              · exact ⟨false, rfl⟩
        · exact .withdraws rfl rfl (fun uid => ObjectMeta.ownedBy_withoutOwner) fun reply => by
            cases reply <;> rfl

/-- **An application reads the copy first**, and then goes on by what it has seen. -/
theorem dialogue_eq (C : Sharers ι) (i : ι) (task : SharingTask) : ∃ next,
    C.dialogue i task = .call (.get C.key) next
      ∧ ∀ reply, C.GoesOn i (seen reply) task (next reply) := by
  cases task with
  | share => exact C.dialogue_share i
  | giveUp => exact C.dialogue_giveUp i

end Sharers
end AppOperator
