import AppOperator.Proofs.Cluster.Runs
import AppOperator.Proofs.Cluster.Stored

/-!
# What is read and what was written

The answers that computations come to, and what they say of what is stored.
An object that is found is stored, whatever refusals came before. That an
object is *not* there is only known from the answers of the cluster, so it
takes a cluster whose refusals from outside do not pretend that an object is
missing (`Server.Truthful`).

The statements about answers are of two kinds that should not be confused. One takes a
result as given and says what must have been the case; it holds whatever is refused,
since a refusal that matters has led to another result. The other says which result
there will be, and it needs to know that the cluster does not refuse. The first kind
is what is used where passes succeed by assumption, the second where it is to be shown
that they do.
-/

namespace AppOperator

/-! ## What a cluster answers

A call is answered by two parties: whatever refuses it from outside, of which nothing
is known, and the cluster, by what it stores and serves. Most of what the operator
relies on needs only that an answer that is positive came from the second. What it
concludes from a negative one needs more, and the conditions on clusters are graded by
that: an open one refuses nothing, a truthful one may refuse everything but never by
saying that something is not there.

What is stored of a child is stated as `Access.Shows`, with a value for none: an
object that is there and cannot be read shows neither a child nor none, so any
statement that a child is shown includes that it can be read. -/

namespace Server

/-- **A cluster that refuses nothing from outside.** -/
def Open (s : Server) : Prop := ∀ n c, s.refuse n c = none

/-- **A cluster that does not lie about what is missing**: a refusal from
outside is no answer that an object is not there. -/
def Truthful (s : Server) : Prop :=
  ∀ n c r, s.refuse n c = some r → r.reason ≠ "NotFound" ∧ r.code ≠ 404

variable {s : Server} {c : Call}

theorem Open.truthful (h : s.Open) : s.Truthful := by
  intro n c r hr
  rw [h] at hr
  simp at hr

theorem Open.congr {s' : Server} (h : s.Open) (hrefuse : s'.refuse = s.refuse) : s'.Open := by
  unfold Open
  rw [hrefuse]
  exact h

theorem Truthful.congr {s' : Server} (h : s.Truthful) (hrefuse : s'.refuse = s.refuse) :
    s'.Truthful := by
  unfold Truthful
  rw [hrefuse]
  exact h

theorem Open.after (h : s.Open) (c : Call) : (s.after c).Open := h.congr (s.after_refuse c)

theorem Truthful.after (h : s.Truthful) (c : Call) : (s.after c).Truthful :=
  h.congr (s.after_refuse c)

/-- **What is not refused from outside is answered** by what is stored and served. -/
theorem answer_of_heard (h : s.refuse s.history.length c = none) :
    (s.perform c).1 = s.answer c := by
  unfold perform
  rw [h]
  cases s.answer c with
  | ok _ => rfl
  | error _ => rfl

/-- An open cluster answers so. -/
theorem Open.answer_eq (h : s.Open) (c : Call) : (s.perform c).1 = s.answer c :=
  answer_of_heard (h _ c)

/-- **A truthful cluster says of nothing that is there that it is not.** -/
theorem Truthful.answer_of_absent (h : s.Truthful) {r : Refusal}
    (hr : (s.perform c).1 = .error r) (habsent : r.reason = "NotFound" ∨ r.code = 404) :
    s.answer c = .error r := by
  unfold perform at hr
  cases ho : s.refuse s.history.length c with
  | some r' =>
    rw [ho] at hr
    obtain rfl := Except.error.inj hr
    obtain ⟨hreason, hcode⟩ := h _ _ _ ho
    rcases habsent with he | he
    · exact absurd he hreason
    · exact absurd he hcode
  | none =>
    rw [ho] at hr
    cases ha : s.answer c with
    | ok reply =>
      rw [ha] at hr
      simp at hr
    | error r' =>
      rw [ha] at hr
      exact congrArg Except.error (Except.error.inj hr)

theorem present?_ok {key : ObjectKey} {j : Json} :
    s.present? key = .ok j ↔ s.objects.get? key = some j := by
  unfold present?
  cases s.objects.get? key with
  | none => simp
  | some _ => simp

theorem present?_error {key : ObjectKey} {r : Refusal} (h : s.present? key = .error r) :
    s.objects.get? key = none := by
  unfold present? at h
  cases ho : s.objects.get? key with
  | none => rfl
  | some _ =>
    rw [ho] at h
    simp at h

/-- What changes an object is accepted only if the object is there. -/
theorem get?_of_changed {key : ObjectKey} (h : (s.present? key).map (fun _ => ()) = .ok ()) :
    ∃ j, s.objects.get? key = some j := by
  cases hp : s.present? key with
  | ok j => exact ⟨j, present?_ok.1 hp⟩
  | error r =>
    rw [hp] at h
    simp [Except.map] at h

/-- It is refused for what is stored only if the object is not there. -/
theorem get?_of_unchanged {key : ObjectKey} {r : Refusal}
    (h : (s.present? key).map (fun _ => ()) = .error r) : s.objects.get? key = none := by
  cases hp : s.present? key with
  | ok j =>
    rw [hp] at h
    simp [Except.map] at h
  | error r => exact present?_error hp

/-- An object is only made where there is none. -/
theorem get?_of_created {key : ObjectKey} {object : Json}
    (h : s.answer (.create key object) = .ok ()) : s.objects.get? key = none := by
  cases hget : s.objects.get? key with
  | none => rfl
  | some j =>
    have hcontains : s.objects.contains key = true := Option.isSome_iff_exists.2 ⟨j, hget⟩
    rw [answer, if_pos hcontains] at h
    simp at h

/-- An accepted call is answered by what is stored. -/
theorem answer_of_ok {reply : c.Reply} (h : (s.perform c).1 = .ok reply) :
    s.answer c = .ok reply ∧ (s.after c).objects = c.apply s.objects := by
  rcases s.perform_cases c with ⟨r, hr, -⟩ | ⟨reply', hr, ha, ho⟩
  · rw [h] at hr
    simp at hr
  · rw [h] at hr
    exact ⟨ha.trans (congrArg Except.ok (Except.ok.inj hr).symm), ho⟩

@[simp] theorem after_objects_get (s : Server) (key : ObjectKey) :
    (s.after (.get key)).objects = s.objects := after_objects_of_read rfl

end Server

/-- **What is stored of a child**: nothing, or an object that can be read. -/
def Access.Shows (objects : Dict ObjectKey Json) (α : Type) [ApiObject α] (ns name : String)
    (existing : Option α) : Prop :=
  (objects.get? (.of α ns name)).map (read? α) = existing.map some

namespace Access

variable {α : Type} [ApiObject α] {objects objects' : Dict ObjectKey Json} {ns name : String}

theorem shows_none : Shows objects α ns name none ↔ objects.get? (.of α ns name) = none := by
  unfold Shows
  simp

theorem shows_some {a : α} : Shows objects α ns name (some a)
    ↔ ∃ j, objects.get? (.of α ns name) = some j ∧ read? α j = some a := by
  unfold Shows
  simp

/-- What is stored of a child depends on what is stored under its key. -/
theorem Shows.congr {existing : Option α} (h : Shows objects α ns name existing)
    (heq : objects'.get? (.of α ns name) = objects.get? (.of α ns name)) :
    Shows objects' α ns name existing := by
  unfold Shows
  rw [heq]
  exact h

theorem Shows.unique {a b : Option α} (ha : Shows objects α ns name a)
    (hb : Shows objects α ns name b) : a = b :=
  Option.map_injective (fun _ _ => Option.some.inj) (ha.symm.trans hb)

theorem shows_insert [Legible α] (objects : Dict ObjectKey Json) (ns name : String) (a : α) :
    Shows (objects.insert (.of α ns name) (encode a)) α ns name (some a) :=
  shows_some.2 ⟨encode a, Dict.get?_insert_self .., read?_encode a⟩

end Access

/-! ## Reading

There are three ways to read: the object, the object as one that the operator may have
made, and the object as one of a type. Each has a lemma for what a successful answer
says and one for open clusters, where success need not be assumed. They are stated for
a result and a cluster that the computation comes to, so that `obtain` takes a
successful pass apart call by call. -/

namespace Access

variable {α : Type} [ApiObject α] {P : Server → Call → Prop} {s s' : Server} {ns name : String}

theorem on_lift_ok {β : Type} {e : Except OperatorError β} {b : β} :
    (liftM e : Access β).on s = (.ok b, s') ↔ e = .ok b ∧ s = s' :=
  Prod.mk.injEq .. ▸ Iff.rfl

@[simp] theorem along_lift {β : Type} (e : Except OperatorError β) :
    (liftM e : Access β).Along P s := trivial

/-- A truthful cluster stays truthful. -/
theorem truthful_of_on {β : Type} {act : Access β} {r : Except OperatorError β} (ht : s.Truthful)
    (h : act.on s = (r, s')) : s'.Truthful := by
  have hrefuse := on_refuse act s
  rw [h] at hrefuse
  exact ht.congr hrefuse

theorem along_get {key : ObjectKey} (h : P s (.get key)) : (get key).Along P s := by
  refine along_bind ((along_attempt _).2 h) fun r s' _ => ?_
  cases r with
  | ok object => exact along_pure _
  | error r =>
    show (if r.reason = "NotFound" then _ else _ : Access _).Along P s'
    split
    · exact along_pure _
    · exact along_throw _

theorem get_ok {key : ObjectKey} {r : Option Json} (h : (get key).on s = (.ok r, s')) :
    s' = s.after (.get key) ∧ ((∃ j, r = some j ∧ s.objects.get? key = some j)
      ∨ (r = none ∧ (s.Truthful → s.objects.get? key = none))) := by
  obtain ⟨answer, t, ht, h⟩ := on_bind_ok.1 h
  rw [on_attempt] at ht
  obtain ⟨hanswer, rfl⟩ := Prod.mk.inj ht
  obtain rfl := Except.ok.inj hanswer
  -- of all refusals only one is taken for an answer, and a truthful cluster means it
  cases hp : (s.perform (.get key)).1 with
  | ok object =>
    rw [hp] at h
    obtain ⟨hr, rfl⟩ := Prod.mk.inj h
    exact ⟨rfl, .inl ⟨object, (Except.ok.inj hr).symm,
      Server.present?_ok.1 (Server.answer_of_ok hp).1⟩⟩
  | error refusal =>
    rw [hp] at h
    change (if refusal.reason = "NotFound" then pure none else throw (refused refusal) :
      Access (Option Json)).on _ = _ at h
    split at h
    · rename_i hreason
      obtain ⟨hr, rfl⟩ := Prod.mk.inj h
      exact ⟨rfl, .inr ⟨(Except.ok.inj hr).symm, fun ht =>
        Server.present?_error (ht.answer_of_absent hp (.inl hreason))⟩⟩
    · simp at h

/-- **An object is read as it is stored**, if the call is not refused from outside. -/
theorem get_on_heard {key : ObjectKey} (h : s.refuse s.history.length (.get key) = none) :
    (get key).on s = (.ok (s.objects.get? key), s.after (.get key)) := by
  have hp : (s.perform (.get key)).1 = s.present? key := Server.answer_of_heard h
  unfold get
  rw [on_bind, on_attempt]
  dsimp only
  unfold Server.present? at hp
  cases ho : s.objects.get? key with
  | some j =>
    rw [ho] at hp
    rw [hp]
    rfl
  | none =>
    rw [ho] at hp
    rw [hp]
    rfl

/-- So it is on an open cluster. -/
theorem get_on_open (h : s.Open) (key : ObjectKey) :
    (get key).on s = (.ok (s.objects.get? key), s.after (.get key)) :=
  get_on_heard (h _ _)

theorem along_find (h : P s (.get (.of α ns name))) : (find α ns name).Along P s := by
  refine along_bind (along_bind (along_get h) fun r s' _ => ?_) fun r s' _ => ?_
  · cases r with
    | none => exact along_pure _
    | some j =>
      dsimp only
      cases untyped? j with
      | some object => exact along_pure _
      | none => exact along_throw _
  · cases r with
    | none => exact along_pure _
    | some j =>
      dsimp only
      cases decode α j with
      | some a => exact along_pure _
      | none => exact along_throw _

/-- **What is found is stored**, and on a truthful cluster nothing is stored
where nothing is found. -/
theorem find_ok {r : Option α} (h : (find α ns name).on s = (.ok r, s')) :
    s' = s.after (.get (.of α ns name)) ∧ ((∃ a, r = some a ∧ Shows s.objects α ns name (some a))
      ∨ (r = none ∧ (s.Truthful → Shows s.objects α ns name none))) := by
  obtain ⟨seen, t, hlook, h⟩ := on_bind_ok.1 h
  obtain ⟨stored, t', hget, hlook⟩ := on_bind_ok.1 hlook
  -- an object that is there must be read twice, as an object and as one of its type
  obtain ⟨rfl, ⟨j, rfl, hj⟩ | ⟨rfl, hnone⟩⟩ := get_ok hget
  · dsimp only at hlook
    cases hu : untyped? j with
    | none =>
      rw [hu] at hlook
      simp at hlook
    | some object =>
      rw [hu] at hlook
      obtain ⟨hseen, rfl⟩ := Prod.mk.inj hlook
      obtain rfl := Except.ok.inj hseen
      dsimp only at h
      cases hd : decode α object with
      | none =>
        rw [hd] at h
        simp at h
      | some a =>
        rw [hd] at h
        obtain ⟨hr, rfl⟩ := Prod.mk.inj h
        refine ⟨rfl, .inl ⟨a, (Except.ok.inj hr).symm, shows_some.2 ⟨j, hj, ?_⟩⟩⟩
        rw [read?, hu, Option.bind_some, hd]
  · obtain ⟨hseen, rfl⟩ := Prod.mk.inj hlook
    obtain rfl := Except.ok.inj hseen
    obtain ⟨hr, rfl⟩ := Prod.mk.inj h
    exact ⟨rfl, .inr ⟨(Except.ok.inj hr).symm, fun ht => shows_none.2 (hnone ht)⟩⟩

/-- On a truthful cluster it is as it is found. -/
theorem find_stored (ht : s.Truthful) {r : Option α} (h : (find α ns name).on s = (.ok r, s')) :
    s' = s.after (.get (.of α ns name)) ∧ Shows s.objects α ns name r := by
  obtain ⟨hs, ⟨a, rfl, hshows⟩ | ⟨rfl, hnone⟩⟩ := find_ok h
  · exact ⟨hs, hshows⟩
  · exact ⟨hs, hnone ht⟩

/-- On an open cluster what is stored is found. -/
theorem find_on_open (h : s.Open) {existing : Option α}
    (hshows : Shows s.objects α ns name existing) :
    (find α ns name).on s = (.ok existing, s.after (.get (.of α ns name))) := by
  unfold find look
  rw [on_bind, on_bind, get_on_open h]
  cases existing with
  | none =>
    rw [shows_none.1 hshows]
    rfl
  | some a =>
    obtain ⟨j, hj, hread⟩ := shows_some.1 hshows
    obtain ⟨object, hu, hd⟩ := Option.bind_eq_some_iff.1 hread
    rw [hj]
    simp only [hu, on_pure, hd]

end Access

/-! ## Writing

A call that has to succeed fails with the pass; only a removal takes a certain
refusal, that there is nothing to remove, for an answer. So all that is known after a
write is that the call was accepted, and of a removal, on a truthful cluster, that
there is nothing there. -/

namespace Access

variable {P : Server → Call → Prop} {s s' : Server}

theorem along_require {c : Call} (h : P s c) : (require c).Along P s := by
  refine along_bind ((along_attempt _).2 h) fun r s' _ => ?_
  cases r with
  | ok reply => exact along_pure _
  | error r => exact along_throw _

theorem require_ok {c : Call} {reply : c.Reply} (h : (require c).on s = (.ok reply, s')) :
    s' = s.after c ∧ (s.perform c).1 = .ok reply := by
  obtain ⟨answer, t, ht, h⟩ := on_bind_ok.1 h
  rw [on_attempt] at ht
  obtain ⟨hanswer, rfl⟩ := Prod.mk.inj ht
  obtain rfl := Except.ok.inj hanswer
  cases hp : (s.perform c).1 with
  | ok reply' =>
    rw [hp] at h
    obtain ⟨hr, rfl⟩ := Prod.mk.inj h
    exact ⟨rfl, congrArg Except.ok (Except.ok.inj hr)⟩
  | error refusal =>
    rw [hp] at h
    simp at h

theorem along_delete {key : ObjectKey} (h : P s (.delete key)) : (delete key).Along P s := by
  refine along_bind ((along_attempt _).2 h) fun r s' _ => ?_
  cases r with
  | ok _ => exact along_pure _
  | error r =>
    show (if r.code = 404 then _ else _ : Access _).Along P s'
    split
    · exact along_pure _
    · exact along_throw _

/-- **What is deleted is not there** on a truthful cluster. -/
theorem delete_ok {key : ObjectKey} {b : Bool} (ht : s.Truthful)
    (h : (delete key).on s = (.ok b, s')) :
    s' = s.after (.delete key) ∧ s'.objects.get? key = none := by
  obtain ⟨answer, t, hattempt, h⟩ := on_bind_ok.1 h
  rw [on_attempt] at hattempt
  obtain ⟨hanswer, rfl⟩ := Prod.mk.inj hattempt
  obtain rfl := Except.ok.inj hanswer
  cases hp : (s.perform (.delete key)).1 with
  | ok reply =>
    rw [hp] at h
    obtain ⟨-, rfl⟩ := Prod.mk.inj h
    refine ⟨rfl, ?_⟩
    show (s.after (.delete key)).objects.get? key = none
    rw [(Server.answer_of_ok hp).2]
    show (s.objects.erase key).get? key = none
    rw [Dict.get?_erase, if_pos rfl]
  | error refusal =>
    rw [hp] at h
    change (if refusal.code = 404 then pure false else throw (refused refusal) : Access Bool).on _
      = _ at h
    split at h
    -- on a truthful cluster this refusal says that the object is not there
    · rename_i hcode
      obtain ⟨-, rfl⟩ := Prod.mk.inj h
      have habsent := Server.get?_of_unchanged (ht.answer_of_absent hp (.inr hcode))
      refine ⟨rfl, ?_⟩
      show (s.after (.delete key)).objects.get? key = none
      rcases s.perform_cases (.delete key) with ⟨_, -, ho⟩ | ⟨_, hr, -⟩
      · rw [ho, habsent]
      · rw [hp] at hr
        simp at hr
    · simp at h

/-! ## Computations that only read

Reading is the case of touching in which no key is written. It is closed under all
that computations are built from, so whether one only reads is shown by following how
it is built, and its consequences come all at once: everything stored stays, nothing
is added to the writes, and every law about calls that do not write holds along it. -/

/-- **A computation that writes nothing.** -/
def Reads {α : Type} (act : Access α) : Prop := Touches (fun _ => False) act

namespace Reads

variable {α β : Type} {act : Access α}

theorem touches (h : Reads act) (K : ObjectKey → Prop) : Touches K act :=
  Touches.mono h fun _ hk => hk.elim

/-- What is admissible of calls that do not write is admissible of reading. -/
theorem along (h : Reads act) (hread : ∀ s c, c.isWrite = false → P s c) (s : Server) :
    act.Along P s := by
  refine Dialogue.Along.mono (h s) fun s c hc => hread s c ?_
  cases c with
  | get _ => rfl
  | discover _ => rfl
  | create key _ | replace key _ | delete key | patchStatus key _ =>
    exact (hc rfl key rfl).elim

/-- Reading leaves everything as it is. -/
theorem objects_eq (h : Reads act) (s : Server) : (act.on s).2.objects = s.objects :=
  Dict.ext fun _ => Touches.get?_eq h s not_false

theorem objects_of_on (h : Reads act) {r : Except OperatorError α} (hs : act.on s = (r, s')) :
    s'.objects = s.objects := by
  have hobjects := h.objects_eq s
  rw [hs] at hobjects
  exact hobjects

theorem pure (a : α) : Reads (Pure.pure a : Access α) := touches_pure a

theorem throw (e : OperatorError) : Reads (MonadExcept.throw e : Access α) := touches_throw e

theorem bind {next : α → Access β} (h : Reads act) (hnext : ∀ a, Reads (next a)) :
    Reads (act >>= next) := Touches.bind h hnext

theorem ite {c : Prop} [Decidable c] {a b : Access α} (ha : Reads a) (hb : Reads b) :
    Reads (if c then a else b) := Touches.ite (fun _ => ha) fun _ => hb

theorem lift (e : Except OperatorError α) : Reads (liftM e : Access α) := fun _ => along_lift e

theorem get (key : ObjectKey) : Reads (Access.get key) := fun _ =>
  along_get fun hw => absurd hw (by simp [Call.isWrite])

theorem look (key : ObjectKey) : Reads (Access.look key) := by
  refine bind (get key) fun r => ?_
  cases r with
  | none => exact pure _
  | some j =>
    dsimp only
    cases untyped? j with
    | some object => exact pure _
    | none => exact throw _

theorem find (α : Type) [ApiObject α] (ns name : String) : Reads (Access.find α ns name) := fun _ =>
  along_find fun hw => absurd hw (by simp [Call.isWrite])

theorem lookUp (α : Type) [ApiObject α] (ns name : String) : Reads (Access.lookUp α ns name) := by
  refine bind (get _) fun r => ?_
  cases r with
  | none => exact pure _
  | some j =>
    dsimp only
    cases decode α j with
    | some a => exact pure _
    | none => exact throw _

/-- Reading is not among the writes. -/
theorem writes_eq (h : Reads act) (s : Server) : (act.on s).2.writes = s.writes :=
  Along.keeps (h.along (P := fun _ c => c.isWrite = false) (fun _ _ hc => hc) s)
    (I := fun t => t.writes = s.writes) rfl fun _ _ hc ht =>
      (Server.after_writes_of_read hc).trans ht

end Reads

section LookUp

variable {α : Type} [ApiObject α] {s s' : Server} {ns name : String}

/-- **What is looked up is stored**, and on a truthful cluster nothing is
stored where nothing is found. -/
theorem lookUp_ok {r : Option α} (h : (lookUp α ns name).on s = (.ok r, s')) :
    (∃ j a, r = some a ∧ s.objects.get? (.of α ns name) = some j ∧ decode α j = some a)
      ∨ (r = none ∧ (s.Truthful → s.objects.get? (.of α ns name) = none)) := by
  obtain ⟨stored, t, hget, h⟩ := on_bind_ok.1 h
  obtain ⟨rfl, ⟨j, rfl, hj⟩ | ⟨rfl, hnone⟩⟩ := get_ok hget
  · dsimp only at h
    cases hd : decode α j with
    | none =>
      rw [hd] at h
      simp at h
    | some a =>
      rw [hd] at h
      exact .inl ⟨j, a, (Except.ok.inj (Prod.mk.inj h).1).symm, hj, hd⟩
  · exact .inr ⟨(Except.ok.inj (Prod.mk.inj h).1).symm, hnone⟩

/-- On an open cluster what is stored is looked up. -/
theorem lookUp_on_open (h : s.Open) {r : Option α}
    (hr : (s.objects.get? (.of α ns name)).map (decode α) = r.map some) :
    (lookUp α ns name).on s = (.ok r, s.after (.get (.of α ns name))) := by
  unfold lookUp
  rw [on_bind, get_on_open h]
  cases hj : s.objects.get? (.of α ns name) with
  | none =>
    rw [hj] at hr
    cases r with
    | none => rfl
    | some a => simp at hr
  | some j =>
    rw [hj] at hr
    cases r with
    | none => simp at hr
    | some a =>
      have hd : decode α j = some a := Option.some.inj hr
      simp only [hd, on_pure]

end LookUp

end Access

/-- An open cluster stays open through a pass. -/
theorem Pass.open_of_on {α : Type} {pass : Pass α} {status status' : ApplicationStatus}
    {s s' : Server} {r : Except OperatorError α} (ho : s.Open)
    (h : pass.on status s = (r, status', s')) : s'.Open := by
  have hrefuse := pass.on_refuse status s
  rw [h] at hrefuse
  exact ho.congr hrefuse

/-- A truthful cluster stays truthful through a pass. -/
theorem Pass.truthful_of_on {α : Type} {pass : Pass α} {status status' : ApplicationStatus}
    {s s' : Server} {r : Except OperatorError α} (ht : s.Truthful)
    (h : pass.on status s = (r, status', s')) : s'.Truthful := by
  have hrefuse := pass.on_refuse status s
  rw [h] at hrefuse
  exact ht.congr hrefuse

end AppOperator
