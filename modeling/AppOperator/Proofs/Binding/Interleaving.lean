import Mathlib.Logic.Function.Basic
import AppOperator.Proofs.Binding.Sharing
import AppOperator.Proofs.Reconcile.Steps

/-!
# Sharing a copy at the same time

Applications that share a copy are reconciled at the same time, so their calls are
made in any order. A run is a sequence of moves: an application begins to write the
copy or to give it up, or it makes its next call, which may be refused. The log
tells what became of it, and from the log can be told who relies on the copy: who
has last written it with success and has not begun to give it up since.

Each operation takes effect with one call, and it comes to its end with that call.
A copy that was read and is replaced is replaced as it was read, because the
cluster compares the versions, so no owner is lost there. A removal is compared
with nothing. Who relies on the copy keeps it if and only if no removal was accepted
since (`SharingState.kept_iff`), and a removal that is accepted against one who relies
on the copy was decided on an older read (`SharingState.not_removing_of_kept`).
-/

namespace AppOperator

/-! ## Runs

What happened is kept in a log, the latest first, beside the cluster and what each
application is about to do. The log records no calls. It says who began and ended what,
and who had the copy removed, and this is enough to tell who relies on the copy: a
notion of what was done, with no regard to what is stored, so that it can be compared
with what is stored. -/

/-- **What happened**, as far as it matters to who relies on the copy. -/
inductive SharingEvent (ι : Type) where
  /-- An application has begun. -/
  | began (i : ι) (task : SharingTask)
  /-- An application has come to an end, with success or without. -/
  | ended (i : ι) (task : SharingTask) (ok : Bool)
  /-- An application has had the copy removed. -/
  | removed (i : ι)
deriving DecidableEq

/-- **A move of an application.** -/
inductive SharingMove (ι : Type) where
  /-- It begins to write the copy or to give it up. -/
  | begin (i : ι) (task : SharingTask)
  /-- It makes its next call, which may be refused for a reason outside. -/
  | call (i : ι) (refusal : Option Refusal)

namespace SharingEvent

variable {ι : Type} [DecidableEq ι]

/-- **Whether an application relies on the copy**, by what happened, the latest
first: the last that it completed was a write with success, and it has not begun to
give the copy up since. -/
def relies (i : ι) : List (SharingEvent ι) → Bool
  | [] => false
  | .began j task :: earlier => if j = i ∧ task = .giveUp then false else relies i earlier
  | .ended j task ok :: earlier => if j = i then task = .share && ok else relies i earlier
  | .removed _ :: earlier => relies i earlier

/-- **Whether the copy was removed since an application has last completed
anything**, by what happened, the latest first. -/
def removedSince (i : ι) : List (SharingEvent ι) → Bool
  | [] => false
  | .began _ _ :: earlier => removedSince i earlier
  | .ended j _ _ :: earlier => if j = i then false else removedSince i earlier
  | .removed _ :: _ => true

end SharingEvent

/-- **Applications at work on a copy.** -/
structure SharingState (ι : Type) (V : Versioning) where
  /-- The cluster. -/
  store : VersionedStore V
  /-- What each application is about to do, if it is at work. -/
  running : ι → Option (SharingTask × Dialogue Bool)
  /-- What happened, the latest first. -/
  log : List (SharingEvent ι)

namespace SharingState

section Kept

variable {ι : Type} {V : Versioning} {C : Sharers ι} {w : SharingState ι V}

variable (C w) in
/-- **Whether the copy is there for an application**, with it among the owners. -/
def KeptFor (i : ι) : Prop :=
  ∃ a, w.store.secrets.get? C.key = some a ∧ a.metadata.OwnedBy (C.uid i)

/-- Whether the copy is kept for an application can be told by the stored one. -/
theorem keptFor_iff {a : Secret} (h : w.store.secrets.get? C.key = some a) (j : ι) :
    w.KeptFor C j ↔ a.metadata.OwnedBy (C.uid j) := by
  unfold KeptFor
  rw [h]
  simp

theorem not_keptFor (h : w.store.secrets.get? C.key = none) (j : ι) : ¬ w.KeptFor C j := by
  rintro ⟨a, ha, -⟩
  rw [h] at ha
  simp at ha

end Kept

variable {ι : Type} [DecidableEq ι] {V : Versioning}

/-- Nobody is at work yet. -/
def idle (store : VersionedStore V) : SharingState ι V :=
  { store, running := fun _ => none, log := [] }

/-- An application goes on with its operation, or has come to its end. -/
def goOn (w : SharingState ι V) (i : ι) (task : SharingTask) : Dialogue Bool → SharingState ι V
  | .done ok =>
    { w with running := Function.update w.running i none, log := .ended i task ok :: w.log }
  | rest => { w with running := Function.update w.running i (some (task, rest)) }

/-- What an answered call adds to what happened. -/
def noted (i : ι) : (c : Call) → Except Refusal c.Reply → List (SharingEvent ι)
  | .delete _, .ok _ => [.removed i]
  | _, _ => []

/-- An application has the answer to its call and goes on with it. -/
def answered (w : SharingState ι V) (i : ι) (task : SharingTask) (c : Call)
    (next : Except Refusal c.Reply → Dialogue Bool)
    (answer : Except Refusal c.Reply × VersionedStore V) : SharingState ι V :=
  { w with store := answer.2, log := noted i c answer.1 ++ w.log }.goOn i task (next answer.1)

/-- **A move**, if it is possible: who is at work does not begin, and who is not
makes no call. -/
def step (C : Sharers ι) (w : SharingState ι V) : SharingMove ι → Option (SharingState ι V)
  | .begin i task =>
    match w.running i with
    | none => some ({ w with log := .began i task :: w.log }.goOn i task (C.dialogue i task))
    | some _ => none
  | .call i refusal =>
    match w.running i with
    | some (task, .call c next) => some (w.answered i task c next (w.store.perform refusal c))
    | _ => none

/-- **A run**, if all its moves are possible. -/
def run (C : Sharers ι) (w : SharingState ι V) : List (SharingMove ι) → Option (SharingState ι V)
  | [] => some w
  | m :: rest => (w.step C m).bind fun w' => w'.run C rest

/-- Whether an application relies on the copy. -/
def Relies (w : SharingState ι V) (i : ι) : Prop := SharingEvent.relies i w.log = true

/-- Whether the copy was removed since an application has last completed anything. -/
def RemovedSince (w : SharingState ι V) (i : ι) : Prop := SharingEvent.removedSince i w.log = true

/-! ## Moves

Each move is inverted once: what must have been the case for it to be possible, and
what the state is after it. The proofs below are about states that are reached by
moves and never unfold `SharingState.step`. -/

section Moves

variable {C : Sharers ι} {w w' : SharingState ι V} {i j : ι} {task : SharingTask}
  {d : Dialogue Bool}

/-- Who begins was not at work. -/
theorem step_begin_ok (h : w.step C (.begin i task) = some w') : w.running i = none
    ∧ w' = { w with log := .began i task :: w.log }.goOn i task (C.dialogue i task) := by
  cases hrunning : w.running i with
  | none =>
    simp only [step, hrunning, Option.some.injEq] at h
    exact ⟨rfl, h.symm⟩
  | some _ => simp [step, hrunning] at h

/-- Who makes a call was about to make it. -/
theorem step_call_ok {refusal : Option Refusal} (h : w.step C (.call i refusal) = some w') :
    ∃ task c next, w.running i = some (task, .call c next)
      ∧ w' = w.answered i task c next (w.store.perform refusal c) := by
  cases hrunning : w.running i with
  | none => simp [step, hrunning] at h
  | some p =>
    obtain ⟨task, d⟩ := p
    cases d with
    | done _ => simp [step, hrunning] at h
    | call c next =>
      simp only [step, hrunning, Option.some.injEq] at h
      exact ⟨task, c, next, rfl, h.symm⟩

theorem running_goOn_of_ne (h : j ≠ i) : (w.goOn i task d).running j = w.running j := by
  cases d with
  | done _ => exact Function.update_of_ne h ..
  | call _ _ => exact Function.update_of_ne h ..

/-- Who has come to its end is not at work any more. -/
theorem running_goOn_done {ok : Bool} : (w.goOn i task (.done ok)).running i = none :=
  Function.update_self ..

/-- Who goes on is about to do the rest of its operation. -/
theorem running_goOn_call {c : Call} {next : Except Refusal c.Reply → Dialogue Bool} :
    (w.goOn i task (.call c next)).running i = some (task, .call c next) :=
  Function.update_self ..

end Moves

/-! ## What a step keeps

The invariant has two parts. An application that is at work is either about to read or
goes on with what it has read, and what it has read is a version that the cluster has
had (`VersionedStore.Knows`); and an application that relies on the copy has it,
unless it was removed since.

It is relative to some of the applications, so that it can be broken and restored: in
the middle of a move, the application that moves is left out, and its end or its going
on puts it back. -/

/-- **How far an operation is**: about to read the copy, or about to go on with
what it has seen, of which it knows. -/
def AtStage (C : Sharers ι) (store : VersionedStore V) (i : ι) (p : SharingTask × Dialogue Bool) :
    Prop :=
  p.2 = C.dialogue i p.1
    ∨ ∃ seen, C.GoesOn i seen p.1 p.2 ∧ ∀ a ∈ seen, store.Knows C.key a

/-- **What some applications rely on is accounted for.** -/
structure Accounted (C : Sharers ι) (among : ι → Prop) (w : SharingState ι V) : Prop where
  /-- Who is at work is at one of its stages. -/
  stage : ∀ i, among i → ∀ p ∈ w.running i, AtStage C w.store i p
  /-- Who relies on the copy has it, unless it was removed since. -/
  kept : ∀ i, among i → w.Relies i → (w.KeptFor C i ↔ ¬ w.RemovedSince i)

variable {C : Sharers ι} {w w' : SharingState ι V} {i : ι} {task : SharingTask}

theorem Accounted.mono {among fewer : ι → Prop} (h : Accounted C among w)
    (hle : ∀ i, fewer i → among i) : Accounted C fewer w where
  stage i hi := h.stage i (hle i hi)
  kept i hi := h.kept i (hle i hi)

/-- **An application that comes to its end** relies on the copy if it has written
it, and then it has to be there. -/
theorem Accounted.done (h : Accounted C (· ≠ i) w) {ok : Bool}
    (hkept : task = .share → ok = true → w.KeptFor C i) :
    Accounted C (fun _ => True) (w.goOn i task (.done ok)) where
  stage j _ p hp := by
    by_cases hj : j = i
    · subst hj
      rw [running_goOn_done] at hp
      simp at hp
    · rw [running_goOn_of_ne hj] at hp
      exact h.stage j hj p hp
  kept j _ hrelies := by
    change SharingEvent.relies j (.ended i task ok :: w.log) = true at hrelies
    show w.KeptFor C j ↔ ¬ SharingEvent.removedSince j (.ended i task ok :: w.log) = true
    rw [SharingEvent.relies] at hrelies
    rw [SharingEvent.removedSince]
    split at hrelies
    · rename_i hij
      subst hij
      simp only [Bool.and_eq_true, decide_eq_true_eq] at hrelies
      simpa using hkept hrelies.1 hrelies.2
    · rename_i hij
      rw [if_neg hij]
      exact h.kept j (Ne.symm hij) hrelies

/-- **An application goes on** with what it has seen. If it has come to its end
with that, it has written nothing, so what it has seen is what there is. -/
theorem Accounted.goOn (h : Accounted C (fun _ => True) w) {d : Dialogue Bool}
    (hstage : AtStage C w.store i (task, d))
    (hdone : d = .done true → task = .share → w.KeptFor C i) :
    Accounted C (fun _ => True) (w.goOn i task d) := by
  cases d with
  | done ok =>
    refine (h.mono fun _ _ => trivial).done fun htask hok => ?_
    exact hdone (congrArg Dialogue.done hok) htask
  | call c next =>
    refine ⟨fun j _ p hp => ?_, h.kept⟩
    by_cases hj : j = i
    · subst hj
      rw [running_goOn_call] at hp
      obtain rfl := Option.some.inj hp
      exact hstage
    · rw [running_goOn_of_ne hj] at hp
      exact h.stage j trivial p hp

/-- A write that leaves the other applications among the owners, or outside, as they
were keeps account of them. -/
theorem Accounted.put (h : Accounted C (fun _ => True) w) {b : Secret}
    (hsame : ∀ j ≠ i, (b.metadata.OwnedBy (C.uid j) ↔ w.KeptFor C j)) :
    Accounted C (· ≠ i) { w with store := w.store.put C.key b } where
  stage j _ p hp := (h.stage j trivial p hp).imp_right fun ⟨seen, hgoes, hknows⟩ =>
    ⟨seen, hgoes, fun a ha => (hknows a ha).put b⟩
  kept j hj hrelies := by
    refine Iff.trans ?_ (h.kept j trivial hrelies)
    rw [← hsame j hj]
    constructor
    · rintro ⟨a, ha, howned⟩
      rw [VersionedStore.get?_put] at ha
      obtain rfl := Option.some.inj ha
      exact howned
    · exact fun howned => ⟨_, VersionedStore.get?_put, howned⟩

/-- A removal takes the copy away from all, and all are told. -/
theorem Accounted.erase (h : Accounted C (fun _ => True) w) : Accounted C (· ≠ i)
    { w with store := w.store.erase C.key, log := .removed i :: w.log } where
  stage j _ p hp := (h.stage j trivial p hp).imp_right fun ⟨seen, hgoes, hknows⟩ =>
    ⟨seen, hgoes, fun a ha => (hknows a ha).erase⟩
  kept j _ _ := by
    refine iff_of_false ?_ (not_not_intro rfl)
    rintro ⟨a, ha, -⟩
    rw [VersionedStore.get?_erase] at ha
    simp at ha

/-! ## The answer to a call

A call is a read, is refused, or is accepted, and what keeps account in each case is
a lemma of its own. They are put together by going through what an application can go
on with. That a replacement loses no owner is decided there: it is accepted only if
the version that was read is the version that is stored, and a version is stored once,
so the owners that were read are the owners that are replaced. -/

/-- **After its read an application goes on with what is stored.** -/
theorem Accounted.read (h : Accounted C (fun _ => True) w) {refusal : Option Refusal}
    {next : Except Refusal Json → Dialogue Bool}
    (hgoes : ∀ reply, C.GoesOn i (Sharers.seen reply) task (next reply)) :
    Accounted C (fun _ => True)
      (w.answered i task (.get C.key) next (w.store.perform refusal (.get C.key))) := by
  obtain ⟨reply, hreply, hread⟩ := w.store.perform_get refusal C.key
  rw [hreply]
  have hseen : ∀ a ∈ Sharers.seen reply, w.store.secrets.get? C.key = some a := by
    intro a ha
    cases reply with
    | error r =>
      rw [Sharers.seen_error] at ha
      simp at ha
    | ok j =>
      obtain ⟨b, hb, rfl⟩ := hread j rfl
      rw [Sharers.seen_encode] at ha
      rw [← Option.some.inj ha]
      exact hb
  refine h.goOn (.inr ⟨_, hgoes reply, fun a ha => VersionedStore.knows_of_stored (hseen a ha)⟩) ?_
  rintro hdone rfl
  have hstands := hgoes reply
  rw [hdone] at hstands
  cases hstands with
  | stands hread howned => exact ⟨_, hseen _ hread, howned⟩

/-- A refused call ends the operation. -/
theorem Accounted.refused (h : Accounted C (fun _ => True) w) {c : Call}
    {next : Except Refusal c.Reply → Dialogue Bool} {r : Refusal} {ok : Bool}
    (hnext : next (.error r) = .done ok) (hok : task = .share → ok = false) :
    Accounted C (fun _ => True) (w.answered i task c next (.error r, w.store)) := by
  have hnoted : noted i c (.error r) = [] := by
    cases c <;> rfl
  unfold answered
  rw [hnoted, hnext]
  refine (h.mono fun _ _ => trivial).done fun htask hdone => ?_
  rw [hok htask] at hdone
  simp at hdone

/-- **An accepted write ends the operation**, with the copy as it was written. -/
theorem Accounted.accepted (h : Accounted C (fun _ => True) w) {c : Call} {b : Secret}
    {next : Except Refusal c.Reply → Dialogue Bool} {reply : c.Reply} {ok : Bool}
    (hnext : next (.ok reply) = .done ok) (hnoted : noted i c (.ok reply) = [])
    (hsame : ∀ j ≠ i, (b.metadata.OwnedBy (C.uid j) ↔ w.KeptFor C j))
    (howned : task = .share → b.metadata.OwnedBy (C.uid i)) :
    Accounted C (fun _ => True)
      (w.answered i task c next (.ok reply, w.store.put C.key b)) := by
  unfold answered
  rw [hnoted, hnext]
  exact (h.put hsame).done fun htask _ => ⟨_, VersionedStore.get?_put, howned htask⟩

/-- **What an application goes on with keeps account** of what all others rely on:
a copy is only made where there is none, and only replaced as it was read. -/
theorem Accounted.write (h : Accounted C (fun _ => True) w) {refusal : Option Refusal} {c : Call}
    {next : Except Refusal c.Reply → Dialogue Bool} {seen : Option Secret}
    (hgoes : C.GoesOn i seen task (.call c next)) (hknows : ∀ a ∈ seen, w.store.Knows C.key a) :
    Accounted C (fun _ => True)
      (w.answered i task c next (w.store.perform refusal c)) := by
  cases hgoes with
  | @creates b _ howners hnext =>
    rcases w.store.perform_create refusal C.key b with ⟨r, hr⟩ | ⟨hnone, haccepted⟩
    · rw [hr]
      exact h.refused (hnext _) fun _ => rfl
    · rw [haccepted]
      refine h.accepted (hnext _) rfl (fun j hj => ?_) fun _ => (howners _).2 rfl
      exact iff_of_false (fun howned => hj (C.distinct ((howners _).1 howned)).symm)
        (not_keptFor hnone j)
  | @joins a b _ hseen hversion howners hnext =>
    rcases w.store.perform_replace refusal C.key b with ⟨r, hr⟩ | ⟨old, hold, hsame, haccepted⟩
    · rw [hr]
      exact h.refused (hnext _) fun _ => rfl
    · rw [haccepted]
      -- the version read is the version stored, so what was read is what is replaced
      obtain rfl := (hknows a hseen).2 old hold (hsame.symm.trans hversion)
      refine h.accepted (hnext _) rfl (fun j hj => ?_) fun _ => (howners _).2 (.inl rfl)
      rw [keptFor_iff hold, howners]
      exact or_iff_right fun he => hj (C.distinct he).symm
  | @withdraws a b _ hseen hversion howners hnext =>
    rcases w.store.perform_replace refusal C.key b with ⟨r, hr⟩ | ⟨old, hold, hsame, haccepted⟩
    · rw [hr]
      exact h.refused (hnext _) fun htask => nomatch htask
    · rw [haccepted]
      obtain rfl := (hknows a hseen).2 old hold (hsame.symm.trans hversion)
      refine h.accepted (hnext _) rfl (fun j hj => ?_) fun htask => nomatch htask
      rw [keptFor_iff hold, howners]
      exact and_iff_right fun he => hj (C.distinct he)
  | removes hseen howners hnext =>
    rcases w.store.perform_delete refusal C.key with ⟨r, hr⟩ | haccepted
    · rw [hr]
      obtain ⟨ok, hok⟩ := hnext (.error r)
      exact h.refused hok fun htask => nomatch htask
    · rw [haccepted]
      obtain ⟨ok, hok⟩ := hnext (.ok ())
      unfold answered
      rw [hok]
      exact h.erase.done fun htask => nomatch htask

/-! ## All runs

Nobody is at work at first, and nobody relies on anything, so there is nothing to keep
account of. From there each move keeps account, and so does each run. -/

theorem accounted_idle (store : VersionedStore V) :
    Accounted C (fun _ => True) (idle store) where
  stage _ _ _ hp := nomatch hp
  kept _ _ hrelies := nomatch hrelies

/-- To begin takes nothing away, and who begins to give the copy up does not rely on
it any more. -/
theorem Accounted.began (h : Accounted C (fun _ => True) w) (i : ι) (task : SharingTask) :
    Accounted C (fun _ => True) { w with log := .began i task :: w.log } where
  stage := h.stage
  kept j _ hrelies := by
    refine h.kept j trivial ?_
    change SharingEvent.relies j (.began i task :: w.log) = true at hrelies
    rw [SharingEvent.relies] at hrelies
    split at hrelies
    · simp at hrelies
    · exact hrelies

/-- **Every move keeps account.** -/
theorem Accounted.step (h : Accounted C (fun _ => True) w) {m : SharingMove ι}
    (hstep : w.step C m = some w') : Accounted C (fun _ => True) w' := by
  cases m with
  | begin i task =>
    obtain ⟨-, rfl⟩ := step_begin_ok hstep
    obtain ⟨next, hread, -⟩ := C.dialogue_eq i task
    refine (h.began i task).goOn (.inl rfl) fun hdone => ?_
    rw [hread] at hdone
    simp at hdone
  | call i refusal =>
    obtain ⟨task, c, next, hrunning, rfl⟩ := step_call_ok hstep
    rcases h.stage i trivial _ hrunning with hread | ⟨seen, hgoes, hknows⟩
    · obtain ⟨next', hdialogue, hgoes⟩ := C.dialogue_eq i task
      rw [hdialogue] at hread
      cases hread
      exact h.read hgoes
    · exact h.write hgoes hknows

/-- **Every run keeps account.** -/
theorem Accounted.run {moves : List (SharingMove ι)} (h : Accounted C (fun _ => True) w)
    (hrun : w.run C moves = some w') : Accounted C (fun _ => True) w' := by
  induction moves generalizing w with
  | nil =>
    obtain rfl := Option.some.inj hrun
    exact h
  | cons m rest ih =>
    obtain ⟨w₁, hstep, hrest⟩ := Option.bind_eq_some_iff.1 hrun
    exact ih (h.step hstep) hrest

/-- **A removal is never decided against the owners that are read.** While the copy
is kept for an application, no other one that reads it goes on to remove it. -/
theorem not_removing_of_kept {j : ι} (hkept : w.KeptFor C i) (hij : i ≠ j)
    (hreads : w.running j = some (task, C.dialogue j task)) {refusal : Option Refusal}
    (hstep : w.step C (.call j refusal) = some w') {key : ObjectKey}
    {next : Except Refusal Unit → Dialogue Bool} :
    w'.running j ≠ some (task, .call (.delete key) next) := by
  obtain ⟨after, hdialogue, hgoes⟩ := C.dialogue_eq j task
  obtain ⟨task', c, next', hrunning, rfl⟩ := step_call_ok hstep
  rw [hreads, hdialogue] at hrunning
  cases hrunning
  -- what it read is what is stored at this moment, and the copy is kept at this moment
  obtain ⟨reply, hreply, hstored⟩ := w.store.perform_get refusal C.key
  rw [hreply]
  have hafter := hgoes reply
  unfold answered
  dsimp only
  cases hnext : after reply with
  | done ok =>
    rw [running_goOn_done]
    simp
  | call c rest =>
    rw [running_goOn_call]
    rintro ⟨⟩
    rw [hnext] at hafter
    cases hafter with
    | @removes a _ hseen howners _ =>
      cases reply with
      | error r => simp at hseen
      | ok j =>
        obtain ⟨b, hb, rfl⟩ := hstored j rfl
        rw [Sharers.seen_encode] at hseen
        obtain rfl := Option.some.inj hseen
        exact hij (C.distinct (howners _ ((keptFor_iff hb i).1 hkept)))

/-! ## Two applications

The smallest setting in which anything can go wrong, and the run in which it does. An
application that gives the copy up has read that nobody else owns it; before it
removes the copy, another one joins. Nothing in the removal says which version it is
about. -/

/-- Two applications that share a copy. -/
def pair : Sharers Bool where
  ns := "shop"
  copy := "a-x"
  source := .saying "x"
  app second := .bound "shop" (if second then "second" else "first")
    (if second then "u2" else "u1") false [("a", "x")]
  uid second := if second then "u2" else "u1"
  app_ns _ := rfl
  app_uid _ := rfl
  distinct := by
    unfold Function.Injective
    decide

/-- The first has the copy to itself and reads it to give it up. The second writes
the copy as well. Then the first has it removed. -/
def lateRemoval : List (SharingMove Bool) := [
  .begin false .share, .call false none, .call false none,
  .begin false .giveUp, .call false none,
  .begin true .share, .call true none, .call true none,
  .call false none]

/-- Whether a run is possible, and what it comes to, can be told by making it. -/
theorem exists_run (moves : List (SharingMove Bool)) (holds : SharingState Bool .decimal → Bool)
    (h : ((idle {}).run pair moves).any holds = true) :
    ∃ w, (idle {}).run pair moves = some w ∧ holds w = true := by
  cases hrun : (idle {}).run pair moves with
  | none => simp [hrun] at h
  | some w => exact ⟨w, rfl, by simpa [hrun] using h⟩

/-! ## Who keeps the copy

The run lemma, read at one application. It is an equivalence, so it says two things:
that nothing but a removal can take the copy away from one who relies on it, and that
a removal always does, however often the copy is made anew for others. -/

/-- **Who relies on the copy has it unless it was removed since**, whatever else the
others did and however their calls were mixed: the copy is stored, with the
application among its owners, exactly if no removal was accepted since the
application has written it. -/
theorem kept_iff (C : Sharers ι) (store : VersionedStore V) (moves : List (SharingMove ι))
    (w : SharingState ι V) (hrun : (idle store).run C moves = some w) (i : ι)
    (hrelies : w.Relies i) : w.KeptFor C i ↔ ¬ w.RemovedSince i :=
  ((accounted_idle store).run hrun).kept i trivial hrelies

theorem kept_iff_of_late_removal : ∃ w : SharingState Bool .decimal,
    (idle {}).run pair lateRemoval = some w ∧ w.Relies true
      ∧ (w.KeptFor pair true ↔ ¬ w.RemovedSince true) := by
  obtain ⟨w, hrun, hrelies⟩ := exists_run lateRemoval (fun w => SharingEvent.relies true w.log)
    (by decide +kernel)
  exact ⟨w, hrun, hrelies, kept_iff pair {} lateRemoval w hrun true hrelies⟩

/-- **A copy that is relied on can get lost.** The first application has read that it
is the only owner, so it removes the copy, and nothing tells the cluster that the
second has become an owner in between. -/
theorem not_kept_of_late_removal : ∃ w : SharingState Bool .decimal,
    (idle {}).run pair lateRemoval = some w ∧ w.Relies true
      ∧ w.store.secrets.get? pair.key = none ∧ ¬ w.KeptFor pair true := by
  obtain ⟨w, hrun, hholds⟩ := exists_run lateRemoval
    (fun w => SharingEvent.relies true w.log && (w.store.secrets.get? pair.key).isNone)
    (by decide +kernel)
  simp only [Bool.and_eq_true, Option.isNone_iff_eq_none] at hholds
  exact ⟨w, hrun, hholds.1, hholds.2, not_keptFor hholds.2 true⟩

end SharingState
end AppOperator
