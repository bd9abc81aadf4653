import AppOperator.Proofs.Operator.Merged
import AppOperator.Proofs.Reconcile.Resuming
import AppOperator.Proofs.Time.Order
import Mathlib.Data.List.Induction

/-!
# The history in a condition

The operator remembers nothing of the outcomes that it recorded for an
application but the condition that is stored with it, and each outcome is
recorded by putting its own condition in the place of that one. What the
condition tells of the outcomes before is therefore a fold over all of them
(`Verdict.conditionAfter`): it keeps the time of the last change for as long as
the status stays the same, through any number of replacements, and of a time it
keeps the whole seconds.

A `History` is the relation between outcomes and the stored status, made by the
records themselves. That a record leaves what the fold says is one step
(`History.Leaves.record`), that a history does follows by induction
(`History.leaves`), and that the fold comes to the last stretch of outcomes of
one status is a fact about the fold alone (`Verdict.conditionAfter_stretch`).
Histories are what the operator makes (`History.round`), and any outcomes have
one (`Ready.recordAll`).
-/

namespace AppOperator

/-! ## Outcomes

An outcome is what is put into a condition: a status, a cause, a time. What the
condition shows after many outcomes depends on where the status changed last, and it
is found by splitting the list of outcomes there. The split exists for any list that
is not empty, and it is unique by what is said of it, a stretch of one status with
another status before it. -/

theorem Condition.following_of_eq {c old : Condition} (h : old.status = c.status) :
    c.following old = { c with lastTransitionTime := old.lastTransitionTime } := if_pos h

theorem Condition.following_of_ne {c old : Condition} (h : old.status ≠ c.status) :
    c.following old = c := if_neg h

/-- **A failure that was recorded.** -/
structure Failure where
  /-- What went wrong. -/
  error : OperatorError
  /-- When it was recorded. -/
  now : Instant
  /-- How long to wait before the next try, in milliseconds. -/
  wait : Nat
deriving DecidableEq

/-- **An outcome that was recorded.** -/
inductive Verdict where
  /-- A pass succeeded. -/
  | success (now : Instant)
  /-- A pass failed. -/
  | failure (f : Failure)
deriving DecidableEq

namespace Verdict

/-- When an outcome was recorded. -/
def now : Verdict → Instant
  | success now => now
  | failure f => f.now

/-- What an outcome says of the application. -/
def status : Verdict → ConditionStatus
  | success _ => .yes
  | failure _ => .no

/-- Why, in a word; a success has no cause. -/
def reason : Verdict → Option String
  | success _ => none
  | failure f => some f.error.reason

/-- Why, in full. -/
def message : Verdict → Option String
  | success _ => none
  | failure f => some f.error.message

/-- The condition that an outcome is recorded by. -/
def condition (o : Verdict) : Condition := .reconciled o.status o.reason o.message o.now

/-- **The condition that is stored** once an outcome was recorded over another condition. -/
def recordedOver (old : Option Condition) (o : Verdict) : Option Condition :=
  some (old.elim o.condition o.condition.following).inSeconds

/-- **The condition that is left by outcomes**, recorded one over the other. -/
def conditionAfter (past : List Verdict) : Option Condition := past.foldl recordedOver none

@[simp] theorem conditionAfter_nil : conditionAfter [] = none := rfl

@[simp] theorem conditionAfter_append (past : List Verdict) (o : Verdict) :
    conditionAfter (past ++ [o]) = recordedOver (conditionAfter past) o := by
  rw [conditionAfter, List.foldl_append]
  rfl

/-- There is only one condition to replace. -/
theorem replaceCondition_toList (o : Verdict) (old : Option Condition) :
    (ApplicationStatus.replaceCondition o.condition old.toList).map Condition.inSeconds
      = (recordedOver old o).toList := by
  cases old <;> rfl

/-- **The condition that a stretch of verdicts leaves**, all of one status,
from the first to the last. -/
def shown (first last : Verdict) : Condition where
  type := .reconciled
  status := last.status
  lastTransitionTime := some first.now.inSeconds
  lastUpdateTime := some last.now.inSeconds
  reason := last.reason
  message := last.message

/-- A verdict of another status begins a stretch. -/
theorem recordedOver_of_ne {old : Option Condition} {o : Verdict}
    (h : ∀ c ∈ old, c.status ≠ o.status) : recordedOver old o = some (shown o o) := by
  cases old with
  | none => rfl
  | some c =>
    rw [recordedOver, Option.elim_some, Condition.following_of_ne (h c rfl)]
    rfl

/-- A verdict of the same status goes on with the stretch. -/
theorem recordedOver_shown {first last o : Verdict} (h : last.status = o.status) :
    recordedOver (some (shown first last)) o = some (shown first o) := by
  rw [recordedOver, Option.elim_some, Condition.following_of_eq h]
  rfl

/-- Whatever stood before, a verdict is recorded with its own status and time. -/
theorem recordedOver_eq (old : Option Condition) (o : Verdict) : ∃ c, recordedOver old o = some c
    ∧ c.status = o.status ∧ c.lastUpdateTime = some o.now.inSeconds := by
  refine ⟨_, rfl, ?_⟩
  cases old with
  | none => exact ⟨rfl, rfl⟩
  | some old =>
    rw [Option.elim_some, Condition.following]
    split <;> exact ⟨rfl, rfl⟩

theorem status_of_conditionAfter {past : List Verdict} {o : Verdict} (h : past.getLast? = some o)
    {c : Condition} (hc : c ∈ conditionAfter past) : c.status = o.status := by
  obtain ⟨init, rfl⟩ := List.getLast?_eq_some_iff.1 h
  obtain ⟨c', hc', hstatus, -⟩ := recordedOver_eq (conditionAfter init) o
  rw [conditionAfter_append, hc'] at hc
  exact Option.some.inj hc ▸ hstatus

/-- **A stretch of one status**, with another status before it or nothing. -/
structure FinalStretch (before : List Verdict) (first : Verdict) (rest : List Verdict) : Prop where
  /-- All are of the status of the first. -/
  same : ∀ o ∈ rest, o.status = first.status
  /-- What comes before it is of another status. -/
  changed : ∀ o ∈ before.getLast?, o.status ≠ first.status

/-- The last verdict of a stretch. -/
def lastOf (first : Verdict) (rest : List Verdict) : Verdict := rest.getLast?.getD first

theorem status_lastOf {first : Verdict} {rest : List Verdict}
    (h : ∀ o ∈ rest, o.status = first.status) : (lastOf first rest).status = first.status := by
  unfold lastOf
  cases hlast : rest.getLast? with
  | none => rfl
  | some o => exact h o (List.mem_of_getLast? hlast)

theorem getLast?_stretch (before : List Verdict) (first : Verdict) (rest : List Verdict) :
    (before ++ first :: rest).getLast? = some (lastOf first rest) := by
  simp [List.getLast?_append, List.getLast?_cons, lastOf]

/-- **The condition is that of the last stretch.** -/
theorem conditionAfter_stretch {before : List Verdict} {first : Verdict} {rest : List Verdict}
    (h : FinalStretch before first rest) :
    conditionAfter (before ++ first :: rest) = some (shown first (lastOf first rest)) := by
  -- the stretch goes on for as long as nothing changes
  induction rest using List.reverseRecOn with
  | nil =>
    rw [conditionAfter_append]
    refine recordedOver_of_ne fun c hc => ?_
    cases hlast : before.getLast? with
    | none =>
      rw [List.getLast?_eq_none_iff.1 hlast] at hc
      simp at hc
    | some o =>
      rw [status_of_conditionAfter hlast hc]
      exact h.changed o hlast
  | append_singleton rest o ih =>
    have hrest : FinalStretch before first rest :=
      ⟨fun p hp => h.same p (List.mem_append_left _ hp), h.changed⟩
    have ho := h.same o (List.mem_append_right _ (List.mem_singleton_self o))
    rw [← List.cons_append, ← List.append_assoc, conditionAfter_append, ih hrest,
      recordedOver_shown ((status_lastOf hrest.same).trans ho.symm)]
    simp [lastOf]

/-- Verdicts end in such a stretch. -/
theorem exists_finalStretch {past : List Verdict} (h : past ≠ []) : ∃ before first rest,
    past = before ++ first :: rest ∧ FinalStretch before first rest := by
  induction past using List.reverseRecOn with
  | nil => exact absurd rfl h
  | append_singleton past o ih =>
    by_cases hpast : past = []
    · subst hpast
      exact ⟨[], o, [], rfl, by simp, by simp⟩
    obtain ⟨before, first, rest, rfl, hstretch⟩ := ih hpast
    by_cases ho : o.status = first.status
    · refine ⟨before, first, rest ++ [o], by simp, fun p hp => ?_, hstretch.changed⟩
      rcases List.mem_append.1 hp with hp | hp
      · exact hstretch.same p hp
      · rw [List.mem_singleton.1 hp, ho]
    · refine ⟨before ++ first :: rest, o, [], rfl, by simp, fun p hp => ?_⟩
      rw [getLast?_stretch] at hp
      obtain rfl := Option.some.inj hp
      rw [status_lastOf hstretch.same]
      exact Ne.symm ho

end Verdict

/-! ## Histories

A history relates outcomes to the status that is stored with an application. It is
made by records that succeeded, each of them starting from the status as it is read
then; what happens in between is unconstrained, as long as the status stays what it
is. The invariant of a history is that the stored status can be read and that its
conditions are those of the fold. -/

/-- The status that is stored with an application. -/
def Server.statusOf (s : Server) (key : ObjectKey) : Option Json :=
  (s.objects.get? key).bind (·.get? "status")

theorem Server.statusOf_congr {s s' : Server} {key : ObjectKey}
    (h : s'.objects.get? key = s.objects.get? key) : s'.statusOf key = s.statusOf key := by
  rw [statusOf, statusOf, h]

open ApplicationStatus (read?) in
/-- **The outcomes recorded for an application so far**, and the status that is
stored with it. It starts without one, and each outcome is recorded over the
conditions that are stored by then. Between one record and the next the
application may change in all but its status, and a pass may note what it
likes but conditions. -/
inductive History (key : ObjectKey) : List Verdict → Option Json → Prop
  /-- Nothing was recorded. -/
  | start {stored : Option Json} (h : stored = none ∨ stored = some .null) : History key [] stored
  /-- A success was recorded. -/
  | success {past : List Verdict} {s s' : Server} {app : Application}
      {found status : ApplicationStatus} {now : Instant}
      (earlier : History key past (s.statusOf key)) (hkey : Access.keyOfApplication app = key)
      (hfound : read? (s.statusOf key) = some found)
      (hconditions : status.conditions = found.conditions)
      (hrecorded : (Access.recordSuccess app status now).on s = (.ok (), s')) :
      History key (past ++ [.success now]) (s'.statusOf key)
  /-- A failure was recorded. -/
  | failure {past : List Verdict} {s s' : Server} {app : Application}
      {found status : ApplicationStatus} {f : Failure}
      (earlier : History key past (s.statusOf key)) (hkey : Access.keyOfApplication app = key)
      (hfound : read? (s.statusOf key) = some found)
      (hconditions : status.conditions = found.conditions)
      (hrecorded : (Access.recordFailure app status f.error f.now).on s = (.ok f.wait, s')) :
      History key (past ++ [.failure f]) (s'.statusOf key)

/-- A status is stored by merging it into the one that was stored. -/
theorem Access.statusOf_of_storeStatus {app : Application} {status : ApplicationStatus}
    {s s' : Server} (h : (storeStatus app status).on s = (.ok (), s')) :
    s'.statusOf (keyOfApplication app)
      = some (((s.statusOf (keyOfApplication app)).getD .null).mergePatch status.whole) := by
  obtain ⟨j, hj, hafter⟩ := stored_of_storeStatus h
  rw [Server.statusOf, hafter, Server.statusOf, hj]
  exact ApplicationStatus.get?_status_mergePatch status j

/-- What recording a failure comes to. -/
theorem Access.recordFailure_ok {app : Application} {status : ApplicationStatus}
    {e : OperatorError} {now : Instant} {wait : Milliseconds} {s s' : Server}
    (h : (recordFailure app status e now).on s = (.ok wait, s')) :
    (storeStatus app (status.failed app.metadata.generation e now)).on s = (.ok (), s')
      ∧ wait = Retry.interval (status.condition? .reconciled) now := by
  obtain ⟨_, s'', hstored, hrest⟩ := on_bind_ok.1 h
  obtain ⟨hwait, rfl⟩ := Prod.mk.inj hrest
  exact ⟨hstored, (Except.ok.inj hwait).symm⟩

namespace History

variable {key : ObjectKey} {past : List Verdict} {stored : Option Json}

/-- What is known of the status that is stored. -/
structure Leaves (past : List Verdict) (stored : Option Json) (found : ApplicationStatus) :
    Prop where
  read : ApplicationStatus.read? stored = some found
  kept : ApplicationStatus.KeptParts (stored.getD .null) found
  conditions : found.conditions = (Verdict.conditionAfter past).toList

theorem Leaves.condition?_eq {found : ApplicationStatus} (h : Leaves past stored found) :
    found.condition? .reconciled = Verdict.conditionAfter past := by
  rw [ApplicationStatus.condition?, h.conditions]
  cases Verdict.conditionAfter past <;> rfl

/-- **One more record** leaves the condition of its outcome. -/
theorem Leaves.record {s s' : Server} {app : Application} {found status : ApplicationStatus}
    {o : Verdict} (h : Leaves past (s.statusOf key) found)
    (hkey : Access.keyOfApplication app = key) (hconditions : status.conditions = found.conditions)
    {generation : Option Int64}
    (hstored : (Access.storeStatus app
      { status.setCondition o.condition with observedGeneration := generation }).on s = (.ok (), s')) :
    ∃ found', Leaves (past ++ [o]) (s'.statusOf key) found' := by
  subst hkey
  obtain ⟨hread, hkept⟩ := h.kept.merged
    { status.setCondition o.condition with observedGeneration := generation }
  rw [Access.statusOf_of_storeStatus hstored]
  refine ⟨_, ?_, hkept, ?_⟩
  · rw [ApplicationStatus.read?_some (ApplicationStatus.mergePatch_whole_ne_null _ _), hread]
  · rw [Verdict.conditionAfter_append, ← Verdict.replaceCondition_toList, ← h.conditions,
      ← hconditions]
    rfl

/-- **What a history leaves**: a status that can be read, with the condition
that its outcomes come to and no other. -/
theorem leaves (h : History key past stored) : ∃ found, Leaves past stored found := by
  induction h with
  | start h =>
    refine ⟨default, ApplicationStatus.read?_of_unset h, ?_, rfl⟩
    rcases h with rfl | rfl <;> exact ApplicationStatus.keptParts_null
  | success earlier hkey hfound hconditions hrecorded ih =>
    obtain ⟨found, h⟩ := ih
    obtain rfl := Option.some.inj (h.read.symm.trans hfound)
    exact h.record (o := .success _) hkey hconditions hrecorded
  | failure earlier hkey hfound hconditions hrecorded ih =>
    obtain ⟨found, h⟩ := ih
    obtain rfl := Option.some.inj (h.read.symm.trans hfound)
    exact h.record (o := .failure _) hkey hconditions (Access.recordFailure_ok hrecorded).1

/-! ## Making a history

That histories exist is not obvious, since each record must succeed and its result
must be readable again. On a cluster that refuses nothing, any results can be recorded
in turn. The wait that a failure is recorded with is not free but follows from the
history so far, so the outcomes are computed along the way. -/

/-- A failure is recorded with the wait that its history comes to. -/
theorem wait_eq {f : Failure} (h : History key (past ++ [.failure f]) stored) :
    f.wait = Retry.interval (Verdict.conditionAfter past) f.now := by
  generalize hwhole : past ++ [Verdict.failure f] = whole at h
  cases h with
  | start => simp at hwhole
  | success earlier => simp at hwhole
  | failure earlier hkey hfound hconditions hrecorded =>
    obtain ⟨rfl, hlast⟩ := List.append_inj' hwhole rfl
    obtain ⟨rfl⟩ : f = _ := by simpa using hlast
    obtain ⟨found, h⟩ := earlier.leaves
    obtain rfl := Option.some.inj (h.read.symm.trans hfound)
    rw [(Access.recordFailure_ok hrecorded).2, ← h.condition?_eq, ApplicationStatus.condition?,
      hconditions]
    rfl

/-- What comes before in a history is a history. -/
theorem earlier {o : Verdict} (h : History key (past ++ [o]) stored) :
    ∃ stored, History key past stored := by
  generalize hwhole : past ++ [o] = whole at h
  cases h with
  | start => simp at hwhole
  | success earlier => exact ⟨_, (List.append_inj' hwhole rfl).1 ▸ earlier⟩
  | failure earlier => exact ⟨_, (List.append_inj' hwhole rfl).1 ▸ earlier⟩

/-- A history up to an outcome of it. -/
theorem of_append {later : List Verdict} (h : History key (past ++ later) stored) :
    ∃ stored, History key past stored := by
  induction later using List.reverseRecOn generalizing stored with
  | nil => exact ⟨stored, by simpa using h⟩
  | append_singleton later o ih =>
    rw [← List.append_assoc] at h
    obtain ⟨_, h⟩ := h.earlier
    exact ih h

end History

section Ready

variable {app : Application} {ns : String} {past : List Verdict} {s : Server}

/-- **A status of an application that is stored is stored**, if nothing is refused. -/
theorem Access.storeStatus_on_open (h : s.Open) (hns : app.ns? = some ns)
    (hthere : (s.objects.get? (keyOfApplication app)).isSome) (status : ApplicationStatus) :
    (storeStatus app status).on s
      = (.ok (), s.after (.patchStatus (keyOfApplication app) status.patch)) := by
  obtain ⟨j, hj⟩ := Option.isSome_iff_exists.1 hthere
  have hok : app.ns = .ok ns := by
    rw [Application.ns, hns]
  have hkey : keyOfApplication app = .of Application ns app.name := by
    rw [keyOfApplication, ObjectMeta.nsOrEmpty, show app.metadata.ns = some ns from hns]
    rfl
  have hanswer : (s.perform (.patchStatus (keyOfApplication app) status.patch)).1 = .ok () := by
    rw [h.answer_eq, Server.answer, Server.present?, hj]
    rfl
  unfold storeStatus require
  rw [hok, on_bind]
  change Access.on (attempt _ >>= _) s = _
  rw [on_bind, on_attempt, ← hkey]
  dsimp only
  rw [hanswer]
  rfl

/-- **An application for which outcomes can be recorded**: it is stored in a
namespace, nothing is refused, and what was recorded so far is known. -/
structure Ready (app : Application) (past : List Verdict) (s : Server) : Prop where
  /-- Nothing is refused. -/
  isOpen : s.Open
  /-- It has a namespace. -/
  named : app.ns?.isSome
  /-- It is stored. -/
  there : (s.objects.get? (Access.keyOfApplication app)).isSome
  /-- What was recorded. -/
  history : History (Access.keyOfApplication app) past (s.statusOf (Access.keyOfApplication app))

/-- What is recorded of the result of a pass. -/
def Verdict.of (past : List Verdict) (result : Except OperatorError Unit) (now : Instant) :
    Verdict :=
  match result with
  | .ok _ => .success now
  | .error e => .failure ⟨e, now, Retry.interval (conditionAfter past) now⟩

/-- **Any result can be recorded**, at any time. -/
theorem Ready.record (h : Ready app past s) (result : Except OperatorError Unit) (now : Instant) :
    ∃ s', Ready app (past ++ [.of past result now]) s' := by
  obtain ⟨found, hleaves⟩ := h.history.leaves
  obtain ⟨ns, hns⟩ := Option.isSome_iff_exists.1 h.named
  -- it is recorded over the status that is stored, with nothing else noted
  suffices ∀ status, ∃ s', (Access.storeStatus app status).on s = (.ok (), s') ∧ s'.Open
      ∧ (s'.objects.get? (Access.keyOfApplication app)).isSome by
    cases result with
    | ok u =>
      obtain ⟨s', hstored, hopen, hthere⟩ := this (found.succeeded app.metadata.generation now)
      exact ⟨s', hopen, h.named, hthere, h.history.success rfl hleaves.read rfl hstored⟩
    | error e =>
      obtain ⟨s', hstored, hopen, hthere⟩ := this (found.failed app.metadata.generation e now)
      refine ⟨s', hopen, h.named, hthere, h.history.failure rfl hleaves.read rfl ?_⟩
      rw [Access.recordFailure, Access.on_bind, hstored, hleaves.condition?_eq]
      rfl
  intro status
  have hstored := Access.storeStatus_on_open h.isOpen hns h.there status
  obtain ⟨j, -, hafter⟩ := Access.stored_of_storeStatus hstored
  exact ⟨_, hstored, h.isOpen.after _, by rw [hafter]; rfl⟩

/-- What is recorded of the results of passes, one after the other. -/
def Verdict.ofAll (past : List Verdict) (results : List (Except OperatorError Unit × Instant)) :
    List Verdict :=
  results.foldl (fun past p => past ++ [.of past p.1 p.2]) past

/-- **Any results can be recorded**, in turn. -/
theorem Ready.recordAll (h : Ready app past s)
    (results : List (Except OperatorError Unit × Instant)) :
    ∃ s', Ready app (Verdict.ofAll past results) s' := by
  induction results generalizing past s with
  | nil => exact ⟨s, h⟩
  | cons p rest ih =>
    obtain ⟨s', h'⟩ := h.record p.1 p.2
    exact ih h'

end Ready

/-- So it is for an application that was just made. -/
theorem ready_bound : Ready (Application.bound "shop" "web" "u1" false []) []
    { objects := .singleton (Access.keyOfApplication (Application.bound "shop" "web" "u1" false []))
        (encode (Application.bound "shop" "web" "u1" false [])) } where
  isOpen _ _ := rfl
  named := rfl
  there := by decide +kernel
  history := .start (by decide +kernel)

/-! ## Rounds make histories

A round reads the application, makes a pass and records what came of it. The pass may
note secrets and an image in the status but leaves the conditions alone, and it does
not touch the stored application; so a round whose outcome was recorded adds one
outcome to the history, at the time of the round. -/

/-- A pass leaves the conditions and the application as they are. -/
theorem Controller.pass_frame (config : Config) (apis : ClusterApis) (app : Application)
    (status : ApplicationStatus) (s : Server) (ns name : String) :
    ((pass config apis app).on status s).2.1.conditions = status.conditions
      ∧ ((pass config apis app).on status s).2.2.objects.get? (.of Application ns name)
        = s.objects.get? (.of Application ns name) := by
  have hread := (Access.reads_wanted config apis app).objects_eq s
  rw [pass, Pass.on_bind, Pass.on_prepare]
  rcases hwanted : (Access.wanted config apis app).on s with ⟨e | ⟨meant, settings, image⟩, s₁⟩
  · rw [hwanted] at hread
    exact ⟨rfl, congrArg (Dict.get? · _) hread⟩
  · rw [hwanted] at hread
    let t : Turn := ⟨{ meant with status := some { status with imageReference := image } }, apis,
      settings, { status with imageReference := image }⟩
    refine ⟨?_, (t.get?_application s₁ ns name).trans (congrArg (Dict.get? · _) hread)⟩
    show (t.pass.on t.status s₁).2.1.conditions = _
    rcases hend : t.pass.on t.status s₁ with ⟨r, noted, s₂⟩
    rcases Pass.children_cases hend with ⟨e, -, -, rfl⟩ | ⟨b, v, -, -, rfl⟩ <;> rfl

/-- **A round is concluded** over the conditions that the application had, and
with the application stored as it was. -/
theorem Round.reconcile_eq (r : Round) (s : Server) : ∃ (c : Controller)
    (result : Except OperatorError Unit) (status : ApplicationStatus) (s' : Server),
    r.controller.reconcile r.app r.timing s = c.conclude r.app result status r.timing s'
      ∧ status.conditions = r.status.conditions
      ∧ s'.statusOf (Access.keyOfApplication r.app)
        = s.statusOf (Access.keyOfApplication r.app) := by
  have hobjects := (r.controller.discovery.served_frame r.timing.start r.timing.discovered s).1
  unfold Controller.reconcile
  rcases hserved : r.controller.discovery.served r.timing.start r.timing.discovered s with
    ⟨e | apis, d, s₁⟩
  · rw [hserved] at hobjects
    exact ⟨_, _, _, _, rfl, rfl, Server.statusOf_congr (congrArg (Dict.get? · _) hobjects)⟩
  · rw [hserved] at hobjects
    obtain ⟨hconditions, hthere⟩ := Controller.pass_frame r.controller.config apis r.app r.status s₁
      r.app.metadata.nsOrEmpty r.app.name
    exact ⟨_, _, _, _, rfl, hconditions,
      Server.statusOf_congr (hthere.trans (congrArg (Dict.get? · _) hobjects))⟩

/-- **An application is read with the status that is stored.** -/
theorem Application.read?_status {members : List (String × Json)} {app : Application}
    (h : decode Application (.obj members) = some app) :
    ApplicationStatus.read? (Assoc.get? "status" members) = some (app.status.getD default) := by
  have hfields := decode_eq_some_iff.1 h
  change (if (Style.resource _ _).admits members = true then Table.decode _ members else none)
    = some _ at hfields
  split at hfields
  · have hstatus := (Table.decode_optional_eq_some_iff.1
      (Table.decode_of_always (Table.decode_of_always hfields))).1
    rw [ApplicationStatus.read?, hstatus]
    show some (((app.status.map toVal).map ofVal).getD default) = _
    simp
  · simp at hfields

/-- **A round whose outcome is recorded continues the history**, for the
application as it is stored. -/
theorem History.round {r : Round} {s : Server} {past : List Verdict}
    {members : List (String × Json)}
    (h : History (Access.keyOfApplication r.app) past (s.statusOf (Access.keyOfApplication r.app)))
    (hthere : s.objects.get? (Access.keyOfApplication r.app) = some (.obj members))
    (happ : decode Application (.obj members) = some r.app) (hrecorded : r.recorded s = true) :
    ∃ o, o.now = r.timing.now ∧ History (Access.keyOfApplication r.app) (past ++ [o])
      ((r.after s).statusOf (Access.keyOfApplication r.app)) := by
  have hread : ApplicationStatus.read? (s.statusOf (Access.keyOfApplication r.app))
      = some r.status := by
    rw [Server.statusOf, hthere]
    exact Application.read?_status happ
  obtain ⟨c, result, status, s₁, hreconcile, hconditions, hstatus⟩ := r.reconcile_eq s
  rw [Round.recorded, hreconcile] at hrecorded
  rw [Round.after, hreconcile]
  -- a pass leaves the stored status as it is, so the record of this round is merged into the
  -- status that the history led to
  rw [← hstatus] at h hread
  unfold Controller.conclude at hrecorded ⊢
  cases result with
  | ok u =>
    dsimp only at hrecorded ⊢
    rcases hstored : (Access.recordSuccess r.app status r.timing.now).on s₁ with ⟨e | u, s₂⟩
    · rw [hstored] at hrecorded
      simp at hrecorded
    · exact ⟨.success r.timing.now, rfl, h.success rfl hread hconditions hstored⟩
  | error e =>
    dsimp only at hrecorded ⊢
    rcases hstored : (Access.recordFailure r.app status e r.timing.now).on s₁ with ⟨e' | wait, s₂⟩
    · rw [hstored] at hrecorded
      simp at hrecorded
    · exact ⟨.failure ⟨e, r.timing.now, wait⟩, rfl,
        h.failure (f := ⟨e, r.timing.now, wait⟩) rfl hread hconditions hstored⟩

/-! ## What the condition tells

Everything that a condition can tell is here: how it stands now and why, since when,
and when that was last confirmed. The times are told in whole seconds. That the first
is no later than the last takes outcomes in the order of their times, which is the
only thing assumed of them. -/

/-- **The condition tells the history**, as far as it can be told. There is one
condition, and it is about the last outcome, recorded when that was. It has
had its status since the first outcome of the last stretch of that status,
which was no later. -/
theorem History.condition_tells {key : ObjectKey} {past : List Verdict} {stored : Option Json}
    (h : History key past stored) (hne : past ≠ [])
    (horder : past.Pairwise fun a b => a.now ≤ b.now) :
    ∃ found before first rest last, ApplicationStatus.read? stored = some found
      ∧ past = before ++ first :: rest ∧ Verdict.FinalStretch before first rest
      ∧ past.getLast? = some last
      ∧ found.conditions = [Verdict.shown first last]
      ∧ first.now.inSeconds ≤ last.now.inSeconds := by
  obtain ⟨found, hleaves⟩ := h.leaves
  obtain ⟨before, first, rest, rfl, hstretch⟩ := Verdict.exists_finalStretch hne
  refine ⟨found, before, first, rest, _, hleaves.read, rfl, hstretch,
    Verdict.getLast?_stretch before first rest, ?_, Instant.inSeconds_le_inSeconds ?_⟩
  · rw [hleaves.conditions, Verdict.conditionAfter_stretch hstretch]
    rfl
  · -- the last outcome is the first of the stretch or comes after it
    have hafter := (List.pairwise_cons.1 (List.pairwise_append.1 horder).2.1).1
    unfold Verdict.lastOf
    cases hlast : rest.getLast? with
    | none => exact le_refl _
    | some o => exact hafter o (List.mem_of_getLast? hlast)

theorem History.condition_tells_of_two_failures :
    let second (n : Fin 86400) : Instant := .ofTimestamp ⟨.epoch, n, false, nofun⟩
    let e : OperatorError := .notFound "Secret" "db" "shop"
    let past := Verdict.ofAll [] [(.ok (), second 0), (.error e, second 7), (.error e, second 9)]
    ∃ key stored, History key past stored ∧ ∃ found before first rest last,
      ApplicationStatus.read? stored = some found
        ∧ past = before ++ first :: rest ∧ Verdict.FinalStretch before first rest
        ∧ past.getLast? = some last
        ∧ found.conditions = [Verdict.shown first last]
        ∧ first.now.inSeconds ≤ last.now.inSeconds := by
  intro second e past
  obtain ⟨s, hready⟩ := ready_bound.recordAll
    [(.ok (), second 0), (.error e, second 7), (.error e, second 9)]
  have hne : past ≠ [] := List.cons_ne_nil _ _
  have horder : past.Pairwise fun a b => a.now ≤ b.now :=
    List.pairwise_map.1 (by decide +kernel : (past.map Verdict.now).Pairwise (· ≤ ·))
  exact ⟨_, _, hready.history, hready.history.condition_tells hne horder⟩

end AppOperator
