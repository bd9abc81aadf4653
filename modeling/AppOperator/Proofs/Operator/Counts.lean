import AppOperator.Proofs.Binding.Orphans
import AppOperator.Proofs.Operator.Rounds
import Mathlib.Algebra.GroupWithZero.Nat
import Mathlib.Data.List.Induction

/-!
# What the counts come to

The controller counts its rounds by their result, those that failed also by their
reason, and with each how long it took. What is wanted of the counts is that they come
to the number of rounds.

A round ends with two steps, which come in either order. A failure is counted and then
recorded with the application, so that it is counted whatever becomes of the record. A
success is recorded and then counted, and where the application cannot be reached for
the record, the round is lost: it is counted neither as a success nor as a failure, and
not how long it took (`Round.metrics_left`). So the counts come to the number of rounds
exactly if no round was lost. All that is told of failures is right in any case
(`Controller.countsEach_iff`).

The reports are compared with the counts from outside. They are told from the rounds
as they happened and not from the counts, so the theorem could fail for a controller
that counted consistently and wrongly. Which rounds are lost depends on whether the
application could be reached after a pass that had succeeded, and on nothing in the
pass.
-/

namespace AppOperator

/-! ## Sums

Counts are kept under labels, and what is asked of them is a sum over all labels.
Incrementing a label changes the sum by one, whether the label is there or not; what
is proved of sums is about setting any key to any number, from which this follows. -/

/-- **Setting a key changes the sum** by what the key had and has. -/
theorem Assoc.sum_insert {κ : Type} [DecidableEq κ] [Ord κ] [Std.TransOrd κ] [Std.LawfulEqOrd κ]
    (k : κ) (n : Nat) {m : List (κ × Nat)} (h : Sorted m) :
    ((insert k n m).map Prod.snd).sum + (get? k m).getD 0 = (m.map Prod.snd).sum + n := by
  induction m with
  | nil => simp [insert]
  | cons p rest ih =>
    obtain ⟨j, v⟩ := p
    obtain ⟨hbelow, hrest⟩ := List.pairwise_cons.1 h
    rw [insert]
    split
    · rename_i hlt
      -- the key is below all that are listed
      have hnone : get? k ((j, v) :: rest) = none := by
        refine get?_eq_none_of_lt fun p hp => ?_
        rcases List.mem_cons.1 hp with rfl | hp
        · exact hlt
        · exact Std.TransCmp.lt_trans hlt (hbelow p hp)
      rw [hnone, List.map_cons, List.sum_cons, Option.getD_none]
      omega
    · rename_i heq
      obtain rfl : k = j := Std.LawfulEqCmp.eq_of_compare heq
      rw [get?_cons, if_pos rfl, Option.getD_some, List.map_cons, List.map_cons, List.sum_cons,
        List.sum_cons]
      omega
    · rename_i hgt
      have hne : k ≠ j := by
        rintro rfl
        simp at hgt
      have hsum := ih hrest
      rw [get?_cons, if_neg hne, List.map_cons, List.map_cons, List.sum_cons, List.sum_cons]
      omega

namespace Metrics

/-- **The count under a label.** -/
def count (counts : Dict String Nat) (label : String) : Nat := (counts.get? label).getD 0

theorem count_increment (counts : Dict String Nat) (label other : String) :
    count (increment counts label) other
      = count counts other + if other = label then 1 else 0 := by
  unfold count increment
  rw [Dict.get?_insert]
  split
  · rename_i h
    rw [h]
    rfl
  · rfl

theorem sum_increment (counts : Dict String Nat) (label : String) :
    (increment counts label).values.sum = counts.values.sum + 1 := by
  have hsum := Assoc.sum_insert label ((counts.get? label).getD 0 + 1) counts.sorted
  unfold Dict.get? at hsum
  unfold increment Dict.values Dict.insert Dict.get?
  dsimp only
  omega

/-- The rounds that are counted as successes. -/
def succeeded (m : Metrics) : Nat := count m.results "success"

/-- The rounds that are counted as failures. -/
def failed (m : Metrics) : Nat := count m.results "error"

variable (m : Metrics) (elapsed : Nanoseconds) (reason : String)

@[simp] theorem succeeded_recordSuccess : (m.recordSuccess elapsed).succeeded = m.succeeded + 1 :=
  count_increment m.results "success" "success"

@[simp] theorem failed_recordSuccess : (m.recordSuccess elapsed).failed = m.failed :=
  count_increment m.results "success" "error"

@[simp] theorem succeeded_recordFailure :
    (m.recordFailure reason elapsed).succeeded = m.succeeded :=
  count_increment m.results "error" "success"

@[simp] theorem failed_recordFailure : (m.recordFailure reason elapsed).failed = m.failed + 1 :=
  count_increment m.results "error" "error"

end Metrics

/-! ## One round

What is counted of a round is a function of what is told of it: what came of the pass,
and whether that was recorded. So the order of recording and counting, in which the
two cases differ, is looked at once (`Controller.metrics_conclude`), and from then on
rounds are reports. -/

/-- **What is told of a round**: what came of its pass, and whether that was recorded
with the application. -/
structure Report where
  /-- What came of the pass. -/
  outcome : Except OperatorError Unit
  /-- Whether it was recorded. -/
  recorded : Bool

namespace Report

/-- Why the pass failed, in a word. -/
def reason? (r : Report) : Option String :=
  match r.outcome with
  | .ok _ => none
  | .error e => some e.reason

/-- Whether the pass failed. -/
def hasFailed (r : Report) : Bool := r.reason?.isSome

/-- **Whether a round is lost**: a success that could not be recorded. -/
def isLost (r : Report) : Bool := !r.hasFailed && !r.recorded

end Report

/-- **What is counted of a round** that took so long. -/
def Metrics.note (m : Metrics) (report : Report) (elapsed : Nanoseconds) : Metrics :=
  match report.outcome with
  | .ok _ => if report.recorded then m.recordSuccess elapsed else m
  | .error e => m.recordFailure e.reason elapsed

namespace Round

/-- **What comes of the pass of a round**: learning what APIs there are, finding out
what is wanted, and bringing it about. -/
def outcome (r : Round) (s : Server) : Except OperatorError Unit :=
  match r.controller.discovery.served r.timing.start r.timing.discovered s with
  | (.error e, _, _) => .error e
  | (.ok apis, _, s) => ((Controller.pass r.controller.config apis r.app).on r.status s).1

/-- What is told of a round. -/
def report (r : Round) (s : Server) : Report := ⟨r.outcome s, r.recorded s⟩

/-- The controller after a round. -/
def left (r : Round) (s : Server) : Controller := (r.controller.reconcile r.app r.timing s).2.1

end Round

/-- Concluding a pass counts it, a success only once it is recorded. -/
theorem Controller.metrics_conclude (c : Controller) (app : Application)
    (result : Except OperatorError Unit) (status : ApplicationStatus) (t : Timing) (s : Server) :
    (c.conclude app result status t s).2.1.metrics
      = c.metrics.note ⟨result, (c.conclude app result status t s).1.unrecorded.isNone⟩
        (t.finish - t.start) := by
  unfold conclude
  cases result with
  | ok _ =>
    dsimp only
    rcases (Access.recordSuccess app status t.now).on s with ⟨_ | _, s'⟩
    · rfl
    · rfl
  | error e =>
    dsimp only
    rcases (Access.recordFailure app status e t.now).on s with ⟨_ | _, s'⟩
    · rfl
    · rfl

/-- **A round is counted by what is told of it.** -/
theorem Round.metrics_left (r : Round) (s : Server) : (r.left s).metrics
    = r.controller.metrics.note (r.report s) (r.timing.finish - r.timing.start) := by
  unfold left report outcome recorded Controller.reconcile
  rcases r.controller.discovery.served r.timing.start r.timing.discovered s with
    ⟨e | apis, d, s₁⟩
  · exact Controller.metrics_conclude ..
  · exact Controller.metrics_conclude ..

/-! ## Any number of rounds

The rounds of a controller are made on occasions: an application, a time and a
cluster, which may have nothing to do with the cluster of the round before. What is
carried over from one round to the next is the controller with its counts and with
what it knows of the APIs. -/

/-- **An occasion for a round**: an application, a time, and the cluster as it is by
then. Between two occasions anything may have changed there, and each has refusals of
its own. -/
structure Occasion where
  /-- The application. -/
  app : Application
  /-- When the round happens. -/
  timing : Timing
  /-- The cluster by then. -/
  server : Server

/-- The round that a controller makes on an occasion. -/
def Occasion.round (o : Occasion) (c : Controller) : Round := ⟨c, o.app, o.timing⟩

namespace Controller

/-- The controller after an occasion. -/
def next (c : Controller) (o : Occasion) : Controller := (o.round c).left o.server

/-- **The controller after some occasions.** -/
def after (c : Controller) (occasions : List Occasion) : Controller := occasions.foldl next c

/-- **What is told of the rounds** on one occasion after the other. -/
def reports (c : Controller) : List Occasion → List Report
  | [] => []
  | o :: occasions => (o.round c).report o.server :: (c.next o).reports occasions

/-- There is one report for each occasion. -/
theorem length_reports (c : Controller) (occasions : List Occasion) :
    (c.reports occasions).length = occasions.length := by
  induction occasions generalizing c with
  | nil => rfl
  | cons o occasions ih => exact congrArg (· + 1) (ih (c.next o))

theorem after_concat (c : Controller) (occasions : List Occasion) (o : Occasion) :
    c.after (occasions ++ [o]) = (c.after occasions).next o := by
  unfold after
  rw [List.foldl_append]
  rfl

theorem reports_concat (c : Controller) (occasions : List Occasion) (o : Occasion) :
    c.reports (occasions ++ [o])
      = c.reports occasions ++ [(o.round (c.after occasions)).report o.server] := by
  induction occasions generalizing c with
  | nil => rfl
  | cons p occasions ih => exact congrArg (_ :: ·) (ih (c.next p))

end Controller

/-! ## What the counts come to

The invariant allows for rounds that are lost, and says how many. Each kind of round
has its lemma, a failure, a success, a loss, and the induction over occasions adds one
of them at the end. Without the number of lost rounds the invariant could not be
carried past the first loss, although this is all that the counts are wrong by. -/

namespace Metrics

/-- **All rounds are counted but so many.** -/
structure CountsAllBut (lost : Nat) (reports : List Report) (m : Metrics) : Prop where
  /-- Each of them is counted as a success or as a failure. -/
  results : m.succeeded + m.failed + lost = reports.length
  /-- Of each of them it is counted how long it took. -/
  durations : m.durations.count + lost = reports.length
  /-- Those whose pass failed are counted as failures. -/
  failed : m.failed = reports.countP (·.hasFailed)
  /-- The counts of the reasons come to the failures. -/
  reasons : m.failures.values.sum = m.failed
  /-- Under each reason those are counted that failed for it. -/
  reason : ∀ reason, count m.failures reason = reports.countP (·.reason? = some reason)

/-- **Each round is counted once.** -/
def CountsEach (reports : List Report) (m : Metrics) : Prop := m.CountsAllBut 0 reports

variable {m : Metrics} {lost : Nat} {reports : List Report}

theorem countsAllBut_nil : CountsAllBut 0 [] {} :=
  ⟨rfl, rfl, rfl, rfl, fun _ => rfl⟩

/-- One more failure. -/
theorem CountsAllBut.failure (h : m.CountsAllBut lost reports) (e : OperatorError)
    (recorded : Bool) (elapsed : Nanoseconds) :
    (m.recordFailure e.reason elapsed).CountsAllBut lost (reports ++ [⟨.error e, recorded⟩]) where
  results := by
    rw [succeeded_recordFailure, failed_recordFailure, List.length_append, ← h.results,
      List.length_singleton]
    omega
  durations := by
    show m.durations.count + 1 + lost = _
    rw [List.length_append, ← h.durations, List.length_singleton]
    omega
  failed := by
    rw [failed_recordFailure, h.failed, List.countP_append]
    rfl
  reasons := by
    rw [failed_recordFailure, ← h.reasons]
    exact sum_increment m.failures e.reason
  reason reason := by
    show count (increment m.failures e.reason) reason = _
    rw [count_increment, h.reason, List.countP_append, List.countP_singleton]
    refine congrArg (_ + ·) (if_congr ?_ rfl rfl)
    show reason = e.reason ↔ decide (some e.reason = some reason) = true
    simp [eq_comm]

/-- One more success, which was recorded. -/
theorem CountsAllBut.success (h : m.CountsAllBut lost reports) (elapsed : Nanoseconds) :
    (m.recordSuccess elapsed).CountsAllBut lost (reports ++ [⟨.ok (), true⟩]) where
  results := by
    rw [succeeded_recordSuccess, failed_recordSuccess, List.length_append, ← h.results,
      List.length_singleton]
    omega
  durations := by
    show m.durations.count + 1 + lost = _
    rw [List.length_append, ← h.durations, List.length_singleton]
    omega
  failed := by
    rw [failed_recordSuccess, h.failed, List.countP_append]
    rfl
  reasons := h.reasons.trans (failed_recordSuccess m elapsed).symm
  reason reason := by
    rw [List.countP_append, ← h.reason reason]
    rfl

/-- One more round that is lost. -/
theorem CountsAllBut.lose (h : m.CountsAllBut lost reports) :
    m.CountsAllBut (lost + 1) (reports ++ [⟨.ok (), false⟩]) where
  results := by
    rw [List.length_append, ← h.results]
    rfl
  durations := by
    rw [List.length_append, ← h.durations]
    rfl
  failed := by
    rw [h.failed, List.countP_append]
    rfl
  reasons := h.reasons
  reason reason := by
    rw [List.countP_append, ← h.reason reason]
    rfl

/-- **One more round** is counted unless it is lost. -/
theorem CountsAllBut.note (h : m.CountsAllBut lost reports) (report : Report)
    (elapsed : Nanoseconds) :
    (m.note report elapsed).CountsAllBut (lost + [report].countP (·.isLost))
      (reports ++ [report]) := by
  obtain ⟨outcome, recorded⟩ := report
  cases outcome with
  | error e => exact h.failure e recorded elapsed
  | ok _ =>
    cases recorded with
    | true => exact h.success elapsed
    | false => exact h.lose

end Metrics

namespace Controller

/-- **All rounds are counted but those that are lost**, from a controller on that has
counted nothing. -/
theorem countsAllBut_after (c : Controller) (hnothing : c.metrics = {})
    (occasions : List Occasion) :
    (c.after occasions).metrics.CountsAllBut ((c.reports occasions).countP (·.isLost))
      (c.reports occasions) := by
  induction occasions using List.reverseRecOn with
  | nil =>
    show c.metrics.CountsAllBut 0 []
    rw [hnothing]
    exact Metrics.countsAllBut_nil
  | append_singleton occasions o ih =>
    rw [after_concat, reports_concat, List.countP_append]
    show (((o.round (c.after occasions)).left o.server).metrics).CountsAllBut _ _
    rw [Round.metrics_left]
    exact ih.note _ _

/-- **Each round is counted once exactly if none is lost**, whatever becomes of the
cluster between the rounds and whatever is refused in them. In any case there are as many
rounds as occasions, the counts come to all of them but those that are lost, and each
failure is counted as such, under its reason. -/
theorem countsEach_iff (config : Config) (discovery : Discovery) (occasions : List Occasion) :
    let c : Controller := { config, discovery }
    (c.reports occasions).length = occasions.length
      ∧ (c.after occasions).metrics.CountsAllBut ((c.reports occasions).countP (·.isLost))
        (c.reports occasions)
      ∧ ((c.after occasions).metrics.CountsEach (c.reports occasions)
        ↔ ∀ report ∈ c.reports occasions, report.isLost = false) := by
  intro c
  have hcounts := c.countsAllBut_after rfl occasions
  refine ⟨c.length_reports occasions, hcounts, ?_⟩
  constructor
  · intro heach
    have hlost : (c.reports occasions).countP (·.isLost) = 0 :=
      Nat.add_left_cancel (hcounts.results.trans heach.results.symm)
    simpa using List.countP_eq_zero.1 hlost
  · intro hnone
    have hlost : (c.reports occasions).countP (·.isLost) = 0 :=
      List.countP_eq_zero.2 (by simpa using hnone)
    rwa [hlost] at hcounts

/-- **A round can be lost.** Where the status of an application cannot be stored, a pass
that succeeds leaves no trace in the counts. -/
theorem not_countsEach_of_refused_status :
    let app : Application := .bound "shop" "web" "u1" false []
    let s : Server := { Server.keeping app [] with
      refuse := fun _ call => match call with
        | .patchStatus _ _ => some .internal
        | _ => none }
    let c : Controller := { config := {} }
    let occasions : List Occasion := [⟨app, ⟨0, 0, 0, default⟩, s⟩]
    (c.reports occasions).map (·.hasFailed) = [false]
      ∧ (c.after occasions).metrics.succeeded + (c.after occasions).metrics.failed = 0
      ∧ ¬ (c.after occasions).metrics.CountsEach (c.reports occasions) := by
  intro app s c occasions
  have hlost : (c.reports occasions).countP (·.isLost) = 1 := by decide +kernel
  have hcounts := (c.countsAllBut_after rfl occasions).results
  have hone : (c.reports occasions).length = 1 := rfl
  rw [hlost, hone] at hcounts
  refine ⟨by decide +kernel, by omega, fun h => ?_⟩
  have heach := h.results
  rw [hone] at heach
  omega

end Controller

end AppOperator
