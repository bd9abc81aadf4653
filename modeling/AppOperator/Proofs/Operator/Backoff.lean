import AppOperator.Proofs.Operator.History
import Mathlib.Data.List.Chain

/-!
# Waiting longer and longer

How long to wait after a failure is told from the time since the failure
before, and from nothing else. So whether the waits grow depends on when the
attempts are made: an attempt that comes before its time is followed by a
shorter wait. A run of failures is `Patient` if no attempt comes before its
time, and then each wait is at least twice the one before it, up to six hours.

Two things might get in the way of that. The time since a failure is counted
from the time that was recorded, of which the fraction of a second is gone; and
it is rounded to seconds before it is doubled. But what is dropped of an earlier
time makes the time since then longer (`Instant.nanosBetween_inSeconds`), and
all waits are whole seconds, so that rounding does not take anything from one
(`Retry.interval_doubles`).

The wait is computed in words of 64 bits. `Retry.checkedInterval` is the same
computation with a check after each operation, and no check ever fails.

What is required of the attempts is only that none comes before its time. They may
come later, by any amount, as they do when the operator is busy; then the waits grow
faster, up to the same bound. It is also what makes the result independent of the
queue that schedules the attempts, of which nothing is modelled.
-/

namespace AppOperator

namespace Retry

/-! ## The wait, as it is computed

The time since a failure can be negative, if clocks disagree, and as large as the
calendar allows. Both are within the bounds of the words in which the wait is
computed, and the checks follow the computation step by step, with rounding toward
zero where it rounds so. After this section the wait is a minimum of two natural
numbers. -/

/-- A number, if it fits into a signed word of 64 bits. -/
def signed? (n : Int) : Option Int := if -2 ^ 63 ≤ n ∧ n < 2 ^ 63 then some n else none

/-- A number, if it fits into an unsigned word of 64 bits. -/
def unsigned? (n : Int) : Option Nat := if 0 ≤ n ∧ n < 2 ^ 64 then some n.toNat else none

theorem signed?_of_bounds {n : Int} (hlow : -2 ^ 63 ≤ n) (hhigh : n < 2 ^ 63) :
    signed? n = some n := if_pos ⟨hlow, hhigh⟩

theorem unsigned?_ofNat {n : Nat} (h : n < 2 ^ 64) : unsigned? n = some n :=
  if_pos ⟨by omega, by omega⟩

/-- **Milliseconds, word by word**: whole seconds first, then the rest, both
rounded toward zero. -/
def milliseconds? (nanos : Int) : Option Int := do
  let seconds ← signed? (nanos.tdiv 1000000000)
  let whole ← signed? (seconds * 1000)
  signed? (whole + (nanos.tmod 1000000000).tdiv 1000000)

/-- The two parts of a time that is not negative make up its whole milliseconds. -/
theorem parts_of_nonneg {nanos : Int} (h : 0 ≤ nanos) :
    nanos.tdiv 1000000000 = nanos / 1000000000
      ∧ (nanos.tmod 1000000000).tdiv 1000000 = nanos % 1000000000 / 1000000 := by
  rw [Int.tdiv_eq_ediv_of_nonneg h, Int.tmod_eq_emod_of_nonneg h,
    Int.tdiv_eq_ediv_of_nonneg (Int.emod_nonneg _ (by decide))]
  exact ⟨rfl, rfl⟩

/-- The parts of a time before another are those of the time after it. -/
theorem parts_neg (nanos : Int) :
    (-nanos).tdiv 1000000000 = -nanos.tdiv 1000000000
      ∧ ((-nanos).tmod 1000000000).tdiv 1000000 = -(nanos.tmod 1000000000).tdiv 1000000 := by
  rw [Int.neg_tdiv, Int.neg_tmod, Int.neg_tdiv]
  exact ⟨rfl, rfl⟩

theorem milliseconds?_of_parts {nanos seconds rest : Int} (hseconds : nanos.tdiv 1000000000 = seconds)
    (hrest : (nanos.tmod 1000000000).tdiv 1000000 = rest)
    (h : -20000000000000 ≤ seconds ∧ seconds ≤ 20000000000000) (h' : -1000 < rest ∧ rest < 1000) :
    milliseconds? nanos = some (seconds * 1000 + rest) := by
  rw [milliseconds?, hseconds, hrest, signed?_of_bounds (by omega) (by omega)]
  show (signed? (seconds * 1000)).bind _ = _
  rw [signed?_of_bounds (by omega) (by omega)]
  exact signed?_of_bounds (by omega) (by omega)

/-- **No word overflows** within the bounds of the calendar, and of a time that
is not negative the whole milliseconds are kept. -/
theorem milliseconds?_eq {nanos : Int} (hlow : -20000000000000 * 1000000000 ≤ nanos)
    (hhigh : nanos ≤ 20000000000000 * 1000000000) :
    ∃ ms, milliseconds? nanos = some ms ∧ max ms 0 = ((nanos / 1000000).toNat : Int) := by
  rcases Int.le_total 0 nanos with hnonneg | hneg
  · obtain ⟨hseconds, hrest⟩ := parts_of_nonneg hnonneg
    exact ⟨_, milliseconds?_of_parts hseconds hrest (by omega) (by omega), by omega⟩
  · obtain ⟨hseconds, hrest⟩ := parts_of_nonneg (Int.neg_nonneg_of_nonpos hneg)
    obtain ⟨hseconds', hrest'⟩ := parts_neg (-nanos)
    rw [Int.neg_neg] at hseconds' hrest'
    rw [hseconds] at hseconds'
    rw [hrest] at hrest'
    exact ⟨_, milliseconds?_of_parts hseconds' hrest' (by omega) (by omega), by omega⟩

/-- When the last failure was, if the last outcome was one. -/
def failedAt? (previous : Option Condition) : Option Instant :=
  previous.bind fun c => if c.status = .no then c.lastUpdateTime else none

theorem sinceFailure?_eq (previous : Option Condition) (now : Instant) :
    sinceFailure? previous now
      = (failedAt? previous).map fun failed =>
        (Instant.nanosBetween failed now / 1000000).toNat := by
  cases previous with
  | none => rfl
  | some c =>
    unfold sinceFailure? failedAt?
    dsimp only [Option.bind_eq_bind, Option.bind_some]
    by_cases hno : c.status = .no
    · rw [if_pos hno, if_pos hno]
      cases c.lastUpdateTime <;> rfl
    · rw [if_neg hno, if_neg hno]
      rfl

/-- The seconds of which a wait is twice as many. -/
def seconds (previous : Option Condition) (now : Instant) : Nat :=
  match failedAt? previous with
  | some failed => max 1 (((Instant.nanosBetween failed now / 1000000).toNat + 500) / 1000)
  | none => 1

/-- The longest wait is a whole number of seconds, too. -/
theorem min_longest (n : Nat) : min (2 * n * 1000) longest = min (2 * n) 21600 * 1000 :=
  Nat.mul_min_mul_right (2 * n) 21600 1000

theorem min_double_le {wait last cap : Nat} (h : min wait cap ≤ last) :
    min (2 * wait) cap ≤ 2 * last := by
  omega

theorem interval_eq (previous : Option Condition) (now : Instant) :
    interval previous now = min (2 * seconds previous now) 21600 * 1000 := by
  unfold interval seconds
  rw [sinceFailure?_eq]
  cases failedAt? previous with
  | none => exact min_longest 1
  | some failed => exact min_longest _

theorem one_le_seconds (previous : Option Condition) (now : Instant) :
    1 ≤ seconds previous now := by
  unfold seconds
  split <;> omega

/-- **The wait is a whole number of seconds**, from two of them to six hours. -/
theorem interval_bounds (previous : Option Condition) (now : Instant) :
    ∃ n : Nat, 2 ≤ n ∧ n ≤ 21600 ∧ interval previous now = n * 1000 := by
  have h := one_le_seconds previous now
  refine ⟨min (2 * seconds previous now) 21600, ?_, ?_, interval_eq previous now⟩ <;> omega

/-- The seconds that are doubled, word by word, if no word overflows. -/
def checkedSeconds (previous : Option Condition) (now : Instant) : Option Nat :=
  match failedAt? previous with
  | some failed => do
    let elapsed ← milliseconds? (Instant.nanosBetween failed now)
    let elapsed ← unsigned? (max elapsed 0)
    let rounded ← unsigned? (elapsed + 500 : Nat)
    return max 1 (rounded / 1000)
  | none => some 1

/-- **The wait, word by word**, if no word overflows. -/
def checkedInterval (previous : Option Condition) (now : Instant) : Option Nat := do
  let seconds ← checkedSeconds previous now
  let doubled ← unsigned? (2 * seconds : Nat)
  return min (doubled * 1000) longest

theorem checkedSeconds_eq (previous : Option Condition) (now : Instant) :
    checkedSeconds previous now = some (seconds previous now)
      ∧ seconds previous now ≤ 20000000000000 := by
  unfold checkedSeconds seconds
  cases failedAt? previous with
  | none => exact ⟨rfl, by dsimp only; omega⟩
  | some failed =>
    obtain ⟨hlow, hhigh⟩ := Instant.nanosBetween_bounds failed now
    obtain ⟨ms, hms, hmax⟩ := milliseconds?_eq hlow hhigh
    have hbound : (failed.nanosBetween now / 1000000).toNat ≤ 20000000000000000 := by omega
    dsimp only [Option.bind_eq_bind]
    rw [hms, Option.bind_some, hmax]
    generalize (failed.nanosBetween now / 1000000).toNat = elapsed at hbound
    rw [unsigned?_ofNat (by omega), Option.bind_some, unsigned?_ofNat (by omega)]
    exact ⟨rfl, by omega⟩

/-- **The wait is computed without overflow**, whatever the condition and the time. -/
theorem checkedInterval_eq (previous : Option Condition) (now : Instant) :
    checkedInterval previous now = some (interval previous now) := by
  obtain ⟨hseconds, hbound⟩ := checkedSeconds_eq previous now
  rw [checkedInterval, hseconds, interval_eq, ← min_longest, Option.bind_eq_bind, Option.bind_some,
    unsigned?_ofNat (by omega)]
  rfl

/-- After anything but a failure the wait is the shortest one. -/
theorem interval_of_not_failed {previous : Option Condition} (now : Instant)
    (h : ∀ c ∈ previous, c.status ≠ .no) : interval previous now = 2000 := by
  have hnone : failedAt? previous = none := by
    cases previous with
    | none => rfl
    | some c => exact if_neg (h c rfl)
  rw [interval_eq, seconds, hnone]
  exact (by decide : min (2 * 1) 21600 * 1000 = 2000)

/-- **The wait doubles**: after a failure it is twice the time since then, so at
least twice a wait of whole seconds that was kept. What was dropped of the
recorded time only adds to that. -/
theorem interval_doubles {c : Condition} {failed now : Instant} {n : Nat} (hno : c.status = .no)
    (hfailed : c.lastUpdateTime = some failed.inSeconds)
    (h : ((n * 1000 : Nat) : Int) * 1000000 ≤ Instant.nanosBetween failed now) :
    min (2 * n) 21600 * 1000 ≤ interval (some c) now := by
  have hsome : failedAt? (some c) = some failed.inSeconds := (if_pos hno).trans hfailed
  have hdropped := Instant.nanosBetween_inSeconds failed now
  rw [interval_eq, seconds, hsome]
  dsimp only
  rw [hdropped]
  refine Nat.mul_le_mul_right _ ?_
  omega

end Retry

/-! ## Runs of failures

A run of failures is a list of what was recorded, each with the wait that it called
for. Whether it is patient can be read off the list: between any two neighbours at
least the wait has passed. That the next wait is at least twice as long is a statement
about two neighbours, and the chain follows link by link.

Where the longest wait is reached, doubling stops, hence the minimum in all
statements. It is never undershot again, since the time since the last failure is then
at least as long. -/

/-- **A run of failures in which each attempt comes after the wait** that the one
before it called for. -/
def Patient (run : List Failure) : Prop :=
  run.IsChain fun a b => (a.wait : Int) * 1000000 ≤ Instant.nanosBetween a.now b.now

namespace History

variable {key : ObjectKey} {past : List Verdict} {run : List Failure} {stored : Option Json}

/-- A wait in a history is a whole number of seconds, from two to six hours. -/
theorem wait_bounds {f : Failure} (h : History key (past ++ [.failure f]) stored) :
    ∃ n, 2 ≤ n ∧ n ≤ 21600 ∧ f.wait = n * 1000 := by
  rw [h.wait_eq]
  exact Retry.interval_bounds _ _

/-- **One failure after another** is waited for twice as long. -/
theorem wait_doubles {a b : Failure}
    (h : History key (past ++ [.failure a] ++ [.failure b]) stored)
    (hpatient : (a.wait : Int) * 1000000 ≤ Instant.nanosBetween a.now b.now) :
    min (2 * a.wait) Retry.longest ≤ b.wait := by
  obtain ⟨_, hearlier⟩ := h.earlier
  obtain ⟨n, -, -, hn⟩ := hearlier.wait_bounds
  obtain ⟨c, hc, hno, hfailed⟩ :=
    Verdict.recordedOver_eq (Verdict.conditionAfter past) (.failure a)
  rw [hn] at hpatient
  have hcap : min (2 * a.wait) Retry.longest = min (2 * n) 21600 * 1000 := by
    rw [hn, ← Nat.mul_assoc]
    exact Retry.min_longest n
  calc min (2 * a.wait) Retry.longest
      = min (2 * n) 21600 * 1000 := hcap
    _ ≤ Retry.interval (some c) b.now := Retry.interval_doubles hno hfailed hpatient
    _ = b.wait := by rw [h.wait_eq, Verdict.conditionAfter_append, hc]

/-- **Along a patient run each wait is at least twice the one before it**, up to
the longest. -/
theorem waits_double (h : History key (past ++ run.map .failure) stored) (hpatient : Patient run) :
    run.IsChain fun a b => min (2 * a.wait) Retry.longest ≤ b.wait := by
  refine List.isChain_iff_forall_rel_of_append_cons_cons.2 fun a b before after hrun => ?_
  subst hrun
  -- the two failures and all before them are a history
  have hsplit : past ++ (before ++ a :: b :: after).map Verdict.failure
      = (past ++ before.map .failure ++ [.failure a] ++ [.failure b]) ++ after.map .failure := by
    simp
  rw [hsplit] at h
  obtain ⟨_, h⟩ := h.of_append
  exact h.wait_doubles (List.isChain_iff_forall_rel_of_append_cons_cons.1 hpatient rfl)

theorem wait_le_longest {f : Failure} (h : History key (past ++ [.failure f]) stored) :
    f.wait ≤ Retry.longest := by
  obtain ⟨n, -, hn, hwait⟩ := h.wait_bounds
  rw [hwait]
  exact Nat.mul_le_mul_right 1000 hn

/-- A history up to a failure of a run. -/
theorem upTo (h : History key (past ++ run.map .failure) stored) {i : Nat} (hi : i < run.length) :
    ∃ stored, History key (past ++ (run.take i).map .failure ++ [.failure run[i]]) stored := by
  have hsplit : past ++ run.map Verdict.failure
      = (past ++ (run.take i).map .failure ++ [.failure run[i]])
        ++ (run.drop (i + 1)).map .failure := by
    calc past ++ run.map Verdict.failure
        = past ++ (run.take (i + 1) ++ run.drop (i + 1)).map .failure := by
          rw [List.take_append_drop]
      _ = _ := by
          rw [List.take_succ_eq_append_getElem hi]
          simp only [List.map_append, List.map_cons, List.map_nil, List.append_assoc]
  rw [hsplit] at h
  exact h.of_append

/-- **So the waits never decrease.** -/
theorem waits_increase (h : History key (past ++ run.map .failure) stored)
    (hpatient : Patient run) : run.Pairwise fun a b => a.wait ≤ b.wait := by
  have htrans : IsTrans Failure fun a b => a.wait ≤ b.wait := ⟨fun _ _ _ => Nat.le_trans⟩
  refine List.isChain_iff_pairwise.1 (List.isChain_iff_getElem.2 fun i hi => ?_)
  have hstep := List.isChain_iff_getElem.1 (h.waits_double hpatient) i hi
  obtain ⟨_, hbefore⟩ := h.upTo (Nat.lt_of_succ_lt hi)
  have hlongest := hbefore.wait_le_longest
  calc run[i].wait ≤ min (2 * run[i].wait) Retry.longest := by
        exact Nat.le_min.2 ⟨by omega, hlongest⟩
    _ ≤ run[i + 1].wait := hstep

/-- **So the waits grow like the powers of two**, up to the longest. -/
theorem pow_le_wait (h : History key (past ++ run.map .failure) stored) (hpatient : Patient run)
    {i : Nat} (hi : i < run.length) :
    min (2 ^ (i + 1) * 1000) Retry.longest ≤ run[i].wait := by
  induction i with
  | zero =>
    obtain ⟨_, h⟩ := h.upTo hi
    obtain ⟨n, hn, -, hwait⟩ := h.wait_bounds
    refine Nat.le_trans (Nat.min_le_left _ _) ?_
    rw [hwait]
    exact Nat.mul_le_mul_right 1000 hn
  | succ i ih =>
    have hstep := List.isChain_iff_getElem.1 (h.waits_double hpatient) i hi
    have hbefore := ih (by omega)
    have hpow : 2 ^ (i + 1 + 1) * 1000 = 2 * (2 ^ (i + 1) * 1000) := by
      rw [Nat.pow_succ _ (i + 1), Nat.mul_comm _ 2, Nat.mul_assoc]
    refine Nat.le_trans (Nat.le_min.2 ⟨?_, Nat.min_le_right _ _⟩) hstep
    rw [hpow]
    exact Retry.min_double_le hbefore

/-- A failure after a success is waited for as if it was the first. -/
theorem wait_after_success {now : Instant} {f : Failure}
    (h : History key (past ++ [.success now, .failure f]) stored) : f.wait = 2000 := by
  have hsplit : past ++ [.success now, .failure f]
      = (past ++ [Verdict.success now]) ++ [.failure f] := by simp
  rw [hsplit] at h
  obtain ⟨c, hc, hyes, -⟩ := Verdict.recordedOver_eq (Verdict.conditionAfter past) (.success now)
  rw [h.wait_eq, Verdict.conditionAfter_append, hc]
  refine Retry.interval_of_not_failed _ fun c' hc' => ?_
  rw [← Option.some.inj hc', hyes]
  exact nofun

end History

/-! ## Waiting longer and longer

The parts are independent of each other: bounds for any condition and any time, growth
along patient runs, and a fresh start after a success. The runs may be of any length
and begin after any history, so what was recorded before the first failure of a run
does not matter. -/

/-- **The wait after a failure.** It is computed without overflow, whatever was
stored and whatever the time, and comes to whole seconds between two of them
and six hours. Along a patient run of failures each wait is at least twice the
one before, up to six hours, so that none is shorter than the one before it and
the waits are at least the powers of two; and a success starts it over. -/
theorem Retry.backs_off :
    (∀ previous now, checkedInterval previous now = some (interval previous now)
      ∧ ∃ n : Nat, 2 ≤ n ∧ n ≤ 21600 ∧ interval previous now = n * 1000)
    ∧ (∀ key past run stored, History key (past ++ run.map .failure) stored → Patient run →
      (run.IsChain fun a b => min (2 * a.wait) longest ≤ b.wait)
        ∧ (run.Pairwise fun a b => a.wait ≤ b.wait)
        ∧ ∀ i (hi : i < run.length), min (2 ^ (i + 1) * 1000) longest ≤ run[i].wait)
    ∧ ∀ key past now f stored, History key (past ++ [.success now, .failure f]) stored →
      f.wait = 2000 :=
  ⟨fun previous now => ⟨checkedInterval_eq previous now, interval_bounds previous now⟩,
    fun _ _ _ _ h hpatient =>
      ⟨h.waits_double hpatient, h.waits_increase hpatient, fun _ hi => h.pow_le_wait hpatient hi⟩,
    fun _ _ _ _ _ h => h.wait_after_success⟩

theorem Retry.backs_off_of_three_failures :
    let second (n : Fin 86400) : Instant := .ofTimestamp ⟨.epoch, n, false, nofun⟩
    let e : OperatorError := .notFound "Secret" "db" "shop"
    let run : List Failure := [⟨e, second 0, 2000⟩, ⟨e, second 2, 4000⟩, ⟨e, second 7, 10000⟩]
    let next : Failure := ⟨e, second 30, 2000⟩
    (∃ key stored, History key ([] ++ run.map .failure) stored ∧ Patient run
      ∧ ∀ i (hi : i < run.length), min (2 ^ (i + 1) * 1000) longest ≤ run[i].wait)
    ∧ (∃ key stored, History key (run.map .failure ++ [.success (second 20), .failure next]) stored
      ∧ next.wait = 2000)
    ∧ checkedInterval none (second 0) = some (interval none (second 0)) := by
  intro second e run next
  obtain ⟨s, hready⟩ := ready_bound.recordAll
    [(.error e, second 0), (.error e, second 2), (.error e, second 7)]
  obtain ⟨s', hready'⟩ := hready.recordAll [(.ok (), second 20), (.error e, second 30)]
  have hrun : Verdict.ofAll []
      [(.error e, second 0), (.error e, second 2), (.error e, second 7)]
      = [] ++ run.map Verdict.failure := by
    decide +kernel
  have hnext : Verdict.ofAll ([] ++ run.map Verdict.failure)
      [(.ok (), second 20), (.error e, second 30)]
      = run.map Verdict.failure ++ [.success (second 20), .failure next] := by
    decide +kernel
  have hpatient : Patient run := by
    unfold Patient
    decide +kernel
  have h := hready.history
  have h' := hready'.history
  rw [hrun] at h h'
  rw [hnext] at h'
  exact ⟨⟨_, _, h, hpatient, (Retry.backs_off.2.1 _ _ _ _ h hpatient).2.2⟩,
    ⟨_, _, h', Retry.backs_off.2.2 _ _ _ _ _ h'⟩, (Retry.backs_off.1 none (second 0)).1⟩

end AppOperator
