import AppOperator.Cluster.Discovery
import AppOperator.Proofs.Cluster.Runs
import Mathlib.Data.List.Induction

/-!
# How long an answer is trusted

What APIs a cluster serves is wanted again and again, while the cluster may serve
others by then and may refuse any of the questions. A reply is either an answer that is
still trusted, or it is asked for, question by question.

What is asked shows in the log of the cluster. A survey of some APIs goes through them
in order and ends with the first question that fails, an unknown API being an answer
(`Access.on_survey`). A reply is complete if its log shows all questions answered, and
what is known after any number of replies is what the latest complete one came to
(`Discovery.known_after`): one step learns from a complete reply and otherwise leaves
what is known as it is. So an answer is trusted for its time and no longer, and a survey
that was broken off never counts (`Discovery.isDue_reply`).

The times are numbers that nobody reads from a clock here. They are given with the
queries, and the only thing required of them is their order, so that the result holds
for all lengths of surveys and all distances between queries.
-/

namespace AppOperator

/-! ## Questions in the log

A question does nothing but leave an entry, and all that is learned from it can be
read off that entry and what the cluster serves. So a survey, which is a loop with an
early exit, is described by the entries that it leaves: they are about the APIs in
order, up to the end or up to the first that fails, and the result is a function of
them. What follows speaks of logs and has no more loops in it.

To fail and to be refused are not the same. An API that the cluster does not know is
refused with a code of its own, and that is an answer, namely that no types are
served. -/

namespace Entry

/-- **The refusal by which a question fails.** That an API is unknown is an answer. -/
def failure? (e : Entry) : Option Refusal :=
  match e.refusal with
  | some r => if r.code = 404 then none else some r
  | none => none

/-- Whether a question was answered by some type, where the types of each API are so
many. An API that is unknown has none. -/
def shows (apis : Dict String Nat) (e : Entry) : Bool :=
  match e.call, e.refusal with
  | .discover api, none => 0 < (apis.get? api).getD 0
  | _, _ => false

/-- What is learned by a question. -/
def verdict (apis : Dict String Nat) (e : Entry) : Except OperatorError Bool :=
  match e.failure? with
  | some r => .error (Access.refused r)
  | none => .ok (e.shows apis)

end Entry

namespace Access

/-- **A question leaves a trace in the log alone**, by which its outcome can be told. -/
theorem on_isServed (api : String) (s : Server) : ∃ refusal,
    (isServed api).on s
      = (Entry.verdict s.apis ⟨.discover api, refusal⟩, s.remember ⟨.discover api, refusal⟩) := by
  have hrefused : ∀ r : Refusal, s.perform (.discover api)
        = (.error r, s.remember ⟨.discover api, some r⟩) →
      (isServed api).on s = (Entry.verdict s.apis ⟨.discover api, some r⟩,
        s.remember ⟨.discover api, some r⟩) := by
    intro r hr
    rw [isServed, on_bind, on_attempt, hr]
    by_cases hcode : r.code = 404
    · simp [hcode, Entry.verdict, Entry.failure?, Entry.shows]
    · simp [hcode, Entry.verdict, Entry.failure?]
  cases hrefuse : s.refuse s.history.length (.discover api) with
  | some r => exact ⟨_, hrefused r (by simp [Server.perform, hrefuse])⟩
  | none =>
    cases htypes : s.apis.get? api with
    | none =>
      exact ⟨_, hrefused (Server.absent api)
        (by simp [Server.perform, hrefuse, Server.answer, htypes])⟩
    | some types =>
      refine ⟨none, ?_⟩
      rw [isServed, on_bind, on_attempt]
      simp [Server.perform, hrefuse, Server.answer, htypes, Call.apply, Entry.verdict,
        Entry.failure?, Entry.shows]

/-- **How a survey shows in the log**: an answer for each API, in order, or answers up to
a question that fails. -/
def Surveyed (apis : Dict String Nat) (names : List String) (log : List Entry) :
    Except OperatorError (List Bool) → Prop
  | .ok flags => log.map (·.call) = names.map .discover ∧ (∀ e ∈ log, e.failure? = none)
      ∧ log.map (·.shows apis) = flags
  | .error error => ∃ answered last refusal, log = answered ++ [last]
      ∧ log.map (·.call) <+: names.map .discover ∧ (∀ e ∈ answered, e.failure? = none)
      ∧ last.failure? = some refusal ∧ error = refused refusal

/-- A survey after one more answer. -/
theorem Surveyed.cons {apis : Dict String Nat} {name : String} {names : List String} {e : Entry}
    {log : List Entry} {outcome : Except OperatorError (List Bool)}
    (h : Surveyed apis names log outcome) (hcall : e.call = .discover name)
    (hanswered : e.failure? = none) :
    Surveyed apis (name :: names) (e :: log) (outcome.map (e.shows apis :: ·)) := by
  cases outcome with
  | ok flags =>
    obtain ⟨hcalls, hall, hflags⟩ := h
    refine ⟨by simp [hcall, hcalls], ?_, by simp [hflags]⟩
    simpa using ⟨hanswered, hall⟩
  | error error =>
    obtain ⟨answered, last, refusal, rfl, hcalls, hall, hlast, herror⟩ := h
    refine ⟨e :: answered, last, refusal, rfl, ?_, ?_, hlast, herror⟩
    · rw [List.map_cons, List.map_cons, hcall]
      exact List.prefix_cons_inj _ |>.2 hcalls
    · simpa using ⟨hanswered, hall⟩

/-- A result that is only put into another form leaves the same cluster. -/
theorem on_map {α β : Type} (f : α → β) (act : Access α) (s : Server) :
    (f <$> act).on s = ((act.on s).1.map f, (act.on s).2) := by
  rw [← bind_pure_comp, on_bind]
  rcases act.on s with ⟨_ | a, s'⟩
  · rfl
  · rfl

/-- **A survey shows in the log** and leaves no other trace. -/
theorem on_survey (names : List String) (s : Server) : ∃ log,
    ((names.mapM isServed).on s).2 = { s with history := s.history ++ log }
      ∧ Surveyed s.apis names log ((names.mapM isServed).on s).1 := by
  induction names generalizing s with
  | nil => exact ⟨[], by simp, by simp [Surveyed]⟩
  | cons name names ih =>
    obtain ⟨refusal, hasked⟩ := on_isServed name s
    rw [List.mapM_cons, on_bind, hasked]
    generalize hentry : (⟨.discover name, refusal⟩ : Entry) = entry
    have hcall : entry.call = .discover name := by rw [← hentry]
    cases hfailure : entry.failure? with
    | some r =>
      refine ⟨[entry], by simp [Entry.verdict, hfailure, Server.remember], ?_⟩
      simp only [Entry.verdict, hfailure]
      exact ⟨[], entry, r, rfl, by simp [hcall], by simp, hfailure, rfl⟩
    | none =>
      obtain ⟨log, hleft, hsurveyed⟩ := ih (s.remember entry)
      simp only [Entry.verdict, hfailure, bind_pure_comp, on_map]
      exact ⟨entry :: log, hleft.trans (by simp [Server.remember]),
        hsurveyed.cons hcall hfailure⟩

end Access

namespace ClusterApis

/-- **The APIs in question**, in the order in which they are asked for. -/
def names : List String :=
  ["route.openshift.io/v1", "serving.knative.dev/v1", "monitoring.coreos.com/v1",
    "image.openshift.io/v1"]

/-- Which of them are served, in this order. -/
def flags (apis : ClusterApis) : List Bool :=
  [apis.route, apis.knative, apis.monitoring, apis.image]

end ClusterApis

/-- **What the operator asks for is a survey.** -/
theorem Access.flags_discover : ClusterApis.flags <$> discover = ClusterApis.names.mapM isServed := by
  unfold discover ClusterApis.names
  simp only [List.mapM_cons, List.mapM_nil, bind_assoc, pure_bind, map_bind, map_pure]
  rfl

namespace Discovery

/-! ## Replies

A query has its own cluster, so between queries anything may change, and two times:
when the APIs are wanted, and when a survey would be complete if one had to be made.
An answer is trusted from the later of the two. Replies keep what they took, from
which it can be told afterwards what was asked.

Completeness is a property of a reply by its log alone and does not mention what is
remembered. This is what makes the main theorem say something: what the cache does is
compared with what it has seen, and not with what it stores. -/

/-- **When the APIs are wanted of which cluster**, and when a survey would be complete.
A survey asks for each API once, so a cluster that refuses by the number of the call is
as good as one that changes between the questions. -/
structure Query where
  /-- The time at which the APIs are wanted. -/
  wanted : Nat
  /-- The time at which a survey would be complete. -/
  complete : Nat
  /-- The cluster by then. -/
  server : Server

/-- A reply and what it took. -/
structure Reply where
  /-- What was wanted. -/
  query : Query
  /-- What it came to. -/
  result : Except OperatorError ClusterApis
  /-- The cluster that is left. -/
  left : Server

/-- **The reply by what is known.** -/
def reply (d : Discovery) (q : Query) : Reply :=
  ⟨q, (d.served q.wanted q.complete q.server).1, (d.served q.wanted q.complete q.server).2.2⟩

/-- What is known then. -/
def next (d : Discovery) (q : Query) : Discovery := (d.served q.wanted q.complete q.server).2.1

/-- The replies to one query after the other. -/
def replies (d : Discovery) : List Query → List Reply
  | [] => []
  | q :: qs => d.reply q :: (d.next q).replies qs

/-- **What is known after some queries.** -/
def after (d : Discovery) (qs : List Query) : Discovery := qs.foldl next d

/-- **Queries in the order of their times**: none is wanted before the one before it
could have been complete. -/
def Timely (qs : List Query) : Prop :=
  (∀ q ∈ qs, q.wanted ≤ q.complete) ∧ qs.Pairwise fun p q => p.complete ≤ q.wanted

instance : DecidablePred Timely := fun _ => inferInstanceAs (Decidable (_ ∧ _))

namespace Reply

/-- The calls that a reply took. -/
def asked (r : Reply) : List Entry := r.left.history.drop r.query.server.history.length

/-- **A reply of a complete survey**: by the log, all APIs were asked for and no question
failed. -/
def IsComplete (r : Reply) : Prop :=
  r.asked.map (·.call) = ClusterApis.names.map .discover ∧ ∀ e ∈ r.asked, e.failure? = none

instance : DecidablePred IsComplete := fun _ => inferInstanceAs (Decidable (_ ∧ _))

/-- The answer of a reply, with the time from which on it is trusted. -/
def learned? (r : Reply) : Option (ClusterApis × Nat) :=
  match r.result with
  | .ok apis => some (apis, r.query.complete)
  | .error _ => none

/-- The latest of some replies that is complete. -/
def latest? (rs : List Reply) : Option Reply := (rs.filter IsComplete).getLast?

end Reply

variable {d : Discovery} {q : Query}

/-! ## One reply

There are two cases, by whether what is known is still fresh, and in each the reply,
its log and what is known next are determined. A fresh answer leaves no entry at all;
a survey leaves at least one, since there is something to ask for
(`Discovery.asked_ne_nil`), so the two can be told apart by the log.

In the second case something is learned exactly if the survey came to an answer, and
it comes to an answer exactly if it is complete. That is the step:
`Discovery.known_next` says what is known after one query, for any query on any
cluster. -/

theorem Reply.asked_eq {r : Reply} {log : List Entry}
    (h : r.left = { r.query.server with history := r.query.server.history ++ log }) :
    r.asked = log := by
  unfold asked
  rw [h]
  exact List.drop_left

/-- **What is still trusted is the reply**, and nothing is asked or learned. -/
theorem reply_fresh {apis : ClusterApis} (h : d.fresh? q.wanted = some apis) :
    d.reply q = ⟨q, .ok apis, q.server⟩ ∧ d.next q = d := by
  simp only [reply, next, served, h, and_self]

/-- **If nothing is trusted, the reply is a survey**, from which something is learned
only if it comes to an answer. -/
theorem reply_stale (h : d.fresh? q.wanted = none) :
    (d.reply q).left
        = { q.server with history := q.server.history ++ (d.reply q).asked }
      ∧ Access.Surveyed q.server.apis ClusterApis.names (d.reply q).asked
        ((d.reply q).result.map ClusterApis.flags)
      ∧ d.next q = match (d.reply q).result with
        | .ok apis => d.learn apis q.complete
        | .error _ => d := by
  obtain ⟨log, hleft, hsurveyed⟩ := Access.on_survey ClusterApis.names q.server
  rw [← Access.flags_discover, Access.on_map] at hleft hsurveyed
  have hreply : d.reply q
      = ⟨q, (Access.discover.on q.server).1, (Access.discover.on q.server).2⟩ := by
    unfold reply served
    rw [h]
    rcases Access.discover.on q.server with ⟨_ | apis, s⟩
    · rfl
    · rfl
  have hasked : (d.reply q).asked = log := Reply.asked_eq (by rw [hreply]; exact hleft)
  rw [hasked, hreply]
  refine ⟨hleft, hsurveyed, ?_⟩
  unfold next served
  rw [h]
  rcases Access.discover.on q.server with ⟨_ | apis, s⟩
  · rfl
  · rfl

/-- Something is asked in a survey. -/
theorem asked_ne_nil (h : d.fresh? q.wanted = none) : (d.reply q).asked ≠ [] := by
  obtain ⟨-, hsurveyed, -⟩ := reply_stale h
  intro hnil
  rw [hnil] at hsurveyed
  cases hresult : (d.reply q).result with
  | ok apis =>
    rw [hresult] at hsurveyed
    exact absurd hsurveyed.1 (by simp [ClusterApis.names])
  | error e =>
    rw [hresult] at hsurveyed
    obtain ⟨answered, last, -, hlog, -⟩ := hsurveyed
    simp at hlog

theorem asked_eq_nil_iff : (d.reply q).asked = [] ↔ ∃ apis, d.fresh? q.wanted = some apis := by
  cases h : d.fresh? q.wanted with
  | none => simp [asked_ne_nil h]
  | some apis =>
    rw [(reply_fresh h).1]
    simp [Reply.asked]

/-- **A survey is complete exactly if it comes to an answer.** -/
theorem isComplete_iff (h : d.fresh? q.wanted = none) :
    (d.reply q).IsComplete ↔ ∃ apis, (d.reply q).result = .ok apis := by
  obtain ⟨-, hsurveyed, -⟩ := reply_stale h
  cases hresult : (d.reply q).result with
  | ok apis =>
    rw [hresult] at hsurveyed
    simpa using ⟨hsurveyed.1, hsurveyed.2.1⟩
  | error e =>
    rw [hresult] at hsurveyed
    obtain ⟨answered, last, refusal, hlog, -, -, hlast, -⟩ := hsurveyed
    simp only [reduceCtorEq, exists_false, iff_false]
    rintro ⟨-, hall⟩
    rw [hall last (by simp [hlog])] at hlast
    simp at hlast

/-- No complete reply comes from what is known. -/
theorem stale_of_isComplete (h : (d.reply q).IsComplete) : d.fresh? q.wanted = none := by
  cases hfresh : d.fresh? q.wanted with
  | none => rfl
  | some apis =>
    have hnil : (d.reply q).asked = [] := asked_eq_nil_iff.2 ⟨apis, hfresh⟩
    exact absurd h.1 (by simp [hnil, ClusterApis.names])

/-- **One step learns from a complete reply** and otherwise leaves what is known. -/
theorem known_next (d : Discovery) (q : Query) :
    (d.next q).known = if (d.reply q).IsComplete then (d.reply q).learned? else d.known := by
  cases h : d.fresh? q.wanted with
  | some apis =>
    have hnot : ¬ (d.reply q).IsComplete := fun hc => by simp [stale_of_isComplete hc] at h
    rw [if_neg hnot, (reply_fresh h).2]
  | none =>
    obtain ⟨-, -, hnext⟩ := reply_stale h
    cases hresult : (d.reply q).result with
    | ok apis =>
      rw [if_pos ((isComplete_iff h).2 ⟨apis, hresult⟩), hnext, hresult, Reply.learned?, hresult]
      rfl
    | error e =>
      have hnot : ¬ (d.reply q).IsComplete := by simp [isComplete_iff h, hresult]
      rw [if_neg hnot, hnext, hresult]

/-- What is learned is trusted as long as anything before. -/
theorem lifetime_next (d : Discovery) (q : Query) : (d.next q).lifetime = d.lifetime := by
  cases h : d.fresh? q.wanted with
  | some apis => rw [(reply_fresh h).2]
  | none =>
    rw [(reply_stale h).2.2]
    cases (d.reply q).result with
    | ok apis => rfl
    | error e => rfl

/-- **A complete reply is an answer by its own log.** -/
theorem flags_of_isComplete (h : (d.reply q).IsComplete) : ∃ apis, (d.reply q).result = .ok apis
    ∧ (d.reply q).asked.map (·.shows q.server.apis) = apis.flags := by
  have hstale := stale_of_isComplete h
  obtain ⟨apis, hresult⟩ := (isComplete_iff hstale).1 h
  obtain ⟨-, hsurveyed, -⟩ := reply_stale hstale
  rw [hresult] at hsurveyed
  exact ⟨apis, hresult, hsurveyed.2.2⟩

/-! ## One reply after the other

By induction over the queries, adding one at the end. What is known after all of them
is what the latest complete reply has learned, or nothing if none was complete; that
answers are trusted for the same time throughout is an induction of its own, since the
time is part of what is carried along.

The latest reply in the list is the youngest only if the queries come in the order of
their times, so this is where `Timely` is first used. -/

theorem replies_concat (d : Discovery) (qs : List Query) (q : Query) :
    d.replies (qs ++ [q]) = d.replies qs ++ [(d.after qs).reply q] := by
  induction qs generalizing d with
  | nil => rfl
  | cons p qs ih => exact congrArg (_ :: ·) (ih (d.next p))

theorem after_concat (d : Discovery) (qs : List Query) (q : Query) :
    d.after (qs ++ [q]) = (d.after qs).next q := by
  unfold after
  rw [List.foldl_append]
  rfl

theorem query_replies (d : Discovery) (qs : List Query) : (d.replies qs).map (·.query) = qs := by
  induction qs generalizing d with
  | nil => rfl
  | cons q qs ih => exact congrArg (q :: ·) (ih (d.next q))

theorem exists_of_mem_replies {qs : List Query} {r : Reply} (h : r ∈ d.replies qs) :
    ∃ (d' : Discovery) (q : Query), r = d'.reply q := by
  induction qs generalizing d with
  | nil => simp [replies] at h
  | cons q qs ih =>
    rcases List.mem_cons.1 h with rfl | h
    · exact ⟨d, q, rfl⟩
    · exact ih h

theorem lifetime_after (d : Discovery) (qs : List Query) : (d.after qs).lifetime = d.lifetime := by
  induction qs using List.reverseRecOn with
  | nil => rfl
  | append_singleton qs q ih => rw [after_concat, lifetime_next, ih]

/-- The latest complete reply is the last one or else the one before. -/
theorem Reply.latest?_concat (rs : List Reply) (r : Reply) :
    latest? (rs ++ [r]) = if r.IsComplete then some r else latest? rs := by
  unfold latest?
  by_cases h : r.IsComplete
  · simp [h]
  · simp [h]

/-- **What is known is what the latest complete reply came to**, where nothing was
known at first. -/
theorem known_after (h : d.known = none) (qs : List Query) :
    (d.after qs).known = (Reply.latest? (d.replies qs)).bind Reply.learned? := by
  induction qs using List.reverseRecOn with
  | nil => exact h
  | append_singleton qs q ih =>
    rw [after_concat, known_next, replies_concat, Reply.latest?_concat, ih]
    split
    · rfl
    · rfl

/-- **What is trusted after some queries**: what the latest complete reply came to, as
long as its time lasts. -/
theorem fresh?_after (h : d.known = none) (qs : List Query) (now : Nat) (apis : ClusterApis) :
    (d.after qs).fresh? now = some apis
      ↔ ∃ p, Reply.latest? (d.replies qs) = some p ∧ p.result = .ok apis
        ∧ now - p.query.complete < d.lifetime := by
  unfold fresh?
  rw [known_after h, lifetime_after]
  cases Reply.latest? (d.replies qs) with
  | none => simp
  | some p =>
    cases hresult : p.result with
    | ok apis' => simp [Reply.learned?, hresult, and_comm]
    | error e => simp [Reply.learned?, hresult]

/-- The latest complete reply is one of them, and complete. -/
theorem Reply.mem_of_latest? {rs : List Reply} {p : Reply} (h : latest? rs = some p) :
    p ∈ rs ∧ p.IsComplete := by
  simpa using List.mem_of_getLast? h

/-- **In the order of times no complete reply is younger than the latest.** -/
theorem Reply.complete_le_latest {rs : List Reply} (h : Timely (rs.map (·.query))) {p : Reply}
    (hp : p ∈ rs) (hcomplete : p.IsComplete) :
    ∃ last, latest? rs = some last ∧ p.query.complete ≤ last.query.complete := by
  have hmem : p ∈ rs.filter (IsComplete ·) := by simp [hp, hcomplete]
  have horder : (rs.filter (IsComplete ·)).Pairwise fun p r => p.query.complete ≤ r.query.wanted :=
    (List.pairwise_map.1 h.2).filter _
  obtain ⟨last, hlatest⟩ : ∃ last, latest? rs = some last := by
    rw [← Option.isSome_iff_exists, latest?, List.getLast?_isSome]
    exact List.ne_nil_of_mem hmem
  obtain ⟨front, hfront⟩ := List.getLast?_eq_some_iff.1 hlatest
  have hlast : last.query.wanted ≤ last.query.complete :=
    h.1 _ (List.mem_map_of_mem (mem_of_latest? hlatest).1)
  refine ⟨last, hlatest, ?_⟩
  rw [hfront, List.pairwise_append] at horder
  rw [hfront] at hmem
  rcases List.mem_append.1 hmem with hp | hp
  · exact Nat.le_trans (horder.2.2 p hp last (by simp)) hlast
  · obtain rfl := List.mem_singleton.1 hp
    exact Nat.le_refl _

/-! ## The replies of a cache

The parts are put together as what a reply has to be after those before it. There is
one statement for all times that answers may be trusted, zero among them, where no
answer is ever trusted; and it begins with a cache that knows nothing, as the
operator's does when it is started. -/

/-- Queries without the last one are still in order. -/
theorem Timely.earlier {earlier : List Query} (h : Timely (earlier ++ [q])) : Timely earlier :=
  ⟨fun p hp => h.1 p (by simp [hp]), (List.pairwise_append.1 h.2).1⟩

/-- **An answer is trusted exactly while some complete reply is young enough**, and it is
that of the latest one. -/
theorem isSome_fresh?_iff {earlier : List Query} (h : Timely earlier) (hnew : d.known = none)
    (now : Nat) :
    ((d.after earlier).fresh? now).isSome = true
      ↔ ∃ p ∈ d.replies earlier, p.IsComplete ∧ now - p.query.complete < d.lifetime := by
  rw [Option.isSome_iff_exists]
  simp only [fresh?_after hnew]
  constructor
  · rintro ⟨-, p, hlatest, -, hyoung⟩
    obtain ⟨hp, hcomplete⟩ := Reply.mem_of_latest? hlatest
    exact ⟨p, hp, hcomplete, hyoung⟩
  · rintro ⟨p, hp, hcomplete, hyoung⟩
    have htimely : Timely ((d.replies earlier).map (·.query)) := by rwa [query_replies]
    obtain ⟨last, hlatest, hle⟩ := Reply.complete_le_latest htimely hp hcomplete
    obtain ⟨hlast, hlastComplete⟩ := Reply.mem_of_latest? hlatest
    obtain ⟨d', q', rfl⟩ := exists_of_mem_replies hlast
    obtain ⟨apis, hresult, -⟩ := flags_of_isComplete hlastComplete
    exact ⟨apis, _, hlatest, hresult, by omega⟩

/-- **An answer is that of a complete reply**, by its log. -/
theorem exists_isComplete_of_ok (hnew : d.known = none) {earlier : List Query} {apis : ClusterApis}
    (h : ((d.after earlier).reply q).result = .ok apis) :
    ∃ p ∈ d.replies (earlier ++ [q]), p.IsComplete ∧ p.result = .ok apis
      ∧ p.asked.map (·.shows p.query.server.apis) = apis.flags := by
  obtain ⟨p, hp, hcomplete, hresult⟩ :
      ∃ p ∈ d.replies (earlier ++ [q]), p.IsComplete ∧ p.result = .ok apis := by
    rw [replies_concat]
    cases hfresh : (d.after earlier).fresh? q.wanted with
    | none =>
      exact ⟨_, List.mem_append_right _ (List.mem_singleton_self _),
        (isComplete_iff hfresh).2 ⟨apis, h⟩, h⟩
    | some trusted =>
      obtain ⟨p, hlatest, hresult, -⟩ := (fresh?_after hnew earlier q.wanted trusted).1 hfresh
      obtain ⟨hp, hcomplete⟩ := Reply.mem_of_latest? hlatest
      rw [(reply_fresh hfresh).1] at h
      exact ⟨p, List.mem_append_left _ hp, hcomplete, hresult.trans h⟩
  refine ⟨p, hp, hcomplete, hresult, ?_⟩
  obtain ⟨d', q', rfl⟩ := exists_of_mem_replies hp
  obtain ⟨apis', hresult', hflags⟩ := flags_of_isComplete hcomplete
  rw [hresult] at hresult'
  rw [Except.ok.inj hresult']
  exact hflags

/-- **What a reply has to be** after some others, if answers are trusted for some time. -/
structure Reply.IsDue (lifetime : Nat) (past : List Reply) (r : Reply) : Prop where
  /-- The log tells what was asked, and nothing else is changed. -/
  log : r.left = { r.query.server with history := r.query.server.history ++ r.asked }
  /-- There is an answer without a question exactly if an earlier reply is complete and is
  not too old. -/
  trusted : (r.asked = [] ∧ ∃ apis, r.result = .ok apis)
    ↔ ∃ p ∈ past, p.IsComplete ∧ r.query.wanted - p.query.complete < lifetime
  /-- It is then the answer of the latest complete reply. -/
  latest : r.asked = [] → ∃ p, Reply.latest? past = some p ∧ p.result = r.result
  /-- Where anything is asked, it is a survey of all APIs in order, up to a question that
  fails. -/
  surveyed : r.asked ≠ [] → Access.Surveyed r.query.server.apis ClusterApis.names r.asked
    (r.result.map ClusterApis.flags)
  /-- An answer is always that of a complete reply, and as its log says. -/
  whole : ∀ apis, r.result = .ok apis → ∃ p ∈ past ++ [r], p.IsComplete ∧ p.result = .ok apis
    ∧ p.asked.map (·.shows p.query.server.apis) = apis.flags

/-- **An answer is trusted for its time, and only as a whole.** For every time that
answers are trusted, and all queries in the order of their times, whatever cluster each
finds: every reply is due after those before it, and one that fails leaves what is known
as it is. -/
theorem isDue_reply (lifetime : Nat) (earlier : List Query) (q : Query)
    (h : Timely (earlier ++ [q])) :
    let cache := after { lifetime } earlier
    (cache.reply q).IsDue lifetime (replies { lifetime } earlier)
      ∧ ∀ e, (cache.reply q).result = .error e → cache.next q = cache := by
  intro cache
  have htrusted := isSome_fresh?_iff (d := { lifetime }) h.earlier rfl q.wanted
  have hwhole : ∀ apis, (cache.reply q).result = .ok apis → _ := fun _ hresult =>
    exists_isComplete_of_ok (d := { lifetime }) rfl hresult
  rw [replies_concat] at hwhole
  -- an answer from what is known, or one for which the cluster was asked
  cases hfresh : cache.fresh? q.wanted with
  | some apis =>
    obtain ⟨hreply, hnext⟩ := reply_fresh hfresh
    have hnil : (cache.reply q).asked = [] := asked_eq_nil_iff.2 ⟨apis, hfresh⟩
    obtain ⟨p, hlatest, hresult, -⟩ := (fresh?_after rfl earlier q.wanted apis).1 hfresh
    refine ⟨⟨?_, ?_, ?_, ?_, hwhole⟩, fun _ _ => hnext⟩
    · rw [hnil, hreply, List.append_nil]
    · refine ⟨fun _ => htrusted.1 (by rw [hfresh]; rfl), fun _ => ⟨hnil, apis, by rw [hreply]⟩⟩
    · exact fun _ => ⟨p, hlatest, by rw [hresult, hreply]⟩
    · exact fun hasked => absurd hnil hasked
  | none =>
    obtain ⟨hleft, hsurveyed, hnext⟩ := reply_stale hfresh
    have hasked := asked_ne_nil hfresh
    refine ⟨⟨hleft, ?_, fun hnil => absurd hnil hasked, fun _ => hsurveyed, hwhole⟩, ?_⟩
    · refine iff_of_false (fun hnil => hasked hnil.1) fun hyoung => ?_
      have hsome := htrusted.2 hyoung
      rw [hfresh] at hsome
      simp at hsome
    · intro e he
      rw [hnext, he]

/-- A query of a cluster that serves routes alone, as the refusals allow. -/
def Query.ofRoutes (wanted complete : Nat) (refuse : Nat → Call → Option Refusal) : Query :=
  ⟨wanted, complete, { apis := .singleton "route.openshift.io/v1" 3, refuse }⟩

theorem isDue_reply_of_routes :
    let down : Refusal := ⟨"Failure", "boom", "InternalError", 500⟩
    -- the second question fails at first; by the end all would fail
    let earlier : List Query := [.ofRoutes 0 1 fun n _ => if n = 1 then some down else none,
      .ofRoutes 2 5 fun _ _ => none]
    let q : Query := .ofRoutes 14 14 fun _ _ => some down
    let cache := after { lifetime := 10 } earlier
    Timely (earlier ++ [q]) ∧ (cache.reply q).result = .ok { route := true }
      ∧ (cache.reply q).IsDue 10 (replies { lifetime := 10 } earlier) := by
  intro down earlier q cache
  have htimely : Timely (earlier ++ [q]) := by decide
  exact ⟨htimely, by decide +kernel, (isDue_reply 10 earlier q htimely).1⟩

end Discovery
end AppOperator
