import AppOperator.Reconcile.Pass

/-!
# What holds along a run

A dialogue makes one call after the other, and each call finds the cluster
as the calls before have left it. `Dialogue.Along` says of a run that every
call of it is admissible where it is made. It says so of refused calls too:
the refusals of a cluster are arbitrary, so what holds along every run holds
of every run that is cut off.

Laws about runs follow from laws about single calls. An invariant that every
admissible call keeps is kept by the run (`Dialogue.Along.invariant`); a key
that no call of the run writes keeps what is stored under it
(`Access.Touches.get?_eq`).

What is proved along a run is the strongest thing that can be said of something that
may be interrupted anywhere. The converse view, from the end of a run that succeeded,
is taken where what was read matters and not what was written; both go through the
same decomposition of a computation into its parts.
-/

namespace AppOperator

/-! ## A single call

A call either changes nothing and is refused, or is accepted and has its effect, and
in either case it is remembered with what became of it. These few facts are
what all laws about runs rest on. -/

/-- What is stored after a remembered call: a refused one has left it alone. -/
def Entry.replay (objects : Dict ObjectKey Json) (e : Entry) : Dict ObjectKey Json :=
  if e.isRefused then objects else e.call.apply objects

namespace Server

/-- The cluster after a call, whatever the answer was. -/
abbrev after (s : Server) (c : Call) : Server := (s.perform c).2

/-- A refused call changes nothing, and an accepted one has its effect. -/
theorem perform_cases (s : Server) (c : Call) :
    (∃ r, (s.perform c).1 = .error r ∧ (s.after c).objects = s.objects)
      ∨ (∃ reply, (s.perform c).1 = .ok reply ∧ s.answer c = .ok reply
          ∧ (s.after c).objects = c.apply s.objects) := by
  unfold after perform
  cases s.refuse s.history.length c with
  | some r => exact .inl ⟨r, rfl, rfl⟩
  | none =>
    cases h : s.answer c with
    | error r => exact .inl ⟨r, rfl, rfl⟩
    | ok reply => exact .inr ⟨reply, rfl, rfl, rfl⟩

@[simp] theorem after_refuse (s : Server) (c : Call) : (s.after c).refuse = s.refuse := by
  unfold after perform
  split
  · rfl
  · split
    · rfl
    · rfl

/-- A call that is no write leaves what is stored as it is. -/
theorem after_objects_of_read {s : Server} {c : Call} (h : c.isWrite = false) :
    (s.after c).objects = s.objects := by
  rcases s.perform_cases c with ⟨r, -, ho⟩ | ⟨reply, -, -, ho⟩
  · exact ho
  · rw [ho]
    cases c with
    | get _ => rfl
    | discover _ => rfl
    | _ => exact absurd h (by simp [Call.isWrite])

/-- A call that is no write is not among the writes. -/
theorem after_writes_of_read {s : Server} {c : Call} (h : c.isWrite = false) :
    (s.after c).writes = s.writes := by
  have hadd : ∀ (t : Server) (r : Option Refusal), (t.remember ⟨c, r⟩).writes = t.writes := by
    intro t r
    simp [writes, remember, List.filter_append, h]
  unfold after perform
  split
  · exact hadd _ _
  · split
    · exact hadd _ _
    · exact hadd _ _

/-- **A call is remembered**, and by what is remembered it can be told what
became of what was stored. -/
theorem exists_entry (s : Server) (c : Call) :
    ∃ entry : Entry, entry.call = c ∧ (s.after c).history = s.history ++ [entry]
      ∧ (s.after c).objects = Entry.replay s.objects entry := by
  unfold after perform
  split
  · exact ⟨_, rfl, rfl, rfl⟩
  · split
    · exact ⟨_, rfl, rfl, rfl⟩
    · exact ⟨_, rfl, rfl, rfl⟩

theorem after_history (s : Server) (c : Call) :
    ∃ refusal, (s.after c).history = s.history ++ [⟨c, refusal⟩] := by
  obtain ⟨⟨_, refusal⟩, rfl, hhistory, -⟩ := s.exists_entry c
  exact ⟨refusal, hhistory⟩

/-- A call that writes is remembered as one, whatever the answer was. -/
theorem after_writes_of_write {s : Server} {c : Call} (h : c.isWrite = true) :
    ∃ refusal, (s.after c).writes = s.writes ++ [⟨c, refusal⟩] := by
  obtain ⟨refusal, hhistory⟩ := s.after_history c
  refine ⟨refusal, ?_⟩
  simp [writes, hhistory, List.filter_append, h]

/-- A call that is refused from outside is answered by the refusal. -/
theorem perform_refused {s : Server} {c : Call} {r : Refusal}
    (h : s.refuse s.history.length c = some r) : (s.perform c).1 = .error r := by
  unfold perform
  rw [h]

/-- **A call that is accepted** was not refused from outside, has its effect
and is remembered. -/
theorem after_of_ok {s : Server} {c : Call} {reply : c.Reply} (h : (s.perform c).1 = .ok reply) :
    s.refuse s.history.length c = none
      ∧ s.after c = { s with objects := c.apply s.objects }.remember ⟨c, none⟩ := by
  unfold after perform at *
  cases hrefuse : s.refuse s.history.length c with
  | some r =>
    rw [hrefuse] at h
    simp at h
  | none =>
    rw [hrefuse] at h
    cases hanswer : s.answer c with
    | error r =>
      rw [hanswer] at h
      simp at h
    | ok _ => exact ⟨rfl, rfl⟩

/-- A call that is accepted is remembered without a refusal. -/
theorem after_writes_of_ok {s : Server} {c : Call} {reply : c.Reply}
    (h : (s.perform c).1 = .ok reply) (hw : c.isWrite = true) :
    (s.after c).writes = s.writes ++ [⟨c, none⟩] := by
  rw [(after_of_ok h).2]
  simp [writes, remember, List.filter_append, hw]

/-- A call touches nothing that is stored under another key than its own. -/
theorem after_get?_of_ne {s : Server} {c : Call} {k : ObjectKey}
    (h : c.isWrite = true → c.key? ≠ some k) :
    (s.after c).objects.get? k = s.objects.get? k := by
  rcases s.perform_cases c with ⟨r, -, ho⟩ | ⟨reply, -, -, ho⟩
  · rw [ho]
  · rw [ho]
    cases c with
    | get _ => rfl
    | discover _ => rfl
    | create key _ | replace key _ | patchStatus key _ =>
      have hk : k ≠ key := fun e => h rfl (by rw [e]; rfl)
      rw [Call.apply, Dict.get?_insert, if_neg hk]
    | delete key =>
      have hk : k ≠ key := fun e => h rfl (by rw [e]; rfl)
      rw [Call.apply, Dict.get?_erase, if_neg hk]

end Server

/-! ## Along a run

A dialogue is a tree whose branches are answers, and `Dialogue.Along` follows the
branch that a cluster takes. It is defined by recursion over the dialogue, so a law
about runs is an induction with one case for the end and one for a call. Because it
says something of every call, refused or not, it holds of all beginnings of a run at
once.

What happened can also be told afterwards. The history has an entry for each call, and
the entries alone account for what is stored (`Dialogue.exists_replay`). -/

namespace Dialogue

variable {α β : Type} {P Q : Server → Call → Prop}

/-- **Every call of a run is admissible** at the cluster that it finds. -/
def Along (P : Server → Call → Prop) : Dialogue α → Server → Prop
  | .done _, _ => True
  | .call c next, s => P s c ∧ (next (s.perform c).1).Along P (s.after c)

/-- **A run of two parts** is admissible if both parts are. -/
theorem along_bind (first : Dialogue α) (next : α → Dialogue β) (s : Server) :
    (first >>= next).Along P s
      ↔ first.Along P s ∧ (next (first.on s).1).Along P (first.on s).2 := by
  induction first generalizing s with
  | done a => exact ⟨fun h => ⟨trivial, h⟩, fun h => h.2⟩
  | call c rest ih =>
    -- the first call is the same on both sides, whichever answer it gets
    show (P s c ∧ (rest _ >>= next).Along P _) ↔ (P s c ∧ (rest _).Along P _) ∧ _
    rw [ih, and_assoc]
    exact Iff.rfl

/-- **What every admissible call keeps, the run keeps**, and along the run
the calls are admissible where it holds. -/
theorem Along.invariant {I : Server → Prop} {d : Dialogue α} {s : Server} (h : d.Along P s)
    (hI : I s) (step : ∀ s c, P s c → I s → I (s.after c)) :
    I (d.on s).2 ∧ d.Along (fun s c => P s c ∧ I s ∧ I (s.after c)) s := by
  induction d generalizing s with
  | done a => exact ⟨hI, trivial⟩
  | call c rest ih =>
    have hnext := step s c h.1 hI
    have hrest := ih _ h.2 hnext
    exact ⟨hrest.1, ⟨h.1, hI, hnext⟩, hrest.2⟩

theorem Along.mono {d : Dialogue α} {s : Server} (h : d.Along P s)
    (hPQ : ∀ s c, P s c → Q s c) : d.Along Q s := by
  induction d generalizing s with
  | done a => exact trivial
  | call c rest ih => exact ⟨hPQ s c h.1, ih _ h.2⟩

/-- Two laws hold along a run together. -/
theorem Along.and {d : Dialogue α} {s : Server} (hP : d.Along P s) (hQ : d.Along Q s) :
    d.Along (fun s c => P s c ∧ Q s c) s := by
  induction d generalizing s with
  | done a => exact trivial
  | call c rest ih => exact ⟨⟨hP.1, hQ.1⟩, ih _ hP.2 hQ.2⟩

/-- **A run only adds to the history**, and the calls that it adds are admissible. -/
theorem Along.history {d : Dialogue α} {s : Server} (h : d.Along P s) :
    ∃ made, (d.on s).2.history = s.history ++ made ∧ ∀ entry ∈ made, ∃ t, P t entry.call := by
  induction d generalizing s with
  | done a => exact ⟨[], (List.append_nil _).symm, fun _ he => absurd he List.not_mem_nil⟩
  | call c rest ih =>
    obtain ⟨made, hhistory, hmade⟩ := ih _ h.2
    obtain ⟨refusal, hafter⟩ := s.after_history c
    change ((rest (s.perform c).1).on (s.after c)).2.history = _ at hhistory
    rw [hafter, List.append_assoc] at hhistory
    refine ⟨⟨c, refusal⟩ :: made, hhistory, fun entry he => ?_⟩
    rcases List.mem_cons.1 he with rfl | he
    · exact ⟨s, h.1⟩
    · exact hmade entry he

/-- **The history tells what is stored.** What a run leaves is what its remembered calls,
told one after the other, make of what was stored before; the answers need not be known. -/
theorem exists_replay (d : Dialogue α) (s : Server) :
    ∃ made, (d.on s).2.history = s.history ++ made
      ∧ (d.on s).2.objects = made.foldl Entry.replay s.objects := by
  induction d generalizing s with
  | done a => exact ⟨[], (List.append_nil _).symm, rfl⟩
  | call c rest ih =>
    obtain ⟨made, hhistory, hobjects⟩ := ih (s.perform c).1 (s.after c)
    obtain ⟨entry, -, hentry, hstored⟩ := s.exists_entry c
    refine ⟨entry :: made, ?_, ?_⟩
    · show ((rest (s.perform c).1).on (s.after c)).2.history = _
      rw [hhistory, hentry, List.append_assoc, List.singleton_append]
    · show ((rest (s.perform c).1).on (s.after c)).2.objects = _
      rw [hobjects, hstored, List.foldl_cons]

/-- The refusals of a cluster stay what they are. -/
@[simp] theorem on_refuse (d : Dialogue α) (s : Server) : (d.on s).2.refuse = s.refuse := by
  induction d generalizing s with
  | done a => rfl
  | call c rest ih => exact (ih _ _).trans (s.after_refuse c)

end Dialogue

/-- A call that writes, if at all, under one of some keys. -/
def Call.Within (K : ObjectKey → Prop) (c : Call) : Prop :=
  c.isWrite = true → ∀ k, c.key? = some k → K k

/-! ## Computations on a cluster

A computation that may fail is a dialogue that comes to an answer or to a failure, and
it goes on after a first part only if that has not failed. So a law along a
computation of two parts asks for the second part only where the first has come to an
answer, and there with the cluster that it has left. -/

namespace Access

variable {α β : Type} {P Q : Server → Call → Prop} {s s' s'' : Server}

/-- Every call of a computation is admissible. -/
def Along (P : Server → Call → Prop) (act : Access α) (s : Server) : Prop := act.run.Along P s

@[simp] theorem along_pure (a : α) : (pure a : Access α).Along P s := trivial

@[simp] theorem along_throw (e : OperatorError) : (throw e : Access α).Along P s := trivial

@[simp] theorem along_attempt (c : Call) : (attempt c).Along P s ↔ P s c :=
  ⟨fun h => h.1, fun h => ⟨h, trivial⟩⟩

/-- **One computation after another** is admissible if the first is, and the
second is wherever the first comes to an answer. -/
theorem along_bind {first : Access α} {next : α → Access β} (h : first.Along P s)
    (hnext : ∀ a s', first.on s = (.ok a, s') → (next a).Along P s') :
    (first >>= next).Along P s := by
  show Dialogue.Along P (first.run >>= _) s
  rw [Dialogue.along_bind]
  refine ⟨h, ?_⟩
  cases hr : (first.run.on s).1 with
  | ok a => exact hnext a _ (Prod.ext hr rfl)
  | error e => exact trivial

/-- Of a computation that is admissible the first part is. -/
theorem Along.first {first : Access α} {next : α → Access β} (h : (first >>= next).Along P s) :
    first.Along P s :=
  ((Dialogue.along_bind _ _ s).1 h).1

/-- A computation of two parts that comes to an answer comes to it in two parts. -/
theorem on_bind_ok {first : Access α} {next : α → Access β} {b : β} :
    (first >>= next).on s = (.ok b, s'')
      ↔ ∃ a s', first.on s = (.ok a, s') ∧ (next a).on s' = (.ok b, s'') := by
  rw [on_bind]
  constructor
  · intro h
    split at h
    · exact ⟨_, _, by assumption, h⟩
    · simp at h
  · rintro ⟨a, s', h, h'⟩
    rw [h]
    exact h'

/-- What a computation comes to can be told by running it. -/
theorem on_of_toOption {act : Access α} {a : α} (h : (act.on s).1.toOption = some a) :
    ∃ s', act.on s = (.ok a, s') := by
  rcases hon : act.on s with ⟨r, s'⟩
  rw [hon] at h
  cases r with
  | error e => simp [Except.toOption] at h
  | ok b =>
    obtain rfl := Option.some.inj h
    exact ⟨s', rfl⟩

theorem discard_eq (act : Access α) :
    (discard act : Access Unit) = act >>= fun _ => pure () := by
  rw [discard, LawfulFunctor.map_const, bind_pure_comp]
  rfl

theorem on_discard_ok {act : Access α} :
    (discard act).on s = (.ok (), s') ↔ ∃ a, act.on s = (.ok a, s') := by
  rw [discard_eq, on_bind_ok]
  constructor
  · rintro ⟨a, t, h, h'⟩
    exact ⟨a, h.trans (by rw [(Prod.mk.inj h').2])⟩
  · rintro ⟨a, h⟩
    exact ⟨a, s', h, rfl⟩

theorem along_ite {c : Prop} [Decidable c] {a b : Access α} (ha : c → a.Along P s)
    (hb : ¬ c → b.Along P s) : (if c then a else b).Along P s := by
  split
  · rename_i h
    exact ha h
  · rename_i h
    exact hb h

theorem along_discard {act : Access α} (h : act.Along P s) : (discard act).Along P s := by
  rw [discard_eq]
  exact along_bind h fun _ _ _ => trivial

@[simp] theorem on_refuse (act : Access α) (s : Server) : (act.on s).2.refuse = s.refuse :=
  Dialogue.on_refuse _ _

/-- What every admissible call keeps is kept however the computation ends. -/
theorem Along.keeps {I : Server → Prop} {act : Access α} (h : act.Along P s) (hI : I s)
    (step : ∀ s c, P s c → I s → I (s.after c)) : I (act.on s).2 :=
  (Dialogue.Along.invariant h hI step).1

/-! ## What a computation touches

Which keys a computation may write under does not depend on the cluster, so it is
asked of all of them at once, and it is read off the way the computation is built. It
gives the simplest frame: what is stored under any other key is the same at the end,
however the end came about. -/

/-- **A computation writes under some keys only**, whatever is stored and
whatever is refused. -/
def Touches (K : ObjectKey → Prop) (act : Access α) : Prop :=
  ∀ s, act.Along (fun _ c => c.Within K) s

variable {K L : ObjectKey → Prop}

/-- What is stored under other keys stays as it is. -/
theorem Touches.get?_eq {act : Access α} (h : Touches K act) (s : Server) {k : ObjectKey}
    (hk : ¬ K k) : (act.on s).2.objects.get? k = s.objects.get? k :=
  (h s).keeps (I := fun t => t.objects.get? k = s.objects.get? k) rfl fun _ _ hc ht =>
    (Server.after_get?_of_ne fun hw e => hk (hc hw k e)).trans ht

/-- What is stored under other keys than are written stays. -/
theorem Touches.get?_of_on {act : Access α} {r : Except OperatorError α} (h : Touches K act)
    (hs : act.on s = (r, s')) {k : ObjectKey} (hk : ¬ K k) :
    s'.objects.get? k = s.objects.get? k := by
  have hget := h.get?_eq s hk
  rw [hs] at hget
  exact hget

theorem Touches.mono {act : Access α} (h : Touches K act) (hKL : ∀ k, K k → L k) :
    Touches L act := fun s =>
  Dialogue.Along.mono (h s) fun _ _ hc hw k e => hKL k (hc hw k e)

@[simp] theorem touches_pure (a : α) : Touches K (pure a : Access α) := fun _ => trivial

@[simp] theorem touches_throw (e : OperatorError) : Touches K (throw e : Access α) := fun _ =>
  trivial

theorem Touches.bind {first : Access α} {next : α → Access β} (h : Touches K first)
    (hnext : ∀ a, Touches K (next a)) : Touches K (first >>= next) := fun s =>
  along_bind (h s) fun a s' _ => hnext a s'

theorem Touches.discard {act : Access α} (h : Touches K act) : Touches K (discard act) := fun s =>
  along_discard (h s)

theorem Touches.ite {c : Prop} [Decidable c] {a b : Access α} (ha : c → Touches K a)
    (hb : ¬ c → Touches K b) : Touches K (if c then a else b) := fun s =>
  along_ite (fun h => ha h s) fun h => hb h s

end Access

/-! ## Passes

A pass carries a status along, which it reads and changes without a call. Along a pass
the same laws hold as along the calls that it makes; the status matters only in so far
as later calls depend on it, and for that the law is stated from a given one. -/

namespace Pass

variable {α β : Type} {P : Server → Call → Prop} {s s' s'' : Server}
  {st st' st'' : ApplicationStatus}

/-- Every call of a pass is admissible. -/
def Along (P : Server → Call → Prop) (pass : Pass α) (st : ApplicationStatus) (s : Server) : Prop :=
  (pass.run.run st).Along P s

@[simp] theorem along_pure (a : α) : (pure a : Pass α).Along P st s := trivial

@[simp] theorem along_note (change : ApplicationStatus → ApplicationStatus) :
    (note change).Along P st s := trivial

@[simp] theorem along_status : Pass.status.Along P st s := trivial

@[simp] theorem along_onCluster {act : Access α} :
    (onCluster act).Along P st s ↔ act.Along P s := by
  show Dialogue.Along P (act.run >>= _) s ↔ _
  rw [Dialogue.along_bind]
  exact ⟨fun h => h.1, fun h => ⟨h, trivial⟩⟩

/-- One pass after another is admissible if the first is, and the second is
wherever the first comes to an answer. -/
theorem along_bind {first : Pass α} {next : α → Pass β} (h : first.Along P st s)
    (hnext : ∀ a st' s', first.on st s = (.ok a, st', s') → (next a).Along P st' s') :
    (first >>= next).Along P st s := by
  show Dialogue.Along P (first.run.run st >>= _) s
  rw [Dialogue.along_bind]
  refine ⟨h, ?_⟩
  rcases hr : (first.run.run st).on s with ⟨⟨r, st'⟩, s'⟩
  cases r with
  | ok a =>
    refine hnext a st' s' ?_
    show (((first.run.run st).on s).1.1, ((first.run.run st).on s).1.2, _) = _
    rw [hr]
  | error e => exact trivial

/-- What follows in a pass that is admissible is so where the first part
comes to an answer. -/
theorem Along.next {first : Pass α} {next : α → Pass β} (h : (first >>= next).Along P st s) {a : α}
    (hfirst : first.on st s = (.ok a, st', s')) : (next a).Along P st' s' := by
  have hnext := ((Dialogue.along_bind (first.run.run st) _ s).1 h).2
  rcases hr : (first.run.run st).on s with ⟨⟨r, st₁⟩, s₁⟩
  have hon : first.on st s = (r, st₁, s₁) := by
    show (((first.run.run st).on s).1.1, ((first.run.run st).on s).1.2, _) = _
    rw [hr]
  rw [hfirst] at hon
  obtain ⟨rfl, hrest⟩ := Prod.mk.inj hon
  obtain ⟨rfl, rfl⟩ := Prod.mk.inj hrest
  rw [hr] at hnext
  exact hnext

/-- A pass that begins on the cluster alone is admissible if that part is,
and what follows is wherever it comes to an answer. -/
theorem along_onCluster_bind {act : Access α} {next : α → Pass β} (h : act.Along P s)
    (hnext : ∀ a s', act.on s = (.ok a, s') → (next a).Along P st s') :
    (onCluster act >>= next).Along P st s := by
  refine along_bind (along_onCluster.2 h) fun a st' s' hrun => ?_
  rw [on_onCluster] at hrun
  obtain ⟨ha, hrest⟩ := Prod.mk.inj hrun
  obtain ⟨rfl, rfl⟩ := Prod.mk.inj hrest
  exact hnext a _ (Prod.ext ha rfl)

/-- A pass of two parts that comes to an answer comes to it in two parts. -/
theorem on_bind_ok {first : Pass α} {next : α → Pass β} {b : β} :
    (first >>= next).on st s = (.ok b, st'', s'')
      ↔ ∃ a st' s', first.on st s = (.ok a, st', s')
          ∧ (next a).on st' s' = (.ok b, st'', s'') := by
  rw [on_bind]
  constructor
  · intro h
    split at h
    · exact ⟨_, _, _, by assumption, h⟩
    · simp at h
  · rintro ⟨a, st', s', h, h'⟩
    rw [h]
    exact h'

/-- A pass that begins on the cluster alone goes on with the status it has. -/
theorem onCluster_bind_ok {act : Access α} {next : α → Pass β} {b : β} :
    (onCluster act >>= next).on st s = (.ok b, st'', s'')
      ↔ ∃ a s', act.on s = (.ok a, s') ∧ (next a).on st s' = (.ok b, st'', s'') := by
  rw [on_bind, on_onCluster]
  constructor
  · intro h
    cases hr : (act.on s).1 with
    | ok a =>
      rw [hr] at h
      exact ⟨a, _, Prod.ext hr rfl, h⟩
    | error e =>
      rw [hr] at h
      simp at h
  · rintro ⟨a, s', h, h'⟩
    rw [h]
    exact h'

/-- The refusals of a cluster stay what they are. -/
@[simp] theorem on_refuse (pass : Pass α) (st : ApplicationStatus) (s : Server) :
    (pass.on st s).2.2.refuse = s.refuse :=
  Dialogue.on_refuse _ _

/-- What every admissible call keeps is kept however the pass ends. -/
theorem Along.keeps {I : Server → Prop} {pass : Pass α} (h : pass.Along P st s) (hI : I s)
    (step : ∀ s c, P s c → I s → I (s.after c)) : I (pass.on st s).2.2 :=
  (Dialogue.Along.invariant h hI step).1

end Pass
end AppOperator
