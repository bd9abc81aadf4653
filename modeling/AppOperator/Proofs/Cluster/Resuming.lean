import AppOperator.Proofs.Cluster.Settling

/-!
# Computations that are taken up again

A computation that was cut off leaves what it did up to then, and to take it
up again is to make it once more from the beginning. It comes to the same end
as if it had not been cut off (`Access.Resumes`) where three things come
together. Each step does all of its work or none (`Access.Atomic`), so a step
that was cut off is a step that is still to be taken. A step that was taken is
quiet when it is made again (`Access.Settles`). And it stays quiet whatever
came of the steps after it (`Access.Keeps`), which holds of steps that write
elsewhere and of steps that do the same.

What is still to be taken then finds what it would have found without the cut,
and two clusters that refuse nothing and are alike answer alike
(`Dialogue.on_alike`).
-/

namespace AppOperator

/-! ## Clusters that are alike

To take up again what was cut off is to run it on a cluster that differs from the
first in what it refuses and in what it remembers. Neither has a part in how a call is
answered that is not refused, so for computations on open clusters only what is stored
and served counts. A cluster may be opened, for comparing what happened with what
would have happened without refusals. -/

namespace Server

variable {s t : Server} {c : Call}

/-- **The cluster without its refusals from outside.** -/
def opened (s : Server) : Server := { s with refuse := fun _ _ => none }

theorem open_opened (s : Server) : s.opened.Open := fun _ _ => rfl

/-- **A cluster that refuses plainly**: an object is not refused to be read or
removed as if it were not there. Whatever else is refused fails. -/
def Plain (s : Server) : Prop :=
  (∀ n key r, s.refuse n (.get key) = some r → r.reason ≠ "NotFound")
    ∧ ∀ n key r, s.refuse n (.delete key) = some r → r.code ≠ 404

theorem Plain.congr (h : s.Plain) (hrefuse : t.refuse = s.refuse) : t.Plain := by
  unfold Plain
  rw [hrefuse]
  exact h

theorem Truthful.plain (h : s.Truthful) : s.Plain :=
  ⟨fun n key r hr => (h n (.get key) r hr).1, fun n key r hr => (h n (.delete key) r hr).2⟩

/-- **Clusters that are alike** in what they store and serve. -/
def Alike (s t : Server) : Prop := s.objects = t.objects ∧ s.apis = t.apis

theorem Alike.symm (h : s.Alike t) : t.Alike s := ⟨h.1.symm, h.2.symm⟩

theorem Alike.trans {u : Server} (h : s.Alike t) (h' : t.Alike u) : s.Alike u :=
  ⟨h.1.trans h'.1, h.2.trans h'.2⟩

theorem alike_opened (s : Server) : s.opened.Alike s := ⟨rfl, rfl⟩

@[simp] theorem after_apis (s : Server) (c : Call) : (s.after c).apis = s.apis := by
  unfold after perform
  split
  · rfl
  · split
    · rfl
    · rfl

theorem Alike.answer_eq (h : s.Alike t) (c : Call) : s.answer c = t.answer c := by
  obtain ⟨hobjects, hapis⟩ := h
  cases c with
  | discover _ => simp only [answer, hapis]
  | _ => simp only [answer, present?, hobjects]

/-- Clusters that are alike and refuse nothing answer alike and stay alike. -/
theorem Alike.perform (h : s.Alike t) (hs : s.Open) (ht : t.Open) (c : Call) :
    (s.perform c).1 = (t.perform c).1 ∧ (s.after c).Alike (t.after c) := by
  have hanswer : (s.perform c).1 = (t.perform c).1 := by
    rw [hs.answer_eq, ht.answer_eq, h.answer_eq]
  refine ⟨hanswer, ?_, by rw [after_apis, after_apis, h.2]⟩
  rcases s.perform_cases c with ⟨r, hr, ho⟩ | ⟨reply, hr, -, ho⟩
  · rcases t.perform_cases c with ⟨_, -, ho'⟩ | ⟨_, hr', -⟩
    · rw [ho, ho', h.1]
    · rw [← hanswer, hr] at hr'
      simp at hr'
  · rcases t.perform_cases c with ⟨_, hr', -⟩ | ⟨_, -, -, ho'⟩
    · rw [← hanswer, hr] at hr'
      simp at hr'
    · rw [ho, ho', h.1]

/-- A call that is not refused from outside is answered as without such refusals. -/
theorem perform_opened (h : s.refuse s.history.length c = none) :
    s.opened.perform c = ((s.perform c).1, (s.after c).opened) := by
  have hanswer : s.opened.answer c = s.answer c := (alike_opened s).answer_eq c
  unfold after Server.perform
  rw [h, hanswer]
  cases s.answer c with
  | error _ => rfl
  | ok _ => rfl

end Server

/-- The APIs that a cluster serves stay what they are. -/
@[simp] theorem Dialogue.on_apis {α : Type} (d : Dialogue α) (s : Server) :
    (d.on s).2.apis = s.apis := by
  induction d generalizing s with
  | done a => rfl
  | call c rest ih => exact (ih _ _).trans (s.after_apis c)

/-- **Clusters that are alike and refuse nothing** bring a dialogue to the same
answer, and they are alike when it is over. -/
theorem Dialogue.on_alike {α : Type} (d : Dialogue α) {s t : Server} (h : s.Alike t) (hs : s.Open)
    (ht : t.Open) : (d.on s).1 = (d.on t).1 ∧ (d.on s).2.Alike (d.on t).2 := by
  induction d generalizing s t with
  | done a => exact ⟨rfl, h⟩
  | call c rest ih =>
    obtain ⟨hanswer, halike⟩ := h.perform hs ht c
    show ((rest (s.perform c).1).on (s.after c)).1 = _
      ∧ ((rest (s.perform c).1).on (s.after c)).2.Alike _
    rw [hanswer]
    exact ih _ halike (hs.after c) (ht.after c)

namespace Access

variable {α β : Type} {act : Access α} {s s' t : Server}

theorem on_alike {r : Except OperatorError α} (h : act.on s = (r, s')) (halike : s.Alike t)
    (hs : s.Open) (ht : t.Open) : ∃ t', act.on t = (r, t') ∧ s'.Alike t' := by
  have hsame := Dialogue.on_alike act.run halike hs ht
  change (act.on s).1 = (act.on t).1 ∧ (act.on s).2.Alike (act.on t).2 at hsame
  rw [h] at hsame
  exact ⟨(act.on t).2, Prod.ext hsame.1.symm rfl, hsame.2⟩

theorem apis_of_on {r : Except OperatorError α} (h : act.on s = (r, s')) : s'.apis = s.apis := by
  have hapis := Dialogue.on_apis act.run s
  change (act.on s).2.apis = s.apis at hapis
  rw [h] at hapis
  exact hapis

theorem plain_of_on {r : Except OperatorError α} (hs : s.Plain) (h : act.on s = (r, s')) :
    s'.Plain := by
  have hrefuse := on_refuse act s
  rw [h] at hrefuse
  exact hs.congr hrefuse

theorem open_of_on {r : Except OperatorError α} (hs : s.Open) (h : act.on s = (r, s')) :
    s'.Open := by
  have hrefuse := on_refuse act s
  rw [h] at hrefuse
  exact hs.congr hrefuse

end Access

/-- The APIs that a cluster serves stay what they are through a pass. -/
theorem Pass.apis_of_on {α : Type} {pass : Pass α} {status status' : ApplicationStatus}
    {s s' : Server} {r : Except OperatorError α} (h : pass.on status s = (r, status', s')) :
    s'.apis = s.apis := by
  have hapis := Dialogue.on_apis (pass.run.run status) s
  change (pass.on status s).2.2.apis = s.apis at hapis
  rw [h] at hapis
  exact hapis

namespace Access

variable {α β : Type} {act : Access α} {s s' t : Server}

/-! ## All or nothing

An operation reads and makes one call that writes, so it has done its work only if
that call was accepted, and then it is at its end. What remains to be excluded is that
a refusal is taken for an answer and the operation succeeds without having done
anything. On a cluster that refuses plainly that does not happen. -/

/-- **A computation that does all of its work or none**: where it fails
nothing has changed, and where it comes to an answer no refusal had a part
in it. -/
structure Atomic (act : Access α) : Prop where
  /-- It has changed nothing where it fails. -/
  unchanged : ∀ {s s' e}, act.on s = (.error e, s') → s'.objects = s.objects
  /-- Where it does not fail it went as it goes without refusals. -/
  faithful : ∀ {s s' a}, s.Plain → act.on s = (.ok a, s') → act.on s.opened = (.ok a, s'.opened)

namespace Atomic

theorem lift (e : Except OperatorError α) : Atomic (liftM e : Access α) where
  unchanged h := by
    obtain ⟨-, rfl⟩ := Prod.mk.inj h
    rfl
  faithful _ h := by
    obtain ⟨he, rfl⟩ := Prod.mk.inj h
    exact Prod.ext he rfl

theorem pure (a : α) : Atomic (Pure.pure a : Access α) := lift (.ok a)

theorem throw (e : OperatorError) : Atomic (MonadExcept.throw e : Access α) := lift (.error e)

theorem ite {c : Prop} [Decidable c] {a b : Access α} (ha : Atomic a) (hb : Atomic b) :
    Atomic (if c then a else b) := by
  split
  · exact ha
  · exact hb

/-- Reading before it makes no difference. -/
theorem bind {next : α → Access β} (hreads : Reads act) (h : Atomic act)
    (hnext : ∀ a, Atomic (next a)) : Atomic (act >>= next) where
  unchanged {s s' e} hs := by
    rw [on_bind] at hs
    rcases hfirst : act.on s with ⟨r, t⟩
    rw [hfirst] at hs
    cases r with
    | ok a => exact ((hnext a).unchanged hs).trans (hreads.objects_of_on hfirst)
    | error e =>
      obtain ⟨-, rfl⟩ := Prod.mk.inj hs
      exact h.unchanged hfirst
  faithful {s s' b} hplain hs := by
    obtain ⟨a, t, hfirst, hlast⟩ := on_bind_ok.1 hs
    exact on_bind_ok.2 ⟨a, t.opened, h.faithful hplain hfirst,
      (hnext a).faithful (plain_of_on hplain hfirst) hlast⟩

/-- Neither does what is made of its answer. -/
theorem map (h : Atomic act) (f : α → β) : Atomic (act >>= fun a => Pure.pure (f a)) where
  unchanged {s s' e} hs := by
    rw [on_bind] at hs
    rcases hfirst : act.on s with ⟨r, t⟩
    rw [hfirst] at hs
    cases r with
    | ok a => simp at hs
    | error e =>
      obtain ⟨-, rfl⟩ := Prod.mk.inj hs
      exact h.unchanged hfirst
  faithful {s s' b} hplain hs := by
    obtain ⟨a, t, hfirst, hlast⟩ := on_bind_ok.1 hs
    obtain ⟨hb, rfl⟩ := Prod.mk.inj hlast
    exact on_bind_ok.2 ⟨a, t.opened, h.faithful hplain hfirst, Prod.ext hb rfl⟩

theorem discard (h : Atomic act) : Atomic (discard act) := by
  rw [discard_eq]
  exact h.map fun _ => ()

/-- **A single call** does all or nothing if it succeeds where it is accepted,
and fails where it is refused from outside. -/
theorem call {c : Call} {answer : Except Refusal c.Reply → Except OperatorError α}
    (haccepted : ∀ reply, ∃ a, answer (.ok reply) = .ok a)
    (hrefused : ∀ (s : Server) n r, s.Plain → s.refuse n c = some r →
      ∃ e, answer (.error r) = .error e) :
    Atomic (attempt c >>= fun r => liftM (answer r)) where
  unchanged {s s' e} hs := by
    obtain ⟨hr, rfl⟩ : answer (s.perform c).1 = .error e ∧ s.after c = s' := Prod.mk.inj hs
    rcases s.perform_cases c with ⟨_, -, ho⟩ | ⟨reply, hreply, -⟩
    · exact ho
    · obtain ⟨a, ha⟩ := haccepted reply
      rw [hreply, ha] at hr
      simp at hr
  faithful {s s' a} hplain hs := by
    obtain ⟨hr, rfl⟩ : answer (s.perform c).1 = .ok a ∧ s.after c = s' := Prod.mk.inj hs
    show (answer (s.opened.perform c).1, (s.opened.perform c).2) = _
    cases hrefuse : s.refuse s.history.length c with
    | none => rw [Server.perform_opened hrefuse, hr]
    | some r =>
      obtain ⟨e, he⟩ := hrefused s _ r hplain hrefuse
      rw [Server.perform_refused hrefuse, he] at hr
      simp at hr

/-! The calls of the operator -/

theorem get (key : ObjectKey) : Atomic (Access.get key) := by
  let answer : Except Refusal Json → Except OperatorError (Option Json)
    | .ok object => .ok (some object)
    | .error r => if r.reason = "NotFound" then .ok none else .error (refused r)
  have heq : Access.get key = attempt (.get key) >>= fun r => liftM (answer r) := by
    refine bind_congr fun r => ?_
    cases r with
    | ok object => rfl
    | error r =>
      show (if r.reason = "NotFound" then _ else _) = liftM (if r.reason = "NotFound" then _ else _)
      split
      · rfl
      · rfl
  rw [heq]
  refine call (fun object => ⟨some object, rfl⟩) fun s n r hplain hr => ⟨refused r, ?_⟩
  exact if_neg (hplain.1 n key r hr)

theorem delete (key : ObjectKey) : Atomic (Access.delete key) := by
  let answer : Except Refusal Unit → Except OperatorError Bool
    | .ok _ => .ok true
    | .error r => if r.code = 404 then .ok false else .error (refused r)
  have heq : Access.delete key = attempt (.delete key) >>= fun r => liftM (answer r) := by
    refine bind_congr fun r => ?_
    cases r with
    | ok _ => rfl
    | error r =>
      show (if r.code = 404 then _ else _) = liftM (if r.code = 404 then _ else _)
      split
      · rfl
      · rfl
  rw [heq]
  refine call (fun _ => ⟨true, rfl⟩) fun s n r hplain hr => ⟨refused r, ?_⟩
  exact if_neg (hplain.2 n key r hr)

theorem require (c : Call) : Atomic (Access.require c) := by
  have heq : Access.require c = attempt c >>= fun r => liftM (r.mapError refused) := by
    refine bind_congr fun r => ?_
    cases r with
    | ok _ => rfl
    | error _ => rfl
  rw [heq]
  exact call (fun reply => ⟨reply, rfl⟩) fun s n r _ _ => ⟨refused r, rfl⟩

section Operations

variable {α : Type} [ApiObject α] {app : Application} {name : String}

theorem lookUp (ns name : String) : Atomic (Access.lookUp α ns name) := by
  refine bind (.get _) (get _) fun r => ?_
  cases r with
  | none => exact pure _
  | some j =>
    dsimp only
    cases decode α j with
    | some a => exact pure _
    | none => exact throw _

theorem look (key : ObjectKey) : Atomic (Access.look key) := by
  refine bind (.get _) (get _) fun r => ?_
  cases r with
  | none => exact pure _
  | some j =>
    dsimp only
    cases untyped? j with
    | some object => exact pure _
    | none => exact throw _

theorem find (ns name : String) : Atomic (Access.find α ns name) := by
  refine bind (.look _) (look _) fun r => ?_
  cases r with
  | none => exact pure _
  | some j =>
    dsimp only
    cases decode α j with
    | some a => exact pure _
    | none => exact throw _

/-- An operation on a child reads the stored one first. -/
theorem onStored {β : Type} {next : String → Option α → Access β}
    (hnext : ∀ ns existing, Atomic (next ns existing)) :
    Atomic (do let ns ← app.ns; let existing ← Access.find α ns name; next ns existing) :=
  bind (.lift _) (lift _) fun ns => bind (.find α ns name) (find ns name) fun existing =>
    hnext ns existing

/-- **Writing a child** does all or nothing. -/
theorem write {controls : Bool} {update : α → α} :
    Atomic (Access.write app controls name update) := by
  refine onStored fun ns existing => bind (.lift _) (lift _) fun child => ?_
  cases existing with
  | none => exact (require _).map fun _ => Outcome.created
  | some current => exact ite (pure _) ((require _).map fun _ => Outcome.updated)

/-- **Removing a child** does all or nothing. -/
theorem deleteOwn : Atomic (Access.deleteOwn α app name) := by
  refine onStored fun ns existing => ?_
  cases existing with
  | none => exact pure _
  | some child => exact ite (delete _) (pure _)

/-- **Giving up a shared child** does all or nothing. -/
theorem release : Atomic (Access.release α app name) := by
  refine onStored fun ns existing => ?_
  cases existing with
  | none => exact pure _
  | some child =>
    cases app.metadata.uid with
    | none => exact pure _
    | some uid => exact ite (pure _) (ite (delete _) ((require _).map fun _ => false))

end Operations

end Atomic

/-! ## Staying quiet

It is not enough that a step is quiet right after it was taken. Between the cut and
the second attempt stand the steps that came after it, made as far as they were made,
so each of them must leave the earlier ones quiet. Those that write elsewhere do; and
where the same step occurs twice it does too, because it is all or nothing and
settles. -/

/-- **A computation keeps another quiet**, however it ends. -/
def Keeps (act : Access α) (a : α) (other : Access β) : Prop :=
  ∀ ⦃s s' : Server⦄ ⦃r⦄, s.Plain → Quiet s.objects act a → other.on s = (r, s') →
    Quiet s'.objects act a

section Keeps

variable {a : α} {other : Access β} {W V D R : ObjectKey → Prop}

/-- What writes nothing that a computation depends on keeps it quiet. -/
theorem keeps_of_touches (hs : Settles W D act) (ht : Touches V other) (apart : ∀ k, D k → ¬ V k) :
    Keeps act a other := by
  intro s s' r _ hquiet hother
  obtain ⟨t, hrun, -, hobjects, -⟩ := hquiet s.opened s.open_opened rfl
  refine hs.quiet _ t a s.open_opened.truthful hrun s'.objects fun k hk => ?_
  rw [hobjects, ht.get?_of_on hother (apart k hk)]

/-- A computation that does all or nothing keeps itself quiet. -/
theorem Atomic.keeps (h : Atomic act) : Keeps act a act := by
  intro s s' r hplain hquiet hrun
  have hsame : s'.objects = s.objects := by
    cases r with
    | error e => exact h.unchanged hrun
    | ok b =>
      obtain ⟨t, hagain, -, hobjects, -⟩ := hquiet s.opened s.open_opened rfl
      rw [h.faithful hplain hrun] at hagain
      obtain ⟨-, rfl⟩ := Prod.mk.inj hagain
      exact hobjects
  rw [hsame]
  exact hquiet

theorem keeps_pure (b : β) : Keeps act a (pure b) := by
  intro s s' r _ hquiet hrun
  obtain ⟨-, rfl⟩ := Prod.mk.inj hrun
  exact hquiet

theorem Keeps.bind {γ : Type} {next : β → Access γ} (h : Keeps act a other)
    (hnext : ∀ b s s', other.on s = (.ok b, s') → Keeps act a (next b)) :
    Keeps act a (other >>= next) := by
  intro s s' r hplain hquiet hrun
  rw [on_bind] at hrun
  rcases hfirst : other.on s with ⟨r, t⟩
  rw [hfirst] at hrun
  have hquiet' := h hplain hquiet hfirst
  cases r with
  | ok b => exact hnext b s t hfirst (plain_of_on hplain hfirst) hquiet' hrun
  | error e =>
    obtain ⟨-, rfl⟩ := Prod.mk.inj hrun
    exact hquiet'

theorem keeps_inOrder {tasks : List Task} (h : ∀ task ∈ tasks, Keeps act a task.2) :
    Keeps act a (inOrder tasks) := by
  induction tasks with
  | nil => exact keeps_pure ()
  | cons task rest ih =>
    obtain ⟨htask, hrest⟩ := List.forall_mem_cons.1 h
    rw [inOrder_cons]
    exact htask.bind fun _ _ _ _ => ih hrest

end Keeps

/-! ## Taking up again

What can be taken up again is defined by comparison: with the run that nothing would
have cut off, from a cluster that is like the first. If that run succeeds, the second
attempt does as well, and ends alike. So success is a conclusion and not a hypothesis,
and the cut may have been anywhere. -/

/-- **A computation that can be taken up again.** Where it succeeds if nothing
is refused, it does so too after it was begun and cut off, and the end is the
same; and where it was not cut off it has come to that end. -/
def Resumes (act : Access α) : Prop :=
  ∀ ⦃s u u' s₁ : Server⦄ ⦃a : α⦄ ⦃r⦄, s.Plain → u.Open → u.Alike s → act.on u = (.ok a, u') →
    act.on s = (r, s₁) →
      (∀ b, r = .ok b → b = a ∧ s₁.Alike u')
        ∧ ∀ t : Server, t.Open → t.Alike s₁ → ∃ t', act.on t = (.ok a, t') ∧ t'.Alike u'

section Resumes

variable {W V D R : ObjectKey → Prop}

/-- **A step can be taken up again** if it does all or nothing and settles. -/
theorem Atomic.resumes (h : Atomic act) (hs : Settles W D act) : Resumes act := by
  intro s u u' s₁ a r hplain hopen halike hrun hcut
  cases r with
  | error e =>
    refine ⟨fun b hb => by simp at hb, fun t ht hts => ?_⟩
    have hsame : u.Alike t :=
      ⟨halike.1.trans ((h.unchanged hcut).symm.trans hts.1.symm),
        halike.2.trans ((apis_of_on hcut).symm.trans hts.2.symm)⟩
    obtain ⟨t', ht', hut'⟩ := on_alike hrun hsame hopen ht
    exact ⟨t', ht', hut'.symm⟩
  | ok b =>
    obtain ⟨v, hv, huv⟩ := on_alike hrun (halike.trans s.alike_opened.symm) hopen s.open_opened
    rw [h.faithful hplain hcut] at hv
    obtain ⟨hb, rfl⟩ := Prod.mk.inj hv
    obtain rfl := Except.ok.inj hb
    have hend : s₁.Alike u' := s₁.alike_opened.symm.trans huv.symm
    refine ⟨fun b hb => ⟨(Except.ok.inj hb).symm, hend⟩, fun t ht hts => ?_⟩
    -- the step was taken, and is quiet when it is taken again
    obtain ⟨t', ht', -, ho, -⟩ := hs.quiet u u' b hopen.truthful hrun t.objects
      (fun k _ => by rw [hts.1, hend.1]) t ht rfl
    exact ⟨t', ht', ho.trans (hts.trans hend).1, (apis_of_on ht').trans (hts.trans hend).2⟩

/-- **One computation after another can be taken up again** if both can and
the second keeps the first quiet. -/
theorem Resumes.bind {first : Access α} {next : α → Access β} (hs : Settles W D first)
    (h : Resumes first) (hnext : ∀ a s s', first.on s = (.ok a, s') →
      Resumes (next a) ∧ Keeps first a (next a)) : Resumes (first >>= next) := by
  intro s u u' s₁ b r hplain hopen halike hrun hcut
  obtain ⟨a, v, hfirst, hlast⟩ := on_bind_ok.1 hrun
  obtain ⟨hresumes, hkeeps⟩ := hnext a u v hfirst
  rw [on_bind] at hcut
  rcases hbegun : first.on s with ⟨r', w⟩
  rw [hbegun] at hcut
  obtain ⟨hdone, hagain⟩ := h hplain hopen halike hfirst hbegun
  cases r' with
  | error e =>
    obtain ⟨rfl, rfl⟩ := Prod.mk.inj hcut
    refine ⟨fun b hb => by simp at hb, fun t ht hts => ?_⟩
    obtain ⟨t₁, ht₁, hv⟩ := hagain t ht hts
    obtain ⟨t', ht', hut'⟩ := on_alike hlast hv.symm (open_of_on hopen hfirst) (open_of_on ht ht₁)
    exact ⟨t', on_bind_ok.2 ⟨a, t₁, ht₁, ht'⟩, hut'.symm⟩
  | ok a' =>
    obtain ⟨rfl, hw⟩ := hdone a' rfl
    obtain ⟨hdone', hagain'⟩ := hresumes (plain_of_on hplain hbegun) (open_of_on hopen hfirst)
      hw.symm hlast hcut
    refine ⟨hdone', fun t ht hts => ?_⟩
    -- the first part was done before the cut and is still at rest
    have hquiet : Quiet w.objects first a' :=
      hs.quiet u v a' hopen.truthful hfirst w.objects fun k _ => by rw [hw.1]
    obtain ⟨t₁, ht₁, hopen₁, ho₁, -⟩ := hkeeps (plain_of_on hplain hbegun) hquiet hcut t ht hts.1
    obtain ⟨t', ht', hut'⟩ := hagain' t₁ hopen₁ ⟨ho₁, (apis_of_on ht₁).trans hts.2⟩
    exact ⟨t', on_bind_ok.2 ⟨a', t₁, ht₁, ht'⟩, hut'⟩

/-- What is made of an answer can be made of it again. -/
theorem Resumes.map (h : Resumes act) (f : α → β) : Resumes (act >>= fun a => pure (f a)) := by
  intro s u u' s₁ b r hplain hopen halike hrun hcut
  obtain ⟨a, v, hact, hpure⟩ := on_bind_ok.1 hrun
  obtain ⟨hb, rfl⟩ := Prod.mk.inj hpure
  rw [on_bind] at hcut
  rcases hbegun : act.on s with ⟨r', w⟩
  rw [hbegun] at hcut
  obtain ⟨hdone, hagain⟩ := h hplain hopen halike hact hbegun
  have hend : ∀ t : Server, t.Open → t.Alike w → ∃ t',
      (act >>= fun a => pure (f a)).on t = (.ok b, t') ∧ t'.Alike v := fun t ht hts => by
    obtain ⟨t', ht', hut'⟩ := hagain t ht hts
    exact ⟨t', on_bind_ok.2 ⟨a, t', ht', Prod.ext hb rfl⟩, hut'⟩
  cases r' with
  | error e =>
    obtain ⟨rfl, rfl⟩ := Prod.mk.inj hcut
    exact ⟨fun b hb => by simp at hb, hend⟩
  | ok a' =>
    obtain ⟨rfl, hw⟩ := hdone a' rfl
    obtain ⟨rfl, rfl⟩ := Prod.mk.inj hcut
    exact ⟨fun b' hb' => ⟨(Except.ok.inj hb').symm.trans (Except.ok.inj hb), hw⟩, hend⟩

theorem Resumes.ite {c : Prop} [Decidable c] {a b : Access α} (ha : Resumes a) (hb : Resumes b) :
    Resumes (if c then a else b) := by
  split
  · exact ha
  · exact hb

/-- **Steps can be taken up again** if each of them does all or nothing and
settles, steps under one key are the same step, and none of them writes what
is read besides. -/
theorem resumes_inOrder {tasks : List Task} (hatomic : ∀ task ∈ tasks, Atomic task.2)
    (hsettles : ∀ task ∈ tasks, Settles (· = task.1) (fun k => k = task.1 ∨ R k) task.2)
    (hsame : ∀ task ∈ tasks, ∀ other ∈ tasks, other.1 = task.1 → other = task)
    (hapart : ∀ task ∈ tasks, ¬ R task.1) : Resumes (inOrder tasks) := by
  induction tasks with
  | nil =>
    exact (Atomic.pure ()).resumes (W := fun _ => False) (D := fun _ => False) (settles_pure ())
  | cons task rest ih =>
    have htask := List.mem_cons_self (a := task) (l := rest)
    have hrest := fun other hother => List.mem_cons_of_mem (a := other) task (l := rest) hother
    rw [inOrder_cons]
    refine Resumes.bind (hsettles task htask) ((hatomic task htask).resumes (hsettles task htask))
      fun _ _ _ _ => ⟨?_, keeps_inOrder fun other hother => ?_⟩
    · exact ih (fun t ht => hatomic t (hrest t ht)) (fun t ht => hsettles t (hrest t ht))
        (fun t ht t' ht' => hsame t (hrest t ht) t' (hrest t' ht'))
        fun t ht => hapart t (hrest t ht)
    -- a later step writes elsewhere, or is this one again
    · by_cases hkey : other.1 = task.1
      · obtain rfl := hsame task htask other (hrest other hother) hkey
        exact (hatomic other htask).keeps
      · refine keeps_of_touches (hsettles task htask)
          (hsettles other (hrest other hother)).touches ?_
        rintro _ (rfl | hR) he
        · exact hkey he.symm
        · exact hapart other (hrest other hother) (he ▸ hR)

end Resumes

end Access
end AppOperator
