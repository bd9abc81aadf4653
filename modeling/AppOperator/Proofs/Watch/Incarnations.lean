import AppOperator.Proofs.Reconcile.Steps
import AppOperator.Watch.Intake

/-!
# Applications that come again

An application can be removed and another be made under its name. It has an
identity of its own, and it has not been reconciled yet, so the first that is
seen of it should matter as much as what was seen first of its predecessor.

The filter of changes knows nothing of identities. It compares what is seen
of an application with what was seen last under the same namespace and name
(`Intake.seen_run`). As long as one application follows itself that is the
right comparison, and a change matters exactly if it is the first of its
identity or the generation, the labels or the annotations are others than
before. But an application that comes in the place of another and looks just
like it is mistaken for it, and the change is dropped (`Intake.concerns_iff`).
-/

namespace AppOperator

/-! ## Sightings

The operator is shown changes of all objects that it watches, and of these the
sightings of applications are what counts. What should matter is said with identities:
the first sighting of an identity, or one that looks different from the last of that
identity. What is known to the filter is said without them. The two are compared under
the condition that identities are kept, which a cluster guarantees: of two
applications under one name the second is made after the first is gone. -/

/-- The watch on the applications. -/
abbrev Watch.applications (config : Config) : Watch := .on Application config.watchNs .itself

/-- **The application that is seen** in a change of an object, if it is one that
the operator watches and is still there. -/
def ObjectEvent.sighting? (config : Config) : ObjectEvent → Option Application
  | .applied object =>
    if (Watch.applications config).covers object then decode Application object else none
  | .deleted _ => none

/-- The applications that are seen in changes, one after the other. -/
def sightings (config : Config) (events : List ObjectEvent) : List Application :=
  events.filterMap (·.sighting? config)

/-- The last sighting of some kind. -/
def lastSeen? (p : Application → Bool) (seen : List Application) : Option Application :=
  seen.reverse.find? p

theorem lastSeen?_cons (p : Application → Bool) (app : Application) (rest : List Application) :
    lastSeen? p (app :: rest) = (lastSeen? p rest).or (if p app then some app else none) := by
  unfold lastSeen?
  rw [List.reverse_cons, List.find?_append, List.find?_singleton]

theorem lastSeen?_eq_none {p : Application → Bool} {seen : List Application} :
    lastSeen? p seen = none ↔ ∀ app ∈ seen, p app = false := by
  simp [lastSeen?]

namespace Application

/-- **Whether a sighting matters**: it is the first of its identity, or the
generation, the labels or the annotations have changed since the last. -/
def Matters (app : Application) (seen : List Application) : Prop :=
  (∀ other ∈ seen, other.metadata.uid ≠ app.metadata.uid)
    ∨ ∃ last ∈ lastSeen? (·.metadata.uid = app.metadata.uid) seen,
      last.fingerprint ≠ app.fingerprint

/-- **Whether an application is mistaken for another**, which was seen last
under its namespace and name and looked just like it. -/
def Mistaken (app : Application) (seen : List Application) : Prop :=
  ∃ last ∈ lastSeen? (·.ref = app.ref) seen,
    last.metadata.uid ≠ app.metadata.uid ∧ last.fingerprint = app.fingerprint

/-- **An identity is kept**: whenever it was seen before it was under the same
namespace and name, and since then no other was seen there. -/
def IdentityKept (app : Application) : List Application → Prop
  | [] => True
  | other :: rest =>
    (other.metadata.uid = app.metadata.uid → other.ref = app.ref
      ∧ ∀ later ∈ rest, later.ref = app.ref → later.metadata.uid = app.metadata.uid)
    ∧ app.IdentityKept rest

instance (app : Application) (seen : List Application) : Decidable (app.Matters seen) :=
  inferInstanceAs (Decidable (_ ∨ ∃ last ∈ lastSeen? _ seen, _))

instance (app : Application) (seen : List Application) : Decidable (app.Mistaken seen) :=
  inferInstanceAs (Decidable (∃ last ∈ lastSeen? _ seen, _))

instance (app : Application) : ∀ seen : List Application, Decidable (app.IdentityKept seen)
  | [] => .isTrue trivial
  | _ :: rest =>
    have := instDecidableIdentityKept app rest
    inferInstanceAs (Decidable ((_ → _ ∧ ∀ later ∈ rest, _) ∧ app.IdentityKept rest))

variable {app last : Application} {seen : List Application}

/-- **What was seen last of an identity** was seen last under its name. -/
theorem IdentityKept.lastSeen (h : app.IdentityKept seen)
    (hlast : lastSeen? (·.metadata.uid = app.metadata.uid) seen = some last) :
    lastSeen? (·.ref = app.ref) seen = some last := by
  induction seen with
  | nil => simp [lastSeen?] at hlast
  | cons other rest ih =>
    obtain ⟨hother, hrest⟩ := h
    rw [lastSeen?_cons] at hlast ⊢
    cases hlater : lastSeen? (·.metadata.uid = app.metadata.uid) rest with
    | some later =>
      rw [hlater] at hlast
      rw [ih hrest (hlater.trans hlast)]
      rfl
    | none =>
      rw [hlater, Option.none_or] at hlast
      split at hlast
      · rename_i huid
        obtain rfl := Option.some.inj hlast
        obtain ⟨hsame, hothers⟩ := hother (of_decide_eq_true huid)
        -- nothing was seen under the name since, for it would have been this identity
        have hnone : lastSeen? (·.ref = app.ref) rest = none := by
          refine lastSeen?_eq_none.2 fun later hin => decide_eq_false fun href => ?_
          exact of_decide_eq_false (lastSeen?_eq_none.1 hlater later hin) (hothers later hin href)
        rw [hnone, Option.none_or, if_pos (decide_eq_true hsame)]
      · simp at hlast

/-- **Compared with what was seen last under its name**, a sighting is new
exactly if it matters and the application is not mistaken for another. -/
theorem IdentityKept.new_iff (h : app.IdentityKept seen) :
    (∀ last, lastSeen? (·.ref = app.ref) seen = some last → last.fingerprint ≠ app.fingerprint)
      ↔ app.Matters seen ∧ ¬ app.Mistaken seen := by
  -- if the application was seen before, its own last sighting is the last one under its name;
  -- if not, whatever was seen under the name was another
  cases huid : lastSeen? (·.metadata.uid = app.metadata.uid) seen with
  | some own =>
    have href := h.lastSeen huid
    have hown : own.metadata.uid = app.metadata.uid := by
      simpa using List.find?_some huid
    constructor
    · intro hnew
      refine ⟨.inr ⟨own, huid, hnew own href⟩, ?_⟩
      rintro ⟨last, hlast, hother, -⟩
      rw [href] at hlast
      exact hother (Option.some.inj hlast ▸ hown)
    · rintro ⟨hfirst | ⟨last, hlast, hchanged⟩, -⟩ p hp
      · exact absurd hown (hfirst own (List.mem_reverse.1 (List.mem_of_find?_eq_some huid)))
      · rw [huid] at hlast
        rw [href] at hp
        rw [← Option.some.inj hp, Option.some.inj hlast]
        exact hchanged
  | none =>
    have hfirst : ∀ other ∈ seen, other.metadata.uid ≠ app.metadata.uid := fun other hin =>
      of_decide_eq_false (lastSeen?_eq_none.1 huid other hin)
    refine ⟨fun hnew => ⟨.inl hfirst, ?_⟩, ?_⟩
    · rintro ⟨last, hlast, -, hsame⟩
      exact hnew last hlast hsame
    · rintro ⟨-, hknown⟩ last hlast hsame
      exact hknown ⟨last, hlast,
        hfirst last (List.mem_reverse.1 (List.mem_of_find?_eq_some hlast)), hsame⟩

end Application

/-! ## What the operator takes in

Changes go through all watches, and all but one of these are about other types and do
not touch the filter. So what the filter knows after any number of changes depends on
the sightings alone, and by induction it is what was seen last under each name. That a
removal is no sighting is where the two notions come apart: the filter does not
forget. -/

/-- A watch that covers an object is a watch on its type. -/
theorem Watch.kind_of_covers {w : Watch} {object : Json} (h : w.covers object = true) :
    w.type.kind = (ObjectKey.shownBy object).kind := by
  unfold Watch.covers at h
  simp only [Bool.and_eq_true, decide_eq_true_eq] at h
  exact h.1.1.2

/-- **The watch on the applications comes first**, and all others are on
other types and concern other applications than what changed. -/
theorem Watch.all_eq (config : Config) (apis : ClusterApis) :
    ∃ others, Watch.all config apis = Watch.applications config :: others
      ∧ ∀ w ∈ others, w.concern ≠ .itself ∧ w.type.kind ≠ Application.kind := by
  have hon : ∀ {α : Type} [ApiObject α] {c : Concern}, c ≠ .itself →
      (objectType (α := α)).kind ≠ Application.kind →
      (on α config.watchNs c).concern ≠ .itself
        ∧ (on α config.watchNs c).type.kind ≠ Application.kind := fun hc hk => ⟨hc, hk⟩
  have honly : ∀ {served : Bool} {w : Watch}, w.concern ≠ .itself ∧ w.type.kind ≠ Application.kind →
      ∀ v ∈ (if served then [w] else []), v.concern ≠ .itself ∧ v.type.kind ≠ Application.kind := by
    intro served w hw v hv
    cases served with
    | false => exact absurd hv List.not_mem_nil
    | true => exact List.mem_singleton.1 hv ▸ hw
  refine ⟨(Watch.all config apis).tail, rfl, ?_⟩
  simp only [Watch.all, List.cons_append, List.tail_cons, List.forall_mem_append,
    List.forall_mem_cons, List.nil_append, List.not_mem_nil, false_imp_iff, implies_true, and_true]
  exact ⟨hon (by decide) (by decide), hon (by decide) (by decide), hon (by decide) (by decide),
    hon (by decide) (by decide), hon (by decide) (by decide), hon (by decide) (by decide),
    ⟨⟨⟨honly (hon (by decide) (by decide)), honly (hon (by decide) (by decide))⟩,
      honly (hon (by decide) (by decide))⟩, hon (by decide) (by decide),
      hon (by decide) (by decide)⟩, honly (hon (by decide) (by decide))⟩

namespace Intake

variable {config : Config} {apis : ClusterApis} {i : Intake} {e : ObjectEvent} {app : Application}
  {watches : List Watch} {w : Watch}

/-- All that the operator has taken in since it started. -/
def run (config : Config) (apis : ClusterApis) (events : List ObjectEvent) : Intake :=
  events.foldl (fun i e => (i.take (Watch.all config apis) e).2) default

/-- Of several watches each takes in a change in turn. -/
theorem take_cons (w : Watch) (watches : List Watch) (i : Intake) (e : ObjectEvent) :
    i.take (w :: watches) e = ((i.takeFrom w e).1 ++ ((i.takeFrom w e).2.take watches e).1,
      ((i.takeFrom w e).2.take watches e).2) := by
  have hfold : ∀ (watches : List Watch) (refs : List ApplicationRef) (i : Intake),
      watches.foldl (fun (p : List ApplicationRef × Intake) w =>
        (p.1 ++ (p.2.takeFrom w e).1, (p.2.takeFrom w e).2)) (refs, i)
      = (refs ++ (i.take watches e).1, (i.take watches e).2) := by
    intro watches
    induction watches with
    | nil => exact fun refs i => by simp [take]
    | cons w rest ih =>
      intro refs i
      have hrest : i.take (w :: rest) e = _ := ih ([] ++ (i.takeFrom w e).1) (i.takeFrom w e).2
      rw [List.foldl_cons, ih, hrest, List.nil_append, List.append_assoc]
  have hrest := hfold watches ([] ++ (i.takeFrom w e).1) (i.takeFrom w e).2
  rw [List.nil_append] at hrest
  exact hrest

/-- Watches that do not cover an object take in nothing of its changes. -/
theorem take_uncovered (h : ∀ w ∈ watches, w.covers e.object = false) :
    i.take watches e = ([], i) := by
  induction watches with
  | nil => rfl
  | cons w rest ih =>
    obtain ⟨hw, hrest⟩ := List.forall_mem_cons.1 h
    have hnothing : i.takeFrom w e = ([], i) := by
      unfold takeFrom
      rw [hw]
      rfl
    rw [take_cons, hnothing, ih hrest]
    rfl

/-- Watches on other objects leave what is known of the applications as it is. -/
theorem take_of_others (h : ∀ w ∈ watches, w.concern ≠ .itself) : (i.take watches e).2 = i := by
  induction watches with
  | nil => rfl
  | cons w rest ih =>
    obtain ⟨hw, hrest⟩ := List.forall_mem_cons.1 h
    have hstays : (i.takeFrom w e).2 = i := by
      unfold takeFrom
      split
      · rfl
      · split
        · rename_i hitself
          exact absurd hitself hw
        · split
          · rfl
          · rfl
    rw [take_cons, hstays]
    exact ih hrest

/-- The watch on the applications takes in what is read as one. -/
theorem takeFrom_applications (h : (Watch.applications config).covers e.object = true) :
    i.takeFrom (Watch.applications config) e
      = ((decode Application e.object).map (i.takeApplication · e)).getD ([], i) := by
  unfold takeFrom
  rw [if_neg (by simp [h])]
  cases decode Application e.object with
  | some app => rfl
  | none => rfl

/-- **A sighting is taken in** by what was seen last of the application. -/
theorem take_sighting (h : e.sighting? config = some app) :
    (i.take (Watch.all config apis) e).1 = (if i.filter.passes app then [app.ref] else [])
      ∧ (i.take (Watch.all config apis) e).2.filter = i.filter.after app := by
  obtain ⟨others, hall, hothers⟩ := Watch.all_eq config apis
  cases e with
  | deleted object => simp [ObjectEvent.sighting?] at h
  | applied object =>
    change (if (Watch.applications config).covers object then decode Application object else none)
      = some app at h
    split at h
    · rename_i hcovers
      have hfrom : i.takeFrom (Watch.applications config) (.applied object)
          = i.takeApplication app (.applied object) := by
        have hread : decode Application (ObjectEvent.applied object).object = some app := h
        rw [takeFrom_applications hcovers, hread]
        rfl
      have hkind := Watch.kind_of_covers hcovers
      rw [hall, take_cons, hfrom, take_uncovered fun w hw => ?_]
      · exact ⟨List.append_nil _, rfl⟩
      · refine Bool.eq_false_iff.2 fun hcovers' => (hothers w hw).2 ?_
        exact (Watch.kind_of_covers hcovers').trans hkind.symm
    · simp at h

/-- All other changes leave what was seen last as it is. -/
theorem take_unseen (h : e.sighting? config = none) :
    (i.take (Watch.all config apis) e).2.filter = i.filter := by
  obtain ⟨others, hall, hothers⟩ := Watch.all_eq config apis
  rw [hall, take_cons, take_of_others fun w hw => (hothers w hw).1]
  cases hcovers : (Watch.applications config).covers e.object with
  | false =>
    unfold takeFrom
    rw [if_pos (by simp [hcovers])]
  | true =>
    rw [takeFrom_applications hcovers]
    cases hdecode : decode Application e.object with
    | none => rfl
    | some app =>
      cases e with
      | deleted object => rfl
      | applied object =>
        have hsome : (ObjectEvent.applied object).sighting? config = some app :=
          (if_pos hcovers).trans hdecode
        rw [hsome] at h
        simp at h

/-- **What the filter knows** is what was seen last under each namespace and name. -/
theorem seen_run (config : Config) (apis : ClusterApis) (events : List ObjectEvent)
    (r : ApplicationRef) : (run config apis events).filter.seen r
      = (lastSeen? (·.ref = r) (sightings config events)).map Application.fingerprint := by
  -- generalised over what the filter knows at the start, which counts where nothing was seen
  have hfold : ∀ i : Intake,
      (events.foldl (fun i e => (i.take (Watch.all config apis) e).2) i).filter.seen r
        = ((lastSeen? (·.ref = r) (sightings config events)).map Application.fingerprint).or
            (i.filter.seen r) := by
    induction events with
    | nil => exact fun i => rfl
    | cons e rest ih =>
      intro i
      rw [List.foldl_cons, ih]
      cases hsighting : e.sighting? config with
      | none =>
        rw [take_unseen hsighting]
        unfold sightings
        rw [List.filterMap_cons_none hsighting]
      | some app =>
        rw [(take_sighting hsighting).2, EventFilter.seen_after]
        unfold sightings
        rw [List.filterMap_cons_some hsighting, lastSeen?_cons]
        cases lastSeen? (·.ref = r) (rest.filterMap (·.sighting? config)) with
        | some last => rfl
        | none =>
          by_cases hr : r = app.ref
          · simp [hr]
          · simp [hr, Ne.symm hr]
  exact (hfold default).trans Option.or_none

/-- **Whom a sighting concerns.** Where identities are kept, an application
that is seen is reconciled if the sighting matters, unless it is mistaken for
another that bore its name before. -/
theorem concerns_iff {past : List ObjectEvent} (hsighting : e.sighting? config = some app)
    (hkept : app.IdentityKept (sightings config past)) :
    app.ref ∈ ((run config apis past).take (Watch.all config apis) e).1
      ↔ app.Matters (sightings config past) ∧ ¬ app.Mistaken (sightings config past) := by
  rw [← hkept.new_iff, (take_sighting hsighting).1]
  have hpasses : (run config apis past).filter.passes app = true
      ↔ ∀ last, lastSeen? (·.ref = app.ref) (sightings config past) = some last →
          last.fingerprint ≠ app.fingerprint := by
    unfold EventFilter.passes
    rw [seen_run, decide_eq_true_eq, Ne, Option.map_eq_some_iff]
    exact ⟨fun h last hlast hsame => h ⟨last, hlast, hsame⟩,
      fun h ⟨last, hlast, hsame⟩ => h last hlast hsame⟩
  rw [← hpasses]
  cases (run config apis past).filter.passes app with
  | true => simp
  | false => simp

/-- So it is for an application that has come in the place of another: it is
reconciled as it looks otherwise, and not again when its status is set. -/
theorem concerns_edited_successor :
    let first : Application := .bound "shop" "web" "u1" false []
    let next : Application := .bound "shop" "web" "u2" false []
    let edited : Application :=
      { next with metadata := { next.metadata with labels := some (.singleton "tier" "web") } }
    let settled : Application := { edited with status := some default }
    let past : List ObjectEvent := [.applied (encode first), .deleted (encode first)]
    edited.ref ∈ ((run {} {} past).take (Watch.all {} {}) (.applied (encode edited))).1
      ∧ settled.ref ∉ ((run {} {} (past ++ [.applied (encode edited)])).take (Watch.all {} {})
          (.applied (encode settled))).1 := by
  intro first next edited settled past
  constructor
  · have hkept : edited.IdentityKept (sightings {} past) := by decide +kernel
    exact (concerns_iff (by decide +kernel) hkept).2 (by decide +kernel)
  · have hkept : settled.IdentityKept (sightings {} (past ++ [.applied (encode edited)])) := by
      decide +kernel
    rw [concerns_iff (by decide +kernel) hkept]
    decide +kernel

/-- **An application can be overlooked.** One that is made again just as it was
before it was removed is a sighting that matters, and concerns nobody. -/
theorem overlooked_successor :
    let first : Application := .bound "shop" "web" "u1" false []
    let next : Application := .bound "shop" "web" "u2" false []
    let past : List ObjectEvent := [.applied (encode first), .deleted (encode first)]
    (ObjectEvent.applied (encode next)).sighting? {} = some next
      ∧ next.IdentityKept (sightings {} past) ∧ next.Matters (sightings {} past)
      ∧ ((run {} {} past).take (Watch.all {} {}) (.applied (encode next))).1 = [] := by
  decide +kernel

end Intake
end AppOperator
