import AppOperator.Proofs.Binding.Contents
import AppOperator.Proofs.Binding.Orphans
import AppOperator.Proofs.Binding.Sharing

/-!
# The life of a shared copy

All applications of a namespace that use one provider elsewhere share one copy
of its secret. It is kept by nobody: each application joins its owners when a
pass finds the provider among its services, and leaves them when a pass does
not find it there any more. Which of the two a pass does is told by the
specification of the moment and by the status that the application's last pass
has returned, so three things that are stored apart have to fit together:
owners, statuses and specifications.

Over all runs they do (`SharedCopy.stands_of_run`). What a pass does to the copy
is one of two steps on what is stored of it, to join and to leave, of which
each is the other's reverse as far as owners are concerned; but joining brings
the contents up to date, which leaving does not, so the contents are those of
the last pass that joined, be it of an application that has left.

The passes are complete ones here, one after the other, and succeed in bringing the
secrets up to date. What becomes of the copy when the calls of several passes are made
in any order, and may be refused, is another matter, and it needs another state.
-/

namespace AppOperator

/-! ## Owners

An application is the same throughout its life by its namespace, name and identity,
and this is what its reference among the owners of a copy is made of. All else of it,
what it uses above all, may be different at each pass. -/

/-- The reference by which a copy names an application, as one owner beside others. -/
def Identity.sharing (id : Identity) : OwnerReference :=
  { apiVersion := Application.apiVersion, kind := Application.kind, name := id.name, uid := id.uid,
    controller := some false, blockOwnerDeletion := none }

@[simp] theorem Identity.controls_sharing (id : Identity) : id.sharing.controls = false := rfl

theorem Identity.Of.sharing_eq {id : Identity} {app : Application} {r : OwnerReference}
    (h : id.Of app) (hr : app.ownerReference false = .ok r) : r = id.sharing := by
  unfold Application.ownerReference at hr
  split at hr
  · rename_i name uid hname huid
    obtain rfl := Except.ok.inj hr
    have hself : app.name = name := by
      unfold Application.name ObjectMeta.anyName
      rw [hname]
      rfl
    obtain rfl := Option.some.inj (huid.symm.trans h.2.2)
    rw [Identity.sharing, ← h.2.1, hself]
  · simp at hr

/-! ## Steps on secrets

Giving up and copying are loops over names, and one name may occur in them more than
once. What is left of one secret is as if its name had occurred once: an application
that is no owner any more has nothing to give up, and a copy that was just made from a
source is made from it again without a change. -/

namespace Access

variable {app : Application} {s s' : Server} {name : String}

/-- **Secrets that are given up** are left by the application, once for all. -/
theorem shows_of_releaseAll (ht : s.Truthful) {uid : String} (huid : app.metadata.uid = some uid)
    {names : List String} (h : (releaseAll app names).on s = (.ok (), s'))
    {existing : Option Secret} (hname : name ∈ names)
    (hshows : Shows s.objects Secret app.metadata.nsOrEmpty name existing) :
    Shows s'.objects Secret app.metadata.nsOrEmpty name (existing.bind (givenUp uid)) := by
  induction names generalizing s existing with
  | nil => simp at hname
  | cons first rest ih =>
    obtain ⟨_, t, hfirst, hrest⟩ := on_bind_ok.1 h
    obtain ⟨removed, hrelease⟩ := on_discard_ok.1 hfirst
    have htt := truthful_of_on ht hrelease
    by_cases hself : name = first
    · subst hself
      obtain ⟨existing', hshows', hleft⟩ := release_ok ht huid hrelease
      obtain rfl := hshows.unique hshows'
      by_cases hagain : name ∈ rest
      · exact bind_givenUp_bind_givenUp uid existing ▸ ih htt hrest hagain hleft
      · exact hleft.congr (get?_of_releaseAll hrest fun _ => hagain)
    · refine ih htt hrest ((List.mem_cons.1 hname).resolve_left hself) (hshows.congr ?_)
      exact touches_release.get?_of_on hrelease fun hkey => hself (ObjectKey.of_eq_iff.1 hkey).2.2

/-- **What is copied from one source only** stands as one write leaves it,
however often it was written. -/
theorem shows_of_copyAll {consumed : List Consumed} {source : Secret}
    (h : (copyAll app consumed).on s = (.ok (), s'))
    (hone : ∀ c ∈ consumed, c.secretName = name → c.copyFrom = some source)
    (hsome : ∃ c ∈ consumed, c.secretName = name) :
    ∃ existing child, Shows s.objects Secret app.metadata.nsOrEmpty name existing
      ∧ desired app false app.metadata.nsOrEmpty name source.copyOf existing = .ok child
      ∧ Shows s'.objects Secret app.metadata.nsOrEmpty name (some child) := by
  induction consumed generalizing s with
  | nil => simp at hsome
  | cons c rest ih =>
    rw [copyAll_cons] at h
    obtain ⟨_, t, hfirst, hrest⟩ := on_bind_ok.1 h
    have hlater : ∀ c ∈ rest, c.secretName = name → c.copyFrom = some source :=
      fun c hc => hone c (List.mem_cons_of_mem _ hc)
    by_cases hname : c.secretName = name
    · subst hname
      have hfrom := hone c (List.mem_cons_self ..) rfl
      unfold copyOne at hfirst
      rw [hfrom] at hfirst
      obtain ⟨outcome, hwrite⟩ := on_discard_ok.1 hfirst
      obtain ⟨existing, child, hbefore, hdesired, hshows⟩ :=
        write_ok source.steady_copyOf.keeps hwrite
      refine ⟨existing, child, hbefore, hdesired, ?_⟩
      by_cases hagain : ∃ c' ∈ rest, c'.secretName = c.secretName
      · -- written again the copy stays what it is
        obtain ⟨existing', child', hbefore', hdesired', hshows'⟩ := ih hrest hlater hagain
        obtain rfl := hshows.unique hbefore'
        rw [desired_desired source.steady_copyOf hdesired] at hdesired'
        exact Except.ok.inj hdesired' ▸ hshows'
      · refine hshows.congr ((touches_copyAll rest).get?_of_on hrest ?_)
        rintro ⟨c', hc', -, hkey⟩
        exact hagain ⟨c', hc', (ObjectKey.of_eq_iff.1 hkey).2.2.symm⟩
    · obtain ⟨c', hc', hname'⟩ := hsome
      have hagain : ∃ c' ∈ rest, c'.secretName = name := by
        rcases List.mem_cons.1 hc' with rfl | hc'
        · exact absurd hname' hname
        · exact ⟨c', hc', hname'⟩
      obtain ⟨existing, child, hbefore, hrest'⟩ := ih hrest hlater hagain
      refine ⟨existing, child, hbefore.congr ?_, hrest'⟩
      refine ((touches_copyOne c).get?_of_on hfirst fun hkey => hname ?_).symm
      exact (ObjectKey.of_eq_iff.1 hkey).2.2.symm

end Access

/-! ## What is shared

A copy and those that may share it are fixed for the whole of a run: where they live,
which provider it is about, and who they are. What is assumed of an application at a
pass is only that no other provider among those that it names at that moment has a
secret of the copy's name. -/

/-- **Applications that may share a copy**: they live in one namespace, can be
told apart, and may all use one provider that lives in another. -/
structure SharedCopy (ι : Type) where
  /-- Where the applications live. -/
  ns : String
  /-- The namespace and the name of the provider. -/
  provider : String × String
  /-- The provider lives elsewhere. -/
  elsewhere : provider.1 ≠ ns
  /-- The applications. -/
  id : ι → Identity
  /-- They live in the namespace. -/
  id_ns : ∀ i, (id i).ns = ns
  /-- No two have the same identity. -/
  distinct : Function.Injective fun i => (id i).uid

namespace SharedCopy

variable {ι : Type} (C : SharedCopy ι)

/-- The name of the copy, and of what it is a copy of. -/
def name : String := Binding.secretName C.provider.1 C.provider.2

/-- The provider's secret, as it is stored. -/
def source? (objects : Dict ObjectKey Json) : Option Secret :=
  (objects.get? (.of Secret C.provider.1 C.name)).bind (decode Secret)

/-- An application uses the provider. -/
def Uses (app : Application) : Prop :=
  C.provider ∈ app.consumes.map (·.provider app.metadata.nsOrEmpty)

instance (app : Application) : Decidable (C.Uses app) := inferInstanceAs (Decidable (_ ∈ _))

/-- No other provider whose secret an application is about has the copy's name. -/
def Apart (app : Application) : Prop :=
  ∀ p ∈ app.providers, Binding.secretName p.1 p.2 = C.name → p = C.provider

instance (app : Application) : Decidable (C.Apart app) :=
  inferInstanceAs (Decidable (∀ p ∈ app.providers, _ → _))

variable {C} {i : ι} {app : Application} {status status' : ApplicationStatus} {s s' : Server}
  {b : Bindings}

theorem ns_eq (hid : (C.id i).Of app) : app.metadata.nsOrEmpty = C.ns := hid.1.trans (C.id_ns i)

theorem ne_own (hid : (C.id i).Of app) (hapart : C.Apart app) :
    C.name ≠ app.bindingSecretName := by
  intro hname
  have hself := hapart _ (List.mem_cons_self ..) hname.symm
  exact C.elsewhere (congrArg Prod.fst hself ▸ ns_eq hid)

/-- The copy is among what an application uses exactly if the provider is. -/
theorem mem_usedSecrets (hapart : C.Apart app) : C.name ∈ app.usedSecrets ↔ C.Uses app := by
  unfold Application.usedSecrets Uses
  simp only [List.mem_map]
  constructor
  · rintro ⟨entry, he, hname⟩
    exact ⟨entry, he, hapart _ (Application.provider_mem he) hname⟩
  · rintro ⟨entry, he, hprovider⟩
    refine ⟨entry, he, ?_⟩
    rw [name, ← hprovider]
    rfl

/-- **A pass that finds the provider in use writes the copy**, from what is
stored of the provider's secret. -/
theorem shows_of_use (hid : (C.id i).Of app) (hapart : C.Apart app) (huses : C.Uses app)
    (h : (Pass.bindings app).on status s = (.ok b, status', s')) :
    ∃ source existing child, C.source? s.objects = some source
      ∧ Access.Shows s.objects Secret C.ns C.name existing
      ∧ Access.desired app false C.ns C.name source.copyOf existing = .ok child
      ∧ Access.Shows s'.objects Secret C.ns C.name (some child) := by
  have hns := ns_eq hid
  -- publishing touches the own secret alone, so entries find the provider as it was stored
  -- before the pass
  obtain ⟨s₁, s₂, s₃, hpublish, -, hread, hfrom, hcopy, hrelease, -⟩ := Pass.bindings_stages h
  have hpublished := Access.get?_of_publish hpublish (ne_own hid hapart)
  have hfound : ∀ entry : Consumes, entry.provider app.metadata.nsOrEmpty = C.provider →
      entry.found? app.metadata.nsOrEmpty s₁.objects = C.source? s.objects := by
    intro entry hprovider
    obtain ⟨hproviderNs, hproviderName⟩ := Prod.mk.inj hprovider
    unfold Consumes.found? Consumes.secretName source?
    rw [hproviderNs, hproviderName, ← hpublished]
    rfl
  obtain ⟨entry, he, hprovider⟩ := List.mem_map.1 huses
  obtain ⟨source, hsource⟩ := Bindings.found_of_from? hfrom he
  -- every entry that writes under this name means this provider, and so copies the same; the
  -- last one stands, and any would
  have hone : ∀ c ∈ b.consumed, c.secretName = C.name → c.copyFrom = some source := by
    intro c hc hname
    obtain ⟨other, ho, found, hothers, rfl⟩ :=
      ((Bindings.mem_consumed_from? hfrom c).1 hc).resolve_left List.not_mem_nil
    have hsame := hapart _ (Application.provider_mem ho) hname
    have helse : other.providerNs app.metadata.nsOrEmpty ≠ app.metadata.nsOrEmpty := by
      rw [show other.providerNs app.metadata.nsOrEmpty = C.provider.1 from congrArg Prod.fst hsame,
        hns]
      exact C.elsewhere
    rw [hfound other hsame, ← hfound entry hprovider, hsource] at hothers
    rw [Consumes.consumed, if_neg helse, Option.some.inj hothers]
  have hsome : ∃ c ∈ b.consumed, c.secretName = C.name := by
    refine ⟨_, (Bindings.mem_consumed_from? hfrom _).2 (.inr ⟨entry, he, source, hsource, rfl⟩), ?_⟩
    rw [name, ← hprovider]
    rfl
  obtain ⟨existing, child, hbefore, hdesired, hafter⟩ := Access.shows_of_copyAll hcopy hone hsome
  rw [hns] at hbefore hdesired hafter
  refine ⟨source, existing, child, (hfound entry hprovider).symm.trans hsource,
    hbefore.congr ?_, hdesired, hafter.congr ?_⟩
  · rw [hread, hpublished]
  · exact Access.get?_of_releaseAll hrelease fun _ =>
      app.not_released_of_used ((mem_usedSecrets hapart).2 huses)

/-- **A pass that does not find the provider in use gives up the copy**, if the
status lists it; if it does not, the application must not be an owner. -/
theorem shows_of_leave (ht : s.Truthful) (hid : (C.id i).Of app) (hapart : C.Apart app)
    (huses : ¬ C.Uses app) {existing : Option Secret}
    (hshows : Access.Shows s.objects Secret C.ns C.name existing)
    (hlisted : C.name ∈ status.secretsInUse
      ∨ ∀ secret ∈ existing, ¬ secret.metadata.OwnedBy (C.id i).uid)
    (h : (Pass.bindings app).on status s = (.ok b, status', s')) :
    Access.Shows s'.objects Secret C.ns C.name (existing.bind (Access.givenUp (C.id i).uid)) := by
  have hns := ns_eq hid
  obtain ⟨s₁, s₂, s₃, hpublish, hbindings, hread, hfrom, hcopy, hrelease, -⟩ :=
    Pass.bindings_stages h
  have ht₃ := Access.truthful_of_on (Access.truthful_of_on (Access.truthful_of_on ht hpublish)
    hbindings) hcopy
  have hunused : C.name ∉ app.usedSecrets := fun hused => huses ((mem_usedSecrets hapart).1 hused)
  have hbefore : Access.Shows s₃.objects Secret C.ns C.name existing := by
    refine hshows.congr ?_
    rw [Access.get?_of_copyAll hfrom hcopy fun _ hcopied =>
        hunused (Application.used_of_copied hcopied), hread,
      Access.get?_of_publish hpublish (ne_own hid hapart)]
  rw [← hns] at hbefore ⊢
  by_cases hreleased : C.name ∈ app.releasedSecrets status
  · exact Access.shows_of_releaseAll ht₃ hid.2.2 hrelease hreleased hbefore
  · -- nothing is given up, so the application is no owner
    have hfree := hlisted.resolve_left fun hmem =>
      hunused (app.used_of_listed hmem (ne_own hid hapart) hreleased)
    have hstays : existing.bind (Access.givenUp (C.id i).uid) = existing := by
      cases existing with
      | none => rfl
      | some secret => exact Access.givenUp_of_not_ownedBy (hfree secret rfl)
    rw [hstays]
    exact hbefore.congr (Access.get?_of_releaseAll hrelease fun _ => hreleased)

/-! ## What stands of the copy

What should be stored is a function of two things, who uses the copy and what the
provider's secret held when it was used last. The two steps follow it: one who joins
is added to the users and brings the contents, one who leaves is taken off and brings
nothing.

Joining twice and leaving without having joined are cases of the two. They do occur,
as when a pass is repeated, or when an application is new and its status lists
nothing. -/

variable (C)

/-- **A secret is shared** by some applications: exactly these are its owners,
none controls it, it bears the operator's label and no other, and it holds
what some secret holds. -/
structure SharedBy (users : ι → Prop) (source? : Option Secret) (secret : Secret) : Prop where
  /-- The owners. -/
  owners : ∀ r, r ∈ secret.metadata.owners ↔ ∃ i, users i ∧ r = (C.id i).sharing
  /-- Each is named once. -/
  orderly : OwnerReference.Orderly secret.metadata.owners
  /-- The only label. -/
  labels : secret.metadata.labels = some (.singleton Label.managedBy operatorName)
  /-- The contents. -/
  content : source?.map Secret.content = some secret.content

/-- **What should stand of the copy**: nothing if nobody uses it, or else a
secret that is shared by those who do. -/
structure Stands (users : ι → Prop) (source? copy : Option Secret) : Prop where
  /-- The copy is there for those that use it. -/
  stored : copy.isSome = true ↔ ∃ i, users i
  /-- It is shared by them. -/
  shared : ∀ secret ∈ copy, C.SharedBy users source? secret

variable {C} {users users' : ι → Prop} {source : Secret} {source? existing : Option Secret}
  {secret child : Secret}

theorem Stands.congr (h : C.Stands users source? existing) (heq : ∀ i, users i ↔ users' i) :
    C.Stands users' source? existing :=
  (funext fun i => propext (heq i) : users = users') ▸ h

/-- An application is one of the owners exactly if it is one of those that share the copy. -/
theorem SharedBy.ownedBy_iff (h : C.SharedBy users source? secret) :
    secret.metadata.OwnedBy (C.id i).uid ↔ users i := by
  constructor
  · rintro ⟨r, hr, huid⟩
    obtain ⟨j, hj, rfl⟩ := (h.owners r).1 hr
    exact C.distinct huid ▸ hj
  · exact fun hi => ⟨_, (h.owners _).2 ⟨i, hi, rfl⟩, rfl⟩

/-- What there is before an application joins: its owners are those that use
the copy, and it has no other label. -/
theorem Stands.before (h : C.Stands users source? existing) :
    (∀ r, r ∈ (metadata (existing.getD (blank Secret))).owners
        ↔ ∃ i, users i ∧ r = (C.id i).sharing)
      ∧ OwnerReference.Orderly (metadata (existing.getD (blank Secret))).owners
      ∧ ((metadata (existing.getD (blank Secret))).labels = none
        ∨ (metadata (existing.getD (blank Secret))).labels
          = some (.singleton Label.managedBy operatorName)) := by
  cases existing with
  | none =>
    refine ⟨fun r => ⟨fun hr => absurd hr List.not_mem_nil, fun ⟨i, hi, _⟩ => ?_⟩, .nil, .inl rfl⟩
    exact absurd (h.stored.2 ⟨i, hi⟩) (by simp)
  | some secret =>
    have hshared := h.shared secret rfl
    exact ⟨hshared.owners, hshared.orderly, .inr hshared.labels⟩

/-- **An application joins** those that share the copy, and brings it up to date. -/
theorem Stands.join (h : C.Stands users source? existing) (hid : (C.id i).Of app)
    (hdesired : Access.desired app false C.ns C.name source.copyOf existing = .ok child) :
    C.Stands (fun j => j = i ∨ users j) (some source) (some child) := by
  obtain ⟨hbefore, horderly, hlabels⟩ := h.before
  obtain ⟨-, -, r, hr, -, howners⟩ := Access.metadata_of_desired source.steady_copyOf.keeps hdesired
  obtain rfl := hid.sharing_eq hr
  -- nobody controls the copy, and nobody else has the application's identity
  have hshared : ∀ q ∈ (metadata (existing.getD (blank Secret))).owners, ∃ j,
      q = (C.id j).sharing := fun q hq => ((hbefore q).1 hq).imp fun _ => And.right
  refine ⟨iff_of_true rfl ⟨i, .inl rfl⟩, ?_⟩
  rintro _ ⟨⟩
  refine ⟨fun q => ?_, ?_, ?_, ?_⟩
  · show q ∈ (metadata child).owners ↔ _
    rw [howners, OwnerReference.mem_upsert_iff, hbefore]
    · constructor
      · rintro (rfl | ⟨j, hj, rfl⟩)
        · exact ⟨i, .inl rfl, rfl⟩
        · exact ⟨j, .inr hj, rfl⟩
      · rintro ⟨j, rfl | hj, rfl⟩
        · exact .inl rfl
        · exact .inr ⟨j, hj, rfl⟩
    · intro q hq huid
      obtain ⟨j, rfl⟩ := hshared q hq
      rw [C.distinct huid]
  · show OwnerReference.Orderly (metadata child).owners
    rw [howners]
    refine horderly.upsert fun q hq hcontrols => ?_
    obtain ⟨j, rfl⟩ := hshared q hq
    simp at hcontrols
  · obtain ⟨m, hm, rfl⟩ := Access.desired_ok.1 hdesired
    obtain ⟨_, -, -, rfl⟩ := Application.own_ok.1 hm
    show some (((metadata (existing.getD (blank Secret))).labels.getD .empty).extend
      (.singleton Label.managedBy operatorName)) = _
    refine congrArg some (Dict.ext fun k => ?_)
    rcases hlabels with hnone | hsome
    · simp [hnone]
    · simp [hsome]
  · rw [Option.map_some, Access.content_of_copyOf hdesired]

/-- **An application leaves** those that share the copy, and the last one
takes it away. -/
theorem Stands.leave (h : C.Stands users source? existing) (i : ι) :
    C.Stands (fun j => j ≠ i ∧ users j) source?
      (existing.bind (Access.givenUp (C.id i).uid)) := by
  cases existing with
  | none =>
    refine ⟨iff_of_false (by simp) fun ⟨j, hj⟩ => ?_, fun _ hs => by simp at hs⟩
    exact absurd (h.stored.2 ⟨j, hj.2⟩) (by simp)
  | some secret =>
    have hshared := h.shared secret rfl
    rw [Option.bind_some]
    unfold Access.givenUp
    split
    · -- it was not among them
      rename_i hnone
      refine h.congr fun j => (and_iff_right_of_imp ?_).symm
      rintro hj rfl
      exact hnone _ ((hshared.owners _).2 ⟨_, hj, rfl⟩) rfl
    · split
      · -- it was the only one
        rename_i hall
        refine ⟨iff_of_false (by simp) fun ⟨j, hne, hj⟩ => hne ?_, fun _ hs => by simp at hs⟩
        exact C.distinct (hall _ ((hshared.owners _).2 ⟨j, hj, rfl⟩))
      · rename_i hothers
        refine ⟨iff_of_true rfl ?_, ?_⟩
        · refine Classical.byContradiction fun hno => hothers fun r hr => ?_
          obtain ⟨j, hj, rfl⟩ := (hshared.owners r).1 hr
          exact Classical.byContradiction fun hne => hno ⟨j, fun hji => hne (hji ▸ rfl), hj⟩
        · rintro _ ⟨⟩
          refine ⟨fun r => ?_, hshared.orderly.filter _, hshared.labels, hshared.content⟩
          show r ∈ (secret.metadata.withoutOwner (C.id i).uid).owners ↔ _
          rw [ObjectMeta.owners_withoutOwner, List.mem_filter, hshared.owners]
          constructor
          · rintro ⟨⟨j, hj, rfl⟩, hne⟩
            refine ⟨j, ⟨fun hji => ?_, hj⟩, rfl⟩
            subst hji
            exact of_decide_eq_true hne rfl
          · rintro ⟨j, ⟨hne, hj⟩, rfl⟩
            exact ⟨⟨j, hj, rfl⟩, decide_eq_true fun huid => hne (C.distinct huid)⟩

/-! ## Runs of passes

The statuses are part of the run and not of the state: a pass starts from the services
that the last pass of the same application has noted, or from any status if there was
none. That is how the operator is called. The two passes need not follow each other,
and other applications' passes, and changes of all that is not the copy, may come in
between.

The invariant is about the copy alone. That the statuses list it for those that use it
is a law about the log (`SharedCopy.Run.listed`), and it is needed just where an
application leaves. -/

/-- **A pass that was made.** -/
structure Made (ι : Type) where
  /-- The application. -/
  who : ι
  /-- The application as it was then. -/
  app : Application
  /-- The cluster before the pass. -/
  before : Server
  /-- The status that the pass returned. -/
  noted : ApplicationStatus

variable (C)

/-- The provider's secret when a pass has last found it in use, of those that
were made; the last comes first. -/
def lastSource? (log : List (Made ι)) : Option Secret :=
  (log.find? (C.Uses ·.app)).bind fun made => C.source? made.before.objects

variable {C} {log : List (Made ι)}

theorem lastSource?_cons {made : Made ι} : C.lastSource? (made :: log)
    = if C.Uses made.app then C.source? made.before.objects else C.lastSource? log := by
  unfold lastSource?
  rw [List.find?_cons]
  by_cases huses : C.Uses made.app
  · simp [huses]
  · simp [huses]

variable (C) [DecidableEq ι]

/-- The last pass of an application. -/
def last? (log : List (Made ι)) (i : ι) : Option (Made ι) := log.find? (·.who = i)

/-- The last pass of an application has found the provider in use. -/
def UsesNow (log : List (Made ι)) (i : ι) : Prop := ∃ made ∈ last? log i, C.Uses made.app

instance (log : List (Made ι)) (i : ι) : Decidable (C.UsesNow log i) :=
  inferInstanceAs (Decidable (∃ made ∈ last? log i, C.Uses made.app))

/-- **What a run of passes comes to**: the cluster, and the passes that were
made. It starts where nothing is stored under the copy's name, and with any
statuses; then each pass starts from what the last pass of its application has
noted to be in use. In between, all may change but what is stored there. -/
inductive Run : Server → List (Made ι) → Prop
  | start {s : Server} (truthful : s.Truthful)
      (absent : s.objects.get? (.of Secret C.ns C.name) = none) : Run s []
  | meanwhile {s s' : Server} {log : List (Made ι)} (run : Run s log) (truthful : s'.Truthful)
      (same : s'.objects.get? (.of Secret C.ns C.name) = s.objects.get? (.of Secret C.ns C.name)) :
      Run s' log
  | pass {s s' : Server} {log : List (Made ι)} (run : Run s log) {i : ι} {app : Application}
      {status status' : ApplicationStatus} {b : Bindings} (hid : (C.id i).Of app)
      (hapart : C.Apart app)
      (hstatus : ∀ made ∈ last? log i, status.consumedServices = made.noted.consumedServices)
      (h : (Pass.bindings app).on status s = (.ok b, status', s')) :
      Run s' (⟨i, app, s, status'⟩ :: log)

variable {C}

theorem last?_cons {made : Made ι} {j : ι} :
    last? (made :: log) j = if made.who = j then some made else last? log j := by
  unfold last?
  rw [List.find?_cons]
  by_cases hwho : made.who = j
  · simp [hwho]
  · simp [hwho]

theorem usesNow_cons {made : Made ι} {j : ι} :
    C.UsesNow (made :: log) j ↔ if made.who = j then C.Uses made.app else C.UsesNow log j := by
  unfold UsesNow
  rw [last?_cons]
  split
  · simp
  · rfl

namespace Run

theorem truthful (h : C.Run s log) : s.Truthful := by
  induction h with
  | start truthful _ => exact truthful
  | meanwhile _ truthful _ _ => exact truthful
  | pass _ _ _ _ h ih => exact Pass.truthful_of_on ih h

/-- **The statuses list the copy** for those that use it. -/
theorem listed (h : C.Run s log) :
    ∀ made ∈ log, C.Uses made.app → C.name ∈ made.noted.secretsInUse := by
  induction h with
  | start _ _ => simp
  | meanwhile _ _ _ ih => exact ih
  | pass _ _ hapart _ h ih =>
    refine List.forall_mem_cons.2 ⟨fun huses => ?_, ih⟩
    obtain ⟨_, _, _, -, -, -, hfrom, -, -, rfl⟩ := Pass.bindings_stages h
    refine (Bindings.mem_values_consumedServices _ _).2 ?_
    rw [Bindings.map_secretName_from? hfrom]
    exact List.mem_append_right _ ((mem_usedSecrets hapart).2 huses)

/-- Whether a pass can be made is told by making it. -/
theorem pass_of_isOk (run : C.Run s log) (i : ι) (app : Application) (status : ApplicationStatus)
    (hid : (C.id i).Of app) (hapart : C.Apart app)
    (hstatus : ∀ made ∈ last? log i, status.consumedServices = made.noted.consumedServices)
    (hok : ((Pass.bindings app).on status s).1.isOk = true) :
    C.Run ((Pass.bindings app).on status s).2.2
      (⟨i, app, s, ((Pass.bindings app).on status s).2.1⟩ :: log) := by
  obtain ⟨b, hb⟩ := Except.eq_ok_of_isOk hok
  exact .pass run hid hapart hstatus (Prod.ext hb rfl)

end Run

/-- **Over all runs the copy is what it should be.** It is stored if and only
if the last pass of some application has found the provider in use; these
applications are its owners, each once and none of them its controller; it
bears the operator's label alone; and it holds what the provider's secret held
when a pass has last found it in use. -/
theorem stands_of_run (h : C.Run s log) : ∃ copy,
    Access.Shows s.objects Secret C.ns C.name copy
      ∧ C.Stands (C.UsesNow log) (C.lastSource? log) copy := by
  induction h with
  | start _ absent =>
    refine ⟨none, Access.shows_none.2 absent, iff_of_false (by simp) ?_, fun _ hs => by simp at hs⟩
    rintro ⟨i, made, hmade, -⟩
    simp [last?] at hmade
  | meanwhile _ _ same ih =>
    obtain ⟨copy, hshows, hstands⟩ := ih
    exact ⟨copy, hshows.congr same, hstands⟩
  | @pass s s' log run i app status status' b hid hapart hstatus h ih =>
    obtain ⟨copy, hshows, hstands⟩ := ih
    -- a pass either joins or leaves, and who uses the copy now is changed for the one that
    -- made the pass alone
    by_cases huses : C.Uses app
    · obtain ⟨source, existing, child, hsource, hbefore, hdesired, hafter⟩ :=
        shows_of_use hid hapart huses h
      obtain rfl := hshows.unique hbefore
      refine ⟨some child, hafter, ?_⟩
      rw [lastSource?_cons, if_pos huses, hsource]
      refine (hstands.join hid hdesired).congr fun j => ?_
      rw [usesNow_cons]
      by_cases hwho : i = j
      · simp [hwho, huses]
      · simp [hwho, Ne.symm hwho]
    -- it leaves what it owns because the status lists it: who owns the copy has used it in its
    -- last pass, and that pass has listed it
    · have hlisted : C.name ∈ status.secretsInUse
          ∨ ∀ secret ∈ copy, ¬ secret.metadata.OwnedBy (C.id i).uid := by
        by_cases hused : C.UsesNow log i
        · obtain ⟨made, hmade, hmadeUses⟩ := hused
          have hmem := run.listed made (List.mem_of_find?_eq_some hmade) hmadeUses
          unfold ApplicationStatus.secretsInUse at hmem ⊢
          exact .inl (hstatus made hmade ▸ hmem)
        · exact .inr fun secret hsecret howned =>
            hused ((hstands.shared secret hsecret).ownedBy_iff.1 howned)
      refine ⟨_, shows_of_leave run.truthful hid hapart huses hshows hlisted h, ?_⟩
      rw [lastSource?_cons, if_neg huses]
      refine (hstands.leave i).congr fun j => ?_
      rw [usesNow_cons]
      by_cases hwho : i = j
      · simp [hwho, huses]
      · simp [hwho, Ne.symm hwho]

/-- Two applications that may share the secret of a third. -/
def two : SharedCopy Bool where
  ns := "shop"
  provider := ("back", "db")
  elsewhere := by decide
  id second := if second then ⟨"shop", "api", "u2"⟩ else ⟨"shop", "web", "u1"⟩
  id_ns second := by cases second <;> rfl
  distinct i j h := by revert i j; decide

/-- So it is where both applications join, and the one that was first leaves. -/
theorem stands_of_run_of_three_passes : ∃ s log,
    two.Run s log ∧ log.map (·.who) = [false, true, false]
      ∧ two.UsesNow log true ∧ ¬ two.UsesNow log false
      ∧ ∃ copy, Access.Shows s.objects Secret two.ns two.name copy
        ∧ two.Stands (two.UsesNow log) (two.lastSource? log) copy := by
  let web : Application := .bound "shop" "web" "u1" false [("back", "db")]
  let api : Application := .bound "shop" "api" "u2" false [("back", "db")]
  let left : Application := .bound "shop" "web" "u1" false []
  have hstart : two.Run (.offering [("back", "db")]) [] :=
    .start (Server.open_offering _).truthful (by decide +kernel)
  have hfirst := hstart.pass_of_isOk false web default ⟨rfl, rfl, rfl⟩ (by decide)
    (fun _ h => by simp [last?] at h) (by decide +kernel)
  have hsecond := hfirst.pass_of_isOk true api default ⟨rfl, rfl, rfl⟩ (by decide)
    (fun _ h => by simp [last?] at h) (by decide +kernel)
  -- the third pass is made from the status that the first has returned
  have hthird := hsecond.pass_of_isOk false left
    ((Pass.bindings web).on default (.offering [("back", "db")])).2.1 ⟨rfl, rfl, rfl⟩ (by decide)
    (fun made hmade => by
      rw [last?_cons, if_neg (by decide), last?_cons, if_pos rfl] at hmade
      rw [← Option.some.inj hmade]) (by decide +kernel)
  refine ⟨_, _, hthird, rfl, ?_, ?_, stands_of_run hthird⟩
  · rw [usesNow_cons, if_neg (by decide), usesNow_cons, if_pos rfl]
    decide
  · rw [usesNow_cons, if_pos rfl]
    decide

end SharedCopy
end AppOperator
