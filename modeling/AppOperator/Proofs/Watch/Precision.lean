import AppOperator.Proofs.Watch.Coverage

/-!
# Whether nothing is watched in vain

A secret concerns many applications or none, and each that it concerns is
reconciled when it changes. The mapping from secrets to applications has to be
exact in both directions, for a reconcile that finds nothing new is only wasted,
and one that never happens leaves an application with old credentials.

It is exact for the specification that it is asked about (`Watch.ofSecret_exact`):
a secret concerns precisely the applications for which it is read where the right
objects are stored. Whether it is read depends on what else is stored, since the
first missing secret ends the reading. So it is not said of one cluster, and
neither is what follows for all other applications: wherever they are run, and
whatever is refused there, they come to the same results without the secret, with
it and with another in its place.

The second part is a frame law of reading. A dialogue that reads, and never under
one key, is answered alike by two clusters that differ under that key alone
(`Dialogue.on_of_differAt`).
-/

namespace AppOperator

/-! ## Clusters that differ under one key

Two clusters that store the same but under one key are answered alike as long as
nobody asks there. They stay so through a dialogue that only reads, so the answers of
the whole dialogue are the same. Refusals may depend on the number of the call, hence
the clusters must have been called as often. -/

/-- A call that reads an object, under another key than one. -/
def Call.ReadsBeside (key : ObjectKey) (c : Call) : Prop := ∃ other, other ≠ key ∧ c = .get other

namespace Server

/-- **Clusters that differ under one key at most**: they refuse alike, as often
as they have been called. -/
structure DifferAt (key : ObjectKey) (s t : Server) : Prop where
  /-- Under other keys they store the same. -/
  objects : ∀ other, other ≠ key → s.objects.get? other = t.objects.get? other
  /-- They refuse alike. -/
  refuse : s.refuse = t.refuse
  /-- They have been called as often. -/
  calls : s.history.length = t.history.length

variable {s t : Server} {key : ObjectKey} {c : Call}

/-- To read beside the key is to be answered alike. -/
theorem DifferAt.perform (h : s.DifferAt key t) (hc : c.ReadsBeside key) :
    (s.perform c).1 = (t.perform c).1 ∧ (s.after c).DifferAt key (t.after c) := by
  obtain ⟨other, hother, rfl⟩ := hc
  have hread : (Call.get other).isWrite = false := rfl
  constructor
  · unfold Server.perform
    rw [h.refuse, h.calls]
    cases t.refuse t.history.length (.get other) with
    | some refusal => rfl
    | none =>
      have hanswer : s.answer (.get other) = t.answer (.get other) := by
        simp only [answer, present?, h.objects other hother]
      rw [hanswer]
      cases t.answer (.get other) <;> rfl
  · refine ⟨fun k hk => ?_, ?_, ?_⟩
    · rw [after_objects_of_read hread, after_objects_of_read hread, h.objects k hk]
    · rw [after_refuse, after_refuse, h.refuse]
    · obtain ⟨_, hs⟩ := s.after_history (.get other)
      obtain ⟨_, ht⟩ := t.after_history (.get other)
      rw [hs, ht, List.length_append, List.length_append, h.calls]
      rfl

/-- To store another object under a key, or to remove it, makes such a cluster. -/
theorem differAt_of_objects {objects : Dict ObjectKey Json}
    (h : ∀ other, other ≠ key → objects.get? other = s.objects.get? other) :
    DifferAt key { s with objects } s :=
  ⟨h, rfl, rfl⟩

end Server

/-- **A dialogue that never reads under a key** comes to the same answer on
clusters that differ there alone. -/
theorem Dialogue.on_of_differAt {α : Type} {d : Dialogue α} {s t : Server} {key : ObjectKey}
    (hreads : d.Along (fun _ c => c.ReadsBeside key) s) (h : s.DifferAt key t) :
    (d.on s).1 = (d.on t).1 := by
  induction d generalizing s t with
  | done a => rfl
  | call c rest ih =>
    obtain ⟨hanswer, hafter⟩ := h.perform hreads.1
    have hrest := ih _ hreads.2 hafter
    show ((rest (s.perform c).1).on (s.after c)).1 = ((rest (t.perform c).1).on (t.after c)).1
    rw [← hanswer]
    exact hrest

/-! ## What is not referred to

An application that does not refer to a secret never reads it, on any cluster. This is
the law along runs of the module before, for the three readings of a pass. -/

namespace Application

variable {app : Application} {ns name : String}

/-- **A secret is looked up where some objects are stored exactly if it is
referred to.** -/
theorem exists_readsSecret_iff (hname : name ≠ "") :
    (∃ objects, app.ReadsSecret objects ns name) ↔ (ns, name) ∈ app.secretRefs := by
  constructor
  · rintro ⟨objects, h⟩
    exact (app.looksUpSecret_iff hname).1 ⟨{ objects }, h⟩
  · exact app.exists_readsSecret hname

/-- **What is not referred to is not read**, for the name and password, for the
services that are used or for the certificates, wherever these are read. -/
theorem readsBeside_of_unreferred (hname : name ≠ "") (h : (ns, name) ∉ app.secretRefs)
    (s : Server) :
    let key := ObjectKey.of Secret ns name
    app.credentials.Along (fun _ c => c.ReadsBeside key) s
      ∧ app.bindings.Along (fun _ c => c.ReadsBeside key) s
      ∧ (Access.certificates app).Along (fun _ c => c.ReadsBeside key) s := by
  rw [mem_secretRefs, not_or, not_and] at h
  obtain ⟨hused, hnamed⟩ := h
  -- a secret is told from another by its namespace and name
  have beside : ∀ {ns' name' : String}, (ns' = ns → name' ≠ name) →
      (Call.get (.of Secret ns' name')).ReadsBeside (.of Secret ns name) := by
    intro ns' name' hne
    refine ⟨_, fun he => ?_, rfl⟩
    obtain ⟨-, hns', hname'⟩ := ObjectKey.of_eq_iff.1 he
    exact hne hns' hname'
  refine ⟨Access.along_credentials fun selector hmem _ => beside fun hns hselector => ?_,
    Access.along_read {} fun entry hmem _ => beside fun hns hentry => ?_,
    Access.along_certificates fun certificate hcertificate _ => beside fun hns heq => ?_⟩
  · refine hnamed hns (.inl ⟨selector, hmem, ?_⟩)
    cases hset : selector.name with
    | none =>
      rw [hset] at hselector
      exact absurd hselector.symm hname
    | some n =>
      rw [hset] at hselector
      exact congrArg some hselector
  · exact hused ⟨entry, hmem, hns, hentry⟩
  · exact hnamed hns (.inr (hcertificate.trans (congrArg some heq)))

end Application

namespace Watch

/-! ## Exactness

Both directions are stated for the same list of applications. Those that a secret
concerns are exactly those that may read it, in order and each once; for the others it
is not only that they do not read the secret, but that nothing they come to depends on
it. -/

/-- **An application does not depend on an object**: its name and password, the
services that it uses and its certificates come out the same on every cluster,
whatever is stored in the place of the object. -/
def Indifferent (app : Application) (key : ObjectKey) : Prop :=
  ∀ (s : Server) (objects : Dict ObjectKey Json),
    (∀ other, other ≠ key → objects.get? other = s.objects.get? other) →
    (app.credentials.on { s with objects }).1 = (app.credentials.on s).1
      ∧ (app.bindings.on { s with objects }).1 = (app.bindings.on s).1
      ∧ ((Access.certificates app).on { s with objects }).1
        = ((Access.certificates app).on s).1

/-- An application does not depend on secrets that it does not refer to. -/
theorem indifferent_of_unreferred {app : Application} {ns name : String} (hname : name ≠ "")
    (h : (ns, name) ∉ app.secretRefs) : Indifferent app (.of Secret ns name) := by
  intro s objects hobjects
  have hdiffer := Server.differAt_of_objects hobjects
  obtain ⟨hcredentials, hbindings, hcertificates⟩ :=
    app.readsBeside_of_unreferred hname h { s with objects }
  exact ⟨Dialogue.on_of_differAt hcredentials hdiffer, Dialogue.on_of_differAt hbindings hdiffer,
    Dialogue.on_of_differAt hcertificates hdiffer⟩

open Classical in
/-- **A secret concerns exactly the applications that look it up.** Of applications
with namespaces, a secret with a name concerns those, in their order and each once,
for which it is read where some objects are stored; and the others among them do not
depend on it. -/
theorem ofSecret_exact (apps : List Application) (secret : ObjectMeta) {ns name : String}
    (happs : ∀ app ∈ apps, app.ns?.isSome = true) (hns : secret.ns = some ns)
    (hname : secret.name = some name) (hnamed : name ≠ "") :
    ofSecret secret apps
        = (apps.filter fun app => ∃ objects, app.ReadsSecret objects ns name).map Application.ref
      ∧ ∀ app ∈ apps, app.ref ∉ ofSecret secret apps →
        Indifferent app (.of Secret ns name) := by
  have hconcerns : ∀ app ∈ apps,
      (app.dependsOnSecret ns name = true ↔ (ns, name) ∈ app.secretRefs) := by
    intro app hmem
    obtain ⟨own, hown⟩ := Option.isSome_iff_exists.1 (happs app hmem)
    exact app.dependsOnSecret_iff hown
  constructor
  · have hlisted : ofSecret secret apps
        = (apps.filter (·.dependsOnSecret ns name)).map Application.ref := by
      unfold ofSecret concerned
      rw [hns, hname]
    rw [hlisted]
    refine congrArg (List.map Application.ref) (List.filter_congr fun app hmem => ?_)
    rw [Bool.eq_iff_iff, hconcerns app hmem, decide_eq_true_iff,
      Application.exists_readsSecret_iff hnamed]
  · intro app hmem habsent
    refine indifferent_of_unreferred hnamed fun href => habsent ?_
    exact (mem_concerned hns hname).2 ⟨app, hmem, (hconcerns app hmem).2 href, rfl⟩

/-- So it is where one application uses the service whose secret it is, and
another, of the same namespace, does not. -/
theorem ofSecret_exact_of_one_user :
    let user : Application := ((running "shop" "web" "img").normalized (lending "orders")).1
    let other : Application := running "shop" "site" "img"
    ofSecret (bearing "shop" "shop-orders") [user, other] = [user.ref]
      ∧ (∃ objects, user.ReadsSecret objects "shop" "shop-orders")
      ∧ Indifferent other (.of Secret "shop" "shop-orders") := by
  intro user other
  have happs : ∀ app ∈ [user, other], app.ns?.isSome = true := by decide
  have hlisted : ofSecret (bearing "shop" "shop-orders") [user, other] = [user.ref] := by decide
  have hexact := ofSecret_exact [user, other] (bearing "shop" "shop-orders") happs rfl rfl
    (by decide)
  refine ⟨hlisted, ?_, hexact.2 other (by simp) ?_⟩
  · have huser : user.ref ∈ ofSecret (bearing "shop" "shop-orders") [user, other] := by
      rw [hlisted]
      exact List.mem_cons_self
    rw [hexact.1] at huser
    obtain ⟨app, hmem, href⟩ := List.mem_map.1 huser
    obtain ⟨hmem, hreads⟩ := List.mem_filter.1 hmem
    rcases List.mem_cons.1 hmem with rfl | hrest
    · simpa using hreads
    · obtain rfl := List.mem_singleton.1 hrest
      exact absurd href (by decide)
  · rw [hlisted]
    decide

end Watch
end AppOperator
