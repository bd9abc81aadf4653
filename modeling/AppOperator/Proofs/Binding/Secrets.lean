import AppOperator.Proofs.Cluster.Settling
import AppOperator.Proofs.Reconcile.Steps

/-!
# Secrets of bindings after a pass

A pass publishes the application's own secret, reads those of the providers,
writes the copies that are needed and gives up those that are not, in this
order and all in one namespace. The names of the secrets are made of two
parts that may both have dashes in them, so different providers can have
secrets of one name, and then the steps meet under one key.

This module says what each of the steps leaves: what is read is a function
of what is stored (`Bindings.from?`), and under each name stands the copy that
was written there last (`copyAll_ok`). What the secrets hold at the end then
follows for all names, those that are shared included.

Nothing here assumes that names are apart. Where they are, the pieces fall into place,
and the corresponding statements are given with that condition as a hypothesis; where
they are not, what happens is determined all the same, and it can be wrong.
-/

namespace AppOperator

/-! ## Providers

A provider is a namespace and a name, a pair; the name of its secret joins the two by
a dash. What follows from the pairs is certain, and what follows from the names of
secrets is not. All the places where this matters are put under one condition,
`Application.NamesApart`, about the providers that the application names and itself. -/

/-- The namespace and the name of an application, by which others use it. -/
def Application.asProvider (app : Application) : String × String :=
  (app.metadata.nsOrEmpty, app.name)

/-- The namespace and the name of the provider of a service that is used. -/
def Consumes.provider (entry : Consumes) (own : String) : String × String :=
  (entry.providerNs own, entry.name)

/-- All whose secrets a pass for the application is about. -/
def Application.providers (app : Application) : List (String × String) :=
  app.asProvider :: app.consumes.map (·.provider app.metadata.nsOrEmpty)

/-- **The names of bindings are apart**: different providers have secrets of
different names. -/
def Application.NamesApart (app : Application) : Prop :=
  ∀ p ∈ app.providers, ∀ q ∈ app.providers,
    Binding.secretName p.1 p.2 = Binding.secretName q.1 q.2 → p = q

instance (app : Application) : Decidable app.NamesApart :=
  inferInstanceAs (Decidable (∀ p ∈ app.providers, ∀ q ∈ app.providers, _ → _))

namespace Application

variable {app : Application} {entry other : Consumes}

theorem provider_mem (h : entry ∈ app.consumes) :
    entry.provider app.metadata.nsOrEmpty ∈ app.providers :=
  List.mem_cons_of_mem _ (List.mem_map_of_mem h)

/-- A secret that is copied is not the application's own. -/
theorem NamesApart.ne_own (h : app.NamesApart) (he : entry ∈ app.consumes)
    (hcopied : entry.providerNs app.metadata.nsOrEmpty ≠ app.metadata.nsOrEmpty) :
    entry.secretName app.metadata.nsOrEmpty ≠ app.bindingSecretName := fun hname =>
  hcopied (congrArg Prod.fst
    (h _ (provider_mem he) _ (List.mem_cons_self ..) hname))

/-- Services of one secret name have one provider. -/
theorem NamesApart.provider_eq (h : app.NamesApart) (he : entry ∈ app.consumes)
    (ho : other ∈ app.consumes)
    (hname : entry.secretName app.metadata.nsOrEmpty = other.secretName app.metadata.nsOrEmpty) :
    entry.provider app.metadata.nsOrEmpty = other.provider app.metadata.nsOrEmpty :=
  h _ (provider_mem he) _ (provider_mem ho) hname

end Application

/-! ## What is read

Reading makes calls, and what comes of it depends on the cluster only through what is
stored: if it succeeds, each service's secret was there. So the bindings are a
function of the stored objects that may have no value (`Bindings.from?`), which has no
calls in it and can be reasoned about by recursion over the services. -/

/-- The secret of a provider as it is stored. -/
def Consumes.found? (entry : Consumes) (own : String) (objects : Dict ObjectKey Json) :
    Option Secret :=
  (objects.get? (.of Secret (entry.providerNs own) (entry.secretName own))).bind (decode Secret)

/-- Services of one provider have one secret. -/
theorem Consumes.found?_of_provider {entry other : Consumes} {own : String}
    {objects : Dict ObjectKey Json} (h : entry.provider own = other.provider own) :
    entry.found? own objects = other.found? own objects := by
  obtain ⟨hns, hname⟩ := Prod.mk.inj h
  unfold Consumes.found? Consumes.secretName
  rw [hns, hname]

/-- A service that is used, once its secret was read. -/
def Consumes.consumed (entry : Consumes) (own : String) (source : Secret) : Consumed :=
  { category := entry.category, providerNs := entry.providerNs own, providerName := entry.name,
    secretName := entry.secretName own,
    copyFrom := if entry.providerNs own = own then none else some source }

namespace Bindings

variable {own : String} {objects : Dict ObjectKey Json} {entries : List Consumes}
  {b b' : Bindings}

/-- **The bindings of some services** by what is stored, if all of it is. -/
def from? (own : String) (objects : Dict ObjectKey Json) :
    Bindings → List Consumes → Option Bindings
  | b, [] => some b
  | b, entry :: rest =>
    (entry.found? own objects).bind fun source => from? own objects (b.add entry own source) rest

theorem from?_cons {entry : Consumes} {rest : List Consumes} :
    from? own objects b (entry :: rest) = some b'
      ↔ ∃ source, entry.found? own objects = some source
        ∧ from? own objects (b.add entry own source) rest = some b' :=
  Option.bind_eq_some_iff

@[simp] theorem consumed_add (b : Bindings) (entry : Consumes) (own : String) (source : Secret) :
    (b.add entry own source).consumed = b.consumed ++ [entry.consumed own source] := rfl

/-- **Each service is among the bindings with its secret**, and no other is. -/
theorem mem_consumed_from? (h : from? own objects b entries = some b') (c : Consumed) :
    c ∈ b'.consumed ↔ c ∈ b.consumed ∨ ∃ entry ∈ entries, ∃ source,
      entry.found? own objects = some source ∧ c = entry.consumed own source := by
  induction entries generalizing b with
  | nil =>
    obtain rfl := Option.some.inj h
    simp
  | cons entry rest ih =>
    obtain ⟨source, hsource, hrest⟩ := from?_cons.1 h
    rw [ih hrest, consumed_add, List.mem_append, List.mem_singleton, or_assoc]
    refine or_congr_right ?_
    constructor
    · rintro (rfl | ⟨e, he, found, hfound, rfl⟩)
      · exact ⟨entry, List.mem_cons_self .., source, hsource, rfl⟩
      · exact ⟨e, List.mem_cons_of_mem _ he, found, hfound, rfl⟩
    · rintro ⟨e, he, found, hfound, rfl⟩
      rcases List.mem_cons.1 he with rfl | he
      · rw [hsource] at hfound
        exact .inl (congrArg _ (Option.some.inj hfound).symm)
      · exact .inr ⟨e, he, found, hfound, rfl⟩

/-- The names of the secrets are those of the services. -/
theorem map_secretName_from? (h : from? own objects b entries = some b') :
    b'.consumed.map (·.secretName)
      = b.consumed.map (·.secretName) ++ entries.map (·.secretName own) := by
  induction entries generalizing b with
  | nil =>
    obtain rfl := Option.some.inj h
    simp
  | cons entry rest ih =>
    obtain ⟨source, -, hrest⟩ := from?_cons.1 h
    rw [ih hrest, consumed_add]
    simp [Consumes.consumed]

/-- The secret of every service is there. -/
theorem found_of_from? (h : from? own objects b entries = some b') {entry : Consumes}
    (he : entry ∈ entries) : ∃ source, entry.found? own objects = some source := by
  induction entries generalizing b with
  | nil => simp at he
  | cons e rest ih =>
    obtain ⟨source, hsource, hrest⟩ := from?_cons.1 h
    rcases List.mem_cons.1 he with rfl | he
    · exact ⟨source, hsource⟩
    · exact ih hrest he

/-- **What is read is stored.** -/
theorem from?_of_read {s s' : Server} (h : (read own b entries).on s = (.ok b', s')) :
    from? own s.objects b entries = some b' := by
  induction entries generalizing b s with
  | nil => exact congrArg some (Except.ok.inj (Prod.mk.inj h).1)
  | cons entry rest ih =>
    obtain ⟨r, t, hlookUp, h⟩ := Access.on_bind_ok.1 h
    have hobjects : t.objects = s.objects := (Access.Reads.lookUp _ _ _).objects_of_on hlookUp
    rcases Access.lookUp_ok hlookUp with ⟨j, source, rfl, hj, hd⟩ | ⟨rfl, -⟩
    · refine from?_cons.2 ⟨source, ?_, ?_⟩
      · rw [Consumes.found?, hj, Option.bind_some, hd]
      · rw [← hobjects]
        exact ih h
    · simp at h

end Bindings

/-! ## What is copied

Copies are written one after the other, each under the name of its service's secret.
If a name comes up twice the second write finds the first, and what stands there at
the end is as the last one leaves it. What the ones before have done to it survives in
its owners and labels, but not in its contents. -/

namespace Access

variable {app : Application} {s s' : Server} {name : String}

/-- The secret that is copied to a name last, if any is. -/
def lastCopy? (name : String) : List Consumed → Option Secret
  | [] => none
  | c :: rest => (lastCopy? name rest).or (if c.secretName = name then c.copyFrom else none)

theorem mem_of_lastCopy? {consumed : List Consumed} {source : Secret}
    (h : lastCopy? name consumed = some source) :
    ∃ c ∈ consumed, c.secretName = name ∧ c.copyFrom = some source := by
  induction consumed with
  | nil => simp [lastCopy?] at h
  | cons c rest ih =>
    rcases Option.or_eq_some_iff.1 h with h | ⟨-, h⟩
    · obtain ⟨c', hc', hname, hcopy⟩ := ih h
      exact ⟨c', List.mem_cons_of_mem _ hc', hname, hcopy⟩
    · split at h
      · rename_i hname
        exact ⟨c, List.mem_cons_self .., hname, h⟩
      · simp at h

theorem lastCopy?_eq_none {consumed : List Consumed} : lastCopy? name consumed = none
    ↔ ∀ c ∈ consumed, c.secretName = name → c.copyFrom = none := by
  induction consumed with
  | nil => simp [lastCopy?]
  | cons c rest ih =>
    rw [lastCopy?, Option.or_eq_none_iff, ih, List.forall_mem_cons, and_comm]
    refine and_congr_left fun _ => ?_
    by_cases hname : c.secretName = name
    · simp [hname]
    · simp [hname]

theorem touches_copyOne (c : Consumed) :
    Touches (· = .of Secret app.metadata.nsOrEmpty c.secretName) (copyOne app c) := by
  unfold copyOne
  cases c.copyFrom with
  | none => exact touches_pure _
  | some source => exact (touches_write source.steady_copyOf.keeps).discard

/-- **Under each name stands the copy that was written there last**, and what
is not copied to stays. -/
theorem copyAll_ok {consumed : List Consumed}
    (h : (copyAll app consumed).on s = (.ok (), s')) (name : String) :
    match lastCopy? name consumed with
    | some source => ∃ existing child,
        desired app false app.metadata.nsOrEmpty name source.copyOf existing = .ok child
          ∧ Shows s'.objects Secret app.metadata.nsOrEmpty name (some child)
    | none => s'.objects.get? (.of Secret app.metadata.nsOrEmpty name)
        = s.objects.get? (.of Secret app.metadata.nsOrEmpty name) := by
  induction consumed generalizing s with
  | nil =>
    obtain ⟨-, rfl⟩ := Prod.mk.inj h
    rfl
  | cons c rest ih =>
    rw [copyAll_cons] at h
    obtain ⟨_, t, hone, hrest⟩ := on_bind_ok.1 h
    have hlater := ih hrest
    rw [lastCopy?]
    -- a later copy decides; this one counts where there is none
    cases hcopy : lastCopy? name rest with
    | some source =>
      rw [hcopy] at hlater
      exact hlater
    | none =>
      rw [hcopy] at hlater
      simp only at hlater
      rw [Option.none_or]
      by_cases hname : c.secretName = name
      · subst hname
        rw [if_pos rfl]
        unfold copyOne at hone
        cases hfrom : c.copyFrom with
        | none =>
          rw [hfrom] at hone
          obtain ⟨-, rfl⟩ := Prod.mk.inj hone
          exact hlater
        | some source =>
          rw [hfrom] at hone
          obtain ⟨outcome, hwrite⟩ := on_discard_ok.1 hone
          obtain ⟨existing, child, -, hdesired, hshows⟩ :=
            write_ok source.steady_copyOf.keeps hwrite
          exact ⟨existing, child, hdesired, hshows.congr hlater⟩
      · rw [if_neg hname]
        refine hlater.trans (Touches.get?_of_on (touches_copyOne c) hone fun hkey => hname ?_)
        exact (ObjectKey.of_eq_iff.1 hkey).2.2.symm

/-- Keeping the account touches the account. -/
theorem touches_account (app : Application) :
    Touches (· = .of ServiceAccount app.metadata.nsOrEmpty app.name) (account app) :=
  .ite (fun _ => (touches_write app.steady_account.keeps).discard)
    fun _ => touches_deleteOwn.discard

/-- Publishing touches the application's own secret. -/
theorem touches_publish :
    Touches (· = .of Secret app.metadata.nsOrEmpty app.bindingSecretName) (publish app) :=
  .ite (fun _ => .bind ((reads_credentials app).touches _) fun _ =>
    (touches_write (app.steady_bindingSecret _).keeps).discard) fun _ => touches_deleteOwn.discard

/-- Giving up secrets touches those secrets. -/
theorem touches_releaseAll (names : List String) :
    Touches (fun k => ∃ name ∈ names, k = .of Secret app.metadata.nsOrEmpty name)
      (releaseAll app names) := by
  induction names with
  | nil => exact touches_pure _
  | cons name rest ih =>
    refine .bind (touches_release.discard.mono ?_) fun _ => ih.mono ?_
    · rintro k rfl
      exact ⟨name, List.mem_cons_self .., rfl⟩
    · rintro k ⟨n, hn, rfl⟩
      exact ⟨n, List.mem_cons_of_mem _ hn, rfl⟩

theorem touches_copyAll (consumed : List Consumed) :
    Touches (fun k => ∃ c ∈ consumed, c.copyFrom.isSome = true
      ∧ k = .of Secret app.metadata.nsOrEmpty c.secretName) (copyAll app consumed) := by
  induction consumed with
  | nil => exact touches_pure _
  | cons c rest ih =>
    rw [copyAll_cons]
    refine .bind ?_ fun _ => ih.mono ?_
    · unfold copyOne
      cases hfrom : c.copyFrom with
      | none => exact touches_pure _
      | some source =>
        refine (touches_write source.steady_copyOf.keeps).discard.mono ?_
        rintro k rfl
        exact ⟨c, List.mem_cons_self .., by rw [hfrom]; rfl, rfl⟩
    · rintro k ⟨c', hc', hsome, rfl⟩
      exact ⟨c', List.mem_cons_of_mem _ hc', hsome, rfl⟩

end Access

/-! ## What the status lists

The status lists names under categories, and the operator reads it as one list. Each
service adds its secret's name to the list of its category, which may be there or not;
either way the names that are listed are those that were listed and the new one. -/

namespace Bindings

/-- Whether a name is listed under some category. -/
def Listed (services : Dict String (List String)) (name : String) : Prop :=
  ∃ category names, services.get? category = some names ∧ name ∈ names

theorem mem_values_flatten {services : Dict String (List String)} {name : String} :
    name ∈ services.values.flatten ↔ Listed services name := by
  rw [List.mem_flatten]
  constructor
  · rintro ⟨names, hnames, hname⟩
    obtain ⟨⟨category, _⟩, hentry, rfl⟩ := List.mem_map.1 hnames
    exact ⟨category, _, (Dict.mem_entries_iff services _ _).1 hentry, hname⟩
  · rintro ⟨category, names, hget, hname⟩
    have hentry := (Dict.mem_entries_iff services _ _).2 hget
    exact ⟨names, List.mem_map.2 ⟨(category, names), hentry, rfl⟩, hname⟩

/-- Listing one more name under a category. -/
theorem listed_insert {services : Dict String (List String)} {category added name : String} :
    Listed (services.insert category ((services.get? category).getD [] ++ [added])) name
      ↔ Listed services name ∨ name = added := by
  constructor
  · rintro ⟨c, names, hget, hname⟩
    rw [Dict.get?_insert] at hget
    split at hget
    · obtain rfl := Option.some.inj hget
      rcases List.mem_append.1 hname with hname | hname
      · cases hold : services.get? category with
        | none => simp [hold] at hname
        | some old => exact .inl ⟨category, old, hold, by simpa [hold] using hname⟩
      · exact .inr (List.mem_singleton.1 hname)
    · exact .inl ⟨c, names, hget, hname⟩
  · rintro (⟨c, names, hget, hname⟩ | rfl)
    · by_cases hc : c = category
      · subst hc
        refine ⟨c, _, Dict.get?_insert_self .., List.mem_append_left _ ?_⟩
        rw [hget]
        exact hname
      · exact ⟨c, names, by rw [Dict.get?_insert, if_neg hc, hget], hname⟩
    · exact ⟨category, _, Dict.get?_insert_self ..,
        List.mem_append_right _ (List.mem_singleton.2 rfl)⟩

/-- **The status lists the secrets of all services**, and no others. -/
theorem mem_values_consumedServices (b : Bindings) (name : String) :
    name ∈ (b.consumedServices.getD .empty).values.flatten
      ↔ name ∈ b.consumed.map (·.secretName) := by
  have hfold : ∀ (consumed : List Consumed) (services : Dict String (List String)),
      Listed (consumed.foldl (fun services c => services.insert c.category.word
        ((services.get? c.category.word).getD [] ++ [c.secretName])) services) name
        ↔ Listed services name ∨ name ∈ consumed.map (·.secretName) := by
    intro consumed
    induction consumed with
    | nil => simp
    | cons c rest ih =>
      intro services
      rw [List.foldl_cons, ih, listed_insert, or_assoc, List.map_cons, List.mem_cons]
  rw [mem_values_flatten, consumedServices]
  split
  · rename_i hempty
    rw [List.isEmpty_iff.1 hempty]
    simp [Listed]
  · rw [Option.getD_some, hfold]
    simp [Listed]

end Bindings

/-! ## What is used, copied and given up

Three lists of names, each a function of the specification, and the last of the status
as well. They are what the theorems about passes are stated with. That they describe
what a pass does is the content of this section: what is copied of what was read has
these names, and what is given up can be told before anything is read
(`Application.stale_eq`). -/

namespace Application

variable {app : Application} {objects : Dict ObjectKey Json} {b : Bindings}

/-- The names of the secrets that are used. -/
def usedSecrets (app : Application) : List String :=
  app.consumes.map (·.secretName app.metadata.nsOrEmpty)

/-- The names of the secrets that are copied. -/
def copiedSecrets (app : Application) : List String :=
  (app.consumes.filter fun entry =>
    entry.providerNs app.metadata.nsOrEmpty ≠ app.metadata.nsOrEmpty).map
      (·.secretName app.metadata.nsOrEmpty)

/-- The names of the secrets that a pass may give up. -/
def releasedSecrets (app : Application) (status : ApplicationStatus) : List String :=
  status.secretsInUse.filter fun name =>
    !app.usedSecrets.contains name && name ≠ app.bindingSecretName

/-- Copies are made for services that are used, of providers elsewhere. -/
theorem mem_copiedSecrets_iff {name : String} : name ∈ app.copiedSecrets ↔
    ∃ entry ∈ app.consumes, entry.providerNs app.metadata.nsOrEmpty ≠ app.metadata.nsOrEmpty
      ∧ entry.secretName app.metadata.nsOrEmpty = name := by
  unfold copiedSecrets
  simp only [List.mem_map, List.mem_filter, decide_eq_true_eq, and_assoc]

theorem mem_copiedSecrets {entry : Consumes} (he : entry ∈ app.consumes)
    (hother : entry.providerNs app.metadata.nsOrEmpty ≠ app.metadata.nsOrEmpty) :
    entry.secretName app.metadata.nsOrEmpty ∈ app.copiedSecrets :=
  mem_copiedSecrets_iff.2 ⟨entry, he, hother, rfl⟩

/-- What is copied is used. -/
theorem used_of_copied {name : String} (h : name ∈ app.copiedSecrets) : name ∈ app.usedSecrets := by
  obtain ⟨entry, he, -, rfl⟩ := mem_copiedSecrets_iff.1 h
  exact List.mem_map_of_mem he

/-- Where names are apart nothing is copied to the application's own. -/
theorem NamesApart.own_not_copied (h : app.NamesApart) :
    app.bindingSecretName ∉ app.copiedSecrets := fun hmem => by
  obtain ⟨entry, he, hother, hname⟩ := mem_copiedSecrets_iff.1 hmem
  exact h.ne_own he hother hname

/-- Where names are apart nothing is copied over what a provider of the same
namespace offers. -/
theorem NamesApart.local_not_copied (h : app.NamesApart) {entry : Consumes}
    (he : entry ∈ app.consumes) (hlocal : entry.providerNs app.metadata.nsOrEmpty
      = app.metadata.nsOrEmpty) :
    entry.secretName app.metadata.nsOrEmpty ∉ app.copiedSecrets := fun hmem => by
  obtain ⟨other, ho, hother, hname⟩ := mem_copiedSecrets_iff.1 hmem
  have hprovider := h.provider_eq ho he hname
  exact hother ((congrArg Prod.fst hprovider).trans hlocal)

/-- The application's own secret is not given up. -/
theorem own_not_released (app : Application) (status : ApplicationStatus) :
    app.bindingSecretName ∉ app.releasedSecrets status := fun hmem => by
  simpa using (List.mem_filter.1 hmem).2

/-- What is used is not given up. -/
theorem not_released_of_used (app : Application) {status : ApplicationStatus} {name : String}
    (h : name ∈ app.usedSecrets) : name ∉ app.releasedSecrets status := fun hmem => by
  have hunused := (List.mem_filter.1 hmem).2
  rw [List.contains_iff_mem.2 h] at hunused
  simp at hunused

/-- What was in use and is not given up is used, if it is not the own secret. -/
theorem used_of_listed (app : Application) {status : ApplicationStatus} {name : String}
    (h : name ∈ status.secretsInUse) (hname : name ≠ app.bindingSecretName)
    (hstays : name ∉ app.releasedSecrets status) : name ∈ app.usedSecrets := by
  refine Decidable.byContradiction fun hunused => hstays (List.mem_filter.2 ⟨h, ?_⟩)
  simp [hunused, hname]

/-- A secret that is copied is one of those that are to be copied, and is
copied from where it was found. -/
theorem copied_of_mem (h : Bindings.from? app.metadata.nsOrEmpty objects {} app.consumes = some b)
    {c : Consumed} (hc : c ∈ b.consumed) {source : Secret} (hfrom : c.copyFrom = some source) :
    ∃ entry ∈ app.consumes, entry.providerNs app.metadata.nsOrEmpty ≠ app.metadata.nsOrEmpty
      ∧ entry.found? app.metadata.nsOrEmpty objects = some source
      ∧ c.secretName = entry.secretName app.metadata.nsOrEmpty := by
  rcases (Bindings.mem_consumed_from? h c).1 hc with hnone | ⟨entry, he, found, hfound, rfl⟩
  · exact absurd hnone (List.not_mem_nil)
  · unfold Consumes.consumed at hfrom
    simp only at hfrom
    split at hfrom
    · simp at hfrom
    · rename_i hother
      obtain rfl := Option.some.inj hfrom
      exact ⟨entry, he, hother, hfound, rfl⟩

end Application

/-- Something is copied to a name exactly if it is one of those that are to
be copied to. -/
theorem Access.isSome_lastCopy? {app : Application} {objects : Dict ObjectKey Json} {b : Bindings}
    {name : String}
    (h : Bindings.from? app.metadata.nsOrEmpty objects {} app.consumes = some b) :
    (Access.lastCopy? name b.consumed).isSome = true ↔ name ∈ app.copiedSecrets := by
  constructor
  · intro hsome
    obtain ⟨source, hlast⟩ := Option.isSome_iff_exists.1 hsome
    obtain ⟨c, hc, rfl, hfrom⟩ := mem_of_lastCopy? hlast
    obtain ⟨entry, he, hother, -, hname⟩ := Application.copied_of_mem h hc hfrom
    exact hname ▸ Application.mem_copiedSecrets he hother
  · intro hcopied
    obtain ⟨entry, he, hother, rfl⟩ := Application.mem_copiedSecrets_iff.1 hcopied
    obtain ⟨source, hsource⟩ := Bindings.found_of_from? h he
    have hc : entry.consumed app.metadata.nsOrEmpty source ∈ b.consumed :=
      (Bindings.mem_consumed_from? h _).2 (.inr ⟨entry, he, source, hsource, rfl⟩)
    rw [Option.isSome_iff_ne_none]
    intro hnone
    have hno := lastCopy?_eq_none.1 hnone _ hc rfl
    unfold Consumes.consumed at hno
    simp [hother] at hno

namespace Application

variable {app : Application} {objects : Dict ObjectKey Json} {b : Bindings}

/-- What is given up is known before anything is read. -/
theorem stale_eq (status : ApplicationStatus)
    (h : Bindings.from? app.metadata.nsOrEmpty objects {} app.consumes = some b) :
    app.stale status b = app.releasedSecrets status := by
  have hnames : b.consumed.map (·.secretName) = app.usedSecrets := Bindings.map_secretName_from? h
  unfold stale releasedSecrets
  rw [hnames]

/-- After a pass nothing is to be given up. -/
theorem stale_noted (status : ApplicationStatus) (b : Bindings) :
    app.stale { status with consumedServices := b.consumedServices } b = [] := by
  unfold stale ApplicationStatus.secretsInUse
  rw [List.filter_eq_nil_iff]
  intro name hname
  have hused : (b.consumed.map (·.secretName)).contains name = true :=
    List.contains_iff_mem.2 ((b.mem_values_consumedServices name).1 hname)
  show ¬ ((!(b.consumed.map (·.secretName)).contains name && _) = true)
  rw [hused]
  exact Bool.false_ne_true

end Application

/-- Where names are apart, the copy that was written last to a name has the
only source that there is. -/
theorem Access.lastCopy?_of_namesApart {app : Application} {objects : Dict ObjectKey Json}
    {b : Bindings} (hnames : app.NamesApart)
    (h : Bindings.from? app.metadata.nsOrEmpty objects {} app.consumes = some b) {c : Consumed}
    (hc : c ∈ b.consumed) {source : Secret} (hfrom : c.copyFrom = some source) :
    Access.lastCopy? c.secretName b.consumed = some source := by
  cases hlast : Access.lastCopy? c.secretName b.consumed with
  | none =>
    rw [lastCopy?_eq_none.1 hlast c hc rfl] at hfrom
    simp at hfrom
  | some last =>
    obtain ⟨c', hc', hname, hfrom'⟩ := mem_of_lastCopy? hlast
    obtain ⟨entry, he, -, hfound, hsecret⟩ := app.copied_of_mem h hc hfrom
    obtain ⟨entry', he', -, hfound', hsecret'⟩ := app.copied_of_mem h hc' hfrom'
    have hprovider := hnames.provider_eq he he' (hsecret.symm.trans (hname.symm.trans hsecret'))
    rw [Consumes.found?_of_provider hprovider, hfound'] at hfound
    exact hfound

/-! ## The steps one after the other

What each step leaves alone, and then the stages in one statement
(`Pass.bindings_stages`). All that is said elsewhere of the secrets after a pass
starts from this statement, so that the code that brings them up to date is opened
here and nowhere else. -/

namespace Access

variable {app : Application} {s s' : Server} {ns name : String}

/-- Keeping the account leaves all secrets as they are. -/
theorem get?_secret_of_account {r : Except OperatorError Unit}
    (h : (account app).on s = (r, s')) (ns name : String) :
    s'.objects.get? (.of Secret ns name) = s.objects.get? (.of Secret ns name) :=
  (touches_account app).get?_of_on h fun hkey =>
    absurd (ObjectKey.of_eq_iff.1 hkey).1 (by decide)

/-- Publishing touches the application's own secret only. -/
theorem get?_of_publish {r : Except OperatorError Unit} (h : (publish app).on s = (r, s'))
    (hname : name ≠ app.bindingSecretName) (ns : String) :
    s'.objects.get? (.of Secret ns name) = s.objects.get? (.of Secret ns name) := by
  refine touches_publish.get?_of_on h fun hkey => hname ?_
  exact (ObjectKey.of_eq_iff.1 hkey).2.2

/-- Secrets that are not given up stay. -/
theorem get?_of_releaseAll {names : List String} {r : Except OperatorError Unit}
    (h : (releaseAll app names).on s = (r, s'))
    (hname : ns = app.metadata.nsOrEmpty → name ∉ names) :
    s'.objects.get? (.of Secret ns name) = s.objects.get? (.of Secret ns name) := by
  refine (touches_releaseAll names).get?_of_on h ?_
  rintro ⟨n, hn, he⟩
  obtain ⟨-, hns, rfl⟩ := ObjectKey.of_eq_iff.1 he
  exact hname hns hn

/-- Secrets that are not copied stay. -/
theorem get?_of_copyAll {objects : Dict ObjectKey Json} {b : Bindings}
    {r : Except OperatorError Unit}
    (hfrom : Bindings.from? app.metadata.nsOrEmpty objects {} app.consumes = some b)
    (h : (copyAll app b.consumed).on s = (r, s'))
    (hname : ns = app.metadata.nsOrEmpty → name ∉ app.copiedSecrets) :
    s'.objects.get? (.of Secret ns name) = s.objects.get? (.of Secret ns name) := by
  refine (touches_copyAll b.consumed).get?_of_on h ?_
  rintro ⟨c, hc, hsome, he⟩
  obtain ⟨-, hns, rfl⟩ := ObjectKey.of_eq_iff.1 he
  obtain ⟨source, hsource⟩ := Option.isSome_iff_exists.1 hsome
  obtain ⟨entry, hentry, hother, -, hsecret⟩ := Application.copied_of_mem hfrom hc hsource
  exact hname hns (hsecret ▸ Application.mem_copiedSecrets hentry hother)

end Access

/-- **The stages of bringing the secrets up to date**: what is read is what is
stored once the own secret is published, and what is given up is known. -/
theorem Pass.bindings_stages {app : Application} {status status' : ApplicationStatus}
    {s s' : Server} {b : Bindings} (h : (Pass.bindings app).on status s = (.ok b, status', s')) :
    ∃ s₁ s₂ s₃, (Access.publish app).on s = (.ok (), s₁) ∧ app.bindings.on s₁ = (.ok b, s₂)
      ∧ s₂.objects = s₁.objects
      ∧ Bindings.from? app.metadata.nsOrEmpty s₁.objects {} app.consumes = some b
      ∧ (Access.copyAll app b.consumed).on s₂ = (.ok (), s₃)
      ∧ (Access.releaseAll app (app.releasedSecrets status)).on s₃ = (.ok (), s')
      ∧ status' = { status with consumedServices := b.consumedServices } := by
  obtain ⟨s₁, s₂, s₃, hpublish, hread, hcopy, hrelease, hstatus⟩ := bindings_ok.1 h
  have hfrom : Bindings.from? app.metadata.nsOrEmpty s₁.objects {} app.consumes = some b :=
    Bindings.from?_of_read hread
  have hobjects : s₂.objects = s₁.objects := (Access.reads_bindings _ _ _).objects_of_on hread
  exact ⟨s₁, s₂, s₃, hpublish, hread, hobjects, hfrom, hcopy,
    Application.stale_eq status hfrom ▸ hrelease, hstatus⟩

end AppOperator
