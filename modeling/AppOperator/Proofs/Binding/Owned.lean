import AppOperator.Proofs.Reconcile.Ownership

/-!
# Whose the secrets are after a pass

Copies of secrets are shared, so what counts of them is who is among their
owners. Bringing the secrets up to date adds the application to the owners of
each copy that it needs and takes it away from those that it gives up, and of
all others it changes nothing (`Pass.owned_of_bindings`). The application's
own secret is controlled by it, and goes away with what it offers
(`Pass.owned_own_of_bindings`).

Whether a secret is owned is read off the stored object and not off the secret that it
decodes to, like its contents. It can be decided, so that a statement about all names
can be checked on a given cluster by going through those that are stored.
-/

namespace AppOperator

namespace Access

variable {objects objects' : Dict ObjectKey Json} {ns uid name : String}

/-- **A secret is owned by an identity** that is among its owners. -/
def Owned (objects : Dict ObjectKey Json) (ns uid name : String) : Prop :=
  ∃ j, objects.get? (.of Secret ns name) = some j ∧ ∃ r ∈ j.owners, r.uid = uid

/-- A secret is controlled by an identity. -/
def Controlled (objects : Dict ObjectKey Json) (ns uid name : String) : Prop :=
  ∃ j, objects.get? (.of Secret ns name) = some j ∧ ∃ r ∈ j.owners, r.uid = uid ∧ r.controls = true

instance : Decidable (Owned objects ns uid name) :=
  decidable_of_iff (∃ j ∈ objects.get? (.of Secret ns name), ∃ r ∈ j.owners, r.uid = uid) Iff.rfl

theorem Owned.congr (h : Owned objects ns uid name)
    (heq : objects'.get? (.of Secret ns name) = objects.get? (.of Secret ns name)) :
    Owned objects' ns uid name := by
  obtain ⟨j, hj, hr⟩ := h
  exact ⟨j, heq.trans hj, hr⟩

theorem owned_congr
    (heq : objects'.get? (.of Secret ns name) = objects.get? (.of Secret ns name)) :
    Owned objects' ns uid name ↔ Owned objects ns uid name :=
  ⟨fun h => h.congr heq.symm, fun h => h.congr heq⟩

theorem Controlled.congr (h : Controlled objects ns uid name)
    (heq : objects'.get? (.of Secret ns name) = objects.get? (.of Secret ns name)) :
    Controlled objects' ns uid name := by
  obtain ⟨j, hj, hr⟩ := h
  exact ⟨j, heq.trans hj, hr⟩

theorem owned_of_shows {existing : Option Secret}
    (hshows : Shows objects Secret ns name existing) :
    Owned objects ns uid name ↔ ∃ secret ∈ existing, secret.metadata.OwnedBy uid := by
  cases existing with
  | none =>
    refine ⟨fun ⟨j, hj, _⟩ => ?_, fun ⟨_, hnone, _⟩ => by simp at hnone⟩
    rw [shows_none.1 hshows] at hj
    simp at hj
  | some secret =>
    obtain ⟨j, hj, hread⟩ := shows_some.1 hshows
    have howners : j.owners = secret.metadata.owners := owners_of_read? hread
    constructor
    · rintro ⟨j', hj', hr⟩
      rw [hj] at hj'
      obtain rfl := Option.some.inj hj'
      rw [howners] at hr
      exact ⟨secret, rfl, hr⟩
    · rintro ⟨_, hsome, hr⟩
      obtain rfl := Option.some.inj hsome
      refine ⟨j, hj, ?_⟩
      rw [howners]
      exact hr

theorem controlled_of_shows {secret : Secret} {app : Application}
    (hshows : Shows objects Secret ns name (some secret)) (huid : app.metadata.uid = some uid) :
    Controlled objects ns uid name ↔ secret.metadata.isControlledBy app = true := by
  obtain ⟨j, hj, hread⟩ := shows_some.1 hshows
  have howners : j.owners = secret.metadata.owners := owners_of_read? hread
  rw [ObjectMeta.isControlledBy_iff huid, Controlled, hj]
  simp only [Option.some.injEq, exists_eq_left', howners]

end Access

/-! ## The steps

Copying adds, giving up takes away, and neither does anything to the ownership of
secrets that are not named. That is so on any cluster for copying; a cluster that
pretends that a secret is absent would make giving it up a success that does nothing,
hence the condition that it be truthful. -/

namespace Access

variable {app : Application} {s s' : Server} {uid name : String}

/-- The child that is to be stored is owned by the application. -/
theorem ownedBy_of_desired {controls : Bool} {ns : String} {update : Secret → Secret}
    {existing : Option Secret} {child : Secret} (hu : Steady update)
    (huid : app.metadata.uid = some uid)
    (h : desired app controls ns name update existing = .ok child) :
    child.metadata.OwnedBy uid := by
  obtain ⟨-, -, r, hr, -, howners⟩ := metadata_of_desired hu.keeps h
  have hr := (Application.ownerReference_ok hr).1
  rw [huid] at hr
  refine ⟨r, ?_, (Option.some.inj hr).symm⟩
  exact howners ▸ OwnerReference.mem_upsert_self _ _

/-- **Copying makes the application an owner of what it copies.** -/
theorem owned_of_copyAll {objects : Dict ObjectKey Json} {b : Bindings}
    (huid : app.metadata.uid = some uid)
    (hfrom : Bindings.from? app.metadata.nsOrEmpty objects {} app.consumes = some b)
    (h : (copyAll app b.consumed).on s = (.ok (), s')) :
    Owned s'.objects app.metadata.nsOrEmpty uid name
      ↔ name ∈ app.copiedSecrets ∨ Owned s.objects app.metadata.nsOrEmpty uid name := by
  have hcopies := copyAll_ok h name
  by_cases hcopied : name ∈ app.copiedSecrets
  · obtain ⟨source, hlast⟩ := Option.isSome_iff_exists.1 ((isSome_lastCopy? hfrom).2 hcopied)
    rw [hlast] at hcopies
    obtain ⟨existing, child, hdesired, hshows⟩ := hcopies
    refine iff_of_true ((owned_of_shows hshows).2 ⟨child, rfl, ?_⟩) (.inl hcopied)
    exact ownedBy_of_desired source.steady_copyOf huid hdesired
  · rw [owned_congr (get?_of_copyAll hfrom h fun _ => hcopied)]
    exact (or_iff_right hcopied).symm

/-- **Giving up secrets takes the application away from their owners.** -/
theorem owned_of_releaseAll (ht : s.Truthful) (huid : app.metadata.uid = some uid)
    {names : List String} (h : (releaseAll app names).on s = (.ok (), s')) :
    Owned s'.objects app.metadata.nsOrEmpty uid name
      ↔ Owned s.objects app.metadata.nsOrEmpty uid name ∧ name ∉ names := by
  induction names generalizing s with
  | nil =>
    obtain ⟨-, rfl⟩ := Prod.mk.inj h
    simp
  | cons first rest ih =>
    obtain ⟨_, t, hfirst, hrest⟩ := on_bind_ok.1 h
    obtain ⟨removed, hrelease⟩ := on_discard_ok.1 hfirst
    rw [ih (truthful_of_on ht hrelease) hrest, List.mem_cons, not_or]
    by_cases hname : name = first
    · subst hname
      obtain ⟨existing, -, hshows⟩ := release_ok ht huid hrelease
      refine iff_of_false (fun howned => ?_) fun hboth => hboth.2.1 rfl
      obtain ⟨left, hleft, hby⟩ := (owned_of_shows hshows).1 howned.1
      obtain ⟨child, -, hgiven⟩ := Option.bind_eq_some_iff.1 hleft
      exact not_ownedBy_of_givenUp hgiven hby
    · rw [owned_congr (touches_release.get?_of_on hrelease fun hkey =>
        hname (ObjectKey.of_eq_iff.1 hkey).2.2)]
      exact and_congr_right fun _ => (and_iff_right hname).symm

/-- Nothing is controlled by an application that offers nothing any more. -/
theorem owned_own_of_unpublish (ht : s.Truthful) (huid : app.metadata.uid = some uid)
    (hoffers : app.provides?.isSome = false) (h : (publish app).on s = (.ok (), s'))
    (howned : Owned s'.objects app.metadata.nsOrEmpty uid app.bindingSecretName) :
    Owned s.objects app.metadata.nsOrEmpty uid app.bindingSecretName
      ∧ ¬ Controlled s.objects app.metadata.nsOrEmpty uid app.bindingSecretName := by
  unfold publish at h
  rw [hoffers] at h
  obtain ⟨removed, hremove⟩ := on_discard_ok.1 h
  obtain ⟨existing, hbefore, hafter⟩ := deleteOwn_ok ht hremove
  obtain ⟨secret, hkept, hby⟩ := (owned_of_shows hafter).1 howned
  obtain ⟨hsecret, hfree⟩ := Option.filter_eq_some_iff.1 hkept
  subst hsecret
  refine ⟨(owned_of_shows hbefore).2 ⟨secret, rfl, hby⟩, fun hcontrolled => ?_⟩
  have hcontrols : (metadata secret).isControlledBy app = true :=
    (controlled_of_shows hbefore huid).1 hcontrolled
  rw [hcontrols] at hfree
  simp at hfree

end Access

/-! ## Altogether

The three steps in order. The names that are copied and those that are given up have
nothing in common, as what is given up is not used; so it does not matter for the
result that one is done before the other. -/

namespace Pass

variable {app : Application} {status status' : ApplicationStatus} {s s' : Server} {b : Bindings}
  {uid name : String}

/-- **Whose the secrets are** once they were brought up to date: the
application's are those that are copied, and those that it owned before and
did not give up. -/
theorem owned_of_bindings (ht : s.Truthful) (huid : app.metadata.uid = some uid)
    (h : (Pass.bindings app).on status s = (.ok b, status', s'))
    (hname : name ≠ app.bindingSecretName) :
    Access.Owned s'.objects app.metadata.nsOrEmpty uid name
      ↔ name ∈ app.copiedSecrets
        ∨ Access.Owned s.objects app.metadata.nsOrEmpty uid name
          ∧ name ∉ app.releasedSecrets status := by
  obtain ⟨s₁, s₂, s₃, hpublish, hread, hobjects, hfrom, hcopy, hrelease, -⟩ := bindings_stages h
  have ht₂ := Access.truthful_of_on (Access.truthful_of_on ht hpublish) hread
  have ht₃ := Access.truthful_of_on ht₂ hcopy
  rw [Access.owned_of_releaseAll ht₃ huid hrelease, Access.owned_of_copyAll huid hfrom hcopy,
    hobjects, Access.owned_congr (Access.get?_of_publish hpublish hname _), or_and_right]
  refine or_congr_left (and_iff_left_of_imp fun hcopied => ?_)
  exact app.not_released_of_used (Application.used_of_copied hcopied)

/-- **The application's own secret** goes away with what it offers, if the
application controlled it and nothing is copied there. -/
theorem owned_own_of_bindings (ht : s.Truthful) (huid : app.metadata.uid = some uid)
    (h : (Pass.bindings app).on status s = (.ok b, status', s'))
    (hoffers : app.provides?.isSome = false) (hfree : app.bindingSecretName ∉ app.copiedSecrets)
    (howned : Access.Owned s'.objects app.metadata.nsOrEmpty uid app.bindingSecretName) :
    Access.Owned s.objects app.metadata.nsOrEmpty uid app.bindingSecretName
      ∧ ¬ Access.Controlled s.objects app.metadata.nsOrEmpty uid app.bindingSecretName := by
  obtain ⟨s₁, s₂, s₃, hpublish, -, hobjects, hfrom, hcopy, hrelease, -⟩ := bindings_stages h
  refine Access.owned_own_of_unpublish ht huid hoffers hpublish (howned.congr ?_)
  rw [Access.get?_of_releaseAll hrelease fun _ => app.own_not_released status,
    Access.get?_of_copyAll hfrom hcopy fun _ => hfree, hobjects]

end Pass

end AppOperator
