import AppOperator.Proofs.Binding.Owned
import AppOperator.Proofs.Operator.Rounds

/-!
# Copies that are left behind

A copy that an application does not use any more should be given up. Which
copies these are is told from the stored status, but the status is stored
only after the copies were written, and it lists them only if all of them
were. A pass that is cut off between two copies leaves one that no status
lists, and so does one whose status cannot be stored; if the service is not
used any more when the next pass is made, the copy stays for good
(`orphan_of_refused_copy`).

Along all runs nothing else can go wrong (`orphans_iff`): once a pass has
brought the secrets up to date, no copy is left behind if and only if each
secret that the application owned before was listed, or is still used, or is
its own. After passes that all succeeded in that, and were recorded, this is
the case.
-/

namespace AppOperator

/-! ## Where secrets may be owned

An application may own a secret in two ways, and the name tells which: its own, which
it controls, or a copy of what a provider elsewhere offers. That the operator never
makes it an owner of anything else is an invariant of single calls, and it needs that
the names of the providers that ever play a part are apart, since otherwise a name
would not tell.

Which providers these are is a parameter. Specifications change along a run, and what
was used before may be used no more, so it is all that were ever named. -/

/-- **Whose the passes are**: what of an application stays while its
specification changes. -/
structure Identity where
  /-- The namespace. -/
  ns : String
  /-- The name. -/
  name : String
  /-- The identity. -/
  uid : String

namespace Identity

/-- Whether an application is the one that is meant. -/
def Of (id : Identity) (app : Application) : Prop :=
  app.metadata.nsOrEmpty = id.ns ∧ app.name = id.name ∧ app.metadata.uid = some id.uid

/-- The namespace and the name, by which others use what is offered. -/
def asProvider (id : Identity) : String × String := (id.ns, id.name)

/-- The name of the application's own secret. -/
def secretName (id : Identity) : String := Binding.secretName id.ns id.name

variable {id : Identity} {app : Application}

theorem Of.asProvider_eq (h : id.Of app) : app.asProvider = id.asProvider := by
  unfold Application.asProvider asProvider
  rw [h.1, h.2.1]

theorem Of.secretName_eq (h : id.Of app) : app.bindingSecretName = id.secretName := by
  unfold Application.bindingSecretName secretName
  rw [h.1, h.2.1]

end Identity

/-- **Providers whose secrets have different names.** -/
def Apart (known : String × String → Prop) : Prop :=
  ∀ p q, known p → known q → Binding.secretName p.1 p.2 = Binding.secretName q.1 q.2 → p = q

theorem Apart.namesApart {known : String × String → Prop} {app : Application} (h : Apart known)
    (hknown : ∀ p ∈ app.providers, known p) : app.NamesApart := fun p hp q hq =>
  h p q (hknown p hp) (hknown q hq)

instance (providers : List (String × String)) : Decidable (Apart (· ∈ providers)) :=
  decidable_of_iff (∀ p ∈ providers, ∀ q ∈ providers,
      Binding.secretName p.1 p.2 = Binding.secretName q.1 q.2 → p = q)
    ⟨fun h p q hp hq => h p hp q hq, fun h p hp q hq => h p q hp hq⟩

/-- **Secrets are owned where they should be**: of those in its namespace an
application owns its own, which it controls, and copies of what providers
elsewhere offer. -/
def InPlace (id : Identity) (known : String × String → Prop) (objects : Dict ObjectKey Json) :
    Prop :=
  ∀ name, Access.Owned objects id.ns id.uid name →
    (name = id.secretName ∧ Access.Controlled objects id.ns id.uid name)
      ∨ ∃ p, known p ∧ p.1 ≠ id.ns ∧ name = Binding.secretName p.1 p.2

namespace InPlace

variable {id : Identity} {known : String × String → Prop} {objects objects' : Dict ObjectKey Json}
  {s : Server} {name : String}

/-- What is owned is in place if all of it was there before. -/
theorem of_owned (h : InPlace id known objects)
    (heq : ∀ name, Access.Owned objects' id.ns id.uid name →
      objects'.get? (.of Secret id.ns name) = objects.get? (.of Secret id.ns name)) :
    InPlace id known objects' := by
  intro name howned
  refine (h name (howned.congr (heq name howned).symm)).imp_left ?_
  exact And.imp_right fun hcontrolled => hcontrolled.congr (heq name howned)

theorem insert (h : InPlace id known objects) {object : Json}
    (hobject : (∃ r ∈ object.owners, r.uid = id.uid) →
      (name = id.secretName ∧ ∃ r ∈ object.owners, r.uid = id.uid ∧ r.controls = true)
        ∨ ∃ p, known p ∧ p.1 ≠ id.ns ∧ name = Binding.secretName p.1 p.2) :
    InPlace id known (objects.insert (.of Secret id.ns name) object) := by
  intro n howned
  by_cases hn : n = name
  · subst hn
    have hget := Dict.get?_insert_self objects (.of Secret id.ns n) object
    obtain ⟨j, hj, hr⟩ := howned
    rw [hget] at hj
    obtain rfl := Option.some.inj hj
    exact (hobject hr).imp_left (And.imp_right fun hcontrols => ⟨_, hget, hcontrols⟩)
  · have hother : (objects.insert (.of Secret id.ns name) object).get? (.of Secret id.ns n)
        = objects.get? (.of Secret id.ns n) := by
      rw [Dict.get?_insert, if_neg fun hkey => hn (ObjectKey.of_eq_iff.1 hkey).2.2]
    refine (h n (howned.congr hother.symm)).imp_left ?_
    exact And.imp_right fun hcontrolled => hcontrolled.congr hother

theorem erase (h : InPlace id known objects) (name : String) :
    InPlace id known (objects.erase (.of Secret id.ns name)) := by
  refine h.of_owned fun n ⟨j, hj, _⟩ => ?_
  rw [Dict.get?_erase] at hj ⊢
  split at hj
  · simp at hj
  · rename_i hne
    rw [if_neg hne]

/-- Other objects than secrets do not matter. -/
theorem after_of_within (h : InPlace id known s.objects) {ns : String} {c : Call}
    (hc : c.Within fun k => ∃ type name, type ≠ objectType (α := Secret)
      ∧ k = .ofType type ns name) : InPlace id known (s.after c).objects := by
  refine h.of_owned fun n _ => Server.after_get?_of_ne fun hw hkey => ?_
  obtain ⟨type, name, hne, hk⟩ := hc hw _ hkey
  refine hne ?_
  obtain ⟨hversion, hkind, -, -⟩ := ObjectKey.mk.inj hk
  cases type
  cases hversion
  cases hkind
  rfl

end InPlace

/-! ## The calls of a pass

The invariant is one about calls, so it holds along a pass however it is cut off. It
is shown of each kind of call that a pass makes: publishing writes the own secret,
copying writes what it copies, giving up takes owners away, and all else does not touch
secrets. -/

namespace Access

variable {id : Identity} {known : String × String → Prop} {app : Application}
  {status : ApplicationStatus} {s : Server} {name : String}

/-- A call that leaves the secrets owned where they should be. -/
def KeepsInPlace (id : Identity) (known : String × String → Prop) (s : Server) (c : Call) : Prop :=
  InPlace id known s.objects → InPlace id known (s.after c).objects

theorem keepsInPlace_of_read (c : Call) (h : c.isWrite = false) : KeepsInPlace id known s c := by
  intro hs
  rw [Server.after_objects_of_read h]
  exact hs

theorem keepsInPlace_of_insert {c : Call} {object : Json}
    (hc : ∀ objects, c.apply objects = objects.insert (.of Secret id.ns name) object)
    (hobject : (∃ r ∈ object.owners, r.uid = id.uid) →
      (name = id.secretName ∧ ∃ r ∈ object.owners, r.uid = id.uid ∧ r.controls = true)
        ∨ ∃ p, known p ∧ p.1 ≠ id.ns ∧ name = Binding.secretName p.1 p.2) :
    KeepsInPlace id known s c := by
  intro hs
  rcases s.perform_cases c with ⟨-, -, ho⟩ | ⟨-, -, -, ho⟩
  · rw [ho]
    exact hs
  · rw [ho, hc]
    exact hs.insert hobject

theorem keepsInPlace_delete (name : String) :
    KeepsInPlace id known s (.delete (.of Secret id.ns name)) := by
  intro hs
  rcases s.perform_cases (.delete (.of Secret id.ns name)) with ⟨-, -, ho⟩ | ⟨-, -, -, ho⟩
  · rw [ho]
    exact hs
  · rw [ho]
    exact hs.erase name

/-- Writing a secret is in place if the name is one where the application may
own it. -/
theorem along_write_inPlace {controls : Bool} {update : Secret → Secret} (hid : id.Of app)
    (hu : Steady update)
    (hplace : (name = id.secretName ∧ controls = true)
      ∨ ∃ p, known p ∧ p.1 ≠ id.ns ∧ name = Binding.secretName p.1 p.2) :
    (write app controls name update).Along (KeepsInPlace id known) s := by
  have hchild : ∀ existing child,
      desired app controls app.metadata.nsOrEmpty name update existing = .ok child →
      (name = id.secretName
          ∧ ∃ r ∈ (encode child).owners, r.uid = id.uid ∧ r.controls = true)
        ∨ ∃ p, known p ∧ p.1 ≠ id.ns ∧ name = Binding.secretName p.1 p.2 := by
    intro existing child hdesired
    obtain ⟨-, -, r, hr, -, howners⟩ := metadata_of_desired hu.keeps hdesired
    obtain ⟨huid, hcontrols⟩ := Application.ownerReference_ok hr
    rw [hid.2.2] at huid
    refine hplace.imp_left fun ⟨hname, hc⟩ => ⟨hname, r, ?_, (Option.some.inj huid).symm, ?_⟩
    · rw [owners_encode, howners]
      exact OwnerReference.mem_upsert_self _ _
    · rw [hcontrols, hc]
  refine along_write hu.keeps (keepsInPlace_of_read _ rfl) (fun child hdesired => ?_)
    fun current child _ hdesired => ?_
  · exact keepsInPlace_of_insert (fun _ => by rw [hid.1]; rfl) fun _ => hchild _ child hdesired
  · exact keepsInPlace_of_insert (fun _ => by rw [hid.1]; rfl) fun _ => hchild _ child hdesired

/-- **Bringing the secrets up to date keeps them owned where they should be.** -/
theorem admitsSecrets_inPlace (hid : id.Of app) (hknown : ∀ p ∈ app.providers, known p) :
    AdmitsSecrets app status (KeepsInPlace id known) where
  read _ _ _ := keepsInPlace_of_read _ rfl
  publish data _ :=
    along_write_inPlace hid (app.steady_bindingSecret data) (.inl ⟨hid.secretName_eq, rfl⟩)
  unpublish _ := by
    refine along_deleteOwn (keepsInPlace_of_read _ rfl) fun _ _ _ => ?_
    rw [hid.1]
    exact keepsInPlace_delete _
  copy name hname source _ := by
    obtain ⟨entry, he, hother, rfl⟩ := Application.mem_copiedSecrets_iff.1 hname
    refine along_write_inPlace hid source.steady_copyOf (.inr
      ⟨entry.provider app.metadata.nsOrEmpty, hknown _ (Application.provider_mem he), ?_, rfl⟩)
    rw [← hid.1]
    exact hother
  release name _ _ := by
    refine along_release (keepsInPlace_of_read _ rfl) (fun _ _ _ _ _ => ?_)
      fun secret uid _ huid => ?_
    · rw [hid.1]
      exact keepsInPlace_delete _
    · refine keepsInPlace_of_insert (fun _ => by rw [hid.1]; rfl) ?_
      rintro ⟨r, hr, he⟩
      rw [hid.2.2] at huid
      rw [owners_encode, mapMetadata, ApiObject.metadata_withMetadata,
        ObjectMeta.owners_withoutOwner, List.mem_filter, he, Option.some.inj huid] at hr
      simp at hr

/-- So does all else that a pass does. -/
theorem admits_inPlace :
    Admits app (fun type _ => type ≠ objectType (α := Secret)) (KeepsInPlace id known) :=
  (admits_within app _).mono fun _ _ hc hs => hs.after_of_within hc

end Access

/-! ## Turns

A turn is a pass from some status, with what the cluster served at its time. Of the
turns that bring the secrets up to date it is known which secrets the application owns
afterwards (`Turn.owned_after_iff`): those that it copies, and those that it owned and
that the turn did not give up. To give up a secret, the stored status must list it.

A turn may bring the secrets up to date and fail later, when the application is run.
It makes no difference here, since nothing that comes later touches a secret. -/

/-- **No copy is left behind**: of the secrets in its namespace an application
owns only its own, if it offers a service, and copies for services that it uses. -/
def Application.NoOrphans (app : Application) (uid : String) (objects : Dict ObjectKey Json) :
    Prop :=
  ∀ name, Access.Owned objects app.metadata.nsOrEmpty uid name →
    (app.provides?.isSome = true ∧ name = app.bindingSecretName) ∨ name ∈ app.copiedSecrets

namespace Turn

variable {id : Identity} {known : String × String → Prop} {t : Turn} {s : Server}

/-- **The secrets were brought up to date** in a turn, whatever came of the
rest of it. -/
def Bound (t : Turn) (s : Server) : Prop :=
  ∃ s₁ b status s₂, (Access.account t.app).on s = (.ok (), s₁)
    ∧ (Pass.bindings t.app).on t.status s₁ = (.ok b, status, s₂)

/-- What is left of a turn is only to run the application. -/
theorem on_pass {s₁ s₂ : Server} {b : Bindings} {status : ApplicationStatus}
    (haccount : (Access.account t.app).on s = (.ok (), s₁))
    (hbindings : (Pass.bindings t.app).on t.status s₁ = (.ok b, status, s₂)) :
    t.noted s = status
      ∧ t.after s = ((Access.launch t.apis t.settings t.app b.wiring).on s₂).2 := by
  have hrun : t.pass.on t.status s
      = (((Access.launch t.apis t.settings t.app b.wiring).on s₂).1, status,
        ((Access.launch t.apis t.settings t.app b.wiring).on s₂).2) := by
    show (Pass.onCluster (Access.account t.app) >>= fun _ => Pass.bindings t.app >>= fun b =>
      Pass.onCluster (Access.launch t.apis t.settings t.app b.wiring)).on t.status s = _
    rw [Pass.on_bind, Pass.on_onCluster, haccount]
    simp only
    rw [Pass.on_bind, hbindings]
    exact Pass.on_onCluster _ _ _
  unfold noted after
  rw [hrun]
  exact ⟨rfl, rfl⟩

/-- Secrets are only touched when they are brought up to date. -/
theorem secrets_of_bound {s₁ s₂ : Server} {b : Bindings} {status : ApplicationStatus}
    (haccount : (Access.account t.app).on s = (.ok (), s₁))
    (hbindings : (Pass.bindings t.app).on t.status s₁ = (.ok b, status, s₂)) (ns name : String) :
    s₁.objects.get? (.of Secret ns name) = s.objects.get? (.of Secret ns name)
      ∧ (t.after s).objects.get? (.of Secret ns name) = s₂.objects.get? (.of Secret ns name) := by
  refine ⟨Access.get?_secret_of_account haccount ns name, ?_⟩
  rw [(on_pass haccount hbindings).2]
  exact Access.get?_secret_of_launch rfl ns name

/-- Whether the secrets were brought up to date can be told by doing it. -/
theorem bound_of_isOk (h : (((Access.account t.app).on s).1.isOk
      && ((Pass.bindings t.app).on t.status ((Access.account t.app).on s).2).1.isOk) = true) :
    t.Bound s := by
  obtain ⟨haccount, hbindings⟩ := Bool.and_eq_true_iff.1 h
  rcases hrun : (Access.account t.app).on s with ⟨r, s₁⟩
  rw [hrun] at haccount hbindings
  obtain ⟨⟨⟩, rfl⟩ := Except.eq_ok_of_isOk haccount
  rcases hrest : (Pass.bindings t.app).on t.status s₁ with ⟨r, status, s₂⟩
  rw [hrest] at hbindings
  obtain ⟨b, rfl⟩ := Except.eq_ok_of_isOk hbindings
  exact ⟨s₁, b, status, s₂, hrun, hrest⟩

/-- **A turn leaves the secrets owned where they should be**, however it ends. -/
theorem inPlace_after (hid : id.Of t.app) (hknown : ∀ p ∈ t.app.providers, known p)
    (h : InPlace id known s.objects) : InPlace id known (t.after s).objects := by
  have hsecrets : Access.AdmitsSecrets t.app t.status (Access.KeepsInPlace id known) :=
    Access.admitsSecrets_inPlace hid hknown
  have halong : t.pass.Along (Access.KeepsInPlace id known) t.status s :=
    Pass.along_children hsecrets Access.admits_inPlace Access.HasChild.ne_secret t.settings s
  exact halong.keeps (I := fun s => InPlace id known s.objects) h fun _ _ hc hs => hc hs

section Bound

variable (ht : s.Truthful) (hid : id.Of t.app) (hbound : t.Bound s)

include ht hid hbound

/-- **Whose the secrets are after a turn** that brought them up to date. -/
theorem owned_after_iff {name : String} (hname : name ≠ id.secretName) :
    Access.Owned (t.after s).objects id.ns id.uid name
      ↔ name ∈ t.app.copiedSecrets ∨ Access.Owned s.objects id.ns id.uid name
        ∧ name ∉ t.app.releasedSecrets t.status := by
  obtain ⟨s₁, b, status, s₂, haccount, hbindings⟩ := hbound
  obtain ⟨hbefore, hafter⟩ := secrets_of_bound haccount hbindings id.ns name
  have howned := Pass.owned_of_bindings (Access.truthful_of_on ht haccount) hid.2.2 hbindings
    (hid.secretName_eq ▸ hname)
  rw [hid.1] at howned
  rw [Access.owned_congr hafter, howned, Access.owned_congr hbefore]

/-- What an application that offers nothing owns under its own name it owned
before, and did not control. -/
theorem owned_own_after (hfree : id.secretName ∉ t.app.copiedSecrets)
    (hoffers : t.app.provides?.isSome = false)
    (howned : Access.Owned (t.after s).objects id.ns id.uid id.secretName) :
    Access.Owned s.objects id.ns id.uid id.secretName
      ∧ ¬ Access.Controlled s.objects id.ns id.uid id.secretName := by
  obtain ⟨s₁, b, status, s₂, haccount, hbindings⟩ := hbound
  obtain ⟨hbefore, hafter⟩ := secrets_of_bound haccount hbindings id.ns id.secretName
  rw [Access.owned_congr hafter] at howned
  rw [← hid.secretName_eq] at hfree howned hbefore ⊢
  rw [← hid.1] at howned hbefore ⊢
  obtain ⟨hold, huncontrolled⟩ := Pass.owned_own_of_bindings (Access.truthful_of_on ht haccount)
    hid.2.2 hbindings hoffers hfree howned
  exact ⟨(Access.owned_congr hbefore).1 hold, fun h => huncontrolled (h.congr hbefore)⟩

end Bound

section InPlace

variable (hplace : InPlace id known s.objects) (hapart : Apart known) (hid : id.Of t.app)
  (hknown : ∀ p ∈ t.app.providers, known p)

include hplace hapart hid hknown

/-- What an application owns under its own name is not a copy, so it goes
away with what it offers. -/
theorem offers_of_owned_own (ht : s.Truthful) (hbound : t.Bound s)
    (howned : Access.Owned (t.after s).objects id.ns id.uid id.secretName) :
    t.app.provides?.isSome = true := by
  have hfree : id.secretName ∉ t.app.copiedSecrets :=
    hid.secretName_eq ▸ (hapart.namesApart hknown).own_not_copied
  refine Bool.of_not_eq_false fun hoffers => ?_
  obtain ⟨hold, huncontrolled⟩ := owned_own_after ht hid hbound hfree hoffers howned
  rcases hplace _ hold with ⟨-, hcontrolled⟩ | ⟨p, hp, hother, hname⟩
  · exact huncontrolled hcontrolled
  · have hown : id.asProvider ∈ t.app.providers := hid.asProvider_eq ▸ List.mem_cons_self ..
    exact hother (congrArg Prod.fst (hapart _ _ (hknown _ hown) hp hname)).symm

/-- What is owned and used is copied, as it is a copy from elsewhere. -/
theorem copied_of_used {name : String} (howned : Access.Owned s.objects id.ns id.uid name)
    (hname : name ≠ id.secretName) (hused : name ∈ t.app.usedSecrets) :
    name ∈ t.app.copiedSecrets := by
  obtain ⟨entry, he, rfl⟩ := List.mem_map.1 hused
  rcases hplace _ howned with ⟨hself, -⟩ | ⟨p, hp, hother, hsecret⟩
  · exact absurd hself hname
  · have hprovider := hapart _ _ (hknown _ (Application.provider_mem he)) hp hsecret
    refine Application.mem_copiedSecrets he fun hlocal => hother ?_
    rw [← hprovider, ← hid.1]
    exact hlocal

/-- **Exactly when a turn leaves no copy behind**, of all that bring the
secrets up to date. -/
theorem noOrphans_iff (ht : s.Truthful) (hbound : t.Bound s) :
    t.app.NoOrphans id.uid (t.after s).objects
      ↔ ∀ name, Access.Owned s.objects id.ns id.uid name →
        name = id.secretName ∨ name ∈ t.app.copiedSecrets ∨ name ∈ t.status.secretsInUse := by
  unfold Application.NoOrphans
  rw [hid.1, hid.secretName_eq]
  constructor
  · intro hno name howned
    by_cases hname : name = id.secretName
    · exact .inl hname
    by_cases hlisted : name ∈ t.status.secretsInUse
    · exact .inr (.inr hlisted)
    -- what no status lists is not given up
    have hkept := (owned_after_iff ht hid hbound hname).2
      (.inr ⟨howned, fun hmem => hlisted (List.mem_filter.1 hmem).1⟩)
    rcases hno name hkept with ⟨-, hself⟩ | hcopied
    · exact .inl hself
    · exact .inr (.inl hcopied)
  · intro hall name howned
    by_cases hname : name = id.secretName
    · subst hname
      exact .inl ⟨offers_of_owned_own hplace hapart hid hknown ht hbound howned, rfl⟩
    refine .inr ?_
    rcases (owned_after_iff ht hid hbound hname).1 howned with hcopied | ⟨hold, hstays⟩
    · exact hcopied
    rcases hall name hold with hself | hcopied | hlisted
    · exact absurd hself hname
    · exact hcopied
    · -- what is listed and not given up is used
      refine copied_of_used hplace hapart hid hknown hold hname ?_
      exact t.app.used_of_listed hlisted (hid.secretName_eq ▸ hname) hstays

end InPlace

end Turn

/-! ## Rounds

A round is a turn with what comes before and after: finding out what is wanted only
reads, and at the end a status is stored, if it can be. Neither touches a secret. So what holds of turns holds of rounds, with the status that
the round was given. -/

namespace Round

variable {id : Identity} {known : String × String → Prop} {r : Round} {t : Turn} {s s₁ : Server}

/-- **The secrets were brought up to date** in a round, whatever came of the
rest of it. -/
def Bound (r : Round) (s : Server) : Prop := ∃ t s₁, r.turn? s = some (t, s₁) ∧ t.Bound s₁

/-- Whether the secrets were brought up to date can be told by doing it. -/
theorem bound_of_any (h : ((r.turn? s).any fun turn =>
      ((Access.account turn.1.app).on turn.2).1.isOk
        && ((Pass.bindings turn.1.app).on turn.1.status
          ((Access.account turn.1.app).on turn.2).2).1.isOk) = true) : r.Bound s := by
  obtain ⟨⟨t, s₁⟩, hturn, hok⟩ := (Option.any_eq_true _ _).1 h
  exact ⟨t, s₁, hturn, Turn.bound_of_isOk hok⟩

/-- So can which providers are meant. -/
theorem known_of_all {providers : List (String × String)}
    (h : ((r.turn? s).all fun turn => turn.1.app.providers.all (· ∈ providers)) = true) :
    ∀ t s₁, r.turn? s = some (t, s₁) → ∀ p ∈ t.app.providers, p ∈ providers := by
  intro t s₁ hturn p hp
  rw [hturn] at h
  exact of_decide_eq_true (List.all_eq_true.1 h p hp)

/-- An application does not lie where a secret does. -/
theorem secret_ne_application {ns name : String} {app : Application} :
    ObjectKey.of Secret ns name ≠ Access.keyOfApplication app := fun hkey =>
  absurd (ObjectKey.of_eq_iff.1 hkey).1 (by decide)

theorem of_turn (hid : id.Of r.app) (h : r.turn? s = some (t, s₁)) : id.Of t.app := by
  have hmetadata := (turn_frame h).2.2.1
  unfold Identity.Of Application.name at hid ⊢
  rw [hmetadata]
  exact hid

theorem truthful_after (r : Round) (h : s.Truthful) : (r.after s).Truthful :=
  h.congr (r.refuse_after s)

theorem truthful_turn (hs : s.Truthful) (h : r.turn? s = some (t, s₁)) : s₁.Truthful :=
  hs.congr (turn_frame h).2.1

/-- **A round leaves the secrets owned where they should be**, however it ends. -/
theorem inPlace_after (hid : id.Of r.app)
    (hknown : ∀ t s₁, r.turn? s = some (t, s₁) → ∀ p ∈ t.app.providers, known p)
    (h : InPlace id known s.objects) : InPlace id known (r.after s).objects := by
  cases hturn : r.turn? s with
  | none => exact h.of_owned fun _ _ => get?_after_of_none secret_ne_application hturn
  | some turn =>
    obtain ⟨t, s₁⟩ := turn
    rw [← (turn_frame hturn).1] at h
    refine (t.inPlace_after (of_turn hid hturn) (hknown t s₁ hturn) h).of_owned fun _ _ => ?_
    exact get?_after secret_ne_application hturn

/-- **Exactly when a round leaves no copy behind**, of all that bring the
secrets up to date. -/
theorem noOrphans_iff (ht : s.Truthful) (hplace : InPlace id known s.objects)
    (hapart : Apart known) (hid : id.Of r.app) (hturn : r.turn? s = some (t, s₁))
    (hknown : ∀ p ∈ t.app.providers, known p) (hbound : t.Bound s₁) :
    t.app.NoOrphans id.uid (r.after s).objects
      ↔ ∀ name, Access.Owned s.objects id.ns id.uid name →
        name = id.secretName ∨ name ∈ t.app.copiedSecrets ∨ name ∈ r.status.secretsInUse := by
  obtain ⟨hobjects, -, -, hstatus⟩ := turn_frame hturn
  have hlisted : t.status.secretsInUse = r.status.secretsInUse := by
    unfold ApplicationStatus.secretsInUse
    rw [hstatus]
  rw [← hobjects, ← hlisted, ← Turn.noOrphans_iff (hobjects ▸ hplace) hapart (of_turn hid hturn)
    hknown (truthful_turn ht hturn) hbound]
  refine forall_congr' fun name => imp_congr_left (Access.owned_congr ?_)
  exact get?_after secret_ne_application hturn

end Round

/-! ## Runs

A run says only what is relevant to the secrets that the application owns. Between
rounds others may do what they like, as long as these stay; and what is carried from
one round to the next is the list of names in the stored status, which a round that
could not store its status leaves as it was.

In a run that is smooth nothing of this kind happens, and then what is owned is
listed. Such runs are why the fault is rarely seen. -/

theorem Server.not_owned_offering (providers : List (String × String)) {ns uid : String}
    (name : String) : ¬ Access.Owned (Server.offering providers).objects ns uid name := by
  rintro ⟨j, hj, r, hr, -⟩
  rw [Server.owners_offering providers _ _ hj] at hr
  simp at hr

/-- **What a run of rounds for an application comes to**: the cluster, and what
the stored status lists. It starts where the application owns no secret and
has no status. Between rounds anything may change but the secrets that the
application owns; each round starts from the status that was stored last, and
its own is stored, or is not. In a `smooth` run it always is, and the secrets
were always brought up to date. -/
inductive Reached (id : Identity) (known : String × String → Prop) (smooth : Bool) :
    Server → Option (Dict String (List String)) → Prop
  | start {s : Server} (truthful : s.Truthful)
      (free : ∀ name, ¬ Access.Owned s.objects id.ns id.uid name) : Reached id known smooth s none
  | meanwhile {s s' : Server} {listed : Option (Dict String (List String))}
      (run : Reached id known smooth s listed) (truthful : s'.Truthful)
      (same : ∀ name, Access.Owned s.objects id.ns id.uid name
          ∨ Access.Owned s'.objects id.ns id.uid name →
        s'.objects.get? (.of Secret id.ns name) = s.objects.get? (.of Secret id.ns name)) :
      Reached id known smooth s' listed
  | round {s : Server} {listed : Option (Dict String (List String))}
      (run : Reached id known smooth s listed) (r : Round) (hid : id.Of r.app)
      (hlisted : r.status.consumedServices = listed)
      (hknown : ∀ t s₁, r.turn? s = some (t, s₁) → ∀ p ∈ t.app.providers, known p)
      (hsmooth : smooth = true → r.recorded s = true ∧ r.Bound s) :
      Reached id known smooth (r.after s)
        (if r.recorded s then (r.noted s).consumedServices else listed)

namespace Reached

variable {id : Identity} {known : String × String → Prop} {smooth : Bool} {s : Server}
  {listed : Option (Dict String (List String))}

theorem truthful (h : Reached id known smooth s listed) : s.Truthful := by
  induction h with
  | start truthful _ => exact truthful
  | meanwhile _ truthful _ _ => exact truthful
  | round _ r _ _ _ _ ih => exact r.truthful_after ih

/-- **Along all runs secrets are owned where they should be.** -/
theorem inPlace (h : Reached id known smooth s listed) : InPlace id known s.objects := by
  induction h with
  | start _ free => exact fun name howned => absurd howned (free name)
  | meanwhile _ _ same ih => exact ih.of_owned fun name howned => same name (.inr howned)
  | round _ r hid _ hknown _ ih => exact r.inPlace_after hid hknown ih

/-- In a smooth run all that is owned is listed, but the application's own. -/
theorem accounted (hapart : Apart known) (h : Reached id known true s listed) :
    ∀ name, Access.Owned s.objects id.ns id.uid name →
      name = id.secretName ∨ name ∈ (listed.getD .empty).values.flatten := by
  generalize hsmooth : true = smooth at h
  induction h with
  | start _ free => exact fun name howned => absurd howned (free name)
  | meanwhile _ _ same ih =>
    exact fun name howned => ih name (howned.congr (same name (.inr howned)).symm)
  | @round s listed run r hid hlisted hknown hround ih =>
    subst hlisted
    obtain ⟨hrecorded, t, s₁, hturn, hbound⟩ := hround hsmooth.symm
    have hno := (Round.noOrphans_iff run.truthful run.inPlace hapart hid hturn (hknown t s₁ hturn)
      hbound).2 fun name howned => (ih name howned).imp_right .inr
    have hnoted : r.noted s = t.noted s₁ := by
      unfold Round.noted
      rw [hturn]
    have hown := Round.of_turn hid hturn
    -- the round leaves nothing behind, so what is owned now is its own or copied
    intro name howned
    rcases hno name (hown.1 ▸ howned) with ⟨-, hself⟩ | hcopied
    · exact .inl (hself.trans hown.secretName_eq)
    · -- What is copied now is listed by the status that was recorded.
      obtain ⟨s₂, b, status, s₃, haccount, hbindings⟩ := hbound
      obtain ⟨_, _, _, -, -, -, hfrom, -, -, rfl⟩ := Pass.bindings_stages hbindings
      rw [if_pos hrecorded, hnoted, (Turn.on_pass haccount hbindings).1]
      refine .inr ((b.mem_values_consumedServices name).2 ?_)
      rw [Bindings.map_secretName_from? hfrom]
      exact List.mem_append_right _ (Application.used_of_copied hcopied)

end Reached

/-- **Exactly when copies are left behind.** After each round of a run that
brought the secrets up to date no copy is left behind if and only if each
secret that the application owned before is its own, or is copied now, or was
listed by the stored status; and in a smooth run this is always so. -/
theorem orphans_iff {id : Identity} {known : String × String → Prop} {smooth : Bool} {s : Server}
    {listed : Option (Dict String (List String))} (hapart : Apart known)
    (hrun : Reached id known smooth s listed) {r : Round} (hid : id.Of r.app)
    (hlisted : r.status.consumedServices = listed) {t : Turn} {s₁ : Server}
    (hturn : r.turn? s = some (t, s₁)) (hknown : ∀ p ∈ t.app.providers, known p)
    (hbound : t.Bound s₁) :
    (t.app.NoOrphans id.uid (r.after s).objects
        ↔ ∀ name, Access.Owned s.objects id.ns id.uid name →
          name = id.secretName ∨ name ∈ t.app.copiedSecrets ∨ name ∈ r.status.secretsInUse)
      ∧ (smooth = true → t.app.NoOrphans id.uid (r.after s).objects) := by
  have hexact := Round.noOrphans_iff hrun.truthful hrun.inPlace hapart hid hturn hknown hbound
  refine ⟨hexact, ?_⟩
  rintro rfl
  subst hlisted
  exact hexact.2 fun name howned => (hrun.accounted hapart name howned).imp_right .inr

/-- The cluster that keeps an application besides what some applications offer. -/
def Server.keeping (app : Application) (providers : List (String × String)) : Server :=
  { offering providers with
    objects := (offering providers).objects.insert (Access.keyOfApplication app) (encode app) }

theorem Server.open_keeping (app : Application) (providers : List (String × String)) :
    (keeping app providers).Open := fun _ _ => rfl

theorem Server.not_owned_keeping (app : Application) (providers : List (String × String))
    {ns uid : String} (name : String) :
    ¬ Access.Owned (keeping app providers).objects ns uid name := by
  refine fun howned => not_owned_offering providers name (howned.congr ?_)
  exact ((Dict.get?_insert ..).trans (if_neg Round.secret_ne_application)).symm

/-- The round for an application at the beginning of time. -/
def Application.round (app : Application) : Round := ⟨{ config := {} }, app, ⟨0, 0, 0, default⟩⟩

/-- So it is where an application has copied two secrets, and then uses only
one of the services. -/
theorem orphans_iff_of_service_given_up :
    let app : Application := .bound "shop" "web" "u1" false [("a", "x"), ("b", "y")]
    let s : Server := .keeping app [("a", "x"), ("b", "y")]
    let left : Application :=
      { Application.bound "shop" "web" "u1" false [("b", "y")] with
        status := some (app.round.noted s) }
    ∃ t s₁, left.round.turn? (app.round.after s) = some (t, s₁)
      ∧ t.app.NoOrphans "u1" (left.round.after (app.round.after s)).objects := by
  intro app s left
  let known := [("shop", "web"), ("a", "x"), ("b", "y")]
  let id : Identity := ⟨"shop", "web", "u1"⟩
  have hapart : Apart (· ∈ known) := by decide
  have hrun : Reached id (· ∈ known) true (app.round.after s) _ :=
    .round (.start (Server.open_keeping _ _).truthful (Server.not_owned_keeping _ _)) app.round
      ⟨rfl, rfl, rfl⟩ rfl (Round.known_of_all (by decide +kernel))
      fun _ => ⟨by decide +kernel, Round.bound_of_any (by decide +kernel)⟩
  obtain ⟨t, s₁, hturn, hbound⟩ :=
    (Round.bound_of_any (by decide +kernel) : left.round.Bound (app.round.after s))
  refine ⟨t, s₁, hturn, ?_⟩
  have hid : id.Of left.round.app := ⟨rfl, rfl, rfl⟩
  exact (orphans_iff hapart hrun hid (by decide +kernel) hturn
    (Round.known_of_all (by decide +kernel) t s₁ hturn) hbound).2 rfl

/-- **A copy can be left behind.** Where the second of two copies cannot be
made, no status lists the first; and if its service is not used any more, the
next round does all that it has to do, and the copy stays. -/
theorem orphan_of_refused_copy :
    let known := [("shop", "web"), ("a", "x"), ("b", "y")]
    let id : Identity := ⟨"shop", "web", "u1"⟩
    let app : Application := .bound "shop" "web" "u1" false [("a", "x"), ("b", "y")]
    let s : Server := (Server.keeping app [("a", "x"), ("b", "y")]).interrupted 15
    let left : Application :=
      { Application.bound "shop" "web" "u1" false [("b", "y")] with
        status := some (app.round.noted s) }
    Apart (· ∈ known) ∧ Reached id (· ∈ known) false (app.round.after s) none
      ∧ id.Of left ∧ left.round.status.consumedServices = none
      ∧ ∃ t s₁, left.round.turn? (app.round.after s) = some (t, s₁)
        ∧ (∀ p ∈ t.app.providers, p ∈ known) ∧ t.Bound s₁
        ∧ ¬ t.app.NoOrphans "u1" (left.round.after (app.round.after s)).objects := by
  intro known id app s left
  have hfree : ∀ name, ¬ Access.Owned s.objects "shop" "u1" name :=
    Server.not_owned_keeping app [("a", "x"), ("b", "y")]
  have hrun : Reached id (· ∈ known) false (app.round.after s) none := by
    -- the second copy is refused, and the status is stored without the first
    have hround : Reached id (· ∈ known) false (app.round.after s)
        (if app.round.recorded s then (app.round.noted s).consumedServices else none) :=
      .round (.start (Server.truthful_interrupted _ _) hfree) app.round ⟨rfl, rfl, rfl⟩ rfl
        (Round.known_of_all (by decide +kernel)) (by simp)
    rwa [show (if app.round.recorded s then (app.round.noted s).consumedServices else none) = none
      by decide +kernel] at hround
  obtain ⟨t, s₁, hturn, hbound⟩ :=
    (Round.bound_of_any (by decide +kernel) : left.round.Bound (app.round.after s))
  have hknown := Round.known_of_all (by decide +kernel : ((left.round.turn? (app.round.after s)).all
    fun turn => turn.1.app.providers.all (· ∈ known)) = true) t s₁ hturn
  have hid : id.Of left.round.app := ⟨rfl, rfl, rfl⟩
  refine ⟨by decide, hrun, hid, by decide +kernel, t, s₁, hturn, hknown, hbound, ?_⟩
  have hunused : ((left.round.turn? (app.round.after s)).all fun turn =>
      turn.1.app.provides?.isNone && !turn.1.app.copiedSecrets.contains "a-x") = true := by
    decide +kernel
  have howned : Access.Owned (left.round.after (app.round.after s)).objects "shop" "u1" "a-x" := by
    decide +kernel
  rw [hturn] at hunused
  obtain ⟨hoffers, hcopied⟩ := Bool.and_eq_true_iff.1 hunused
  -- the copy is owned still, and neither of the reasons for which it might be is given
  intro hno
  rcases hno "a-x" ((Round.of_turn hid hturn).1 ▸ howned) with ⟨hsome, -⟩ | hmem
  · rw [Option.isNone_iff_eq_none.1 hoffers] at hsome
    simp at hsome
  · rw [List.contains_iff_mem.2 hmem] at hcopied
    simp at hcopied

end AppOperator
