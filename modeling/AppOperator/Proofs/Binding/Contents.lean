import AppOperator.Proofs.Binding.Secrets
import AppOperator.Proofs.Reconcile.Ownership
import AppOperator.Proofs.Shape.RoundTrip

/-!
# What the secrets of bindings hold

After a pass each secret that the application uses should hold what its
provider's secret holds, and the secret that it publishes should be its own.
As the names of secrets are not unique, neither holds in general, and this
module says exactly when they do: services of one secret name have to hold
the same, and no secret may be copied to the name of the application's own
(`Pass.bindings_exact`). Names that are apart are enough for both
(`Pass.bindings_of_namesApart`).

What is compared is the type and the data of a secret (`Secret.content?`),
which can be told of a stored object even where other parts of it, such as
its metadata, are not well formed.

The provider's secret is compared as the pass has read it. For services in the same
namespace nothing is copied, and the secret that is used is the provider's own; then
the statement says that the pass has not overwritten it.
-/

namespace AppOperator

/-! ## Fields of a table

A stored secret may be one that no longer reads as a secret, as when its metadata have
been spoilt by hand, and it still holds what it holds. So contents are read field by
field, without the rest of the object, and reading all of a table is reading each of
its fields (`Table.decode_optional`): where the whole can be read, both ways agree. -/

namespace Table

/-- The value of a field that may be unset. -/
def field? (name : String) (shape : Shape) (members : List (String × Json)) :
    Option (Option shape.Val) :=
  match Assoc.get? name members with
  | none => some none
  | some .null => some none
  | some j => (shape.decode j).map some

theorem field?_eq (name : String) (shape : Shape) (members : List (String × Json)) :
    field? name shape members = shape.decodeOption (Assoc.get? name members) := by
  unfold field?
  rcases Assoc.get? name members with _ | _ | _ <;> rfl

/-- **A table is read field by field.** -/
theorem decode_optional {name : String} {shape : Shape} {rest : Table}
    {members : List (String × Json)} {v : (Table.optional name shape rest).Val} :
    (Table.optional name shape rest).decode members = some v
      ↔ field? name shape members = some v.1 ∧ rest.decode members = some v.2 := by
  rw [field?_eq]
  exact decode_optional_eq_some_iff

end Table

/-! ## Contents

Data and type are what a copy takes over from its source, so they are what is
compared. The operator reads a secret in two ways, as a secret and as an object of any
type that is then read as one; by either way what it finds in the two fields is what
stands there. From here on, contents of stored objects and contents of secrets that
were read may be exchanged for one another. -/

namespace Secret

/-- **What a secret holds**: its data and its type. -/
def content (s : Secret) : Option (Dict String (List UInt8)) × Option String := (s.data, s.type)

/-- What a stored object holds as a secret. -/
def content? (j : Json) : Option (Option (Dict String (List UInt8)) × Option String) :=
  (Table.field? "data" (.map .bytes) j.members).bind fun data =>
    (Table.field? "type" .text j.members).map fun type => (data, type)

/-- What stands in a stored object for the data, the text and the type of a secret. -/
def Says (j : Json) (s : Secret) : Prop :=
  Table.field? "data" (.map .bytes) j.members = some s.data
    ∧ Table.field? "stringData" (.map .text) j.members = some s.stringData
    ∧ Table.field? "type" .text j.members = some s.type

theorem says_of_decode {j : Json} {s : Secret} (h : decode Secret j = some s) : Says j s := by
  obtain ⟨v, hv, rfl⟩ := Option.map_eq_some_iff.1 h
  cases j with
  | obj members =>
    change (if Style.admits _ members = true then _ else none) = some v at hv
    split at hv
    · obtain ⟨hdata, hrest⟩ := Table.decode_optional.1 (Table.decode_of_always hv)
      obtain ⟨htext, hrest⟩ := Table.decode_optional.1 hrest
      exact ⟨hdata, htext, (Table.decode_optional.1 hrest).1⟩
    · simp at hv
  | _ => exact absurd hv nofun

/-- So it is if the object is read as one of any type is. -/
theorem says_of_read? {j : Json} {s : Secret} (h : Access.read? Secret j = some s) : Says j s := by
  obtain ⟨object, hobject, hdecode⟩ := Option.bind_eq_some_iff.1 h
  have hsays := says_of_decode hdecode
  cases j with
  | obj members =>
    have hsame : ∀ {name : String} {shape : Shape}, name ∉ ["apiVersion", "kind", "metadata"] →
        Table.field? name shape object.members = Table.field? name shape members := by
      intro name shape hname
      simp only [List.mem_cons, List.not_mem_nil, or_false, not_or] at hname
      unfold Table.field?
      rw [show Assoc.get? name object.members = Assoc.get? name members from
        Access.get?_of_untyped? hobject hname.1 hname.2.1 hname.2.2]
    unfold Says at hsays
    rwa [hsame (by decide), hsame (by decide), hsame (by decide)] at hsays
  | _ => simp [Access.untyped?] at hobject

theorem Says.content? {j : Json} {s : Secret} (h : Says j s) : content? j = some s.content := by
  obtain ⟨hdata, -, htype⟩ := h
  unfold Secret.content?
  rw [hdata, Option.bind_some, htype]
  rfl

/-- **A secret that is read holds what stands there.** -/
theorem content?_of_decode {j : Json} {s : Secret} (h : decode Secret j = some s) :
    content? j = some s.content := (says_of_decode h).content?

/-- So does one that is read as an object of any type is. -/
theorem content?_of_read? {j : Json} {s : Secret} (h : Access.read? Secret j = some s) :
    content? j = some s.content := (says_of_read? h).content?

end Secret

/-! ## What is stored after a pass

Three steps of a pass can write under a name: publishing, copying, giving up. The last
is never about a name that is used, and the first is about the application's own; so
under the name of a secret that is used stands the copy that was made there last, or,
if none was made, what was there when the secrets were read.

Which copy was the last is told by the list of what is consumed, from its end
(`Access.lastCopy?`). It is here that providers of one secret name get in each other's
way. -/

/-- **A secret is stored that holds what another does.** -/
def Access.Holds (objects : Dict ObjectKey Json) (ns name : String) (source : Secret) : Prop :=
  ∃ j, objects.get? (.of Secret ns name) = some j ∧ Secret.content? j = some source.content

namespace Access

variable {app : Application} {objects objects' : Dict ObjectKey Json} {s s' : Server}
  {ns name : String} {source other : Secret}

theorem Holds.congr (h : Holds objects ns name source)
    (heq : objects'.get? (.of Secret ns name) = objects.get? (.of Secret ns name)) :
    Holds objects' ns name source := by
  obtain ⟨j, hj, hcontent⟩ := h
  exact ⟨j, heq.trans hj, hcontent⟩

/-- Of what is stored under one name all is said by one secret. -/
theorem Holds.content_eq (h : Holds objects ns name source) (h' : Holds objects ns name other) :
    source.content = other.content := by
  obtain ⟨j, hj, hcontent⟩ := h
  obtain ⟨j', hj', hcontent'⟩ := h'
  rw [hj] at hj'
  obtain rfl := Option.some.inj hj'
  exact Option.some.inj (hcontent.symm.trans hcontent')

theorem Holds.of_content_eq (h : Holds objects ns name source)
    (heq : source.content = other.content) : Holds objects ns name other := by
  obtain ⟨j, hj, hcontent⟩ := h
  exact ⟨j, hj, heq ▸ hcontent⟩

theorem Shows.holds (h : Shows objects Secret ns name (some source)) :
    Holds objects ns name source := by
  obtain ⟨j, hj, hread⟩ := shows_some.1 h
  exact ⟨j, hj, Secret.content?_of_read? hread⟩

/-- A copy holds what its source holds. -/
theorem content_of_copyOf {existing : Option Secret} {child : Secret}
    (h : desired app false ns name source.copyOf existing = .ok child) :
    child.content = source.content := by
  obtain ⟨m, -, rfl⟩ := desired_ok.1 h
  rfl

/-- **Under the name of a secret that is used stands what was copied there
last**, or what stood there when the secrets were read. -/
theorem holds_of_lastCopy? {b : Bindings} (hcopy : (copyAll app b.consumed).on s = (.ok (), s'))
    (hlast : lastCopy? name b.consumed = some source) :
    Holds s'.objects app.metadata.nsOrEmpty name source := by
  have hcopies := copyAll_ok hcopy name
  rw [hlast] at hcopies
  obtain ⟨existing, child, hdesired, hshows⟩ := hcopies
  exact hshows.holds.of_content_eq (content_of_copyOf hdesired)

/-- **What is published** is the application's own, with what it says of itself. -/
theorem publish_ok (hoffers : app.provides?.isSome = true)
    (h : (publish app).on s = (.ok (), s')) :
    ∃ credentials, (app.credentials.on s).1 = .ok credentials ∧ ∃ old,
      Shows s'.objects Secret app.metadata.nsOrEmpty app.bindingSecretName
          (some (app.bindingSecret (app.binding credentials) old))
        ∧ (app.bindingSecret (app.binding credentials) old).metadata.isControlledBy app = true := by
  unfold publish at h
  rw [if_pos hoffers] at h
  obtain ⟨credentials, t, hcredentials, h⟩ := on_bind_ok.1 h
  obtain ⟨outcome, hwrite⟩ := on_discard_ok.1 h
  obtain ⟨existing, secret, -, hdesired, hshows⟩ :=
    write_ok (app.steady_bindingSecret (app.binding credentials)).keeps hwrite
  have hcontrolled := isControlledBy_of_desired (app.steady_bindingSecret _).keeps hdesired
  obtain ⟨m, -, rfl⟩ := desired_ok.1 hdesired
  exact ⟨credentials, congrArg Prod.fst hcredentials, _, hshows, hcontrolled⟩

end Access

/-! ## When the secrets hold what they should

Two conditions on what is read and asked for, and two on what is stored afterwards,
one of each for the secrets that are used and for the secret that is published. For
the used ones both directions are immediate once it is known what stands under a name:
the last copy does hold its own source, so it holds all the others' exactly if these
are the same.

For the own secret the converse needs that the cluster is in order before, that is,
that nothing shared is controlled. What stands there after a copy was made is shared,
and a secret that is shared is not the one that is published, whatever it holds. -/

/-- **Services of one secret name hold the same**, by what is stored of their
providers' secrets. -/
def Application.SameWhereShared (app : Application) (objects : Dict ObjectKey Json) : Prop :=
  ∀ entry ∈ app.consumes, ∀ other ∈ app.consumes,
    entry.secretName app.metadata.nsOrEmpty = other.secretName app.metadata.nsOrEmpty →
    ∀ source source', entry.found? app.metadata.nsOrEmpty objects = some source →
      other.found? app.metadata.nsOrEmpty objects = some source' →
      source.content = source'.content

/-- **No secret is copied to the name of the application's own.** -/
def Application.OwnNameFree (app : Application) : Prop :=
  app.bindingSecretName ∉ app.copiedSecrets

/-- Each service's secret, as it was read, is held under its name. -/
def Application.UsedAsRead (app : Application) (read stored : Dict ObjectKey Json) : Prop :=
  ∀ entry ∈ app.consumes, ∃ source,
    entry.found? app.metadata.nsOrEmpty read = some source
      ∧ Access.Holds stored app.metadata.nsOrEmpty (entry.secretName app.metadata.nsOrEmpty) source

/-- The secret of the application's own name is the one that it publishes,
with the name and password that are asked for on some cluster. -/
def Application.OwnAsPublished (app : Application) (s : Server)
    (stored : Dict ObjectKey Json) : Prop :=
  ∃ credentials, (app.credentials.on s).1 = .ok credentials ∧ ∃ secret,
    Access.Shows stored Secret app.metadata.nsOrEmpty app.bindingSecretName (some secret)
      ∧ secret.metadata.isControlledBy app = true
      ∧ secret.data = some ((app.binding credentials).map Utf8.bytes)

namespace Pass

variable {app : Application} {status status' : ApplicationStatus} {s s' : Server} {b : Bindings}

theorem usedAsRead_iff (h : (Pass.bindings app).on status s = (.ok b, status', s')) :
    app.UsedAsRead ((Access.publish app).on s).2.objects s'.objects
      ↔ app.SameWhereShared ((Access.publish app).on s).2.objects := by
  obtain ⟨s₁, s₂, s₃, hpublish, -, hread₂, hfrom, hcopy, hrelease, -⟩ := bindings_stages h
  rw [hpublish]
  have hkept : ∀ entry ∈ app.consumes,
      s'.objects.get? (.of Secret app.metadata.nsOrEmpty (entry.secretName app.metadata.nsOrEmpty))
        = s₃.objects.get?
          (.of Secret app.metadata.nsOrEmpty (entry.secretName app.metadata.nsOrEmpty)) :=
    fun entry he => Access.get?_of_releaseAll hrelease fun _ =>
      app.not_released_of_used (List.mem_map_of_mem he)
  constructor
  · intro hused entry he other ho hname source source' hsource hsource'
    obtain ⟨found, hfound, hholds⟩ := hused entry he
    obtain ⟨found', hfound', hholds'⟩ := hused other ho
    obtain rfl := Option.some.inj (hsource.symm.trans hfound)
    obtain rfl := Option.some.inj (hsource'.symm.trans hfound')
    exact hholds.content_eq (hname ▸ hholds')
  · intro hshared entry he
    obtain ⟨source, hsource⟩ := Bindings.found_of_from? hfrom he
    refine ⟨source, hsource, ?_⟩
    cases hlast : Access.lastCopy? (entry.secretName app.metadata.nsOrEmpty) b.consumed with
    | some last =>
      obtain ⟨c, hc, hname, hcopied⟩ := Access.mem_of_lastCopy? hlast
      obtain ⟨other, ho, -, hfound, hsecret⟩ := Application.copied_of_mem hfrom hc hcopied
      exact ((Access.holds_of_lastCopy? hcopy hlast).congr (hkept entry he)).of_content_eq
        (hshared other ho entry he (hsecret.symm.trans hname) _ _ hfound hsource)
    | none =>
      -- nothing is copied there, so the provider is of the same namespace
      have hown : entry.providerNs app.metadata.nsOrEmpty = app.metadata.nsOrEmpty := by
        refine Decidable.byContradiction fun hother => ?_
        have hsome := (Access.isSome_lastCopy? hfrom).2 (Application.mem_copiedSecrets he hother)
        rw [hlast] at hsome
        simp at hsome
      have hcopies := Access.copyAll_ok hcopy (entry.secretName app.metadata.nsOrEmpty)
      rw [hlast] at hcopies
      obtain ⟨j, hj, hdecode⟩ := Option.bind_eq_some_iff.1 hsource
      refine ⟨j, ?_, Secret.content?_of_decode hdecode⟩
      rw [hkept entry he, hcopies, hread₂, ← hj, hown]

/-- What is published stays where nothing is copied to its name. -/
theorem published_of_free (hoffers : app.provides?.isSome = true) (hfree : app.OwnNameFree)
    (h : (Pass.bindings app).on status s = (.ok b, status', s')) :
    ∃ credentials, (app.credentials.on s).1 = .ok credentials ∧ ∃ old,
      Access.Shows s'.objects Secret app.metadata.nsOrEmpty app.bindingSecretName
          (some (app.bindingSecret (app.binding credentials) old))
        ∧ (app.bindingSecret (app.binding credentials) old).metadata.isControlledBy app = true := by
  obtain ⟨s₁, s₂, s₃, hpublish, -, hread₂, hfrom, hcopy, hrelease, -⟩ := bindings_stages h
  obtain ⟨credentials, hcredentials, old, hshows, hcontrolled⟩ := Access.publish_ok hoffers hpublish
  refine ⟨credentials, hcredentials, old, hshows.congr ?_, hcontrolled⟩
  rw [Access.get?_of_releaseAll hrelease fun _ => app.own_not_released status,
    Access.get?_of_copyAll hfrom hcopy fun _ => hfree, hread₂]

theorem ownAsPublished_of_free (hoffers : app.provides?.isSome = true) (hfree : app.OwnNameFree)
    (h : (Pass.bindings app).on status s = (.ok b, status', s')) :
    app.OwnAsPublished s s'.objects := by
  obtain ⟨credentials, hcredentials, old, hshows, hcontrolled⟩ := published_of_free hoffers hfree h
  exact ⟨credentials, hcredentials, _, hshows, hcontrolled, rfl⟩

/-- A cluster in order stays in order while the secrets are brought up to date. -/
theorem wellOwned_of_bindings (hs : s.WellOwned)
    (h : (Pass.bindings app).on status s = (.ok b, status', s')) : s'.WellOwned := by
  have halong := ((Access.admits_guarded app).secrets (fun _ => trivial) status).bindings s
  have hkeeps := halong.keeps hs fun t c hc ht => ht.after (hc ht).2
  rw [h] at hkeeps
  exact hkeeps

theorem free_of_ownAsPublished (hs : s.WellOwned)
    (h : (Pass.bindings app).on status s = (.ok b, status', s'))
    (hown : app.OwnAsPublished s s'.objects) : app.OwnNameFree := by
  intro hmem
  have hs' := wellOwned_of_bindings hs h
  obtain ⟨s₁, s₂, s₃, -, -, -, hfrom, hcopy, hrelease, -⟩ := bindings_stages h
  obtain ⟨-, -, secret, hshows, hcontrolled, -⟩ := hown
  obtain ⟨last, hlast⟩ := Option.isSome_iff_exists.1 ((Access.isSome_lastCopy? hfrom).2 hmem)
  have hcopies := Access.copyAll_ok hcopy app.bindingSecretName
  rw [hlast] at hcopies
  obtain ⟨existing, child, hdesired, hchild⟩ := hcopies
  have hkept : s'.objects.get? (.of Secret app.metadata.nsOrEmpty app.bindingSecretName)
      = s₃.objects.get? (.of Secret app.metadata.nsOrEmpty app.bindingSecretName) :=
    Access.get?_of_releaseAll hrelease fun _ => app.own_not_released status
  -- the secret that is shown is the copy, and copies are shared
  obtain rfl := Option.some.inj (hshows.unique (hchild.congr hkept))
  exact Access.not_isControlledBy_of_desired last.steady_copyOf.keeps hdesired (hshows.orderly hs')
    hcontrolled

/-- **Exactly when the secrets hold what they should** after they were brought
up to date. The secret of each service holds what was read of its provider if
and only if services of one secret name hold the same; and the secret of the
application's own name is the one that it publishes if no secret is copied to
that name, and on a cluster in order only then. -/
theorem bindings_exact (h : (Pass.bindings app).on status s = (.ok b, status', s')) :
    (app.UsedAsRead ((Access.publish app).on s).2.objects s'.objects
        ↔ app.SameWhereShared ((Access.publish app).on s).2.objects)
      ∧ (app.provides?.isSome = true →
        (app.OwnNameFree → app.OwnAsPublished s s'.objects)
          ∧ (s.WellOwned → app.OwnAsPublished s s'.objects → app.OwnNameFree)) :=
  ⟨usedAsRead_iff h, fun hoffers =>
    ⟨fun hfree => ownAsPublished_of_free hoffers hfree h, fun hs => free_of_ownAsPublished hs h⟩⟩

/-- So it is for an application that copies two secrets and publishes its own. -/
theorem bindings_exact_of_two_copies :
    let app : Application := .bound "shop" "web" "u1" true [("a", "x"), ("b", "y")]
    let s : Server := .offering [("a", "x"), ("b", "y")]
    ∃ b status' s', (Pass.bindings app).on default s = (.ok b, status', s') ∧
      (app.UsedAsRead ((Access.publish app).on s).2.objects s'.objects
          ↔ app.SameWhereShared ((Access.publish app).on s).2.objects)
        ∧ (app.provides?.isSome = true →
          (app.OwnNameFree → app.OwnAsPublished s s'.objects)
            ∧ (s.WellOwned → app.OwnAsPublished s s'.objects → app.OwnNameFree)) := by
  intro app s
  have hok : ((Pass.bindings app).on default s).1.isOk = true := by decide +kernel
  rcases hrun : (Pass.bindings app).on default s with ⟨r, status', s'⟩
  rw [hrun] at hok
  obtain ⟨b, rfl⟩ := Except.eq_ok_of_isOk hok
  exact ⟨b, status', s', rfl, bindings_exact hrun⟩

/-- **Names that are not apart lose a secret**: the application `b-c` in the
namespace `a` publishes `a-b-c`, and overwrites it with the secret of the
application `c` in the namespace `a-b`. -/
theorem not_ownAsPublished_of_dashes :
    let app : Application := .bound "a" "b-c" "u1" true [("a-b", "c")]
    let s : Server := .offering [("a-b", "c")]
    s.WellOwned ∧ app.provides?.isSome = true ∧
      ∃ b status' s', (Pass.bindings app).on default s = (.ok b, status', s')
        ∧ ¬ app.OwnAsPublished s s'.objects := by
  intro app s
  have hs : s.WellOwned := fun _ _ hj => Server.owners_offering _ _ _ hj ▸ List.Pairwise.nil
  have hok : ((Pass.bindings app).on default s).1.isOk = true := by decide +kernel
  rcases hrun : (Pass.bindings app).on default s with ⟨r, status', s'⟩
  rw [hrun] at hok
  obtain ⟨b, rfl⟩ := Except.eq_ok_of_isOk hok
  refine ⟨hs, rfl, b, status', s', rfl, fun hown => ?_⟩
  have hmem : app.bindingSecretName ∈ app.copiedSecrets := by decide +kernel
  exact free_of_ownAsPublished hs hrun hown hmem

/-- **Where names are apart, the secrets hold what they should.** -/
theorem bindings_of_namesApart (hnames : app.NamesApart)
    (h : (Pass.bindings app).on status s = (.ok b, status', s')) :
    app.UsedAsRead ((Access.publish app).on s).2.objects s'.objects
      ∧ (app.provides?.isSome = true → app.OwnAsPublished s s'.objects) := by
  refine ⟨(usedAsRead_iff h).2 fun entry he other ho hname source source' hs hs' => ?_,
    fun hoffers => ownAsPublished_of_free hoffers hnames.own_not_copied h⟩
  rw [Consumes.found?_of_provider (hnames.provider_eq he ho hname), hs'] at hs
  rw [Option.some.inj hs]

end Pass
end AppOperator
