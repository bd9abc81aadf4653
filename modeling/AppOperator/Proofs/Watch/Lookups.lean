import AppOperator.Proofs.Cluster.Settling
import AppOperator.Reconcile.Children
import AppOperator.Reconcile.Preparation
import AppOperator.Watch.Dependents

/-!
# What is looked up for an application

Which objects a pass reads of others depends on the cluster: where one secret is
missing the reading ends, and what would have come next is not read. So an
object counts as looked up if it is read on some cluster
(`Application.LooksUpSecret`, `Application.LooksUpStream`).

What is looked up in this sense are the references of the specification
(`Application.secretRefs`, `Application.streamRef?`), each of them and nothing
else. That nothing else is read holds along every run. That each reference is
read takes a cluster on which everything before it succeeds, and one on which
all referred secrets are stored will do (`Server.holding`).

The watches ask another question, whether a changed object concerns an
application, by traversals of their own; on one specification they come to the
same references (`Application.dependsOnSecret_iff`,
`Application.dependsOnStream_iff`).
-/

namespace AppOperator

/-! ## The calls of a run

Whether a computation makes a certain call depends on the answers that come before it.
The lemmas follow how computations are built: what comes first is made in any case,
and what comes next only where the first part has succeeded, on the cluster that it
has left. -/

namespace Dialogue

variable {α β : Type} {P : Server → Call → Prop} {c : Call}

/-- **Whether a dialogue makes a call**, held with a cluster. -/
def Makes (c : Call) : Dialogue α → Server → Prop
  | .done _, _ => False
  | .call made next, s => made = c ∨ (next (s.perform made).1).Makes c (s.after made)

theorem makes_bind (first : Dialogue α) (next : α → Dialogue β) (s : Server) :
    (first >>= next).Makes c s
      ↔ first.Makes c s ∨ (next (first.on s).1).Makes c (first.on s).2 := by
  induction first generalizing s with
  | done a => exact (false_or _).symm.to_iff
  | call made rest ih =>
    show (made = c ∨ (rest _ >>= next).Makes c _) ↔ (made = c ∨ (rest _).Makes c _) ∨ _
    rw [ih, or_assoc]
    exact Iff.rfl

/-- A call that is made is admissible where all calls are. -/
theorem Along.of_makes {d : Dialogue α} {s : Server} (h : d.Along P s) (hc : d.Makes c s) :
    ∃ t, P t c := by
  induction d generalizing s with
  | done a => exact hc.elim
  | call made rest ih =>
    rcases hc with rfl | hrest
    · exact ⟨s, h.1⟩
    · exact ih _ h.2 hrest

end Dialogue

namespace Access

variable {α β : Type} {P : Server → Call → Prop} {c : Call} {s s' : Server}

/-- **Whether a computation makes a call** on a cluster. -/
def Makes (c : Call) (act : Access α) (s : Server) : Prop := act.run.Makes c s

theorem Makes.of_first {first : Access α} {next : α → Access β} (h : first.Makes c s) :
    (first >>= next).Makes c s :=
  (Dialogue.makes_bind first.run _ s).2 (.inl h)

/-- What comes next makes its calls if what comes first succeeds. -/
theorem Makes.of_next {first : Access α} {next : α → Access β} {a : α}
    (hfirst : first.on s = (.ok a, s')) (h : (next a).Makes c s') :
    (first >>= next).Makes c s := by
  refine (Dialogue.makes_bind first.run _ s).2 (.inr ?_)
  obtain ⟨hr, hs⟩ := Prod.mk.inj hfirst
  rw [show (first.run.on s).1 = .ok a from hr, show (first.run.on s).2 = s' from hs]
  exact h

variable [ApiObject α] {ns name : String}

/-- To look something up is to read it. -/
theorem makes_lookUp (s : Server) :
    (lookUp α ns name).Makes (.get (.of α ns name)) s :=
  .of_first (.of_first (.inl rfl))

theorem makes_find (s : Server) : (find α ns name).Makes (.get (.of α ns name)) s :=
  .of_first (.of_first (.of_first (.inl rfl)))

/-- To look something up is to read nothing else. -/
theorem along_lookUp (h : P s (.get (.of α ns name))) : (lookUp α ns name).Along P s := by
  refine along_bind (along_get h) fun r s' _ => ?_
  cases r with
  | none => exact along_pure _
  | some j =>
    dsimp only
    cases decode α j with
    | some a => exact along_pure _
    | none => exact along_throw _

end Access

/-! ## A cluster with everything that is referred to

To show that a reference is read it takes a cluster on which nothing goes wrong before
it. One secret, with the right keys in it, is stored under all names that are asked
for, so that every reading succeeds; that different names hold the same does not
matter. -/

/-- A cluster in which the same object is stored under some keys. -/
def Server.holding (object : Json) (keys : List ObjectKey) : Server :=
  { objects := keys.foldl (fun objects key => objects.insert key object) .empty }

namespace Server

variable {object : Json} {keys : List ObjectKey}

theorem open_holding : (holding object keys).Open := fun _ _ => rfl

theorem get?_holding {key : ObjectKey} (h : key ∈ keys) :
    (holding object keys).objects.get? key = some object := by
  -- what is stored stays stored, since the object is the same under each key
  have keep : ∀ (keys : List ObjectKey) (objects : Dict ObjectKey Json),
      (key ∈ keys ∨ objects.get? key = some object) →
      (keys.foldl (fun objects key => objects.insert key object) objects).get? key
        = some object := by
    intro keys
    induction keys with
    | nil => exact fun objects h => h.resolve_left List.not_mem_nil
    | cons first rest ih =>
      intro objects h
      refine ih _ ?_
      rcases h with hmem | hstored
      · rcases List.mem_cons.1 hmem with rfl | hrest
        · exact .inr (Dict.get?_insert_self ..)
        · exact .inl hrest
      · refine .inr ?_
        rw [Dict.get?_insert]
        split
        · rfl
        · exact hstored
  exact keep keys .empty (.inl h)

end Server

/-- A secret that is stored as it was written is looked up as it was written. -/
theorem Access.lookUp_secret {s : Server} (h : s.Open) {ns name : String} {secret : Secret}
    (hstored : s.objects.get? (.of Secret ns name) = some (encode secret)) :
    (lookUp Secret ns name).on s = (.ok (some secret), s.after (.get (.of Secret ns name))) :=
  lookUp_on_open h (by rw [hstored, Option.map_some, decode_encode, Option.map_some])

/-! ## References

References are a list that is computed from the specification, and they are the middle
term between two questions: what a reconcile may read, and whom a change concerns. The
watches answer the second by a traversal for each kind of reference, which is shown to
look for membership in this list. -/

namespace Application

variable (app : Application) {ns name : String}

/-- **The secrets that an application refers to**, by namespace and name: those
of the services that it uses, those with its name and password, and the one with
its certificates. -/
def secretRefs : List (String × String) :=
  let own := app.metadata.nsOrEmpty
  app.consumes.map (fun entry => (entry.providerNs own, entry.secretName own))
    ++ (app.authSelectors.filterMap (·.name) ++ app.certificateName?.toList).map (own, ·)

/-- **The image stream that an application refers to**, by namespace and name. -/
def streamRef? : Option (String × String) := app.imageReference?.map fun r => (r.ns, r.name)

theorem mem_secretRefs : (ns, name) ∈ app.secretRefs ↔
    (∃ entry ∈ app.consumes, entry.providerNs app.metadata.nsOrEmpty = ns
        ∧ entry.secretName app.metadata.nsOrEmpty = name)
      ∨ app.metadata.nsOrEmpty = ns
        ∧ ((∃ selector ∈ app.authSelectors, selector.name = some name)
          ∨ app.certificateName? = some name) := by
  unfold secretRefs
  simp only [List.mem_append, List.mem_map, List.mem_filterMap, Option.mem_toList, Prod.mk.injEq]
  refine or_congr_right ⟨?_, fun ⟨hown, h⟩ => ⟨name, h, hown, rfl⟩⟩
  rintro ⟨_, h, hown, rfl⟩
  exact ⟨hown, h⟩

/-- **A secret concerns an application if it is referred to.** -/
theorem dependsOnSecret_iff {own : String} (hns : app.ns? = some own) :
    app.dependsOnSecret ns name = true ↔ (ns, name) ∈ app.secretRefs := by
  have hown : app.metadata.nsOrEmpty = own := congrArg (·.getD "") hns
  rw [mem_secretRefs]
  unfold dependsOnSecret usesBinding namesSecret
  simp [hns, hown]

/-- **An image stream concerns an application if it is referred to.** -/
theorem dependsOnStream_iff :
    app.dependsOnStream ns name = true ↔ app.streamRef? = some (ns, name) := by
  unfold dependsOnStream streamRef? imageReference?
  cases ImageReference.parse? app.spec.applicationImage app.metadata.nsOrEmpty with
  | none => simp
  | some r => simp [and_comm]

/-! ## What is looked up

The two directions are different in kind. That nothing else is read is a law along
every run. That each reference is read is an existence statement, and the cluster in
it depends on the reference: the password is read only where the name could be read
before. -/

/-- **A secret that is looked up for an application**: some cluster makes the
pass read it, for the name and password, for the services that are used or for
the certificates. -/
def LooksUpSecret (ns name : String) : Prop :=
  ∃ s, app.credentials.Makes (.get (.of Secret ns name)) s
    ∨ app.bindings.Makes (.get (.of Secret ns name)) s
    ∨ (Access.certificates app).Makes (.get (.of Secret ns name)) s

/-- Whether a secret is looked up for an application where some objects are
stored, by a cluster that refuses nothing. -/
def ReadsSecret (objects : Dict ObjectKey Json) (ns name : String) : Prop :=
  app.credentials.Makes (.get (.of Secret ns name)) { objects }
    ∨ app.bindings.Makes (.get (.of Secret ns name)) { objects }
    ∨ (Access.certificates app).Makes (.get (.of Secret ns name)) { objects }

/-- **An image stream that is looked up for an application** on some cluster. -/
def LooksUpStream (apis : ClusterApis) (ns name : String) : Prop :=
  ∃ s, (Access.resolveImage apis app).Makes (.get (.of ImageStream ns name)) s

end Application

namespace Access

variable {P : Server → Call → Prop} {s : Server} {own ns name : String}

/-! ### Nothing else is read -/

/-- Reading one key of a secret is to read the secret. -/
theorem along_readKey {selector : Option SecretKey}
    (h : ∀ key ∈ selector, ∀ s, P s (.get (.of Secret own (key.name.getD "")))) :
    (Credentials.readKey own selector).Along P s := by
  unfold Credentials.readKey
  cases selector with
  | none => exact along_pure _
  | some selector =>
    refine along_bind (along_lookUp (h selector rfl s)) fun r s' _ => ?_
    cases r with
    | none => exact along_ite (fun _ => along_pure _) fun _ => along_throw _
    | some secret =>
      dsimp only
      cases secret.text? selector.key with
      | some text => exact along_pure _
      | none => exact along_ite (fun _ => along_pure _) fun _ => along_throw _

/-- For the name and password the secrets of their selectors are read. -/
theorem along_credentials {app : Application}
    (h : ∀ key ∈ app.authSelectors, ∀ s,
      P s (.get (.of Secret app.metadata.nsOrEmpty (key.name.getD "")))) :
    app.credentials.Along P s := by
  unfold Application.authSelectors at h
  unfold Application.credentials
  cases hauth : app.provides?.bind (·.auth) with
  | none => exact along_pure _
  | some auth =>
    rw [hauth] at h
    simp only [List.mem_append, Option.mem_toList] at h
    refine along_bind (along_readKey fun key hkey => h key (.inl hkey)) fun _ _ _ => ?_
    exact along_bind (along_readKey fun key hkey => h key (.inr hkey)) fun _ _ _ => along_pure _

/-- For the services that are used their providers' secrets are read. -/
theorem along_read {entries : List Consumes} (b : Bindings)
    (h : ∀ entry ∈ entries, ∀ s,
      P s (.get (.of Secret (entry.providerNs own) (entry.secretName own)))) :
    (Bindings.read own b entries).Along P s := by
  induction entries generalizing b s with
  | nil => exact along_pure _
  | cons entry rest ih =>
    refine along_bind (along_lookUp (h entry List.mem_cons_self s)) fun r s' _ => ?_
    cases r with
    | none => exact along_throw _
    | some source => exact ih _ fun e he => h e (List.mem_cons_of_mem _ he)

/-- For the certificates their secret is read, if it is named. -/
theorem along_certificates {app : Application}
    (h : ∀ name, app.certificateName? = some name → ∀ s,
      P s (.get (.of Secret app.metadata.nsOrEmpty name))) :
    (certificates app).Along P s := by
  unfold certificates
  cases hname : Application.filled (app.spec.route.bind (·.certificateSecretRef)) with
  | none => exact along_pure _
  | some name =>
    refine along_bind (along_lookUp (h name (Option.filter_eq_some_iff.1 hname).1 s))
      fun r s' _ => ?_
    cases r with
    | none => exact along_throw _
    | some secret => exact along_pure _

/-! ### Each reference is read -/

/-- Where the secrets of all providers are stored, all of them are read. -/
theorem makes_read {entries : List Consumes} (b : Bindings) (hopen : s.Open) {secret : Secret}
    (hstored : ∀ entry ∈ entries, s.objects.get?
      (.of Secret (entry.providerNs own) (entry.secretName own)) = some (encode secret))
    {entry : Consumes} (h : entry ∈ entries) :
    (Bindings.read own b entries).Makes
      (.get (.of Secret (entry.providerNs own) (entry.secretName own))) s := by
  induction entries generalizing b s with
  | nil => exact absurd h List.not_mem_nil
  | cons first rest ih =>
    rcases List.mem_cons.1 h with rfl | hrest
    · exact .of_first (makes_lookUp s)
    · refine .of_next (lookUp_secret hopen (hstored first List.mem_cons_self)) ?_
      refine ih _ (hopen.after _) (fun e he => ?_) hrest
      rw [Server.after_objects_get]
      exact hstored e (List.mem_cons_of_mem _ he)

/-- The secret of a selector is read. -/
theorem makes_readKey {selector : SecretKey} (hname : selector.name = some name) :
    (Credentials.readKey own (some selector)).Makes (.get (.of Secret own name)) s := by
  unfold Credentials.readKey
  refine .of_first ?_
  rw [hname]
  exact makes_lookUp s

/-- Every key can be read where the right objects are stored. -/
theorem exists_readKey_ok (own : String) (selector : Option SecretKey) :
    ∃ objects r s', (Credentials.readKey own selector).on { objects } = (.ok r, s') := by
  unfold Credentials.readKey
  cases selector with
  | none => exact ⟨default, none, default, rfl⟩
  | some selector =>
    let secret : Secret :=
      { blank Secret with data := none, stringData := some (.singleton selector.key "") }
    have htext : secret.text? selector.key = some "" := by
      simp [secret, Secret.text?, Dict.singleton]
    let key := ObjectKey.of Secret own (selector.name.getD "")
    let s := Server.holding (encode secret) [key]
    have hfound : (lookUp Secret own (selector.name.getD "")).on s
        = (.ok (some secret), s.after (.get key)) :=
      lookUp_secret Server.open_holding (Server.get?_holding List.mem_cons_self)
    refine ⟨s.objects, some "", s.after (.get key), on_bind_ok.2 ⟨some secret, _, hfound, ?_⟩⟩
    simp only [htext]
    rfl

/-- The secret of each selector is read where the right objects are stored: the
password's is read where the name could be. -/
theorem exists_makes_credentials {app : Application} {selector : SecretKey}
    (h : selector ∈ app.authSelectors) (hname : selector.name = some name) :
    ∃ objects, app.credentials.Makes (.get (.of Secret app.metadata.nsOrEmpty name))
      { objects } := by
  unfold Application.authSelectors at h
  unfold Application.credentials
  cases hauth : app.provides?.bind (·.auth) with
  | none =>
    rw [hauth] at h
    exact absurd h List.not_mem_nil
  | some auth =>
    rw [hauth] at h
    simp only [List.mem_append, Option.mem_toList] at h
    rcases h with husername | hpassword
    · simp only [husername]
      exact ⟨default, .of_first (makes_readKey hname)⟩
    · obtain ⟨objects, username, s', hrun⟩ :=
        exists_readKey_ok app.metadata.nsOrEmpty auth.username
      simp only [hpassword]
      exact ⟨objects, .of_next hrun (.of_first (makes_readKey hname))⟩

theorem exists_makes_bindings {app : Application} {entry : Consumes} (h : entry ∈ app.consumes) :
    ∃ objects, app.bindings.Makes (.get (.of Secret (entry.providerNs app.metadata.nsOrEmpty)
      (entry.secretName app.metadata.nsOrEmpty))) { objects } := by
  let own := app.metadata.nsOrEmpty
  let keys := app.consumes.map fun e => ObjectKey.of Secret (e.providerNs own) (e.secretName own)
  exact ⟨(Server.holding (encode (blank Secret)) keys).objects, makes_read {} Server.open_holding
    (fun e he => Server.get?_holding (List.mem_map_of_mem he)) h⟩

theorem makes_certificates {app : Application} (h : app.certificateName? = some name)
    (hname : name ≠ "") :
    (certificates app).Makes (.get (.of Secret app.metadata.nsOrEmpty name)) s := by
  have hfilled : Application.filled (app.spec.route.bind (·.certificateSecretRef)) = some name := by
    refine Option.filter_eq_some_iff.2 ⟨h, ?_⟩
    simpa [String.isEmpty_iff] using hname
  unfold certificates
  rw [hfilled]
  exact .of_first (makes_lookUp s)

end Access

namespace Application

variable (app : Application) {ns name : String}

/-- **Each secret that is referred to is looked up** where the right objects are
stored, unless it has no name. -/
theorem exists_readsSecret (hname : name ≠ "") (h : (ns, name) ∈ app.secretRefs) :
    ∃ objects, app.ReadsSecret objects ns name := by
  rcases app.mem_secretRefs.1 h with
    ⟨entry, hmem, rfl, rfl⟩ | ⟨rfl, ⟨selector, hmem, hselector⟩ | hcertificate⟩
  · obtain ⟨objects, hs⟩ := Access.exists_makes_bindings hmem
    exact ⟨objects, .inr (.inl hs)⟩
  · obtain ⟨objects, hs⟩ := Access.exists_makes_credentials hmem hselector
    exact ⟨objects, .inl hs⟩
  · exact ⟨.empty, .inr (.inr (Access.makes_certificates hcertificate hname))⟩

/-- **The secrets that are looked up are the ones that are referred to.** An
unnamed secret is looked up where a selector names none. -/
theorem looksUpSecret_iff (hname : name ≠ "") :
    app.LooksUpSecret ns name ↔ (ns, name) ∈ app.secretRefs := by
  constructor
  · rw [mem_secretRefs]
    -- the three computations that look secrets up, each followed call by call
    rintro ⟨s, h | h | h⟩
    · obtain ⟨_, href⟩ := Dialogue.Along.of_makes
        (P := fun _ c => c = .get (.of Secret ns name) → app.metadata.nsOrEmpty = ns
          ∧ ∃ selector ∈ app.authSelectors, selector.name = some name)
        (Access.along_credentials fun selector hmem _ hc => by
          obtain ⟨-, hns, hn⟩ := ObjectKey.of_eq_iff.1 (Call.get.inj hc)
          refine ⟨hns, selector, hmem, ?_⟩
          cases hselector : selector.name with
          | none =>
            rw [hselector] at hn
            exact absurd hn.symm hname
          | some n =>
            rw [hselector] at hn
            exact congrArg some hn) h
      obtain ⟨hns, hselector⟩ := href rfl
      exact .inr ⟨hns, .inl hselector⟩
    · obtain ⟨_, href⟩ := Dialogue.Along.of_makes
        (P := fun _ c => c = .get (.of Secret ns name) →
          ∃ entry ∈ app.consumes, entry.providerNs app.metadata.nsOrEmpty = ns
            ∧ entry.secretName app.metadata.nsOrEmpty = name)
        (Access.along_read {} fun entry hmem _ hc =>
          ⟨entry, hmem, (ObjectKey.of_eq_iff.1 (Call.get.inj hc)).2⟩) h
      exact .inl (href rfl)
    · obtain ⟨_, href⟩ := Dialogue.Along.of_makes
        (P := fun _ c => c = .get (.of Secret ns name) →
          app.metadata.nsOrEmpty = ns ∧ app.certificateName? = some name)
        (Access.along_certificates fun n hn _ hc => by
          obtain ⟨-, hns, rfl⟩ := ObjectKey.of_eq_iff.1 (Call.get.inj hc)
          exact ⟨hns, hn⟩) h
      obtain ⟨hns, hcertificate⟩ := href rfl
      exact .inr ⟨hns, .inr hcertificate⟩
  -- conversely there is a cluster on which the computation gets as far as that secret
  · intro h
    obtain ⟨objects, hs⟩ := app.exists_readsSecret hname h
    exact ⟨{ objects }, hs⟩

/-- **The image stream that is looked up is the one that is referred to**, where
image streams are served. -/
theorem looksUpStream_iff {apis : ClusterApis} :
    app.LooksUpStream apis ns name ↔ apis.image = true ∧ app.streamRef? = some (ns, name) := by
  unfold LooksUpStream streamRef? Access.resolveImage
  cases app.imageReference? with
  | none =>
    refine ⟨?_, fun h => ?_⟩
    · rintro ⟨_, ⟨⟩⟩
    · simp at h
  | some r =>
    cases himage : apis.image with
    | false =>
      refine ⟨?_, fun h => ?_⟩
      · rintro ⟨_, ⟨⟩⟩
      · simp at h
    | true =>
      simp only [Option.map_some, Option.some.injEq, Prod.mk.injEq, true_and]
      constructor
      · rintro ⟨s, h⟩
        obtain ⟨_, href⟩ := Dialogue.Along.of_makes
          (P := fun _ c => c = .get (.of ImageStream ns name) → r.ns = ns ∧ r.name = name)
          (Access.along_bind (Access.along_find fun hc =>
            (ObjectKey.of_eq_iff.1 (Call.get.inj hc)).2) fun _ _ _ => Access.along_pure _) h
        exact href rfl
      · rintro ⟨rfl, rfl⟩
        exact ⟨default, .of_first (Access.makes_find _)⟩

end Application

end AppOperator
