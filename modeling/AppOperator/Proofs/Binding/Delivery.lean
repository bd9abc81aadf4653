import Mathlib.Data.List.Nodup
import AppOperator.Proofs.Reconcile.Joined

/-!
# From a provider to the pods of those that use it

What an application publishes reaches the pods of another through two passes:
the provider's pass stores it as bytes in a secret, and the other's pass reads
the keys of that secret, copies it if it lies in another namespace, and has
the pods take each key from the secret of their own namespace. At the end each
key is one variable, and what the variable refers to holds what was published
(`Pass.children_deliver`).

The two passes meet in what is stored under the name of the provider's secret
when the other reads it. The provider's pass must not lose it under a copy,
and the other's pass, if it publishes in the same namespace, must not replace
it, nor copy anything to its name: all this is by names that are apart. The
case of an application that uses its own service needs no exception, but what
it is delivered is then what its own pass has just published.

What a provider tells may include a name and a password, which are themselves kept in
secrets. Of these it is said which key of which secret they come from
(`Application.Resolves`), so that the chain does not begin with whatever some function
returned but with what is stored for the provider in its namespace. A key that is
missing and must not be is a failure of the provider's pass, and then there is nothing
to deliver.
-/

namespace AppOperator

/-! ## Keys of a secret

The operator makes a variable of each key that a secret has, in its data or in its
texts. Secrets that it has published itself have no texts, so their keys are those of
the data; and what is stored of them is read alike by the provider, who wrote it as a
child of its own, and by those who use it. -/

namespace Secret

/-- The keys of a secret are those of its data, where there is no text besides. -/
theorem mem_keys {s : Secret} (htext : s.stringData = none) {k : String} :
    k ∈ s.keys ↔ ((s.data.getD .empty).get? k).isSome = true := by
  rw [keys, htext, Dict.mem_keys]
  simp

/-- **What a secret says** is what is read of it, be it as a secret or as an
object that may be one. -/
theorem data_of_read {j : Json} {s read : Secret} (h : Access.read? Secret j = some s)
    (hread : decode Secret j = some read) :
    read.data = s.data ∧ read.stringData = s.stringData := by
  obtain ⟨hdata, htext, -⟩ := says_of_read? h
  obtain ⟨hdata', htext', -⟩ := says_of_decode hread
  exact ⟨Option.some.inj (hdata'.symm.trans hdata), Option.some.inj (htext'.symm.trans htext)⟩

end Secret

/-! ## Variables

A variable is known by what it takes: a key of a secret. To say that a key is
one variable is to filter the variables of a container by that, and to find a list of one.
The list is what the services contribute, one after the other, so all but one of the
contributions have to vanish under the filter, and for this the secrets of different
services must have different names. -/

/-- **A variable that takes its value from a key of a secret.** -/
def EnvVar.takes (v : EnvVar) (secretName key : String) : Bool :=
  (v.valueFrom.bind (·.secretKeyRef)).any fun r => r.name = some secretName && r.key = key

theorem EnvVar.takes_ofSecretKey {name secretName key secretName' key' : String} :
    (EnvVar.ofSecretKey name secretName key).takes secretName' key' = true
      ↔ secretName = secretName' ∧ key = key' := by
  simp [takes, ofSecretKey]

/-- What is left out where it gives nothing may be left out. -/
theorem flatMap_eq_of_filter {α β : Type} {l : List α} (keep : α → Bool) {g : α → List β}
    (h : ∀ a ∈ l, keep a = false → g a = []) : l.flatMap g = (l.filter keep).flatMap g := by
  induction l with
  | nil => rfl
  | cons a rest ih =>
    have hrest := ih fun b hb => h b (List.mem_cons_of_mem _ hb)
    rw [List.flatMap_cons, List.filter_cons, hrest]
    cases hkeep : keep a with
    | true => rw [if_pos rfl, List.flatMap_cons]
    | false => rw [if_neg Bool.false_ne_true, h a (List.mem_cons_self ..) hkeep, List.nil_append]

namespace Bindings

variable {own : String} {objects : Dict ObjectKey Json} {entries : List Consumes}
  {b b' : Bindings}

/-- The variables of the services, one service after the other. -/
theorem env_of_from? (h : from? own objects b entries = some b') :
    b'.wiring.env = b.wiring.env ++ entries.flatMap fun entry =>
      ((entry.found? own objects).map fun source => (entry.wiring own source).env).getD [] := by
  induction entries generalizing b with
  | nil =>
    obtain rfl := Option.some.inj h
    simp
  | cons entry rest ih =>
    obtain ⟨source, hsource, hrest⟩ := from?_cons.1 h
    rw [ih hrest, List.flatMap_cons, hsource, ← List.append_assoc]
    rfl

end Bindings

/-- The variables of a service take their values from its secret. -/
theorem Consumes.takes_of_mem {entry : Consumes} {own : String} {source : Secret} {v : EnvVar}
    (hv : v ∈ (entry.wiring own source).env) {secretName key : String}
    (htakes : v.takes secretName key = true) : secretName = entry.secretName own := by
  unfold wiring at hv
  dsimp only at hv
  split at hv
  · simp at hv
  · obtain ⟨k, -, rfl⟩ := List.mem_map.1 hv
    exact (EnvVar.takes_ofSecretKey.1 htakes).1.symm

/-- **Each key of a service's secret is one variable**, if it is not mounted. -/
theorem Consumes.takes_wiring {entry : Consumes} {own : String} {source : Secret}
    (hmount : Application.filled entry.mountPath = none) {key : String} (hkey : key ∈ source.keys) :
    (entry.wiring own source).env.filter (·.takes (entry.secretName own) key)
      = [.ofSecretKey (Binding.envName (entry.providerNs own) entry.name key)
          (entry.secretName own) key] := by
  have hnodup : source.keys.Nodup := Dict.nodup_keys _
  unfold wiring
  rw [hmount]
  dsimp only
  rw [List.filter_map]
  have hsame : (fun v : EnvVar => v.takes (entry.secretName own) key) ∘ (fun k =>
      EnvVar.ofSecretKey (Binding.envName (entry.providerNs own) entry.name k)
        (entry.secretName own) k) = fun k => decide (k = key) := by
    funext k
    simp [EnvVar.takes, EnvVar.ofSecretKey]
  rw [hsame, List.filter_eq, List.count_eq_one_of_mem hnodup hkey]
  rfl

namespace Application

variable {app : Application} {objects : Dict ObjectKey Json} {b : Bindings} {entry : Consumes}

/-- **Where names are apart, only one service takes keys of a secret**: the
one of that provider. -/
theorem takes_of_only (hnames : app.NamesApart)
    (hfrom : Bindings.from? app.metadata.nsOrEmpty objects {} app.consumes = some b)
    {provider : String × String}
    (honly : app.consumes.filter (·.provider app.metadata.nsOrEmpty = provider) = [entry])
    {source : Secret} (hfound : entry.found? app.metadata.nsOrEmpty objects = some source)
    (key : String) :
    b.wiring.env.filter (·.takes (entry.secretName app.metadata.nsOrEmpty) key)
      = (entry.wiring app.metadata.nsOrEmpty source).env.filter
          (·.takes (entry.secretName app.metadata.nsOrEmpty) key) := by
  obtain ⟨hentry, hprovider⟩ := List.mem_filter.1 (honly ▸ List.mem_singleton_self entry :
    entry ∈ app.consumes.filter _)
  rw [Bindings.env_of_from? hfrom]
  show List.filter _ (List.flatMap _ _) = _
  rw [List.filter_flatMap, flatMap_eq_of_filter (fun e =>
    decide (e.provider app.metadata.nsOrEmpty = provider)) fun e he hother => ?_, honly]
  · simp [hfound]
  · -- a service of another provider has another secret, and takes no key of this one
    refine List.filter_eq_nil_iff.2 fun v hv htakes => ?_
    cases hsource : e.found? app.metadata.nsOrEmpty objects with
    | none =>
      rw [hsource] at hv
      simp at hv
    | some found =>
      rw [hsource] at hv
      have hname := Consumes.takes_of_mem hv htakes
      rw [← hnames.provider_eq hentry he hname, hprovider] at hother
      simp at hother

end Application

/-! ## Pods

Pods are looked for where they are run, in a deployment, in a stateful set or in a
Knative service, according to what the application asks for; nothing before depends on
which of them it is. In each the container of the application gets its own variables
first, and then those of its bindings. The own ones are part of the specification and
no one's to distinguish: what is delivered is said of those that follow. -/

namespace Application

variable {app : Application} {objects : Dict ObjectKey Json}

/-- **The pods by which an application runs**, as they are asked for by what
is stored. -/
inductive Pods (app : Application) (objects : Dict ObjectKey Json) : PodSpec → Prop
  /-- Those of a deployment or a stateful set. -/
  | workload {selector : LabelSelector} {template : PodTemplate} {pods : PodSpec}
      (hknative : app.usesKnative = false)
      (runs : Access.Runs objects app.metadata.nsOrEmpty app.workload selector template)
      (asks : template.spec = some pods) : Pods app objects pods
  /-- Those of a Knative service. -/
  | knative {service : KnativeService} {revision : RevisionTemplate} {spec : RevisionSpec}
      (hknative : app.usesKnative = true)
      (stored : Access.Shows objects KnativeService app.metadata.nsOrEmpty app.name (some service))
      (asks : service.spec.template = some revision) (askedOf : revision.spec = some spec) :
      Pods app objects spec.pod

/-- **The container of the application gets some variables** after its own. -/
def Gets (app : Application) (objects : Dict ObjectKey Json) (env : List EnvVar) : Prop :=
  ∃ pods container, app.Pods objects pods
    ∧ pods.containers.find? (·.name = containerName) = some container
    ∧ container.env.getD [] = app.spec.env.getD [] ++ env

theorem getD_unlessEmpty {α : Type} (items : List α) : (unlessEmpty items).getD [] = items := by
  cases items with
  | nil => rfl
  | cons item rest => rfl

/-- **Running the application hands the variables of its services to its container.** -/
theorem gets_of_launch {apis : ClusterApis} {settings : Settings} {wiring : Wiring}
    {s s' : Server} (h : (Access.launch apis settings app wiring).on s = (.ok (), s')) :
    app.Gets s'.objects wiring.env := by
  unfold Access.launch at h
  cases hknative : app.usesKnative with
  | true =>
    rw [hknative, if_pos rfl] at h
    obtain ⟨old, hstored⟩ := Access.formed_of_runKnative h
    exact ⟨_, withBarePorts (app.container wiring _), .knative hknative hstored rfl rfl,
      List.find?_cons_of_pos (decide_eq_true rfl), getD_unlessEmpty _⟩
  | false =>
    rw [hknative, if_neg Bool.false_ne_true] at h
    obtain ⟨old, hruns⟩ := (Access.launched_of_runWorkload h).runs
    exact ⟨_, app.container wiring _, .workload hknative hruns rfl,
      List.find?_cons_of_pos (decide_eq_true rfl), getD_unlessEmpty _⟩

end Application

/-! ## Name and password

A provider may ask those that use it for a name and a password. Of each it is told by which
key of which secret of the provider's namespace it is found, and whether it may be missing.
The answer is exactly what that secret has under that key. That there is none is an answer
only where nothing is asked for or what is asked for may be missing; else it is a failure,
of which nothing need be said here, as nothing is published after it. -/

namespace Credentials

variable {s s' : Server} {ns : String} {asked : Option SecretKey} {answer : Option String}

/-- The text that is stored under a key of a secret of a namespace. -/
def storedText (objects : Dict ObjectKey Json) (ns : String) (key : SecretKey) : Option String :=
  ((objects.get? (.of Secret ns (key.name.getD ""))).bind (decode Secret)).bind (·.text? key.key)

/-- **What a key of a secret is answered with** in a namespace. A cluster that refuses to
show a secret may thereby pretend that there is none. -/
inductive Answers (s : Server) (ns : String) : Option SecretKey → Option String → Prop
  /-- No key is asked for. -/
  | unasked : Answers s ns none none
  /-- The text under the key. -/
  | found {key : SecretKey} {text : String} (stored : storedText s.objects ns key = some text) :
      Answers s ns (some key) (some text)
  /-- There is none, and there may be none. -/
  | missing {key : SecretKey} (gone : s.Truthful → storedText s.objects ns key = none)
      (optional : key.isOptional = some true) : Answers s ns (some key) none

/-- On a truthful cluster there is one answer to each question. -/
theorem Answers.eq_storedText (h : Answers s ns asked answer) (ht : s.Truthful) :
    answer = asked.bind (storedText s.objects ns) := by
  cases h with
  | unasked => rfl
  | found stored => exact stored.symm
  | missing gone => exact (gone ht).symm

/-- The answer depends on the secrets of the cluster and on what it refuses. -/
theorem Answers.congr (h : Answers s' ns asked answer)
    (hsecrets : ∀ name, s'.objects.get? (.of Secret ns name) = s.objects.get? (.of Secret ns name))
    (hrefuse : s'.refuse = s.refuse) : Answers s ns asked answer := by
  have htext : storedText s'.objects ns = storedText s.objects ns := by
    funext key
    rw [storedText, storedText, hsecrets]
  cases h with
  | unasked => exact .unasked
  | found stored => exact .found (htext ▸ stored)
  | missing gone optional => exact .missing (fun ht => htext ▸ gone (ht.congr hrefuse)) optional

/-- **A key is read as the cluster has it.** -/
theorem answers_of_readKey (h : (readKey ns asked).on s = (.ok answer, s')) :
    Answers s ns asked answer := by
  unfold readKey at h
  cases asked with
  | none =>
    obtain rfl := Except.ok.inj (Prod.mk.inj h).1
    exact .unasked
  | some key =>
    obtain ⟨found, s₁, hfound, h⟩ := Access.on_bind_ok.1 h
    -- a secret that is there answers for its key; one that is not found may be there on a
    -- cluster that is not truthful, which is why the answer asks for that
    rcases Access.lookUp_ok hfound with ⟨j, secret, rfl, hj, hread⟩ | ⟨rfl, hgone⟩
    · have hstored : storedText s.objects ns key = secret.text? key.key := by
        rw [storedText, hj, Option.bind_some, hread, Option.bind_some]
      dsimp only at h
      cases htext : secret.text? key.key with
      | some text =>
        rw [htext] at h
        obtain rfl := Except.ok.inj (Prod.mk.inj h).1
        exact .found (hstored.trans htext)
      | none =>
        rw [htext] at h
        dsimp only at h
        split at h
        · rename_i hoptional
          obtain rfl := Except.ok.inj (Prod.mk.inj h).1
          exact .missing (fun _ => hstored.trans htext) hoptional
        · simp at h
    · dsimp only at h
      split at h
      · rename_i hoptional
        obtain rfl := Except.ok.inj (Prod.mk.inj h).1
        refine .missing (fun ht => ?_) hoptional
        rw [storedText, hgone ht]
        rfl
      · simp at h

end Credentials

namespace Application

variable {app : Application} {s s' : Server} {credentials : Credentials}

/-- **The name and password that the application's service asks for**, as the secrets of
its namespace have them. -/
structure Resolves (app : Application) (s : Server) (credentials : Credentials) : Prop where
  /-- The name. -/
  username : Credentials.Answers s app.metadata.nsOrEmpty
    ((app.provides?.bind (·.auth)).bind (·.username)) credentials.username
  /-- The password. -/
  password : Credentials.Answers s app.metadata.nsOrEmpty
    ((app.provides?.bind (·.auth)).bind (·.password)) credentials.password

/-- **What is read is what is asked for**, one key after the other. -/
theorem resolves_of_credentials (h : app.credentials.on s = (.ok credentials, s')) :
    app.Resolves s credentials := by
  unfold Application.credentials at h
  cases hauth : app.provides?.bind (·.auth) with
  | none =>
    rw [hauth] at h
    obtain rfl := Except.ok.inj (Prod.mk.inj h).1
    refine ⟨?_, ?_⟩
    · rw [hauth]
      exact .unasked
    · rw [hauth]
      exact .unasked
  | some auth =>
    rw [hauth] at h
    obtain ⟨username, s₁, hname, h⟩ := Access.on_bind_ok.1 h
    obtain ⟨password, s₂, hword, h⟩ := Access.on_bind_ok.1 h
    obtain rfl := Except.ok.inj (Prod.mk.inj h).1
    -- reading the name has left the cluster as it was
    have hreads := (Access.readsSecrets_readKey app.metadata.nsOrEmpty auth.username).reads
    have hobjects : s₁.objects = s.objects := hreads.objects_of_on hname
    have hrefuse : s₁.refuse = s.refuse := by
      have hkept := Access.on_refuse (Credentials.readKey app.metadata.nsOrEmpty auth.username) s
      rwa [hname] at hkept
    refine ⟨?_, ?_⟩
    · rw [hauth]
      exact Credentials.answers_of_readKey hname
    · rw [hauth]
      exact (Credentials.answers_of_readKey hword).congr (fun _ => by rw [hobjects]) hrefuse

end Application

/-! ## From one pass to the other

The provider's secret has to survive from the moment that it is published to the
moment that it is read. Within the provider's pass nothing is copied to its name;
between the passes it is left alone by assumption, the one thing that must be assumed
of the others; and within the other's pass the only step before the reading is that
this one publishes, under another name or, if both are the same application, the same
anew. -/

namespace Application

variable {p c : Application} {s s₁ s₂ s₃ : Server} {status status' : ApplicationStatus}
  {apis : ClusterApis} {settings : Settings} {b : Bindings} {credentials : Credentials}

/-- **The name and password that a pass of the application finds**, on the
cluster where the pass begins. -/
def Finds (app : Application) (s : Server) (credentials : Credentials) : Prop :=
  ∃ t, (Access.account app).on s = (.ok (), t) ∧ (app.credentials.on t).1 = .ok credentials

/-- They are those that its service asks for. -/
theorem Finds.resolves (h : p.Finds s credentials) : p.Resolves s credentials := by
  obtain ⟨t, haccount, hcredentials⟩ := h
  have hresolves := resolves_of_credentials (Prod.ext hcredentials rfl :
    p.credentials.on t = (.ok credentials, (p.credentials.on t).2))
  have hsecrets := Access.get?_secret_of_account haccount p.metadata.nsOrEmpty
  have hrefuse : t.refuse = s.refuse := by
    have hkept := Access.on_refuse (Access.account p) s
    rwa [haccount] at hkept
  exact ⟨hresolves.username.congr hsecrets hrefuse, hresolves.password.congr hsecrets hrefuse⟩

/-- The application's secret is stored as it is published. -/
def Offers (app : Application) (objects : Dict ObjectKey Json) (credentials : Credentials) :
    Prop :=
  Access.Formed objects app app.bindingSecretName (app.bindingSecret (app.binding credentials))

/-- **After a pass of the provider** its secret is stored. -/
theorem offers_of_children (hoffers : p.provides?.isSome = true) (hfree : p.OwnNameFree)
    (h : (Pass.children apis settings p).on status s = (.ok (), status', s₁)) :
    ∃ credentials, p.Finds s credentials ∧ p.Offers s₁.objects credentials := by
  obtain ⟨t, b, t', haccount, hbindings, hlaunch⟩ := Pass.children_ok.1 h
  obtain ⟨credentials, hcredentials, old, hshows, -⟩ :=
    Pass.published_of_free hoffers hfree hbindings
  exact ⟨credentials, ⟨t, haccount, hcredentials⟩, old,
    hshows.congr (Access.get?_secret_of_launch hlaunch _ _)⟩

/-- **When others read it, the provider's secret is still stored**: another
application publishes under another name, and the provider itself has
published anew. -/
theorem offers_of_publish (hnames : c.NamesApart) (hp : p.asProvider ∈ c.providers)
    (hself : c.asProvider = p.asProvider → c = p) (hoffers : p.provides?.isSome = true)
    (h : p.Offers s.objects credentials) (haccount : (Access.account c).on s = (.ok (), s₁))
    (hpublish : (Access.publish c).on s₁ = (.ok (), s₂)) :
    ∃ credentials', (if c.asProvider = p.asProvider then p.Finds s credentials'
        else credentials' = credentials) ∧ p.Offers s₂.objects credentials' := by
  by_cases heq : c.asProvider = p.asProvider
  · obtain rfl := hself heq
    obtain ⟨credentials', hcredentials, old, hshows, -⟩ := Access.publish_ok hoffers hpublish
    exact ⟨credentials', by rw [if_pos rfl]; exact ⟨s₁, haccount, hcredentials⟩, old, hshows⟩
  · refine ⟨credentials, by rw [if_neg heq], Access.Formed.congr h ?_⟩
    rw [Access.get?_of_publish hpublish fun hname => ?_, Access.get?_secret_of_account haccount]
    exact heq (hnames _ (List.mem_cons_self ..) _ hp hname.symm)

/-- **What a provider publishes is delivered** if its secret is stored as it is
published when it is read: each key is a variable of its own, and what it
refers to holds what was published. -/
theorem delivered_of_bindings (hnames : c.NamesApart) {entry : Consumes}
    (honly : c.consumes.filter (·.provider c.metadata.nsOrEmpty = p.asProvider) = [entry])
    (hmount : filled entry.mountPath = none)
    (hoffers : p.Offers ((Access.publish c).on s).2.objects credentials)
    (h : (Pass.bindings c).on status s = (.ok b, status', s₁)) :
    ∃ secret, Access.Holds s₁.objects c.metadata.nsOrEmpty p.bindingSecretName secret
      ∧ ∀ k v, (p.binding credentials).get? k = some v →
        b.wiring.env.filter (·.takes p.bindingSecretName k)
            = [.ofSecretKey (Binding.envName p.metadata.nsOrEmpty p.name k) p.bindingSecretName k]
          ∧ (secret.data.getD .empty).get? k = some (Utf8.bytes v) := by
  obtain ⟨hentry, hprovider⟩ := List.mem_filter.1 (honly ▸ List.mem_singleton_self entry :
    entry ∈ c.consumes.filter _)
  obtain ⟨hns, hname⟩ := Prod.mk.inj (of_decide_eq_true hprovider)
  have hsecret : entry.secretName c.metadata.nsOrEmpty = p.bindingSecretName := by
    rw [Consumes.secretName, hns, hname]
    rfl
  obtain ⟨secret, hfound, hholds⟩ := (Pass.bindings_of_namesApart hnames h).1 entry hentry
  refine ⟨secret, hsecret ▸ hholds, fun k v hk => ?_⟩
  -- what was read is what the provider published
  obtain ⟨old, hshows⟩ := hoffers
  obtain ⟨j, hj, hread⟩ := Access.shows_some.1 hshows
  have hdecode : decode Secret j = some secret := by
    rw [Consumes.found?, hns, hsecret, hj] at hfound
    exact hfound
  obtain ⟨hdata, htext⟩ := Secret.data_of_read hread hdecode
  have hvalue : (secret.data.getD .empty).get? k = some (Utf8.bytes v) := by
    rw [hdata]
    show ((p.binding credentials).map Utf8.bytes).get? k = _
    rw [Dict.get?_map, hk, Option.map_some]
  refine ⟨?_, hvalue⟩
  obtain ⟨s₂, _, _, hpublish, -, -, hfrom, -⟩ := Pass.bindings_stages h
  rw [hpublish] at hfound
  have hkey : k ∈ secret.keys := by
    rw [Secret.mem_keys htext, hvalue]
    rfl
  rw [← hsecret, takes_of_only hnames hfrom honly hfound k, Consumes.takes_wiring hmount hkey, hns,
    hname]

end Application

/-! ## After both passes

What is delivered is a chain of equalities that starts with what the provider tells of
itself and ends with what a variable of the other's container refers to. The
conclusion names both ends: the bytes in the secret that the pods can reach, and the
one variable that takes them. -/

/-- **What a provider publishes reaches the pods of those that use it**, be
they of its namespace or of another. After a pass of the provider and then
one of the application that uses it, between which the provider's secret was
left alone, each key of what the provider tells of itself is exactly one of
the variables that the container gets for its bindings, under the name that
is made for it; it refers to a secret that is stored in the namespace of the
pods, and that holds there the bytes of what is told. -/
theorem Pass.children_deliver {p c : Application} {apis apis' : ClusterApis}
    {settings settings' : Settings} {status₀ status₁ status₂ status₃ : ApplicationStatus}
    {s₀ s₁ s₂ s₃ : Server} {entry : Consumes} (hoffers : p.provides?.isSome = true)
    (hfree : p.OwnNameFree) (hnames : c.NamesApart)
    (honly : c.consumes.filter (·.provider c.metadata.nsOrEmpty = p.asProvider) = [entry])
    (hmount : Application.filled entry.mountPath = none)
    (hself : c.asProvider = p.asProvider → c = p)
    (hprovides : (Pass.children apis settings p).on status₀ s₀ = (.ok (), status₁, s₁))
    (hquiet : s₂.objects.get? (.of Secret p.metadata.nsOrEmpty p.bindingSecretName)
      = s₁.objects.get? (.of Secret p.metadata.nsOrEmpty p.bindingSecretName))
    (huses : (Pass.children apis' settings' c).on status₂ s₂ = (.ok (), status₃, s₃)) :
    ∃ credentials, p.Finds (if c.asProvider = p.asProvider then s₂ else s₀) credentials
      ∧ p.Resolves (if c.asProvider = p.asProvider then s₂ else s₀) credentials
      ∧ p.Tells credentials (p.binding credentials)
      ∧ ∃ env secret, c.Gets s₃.objects env
        ∧ Access.Holds s₃.objects c.metadata.nsOrEmpty p.bindingSecretName secret
        ∧ ∀ k v, (p.binding credentials).get? k = some v →
          env.filter (·.takes p.bindingSecretName k) = [.ofSecretKey
              (Binding.envName p.metadata.nsOrEmpty p.name k) p.bindingSecretName k]
            ∧ (secret.data.getD .empty).get? k = some (Utf8.bytes v) := by
  obtain ⟨before, hbefore, hpublished⟩ := Application.offers_of_children hoffers hfree hprovides
  obtain ⟨t, b, t', haccount, hbindings, hlaunch⟩ := children_ok.1 huses
  obtain ⟨t₁, _, _, hpublish, -⟩ := bindings_stages hbindings
  have hprovider : p.asProvider ∈ c.providers := by
    obtain ⟨hentry, heq⟩ := List.mem_filter.1 (honly ▸ List.mem_singleton_self entry :
      entry ∈ c.consumes.filter _)
    exact of_decide_eq_true heq ▸ Application.provider_mem hentry
  obtain ⟨credentials, hfinds, hpublished⟩ := Application.offers_of_publish hnames hprovider hself
    hoffers (Access.Formed.congr hpublished hquiet) haccount hpublish
  have hstored : p.Offers ((Access.publish c).on t).2.objects credentials := by rwa [hpublish]
  obtain ⟨secret, hholds, hdelivered⟩ :=
    Application.delivered_of_bindings hnames honly hmount hstored hbindings
  have hfound : p.Finds (if c.asProvider = p.asProvider then s₂ else s₀) credentials := by
    split
    · rename_i heq
      rwa [if_pos heq] at hfinds
    · rename_i hne
      rw [if_neg hne] at hfinds
      exact hfinds ▸ hbefore
  exact ⟨credentials, hfound, hfound.resolves, p.tells_binding credentials, b.wiring.env, secret,
    Application.gets_of_launch hlaunch, hholds.congr (Access.get?_secret_of_launch hlaunch _ _),
    hdelivered⟩

/-- So it is for the service of another namespace, whose secret is copied, and the name
and password arrive with all else. -/
theorem Pass.children_deliver_to_other_namespace :
    let plain : Application := .bound "back" "db" "u1" true []
    let key (k : String) : SecretKey := { name := some "db-admin", key := k, isOptional := none }
    let p : Application := { plain with
      spec := { plain.spec with
        service := some { (default : ServiceSettings) with
          provides := some { (default : Provides) with
            auth := some { username := some (key "user"), password := some (key "word") } } } } }
    let admin : Secret := { (blank Secret) with
      data := some (.ofList [("user", Utf8.bytes "admin"), ("word", Utf8.bytes "sesame")]) }
    let s : Server := { objects := .singleton (.of Secret "back" "db-admin") (encode admin) }
    let c : Application := .bound "shop" "web" "u2" false [("back", "db")]
    ∃ status₁ s₁ status₃ s₃, (Pass.children {} {} p).on default s = (.ok (), status₁, s₁)
      ∧ (Pass.children {} {} c).on default s₁ = (.ok (), status₃, s₃)
      ∧ ∃ credentials, p.Finds s credentials ∧ credentials = ⟨some "admin", some "sesame"⟩
        ∧ p.Tells credentials (p.binding credentials)
        ∧ ∃ env secret, c.Gets s₃.objects env
          ∧ Access.Holds s₃.objects "shop" "back-db" secret
          ∧ ∀ k v, (p.binding credentials).get? k = some v →
            env.filter (·.takes "back-db" k)
                = [.ofSecretKey (Binding.envName "back" "db" k) "back-db" k]
              ∧ (secret.data.getD .empty).get? k = some (Utf8.bytes v) := by
  intro plain key p admin s c
  have hok : ((Pass.children {} {} p).on default s).1.isOk = true := by decide +kernel
  have hok' : ((Pass.children {} {} c).on default
      ((Pass.children {} {} p).on default s).2.2).1.isOk = true := by decide +kernel
  obtain ⟨status₁, s₁, hprovides⟩ := ok_of_isOk hok
  rw [hprovides] at hok'
  obtain ⟨status₃, s₃, huses⟩ := ok_of_isOk hok'
  obtain ⟨credentials, hfinds, hresolves, hdelivered⟩ :=
    children_deliver rfl (Application.NamesApart.own_not_copied (by decide)) (by decide) rfl rfl
      (by decide) hprovides rfl huses
  have hread : p.Resolves s credentials := hresolves
  have htruthful : s.Truthful := nofun
  have hname : Credentials.storedText s.objects "back" (key "user") = some "admin" := by
    decide +kernel
  have hword : Credentials.storedText s.objects "back" (key "word") = some "sesame" := by
    decide +kernel
  have hcredentials : credentials = ⟨some "admin", some "sesame"⟩ := congrArg₂ Credentials.mk
    ((hread.username.eq_storedText htruthful).trans hname)
    ((hread.password.eq_storedText htruthful).trans hword)
  exact ⟨status₁, s₁, status₃, s₃, hprovides, huses, credentials, hfinds, hcredentials, hdelivered⟩

end AppOperator
