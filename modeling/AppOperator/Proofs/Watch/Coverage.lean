import AppOperator.Proofs.Layer.Precedence
import AppOperator.Proofs.Watch.Lookups

/-!
# Whether everything that is looked up is watched

An application has to be reconciled again when something changes that its
reconcile looked up. The watches find the applications that a change concerns
among the applications as they are stored, but a reconcile runs an application
with its effective specification, in which the layers of its stack may have put
services, credentials, certificates or an image that the application itself does
not name.

So the watches cover an application exactly if its effective specification refers
to nothing that its own does not refer to (`Watch.covers_iff`). Layers that leave
the referring fields alone are no obstacle (`Watch.covers_of_referToNothing`);
defaults that name a service for all applications of the stack are one
(`Watch.not_covers_of_defaulted_service`).

What is looked up is known from the references of a specification, and whom a change
concerns is known from the references as well. So both sides are lists of references,
and to cover is for the one to be among the other, for secrets and for the image
stream.
-/

namespace AppOperator

namespace Watch

/-! ## Coverage

What an application looks up is said of the form that it is run in; whom a change
concerns is said of the applications as they are stored. Coverage relates the two, for
one stored application and one form of it. It is asked for on every list of
applications that the application is on, as it must not depend on which others there
are. -/

/-- **The watches cover an application** that is run in some form: whatever is
looked up for that form, a change of it concerns the application. -/
structure Covers (apps : List Application) (app form : Application) : Prop where
  /-- It concerns it if a secret changes that is looked up. -/
  secret : ∀ (secret : ObjectMeta) (ns name : String), secret.ns = some ns →
    secret.name = some name → name ≠ "" → form.LooksUpSecret ns name →
    app.ref ∈ ofSecret secret apps
  /-- It concerns it if an image stream changes that is looked up. -/
  stream : ∀ (stream : ObjectMeta) (apis : ClusterApis) (ns name : String), stream.ns = some ns →
    stream.name = some name → apis.image = true → form.LooksUpStream apis ns name →
    app.ref ∈ ofStream stream apps

variable {concerns : Application → String → String → Bool} {object : ObjectMeta} {ns name : String}

theorem mem_concerned {apps : List Application} {ref : ApplicationRef}
    (hns : object.ns = some ns) (hname : object.name = some name) :
    ref ∈ concerned concerns object apps ↔ ∃ app ∈ apps, concerns app ns name = true
      ∧ app.ref = ref := by
  unfold concerned
  rw [hns, hname]
  simp [and_assoc]

/-- An application is found in a list that it is on if the object concerns it,
and alone in a list only then. -/
theorem forall_mem_concerned {app : Application} (hns : object.ns = some ns)
    (hname : object.name = some name) :
    (∀ apps, app ∈ apps → app.ref ∈ concerned concerns object apps)
      ↔ concerns app ns name = true := by
  constructor
  · intro h
    obtain ⟨other, hmem, hconcerns, -⟩ :=
      (mem_concerned hns hname).1 (h [app] List.mem_cons_self)
    rw [List.mem_singleton.1 hmem] at hconcerns
    exact hconcerns
  · exact fun h apps hmem => (mem_concerned hns hname).2 ⟨app, hmem, h, rfl⟩

/-- An object of some name. -/
def bearing (ns name : String) : ObjectMeta :=
  { (default : ObjectMeta) with ns := some ns, name := some name }

variable {app form : Application} {own : String}

/-- An application that is covered on every list refers to each secret that is
referred to by the form it is run in: the secret is looked up, so it concerns it. -/
theorem secretRefs_of_covers (hns : app.ns? = some own)
    (h : ∀ apps, app ∈ apps → Covers apps app form) :
    ∀ r ∈ form.secretRefs, r.2 ≠ "" → r ∈ app.secretRefs := by
  rintro ⟨ns, name⟩ href hname
  have hconcerned : ∀ apps, app ∈ apps → app.ref ∈ ofSecret (bearing ns name) apps :=
    fun apps hmem => (h apps hmem).secret _ ns name rfl rfl hname
      ((form.looksUpSecret_iff hname).2 href)
  exact (app.dependsOnSecret_iff hns).1 ((forall_mem_concerned rfl rfl).1 hconcerned)

/-- It refers to the image stream as well that the form refers to. -/
theorem streamRef?_of_covers (h : ∀ apps, app ∈ apps → Covers apps app form) :
    ∀ r, form.streamRef? = some r → app.streamRef? = some r := by
  rintro ⟨ns, name⟩ href
  have hconcerned : ∀ apps, app ∈ apps → app.ref ∈ ofStream (bearing ns name) apps :=
    fun apps hmem => (h apps hmem).stream _ { image := true } ns name rfl rfl rfl
      (form.looksUpStream_iff.2 ⟨rfl, href⟩)
  exact app.dependsOnStream_iff.1 ((forall_mem_concerned rfl rfl).1 hconcerned)

/-- **An application whose own references include those of the form it is run in
is covered**, on every list that it is on. -/
theorem covers_of_refs (hns : app.ns? = some own)
    (hsecrets : ∀ r ∈ form.secretRefs, r.2 ≠ "" → r ∈ app.secretRefs)
    (hstreams : ∀ r, form.streamRef? = some r → app.streamRef? = some r)
    {apps : List Application} (hmem : app ∈ apps) : Covers apps app form where
  secret secret ns name hsns hsname hname hlooked := by
    have href := hsecrets _ ((form.looksUpSecret_iff hname).1 hlooked) hname
    exact (forall_mem_concerned hsns hsname).2 ((app.dependsOnSecret_iff hns).2 href) apps hmem
  stream stream apis ns name hsns hsname _ hlooked := by
    have href := hstreams _ (form.looksUpStream_iff.1 hlooked).2
    exact (forall_mem_concerned hsns hsname).2 (app.dependsOnStream_iff.2 href) apps hmem

end Watch

/-! ## References of the effective specification

References come from four fields of a specification, and each of these has its value
by precedence. Layers that do not set them leave the references as they are, whatever
else they set, and this is the common case. -/

namespace StackLayers

variable {α : Type} {layers : StackLayers} {own : ApplicationSpec}

/-- Layers that leave a field to the application. -/
def Leaves (layers : StackLayers) (f : SpecField α) : Prop :=
  layers.constants.bind f.get = none ∧ f.get layers.defaults = none

theorem Leaves.inForce_eq {f : SpecField α} (h : layers.Leaves f) :
    layers.inForce own f = (f.get own).or f.builtIn := by
  unfold inForce
  rw [h.1, h.2, Option.none_or, Option.none_or]

/-- **Layers that refer to nothing**: they leave all fields to the application by
which a specification refers to secrets and image streams. -/
structure ReferToNothing (layers : StackLayers) : Prop where
  /-- They name no services to be used. -/
  consumes : layers.Leaves (.service .consumes)
  /-- They offer no service, so they ask for no name and password. -/
  provides : layers.Leaves (.service .provides)
  /-- They name no certificates. -/
  certificate : layers.Leaves (.route .certificate)
  /-- They name no image. -/
  image : layers.Leaves .image

end StackLayers

namespace Application

variable {app : Application} {layers : StackLayers}

/-- The secrets that are referred to depend on three fields alone. -/
theorem secretRefs_congr {app form : Application} (hns : form.ns? = app.ns?)
    (hconsumes : SpecField.get (.service .consumes) form.spec
      = SpecField.get (.service .consumes) app.spec)
    (hprovides : SpecField.get (.service .provides) form.spec
      = SpecField.get (.service .provides) app.spec)
    (hcertificate : SpecField.get (.route .certificate) form.spec
      = SpecField.get (.route .certificate) app.spec) : form.secretRefs = app.secretRefs := by
  have hown : form.metadata.nsOrEmpty = app.metadata.nsOrEmpty := congrArg (·.getD "") hns
  have huses : form.consumes = app.consumes := congrArg (·.getD []) hconsumes
  have hauth : form.authSelectors = app.authSelectors := by
    unfold authSelectors
    rw [show form.provides? = app.provides? from hprovides]
  have hnamed : form.certificateName? = app.certificateName? := hcertificate
  unfold secretRefs
  rw [hown, huses, hauth, hnamed]

/-- The image stream that is referred to depends on the image alone. -/
theorem streamRef?_congr {app form : Application} (hns : form.ns? = app.ns?)
    (himage : SpecField.get .image form.spec = SpecField.get .image app.spec) :
    form.streamRef? = app.streamRef? := by
  have hown : form.metadata.nsOrEmpty = app.metadata.nsOrEmpty := congrArg (·.getD "") hns
  have hsame : form.spec.applicationImage = app.spec.applicationImage := by
    rw [← ApplicationSpec.getD_filled form.spec.applicationImage,
      ← ApplicationSpec.getD_filled app.spec.applicationImage]
    exact congrArg (·.getD "") himage
  unfold streamRef? imageReference?
  rw [hown, hsame]

/-- A field that the layers leave to the application and the operator too is the
application's own. -/
theorem get_normalized {α : Type} {f : SpecField α} (h : layers.Leaves f)
    (hbuiltIn : f.builtIn = none) : f.get (app.normalized layers).1.spec = f.get app.spec := by
  show f.get (app.spec.effective layers) = _
  rw [f.get_effective, h.inForce_eq, hbuiltIn, Option.or_none]

theorem secretRefs_normalized (h : layers.ReferToNothing) :
    (app.normalized layers).1.secretRefs = app.secretRefs :=
  secretRefs_congr rfl (get_normalized h.consumes rfl) (get_normalized h.provides rfl)
    (get_normalized h.certificate rfl)

theorem streamRef?_normalized (h : layers.ReferToNothing) :
    (app.normalized layers).1.streamRef? = app.streamRef? :=
  streamRef?_congr rfl (get_normalized h.image rfl)

end Application

namespace Watch

variable {app : Application} {layers : StackLayers} {own : String}

/-- Where the layers refer to nothing, the watches cover all that is looked up. -/
theorem covers_of_referToNothing (hns : app.ns? = some own) (h : layers.ReferToNothing)
    {apps : List Application} (hmem : app ∈ apps) :
    Covers apps app (app.normalized layers).1 := by
  refine covers_of_refs hns (fun r hr _ => ?_) (fun r hr => ?_) hmem
  · rw [app.secretRefs_normalized h] at hr
    exact hr
  · rw [app.streamRef?_normalized h] at hr
    exact hr

/-! ## Small inputs

A stack whose defaults name a service is enough to show the difference. -/

/-- An application of which little more is said than its image. -/
def running (ns name image : String) : Application :=
  { (default : Application) with
    metadata := { (default : ObjectMeta) with name := some name, ns := some ns }
    spec := { (default : ApplicationSpec) with applicationImage := image } }

/-- Defaults by which every application of a stack uses a service. -/
def lending (provider : String) : StackLayers :=
  { defaults := { (default : ApplicationSpec) with
      service := some { (default : ServiceSettings) with
        consumes := some [
          { name := provider, ns := none, category := .openApi, mountPath := none }] } } }

/-! ## What the watches miss

The condition compares two lists of references, of which one is known to the watches and
the other to the reconcile. It is exact: a single named reference that only the layers have
put in is an object whose changes go unnoticed. Secrets without a name are left out, since
no object can bear it. -/

/-- **What the watches miss.** Of an application with a namespace, everything that
is looked up for its effective specification is watched for it, on every list of
applications that it is on, exactly if every named secret and every image stream
that the effective specification refers to is one that its own refers to. -/
theorem covers_iff (app : Application) (layers : StackLayers) {own : String}
    (hns : app.ns? = some own) :
    (∀ apps, app ∈ apps → Covers apps app (app.normalized layers).1)
      ↔ (∀ r ∈ (app.normalized layers).1.secretRefs, r.2 ≠ "" → r ∈ app.secretRefs)
        ∧ ∀ r, (app.normalized layers).1.streamRef? = some r → app.streamRef? = some r := by
  constructor
  · exact fun h => ⟨secretRefs_of_covers hns h, streamRef?_of_covers h⟩
  · exact fun ⟨hsecrets, hstreams⟩ apps hmem => covers_of_refs hns hsecrets hstreams hmem

theorem covers_iff_of_defaulted_service :
    (running "shop" "web" "img").ns? = some "shop"
      ∧ ((∀ apps, running "shop" "web" "img" ∈ apps → Covers apps (running "shop" "web" "img")
          ((running "shop" "web" "img").normalized (lending "orders")).1)
        ↔ (∀ r ∈ ((running "shop" "web" "img").normalized (lending "orders")).1.secretRefs,
            r.2 ≠ "" → r ∈ (running "shop" "web" "img").secretRefs)
          ∧ ∀ r, ((running "shop" "web" "img").normalized (lending "orders")).1.streamRef? = some r
            → (running "shop" "web" "img").streamRef? = some r) :=
  ⟨rfl, covers_iff _ _ rfl⟩

/-- **A service that the defaults name is looked up and not watched**: the
application is admissible, its reconcile reads the secret of the service, and no
change of the secret concerns the application. -/
theorem not_covers_of_defaulted_service :
    (running "shop" "web" "img").ns? = some "shop"
      ∧ ((running "shop" "web" "img").normalized (lending "orders")).2 = .ok ()
      ∧ ((running "shop" "web" "img").normalized (lending "orders")).1.LooksUpSecret
          "shop" "shop-orders"
      ∧ ofSecret (bearing "shop" "shop-orders") [running "shop" "web" "img"] = []
      ∧ ¬ Covers [running "shop" "web" "img"] (running "shop" "web" "img")
          ((running "shop" "web" "img").normalized (lending "orders")).1 := by
  have hlooked : ((running "shop" "web" "img").normalized (lending "orders")).1.LooksUpSecret
      "shop" "shop-orders" := (Application.looksUpSecret_iff _ (by decide)).2 (by decide)
  have hmissed : ofSecret (bearing "shop" "shop-orders") [running "shop" "web" "img"] = [] := by
    decide
  refine ⟨rfl, rfl, hlooked, hmissed, fun h => ?_⟩
  have hmem := h.secret (bearing "shop" "shop-orders") "shop" "shop-orders" rfl rfl (by decide)
    hlooked
  rw [hmissed] at hmem
  exact List.not_mem_nil hmem

end Watch
end AppOperator
