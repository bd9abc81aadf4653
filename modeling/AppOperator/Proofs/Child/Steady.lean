import AppOperator.Binding.Consumer
import AppOperator.Child.Knative
import AppOperator.Child.Monitor
import AppOperator.Child.Route
import AppOperator.Child.Service
import AppOperator.Child.Workload

/-!
# Children come to rest

What an application sets in a stored child it may set again and again: the
second time changes nothing. This holds of every child whatever was stored
before, and it is not plain everywhere, since some of what is set depends on
what is there – a port of the nodes, a host, the claims of a stateful set.

What is set in the metadata are labels and annotations only. Each of them is
set to a value, removed or left as it is (`Labels.Edit`), and such edits do
the same the second time, alone or one after another. A function on metadata
that consists of them is a `Marking`; a function on objects is `Steady` if it
marks the metadata and does nothing the second time.

This is what lets an operator act without remembering what it has done. It writes only
where setting a child changes it, so a child that is steady and was set before is not
written again, and passes come to rest. Nothing is assumed of the stored object: one
that others have edited is set once and from then on steady as well.
-/

namespace AppOperator

/-! ## Edits of labels

Doing something twice to a dictionary is the same as doing it once if each key is
treated on its own, and either gets a value that does not depend on the one before or
keeps the one before. That is what an edit is. The condition is on each key apart, so
edits compose: after two of them a key has the value of the second, or else that of
the first, or else its own. -/

/-- **An edit of labels**: each key is set to some value, removed or left as
it is, and labels are set or stay unset whatever they were. -/
structure Labels.Edit (f : Option Labels → Option Labels) : Prop where
  /-- What becomes of a key. -/
  keys : ∀ k, (∃ v, ∀ d, ((f d).getD .empty).get? k = v)
    ∨ ∀ d, ((f d).getD .empty).get? k = (d.getD .empty).get? k
  /-- What becomes of labels that are unset. -/
  unset : (∀ d, (f d).isSome = true) ∨ ∀ d, (f d).isSome = d.isSome

namespace Labels.Edit

variable {f g : Option Labels → Option Labels}

protected theorem id : Edit id where
  keys _ := .inr fun _ => rfl
  unset := .inr fun _ => rfl

protected theorem comp (hg : Edit g) (hf : Edit f) : Edit (g ∘ f) where
  keys k := by
    rcases hg.keys k with ⟨v, hv⟩ | hsame
    · exact .inl ⟨v, fun d => hv (f d)⟩
    · rcases hf.keys k with ⟨v, hv⟩ | hsame'
      · exact .inl ⟨v, fun d => (hsame (f d)).trans (hv d)⟩
      · exact .inr fun d => (hsame (f d)).trans (hsame' d)
  unset := by
    rcases hg.unset with hset | hsame
    · exact .inl fun d => hset (f d)
    · rcases hf.unset with hset | hsame'
      · exact .inl fun d => (hsame (f d)).trans (hset d)
      · exact .inr fun d => (hsame (f d)).trans (hsame' d)

/-- **An edit does nothing the second time.** -/
theorem settled (hf : Edit f) (d : Option Labels) : f (f d) = f d := by
  have hisSome : (f (f d)).isSome = (f d).isSome := by
    rcases hf.unset with hset | hsame
    · rw [hset, hset]
    · exact hsame (f d)
  -- a key that is set or removed has its value whatever was there before
  have hkeys : (f (f d)).getD .empty = (f d).getD .empty := Dict.ext fun k => by
    rcases hf.keys k with ⟨v, hv⟩ | hsame
    · rw [hv, hv]
    · exact hsame (f d)
  cases h : f d with
  | none =>
    rw [h] at hisSome
    simpa [h] using hisSome
  | some e =>
    rw [h] at hisSome hkeys
    obtain ⟨e', he'⟩ := Option.isSome_iff_exists.1 hisSome
    rw [he'] at hkeys ⊢
    exact congrArg some hkeys

/-- Labels that are set to an edit of what they were. -/
theorem of_set (g : Labels → Labels)
    (h : ∀ k, (∃ v, ∀ d, (g d).get? k = v) ∨ ∀ d, (g d).get? k = d.get? k) :
    Edit fun d => some (g (d.getD .empty)) where
  keys k := (h k).imp (fun ⟨v, hv⟩ => ⟨v, fun _ => hv _⟩) fun hsame _ => hsame _
  unset := .inl fun _ => rfl

theorem extend (labels : Labels) : Edit fun d => some ((d.getD .empty).extend labels) := by
  refine .of_set (·.extend labels) fun k => ?_
  cases h : labels.get? k with
  | some v => exact .inl ⟨some v, fun d => by rw [Dict.get?_extend, h, Option.some_or]⟩
  | none => exact .inr fun d => by rw [Dict.get?_extend, h, Option.none_or]

theorem insert (name value : String) :
    Edit fun d => some ((d.getD .empty).insert name value) := by
  refine .of_set (·.insert name value) fun k => ?_
  by_cases h : k = name
  · exact .inl ⟨some value, fun d => by rw [Dict.get?_insert, if_pos h]⟩
  · exact .inr fun d => by rw [Dict.get?_insert, if_neg h]

theorem erase (name : String) : Edit fun d => some ((d.getD .empty).erase name) := by
  refine .of_set (·.erase name) fun k => ?_
  by_cases h : k = name
  · exact .inl ⟨none, fun d => by rw [Dict.get?_erase, if_pos h]⟩
  · exact .inr fun d => by rw [Dict.get?_erase, if_neg h]

end Labels.Edit

/-! ## Marking

Metadata are marked by an edit of the labels and one of the annotations. That a
function is of this kind is proved once for each of the ways in which the operator
touches metadata, and for compositions of them in general; that it does nothing the
second time and leaves names and owners alone is then common to all. -/

/-- **A function on metadata that edits labels and annotations** and touches
nothing else, least of all the name and the owners. -/
def ObjectMeta.Marking (f : ObjectMeta → ObjectMeta) : Prop :=
  ∃ labels annotations, Labels.Edit labels ∧ Labels.Edit annotations ∧
    ∀ m, f m = { m with labels := labels m.labels, annotations := annotations m.annotations }

namespace ObjectMeta.Marking

variable {f g : ObjectMeta → ObjectMeta}

protected theorem id : Marking id := ⟨id, id, .id, .id, fun _ => rfl⟩

protected theorem comp (hg : Marking g) (hf : Marking f) : Marking (g ∘ f) := by
  obtain ⟨l, a, hl, ha, h⟩ := hf
  obtain ⟨l', a', hl', ha', h'⟩ := hg
  refine ⟨l' ∘ l, a' ∘ a, hl'.comp hl, ha'.comp ha, fun m => ?_⟩
  show g (f m) = _
  rw [h, h']
  rfl

theorem settled (hf : Marking f) (m : ObjectMeta) : f (f m) = f m := by
  obtain ⟨l, a, hl, ha, h⟩ := hf
  rw [h, h, hl.settled, ha.settled]

theorem name_eq (hf : Marking f) (m : ObjectMeta) : (f m).name = m.name := by
  obtain ⟨l, a, -, -, h⟩ := hf
  rw [h]

theorem ns_eq (hf : Marking f) (m : ObjectMeta) : (f m).ns = m.ns := by
  obtain ⟨l, a, -, -, h⟩ := hf
  rw [h]

theorem ownerReferences_eq (hf : Marking f) (m : ObjectMeta) :
    (f m).ownerReferences = m.ownerReferences := by
  obtain ⟨l, a, -, -, h⟩ := hf
  rw [h]

theorem addLabels (labels : Labels) : Marking (·.addLabels labels) :=
  ⟨_, id, .extend labels, .id, fun _ => rfl⟩

theorem addAnnotations (annotations : Labels) : Marking (·.addAnnotations annotations) := by
  by_cases h : annotations.isEmpty = true
  · refine ⟨id, id, .id, .id, fun m => ?_⟩
    show m.addAnnotations annotations = m
    rw [ObjectMeta.addAnnotations, if_pos h]
  · refine ⟨id, _, .id, .extend annotations, fun m => ?_⟩
    show m.addAnnotations annotations = _
    rw [ObjectMeta.addAnnotations, if_neg h]
    rfl

theorem mark (app : Application) : Marking app.mark :=
  (addAnnotations app.annotations).comp (addLabels app.labels)

theorem markMonitored (app : Application) : Marking app.markMonitored := by
  by_cases h : app.spec.monitoring.isSome = true
  · refine ⟨_, id, .insert Label.monitored "true", .id, fun m => ?_⟩
    rw [Application.markMonitored, if_pos h]
    rfl
  · refine ⟨_, id, .erase Label.monitored, .id, fun m => ?_⟩
    rw [Application.markMonitored, if_neg h]
    rfl

theorem markVisibility (app : Application) : Marking app.markVisibility := by
  by_cases h : app.isExposed = true
  · refine ⟨_, id, .erase Label.visibility, .id, fun m => ?_⟩
    rw [Application.markVisibility, if_pos h]
    rfl
  · refine ⟨_, id, .insert Label.visibility "cluster-local", .id, fun m => ?_⟩
    rw [Application.markVisibility, if_neg h]
    rfl

end ObjectMeta.Marking

/-! ## Steady functions on objects

A child is steady in two ways. Its metadata are marked, which leaves it the same
object with the same owners, and the object as a whole does not change the second
time. The first is not only a part of the second: what the operator does with owners
beside setting a child relies on the child leaving them alone. -/

/-- **A function that keeps the identity of an object**: its name, its
namespace and its owners. -/
structure KeepsIdentity {α : Type} [ApiObject α] (update : α → α) : Prop where
  /-- The name stays. -/
  name_eq : ∀ a, (metadata (update a)).name = (metadata a).name
  /-- The namespace stays. -/
  ns_eq : ∀ a, (metadata (update a)).ns = (metadata a).ns
  /-- The owners stay. -/
  ownerReferences_eq : ∀ a, (metadata (update a)).ownerReferences = (metadata a).ownerReferences

/-- **What an application sets in a child**: it marks the metadata, and the
second time nothing changes. -/
structure Steady {α : Type} [ApiObject α] (update : α → α) : Prop where
  /-- Of the metadata, labels and annotations are set. -/
  marks : ∃ f, ObjectMeta.Marking f ∧ ∀ a, metadata (update a) = f (metadata a)
  /-- The second time nothing changes. -/
  settled : ∀ a, update (update a) = update a

namespace Steady

variable {α : Type} [ApiObject α] {update : α → α}

/-- What is set in a child leaves it the object that it is. -/
theorem keeps (h : Steady update) : KeepsIdentity update := by
  obtain ⟨f, hf, hm⟩ := h.marks
  exact {
    name_eq := fun a => by rw [hm, hf.name_eq]
    ns_eq := fun a => by rw [hm, hf.ns_eq]
    ownerReferences_eq := fun a => by rw [hm, hf.ownerReferences_eq] }

end Steady

namespace Application

open ObjectMeta (Marking)

variable (app : Application) (wiring : Wiring)

/-! ## Pods

The pods are where setting depends most on what is stored: the application's container
is looked for by its name among those that are there, and what it does not set in it
is kept. The second time the container is the one that was put in front the first time
(`containerIn_cons`), and so it is found, and kept, as it was made. -/

/-- The container is found again at its place. -/
@[simp] theorem containerIn_cons {c : Container} (h : c.name = containerName)
    (rest : List Container) : containerIn (c :: rest) = c := by
  rw [containerIn, List.find?_cons, decide_eq_true h]
  rfl

/-- **The pods come to rest.** -/
@[simp] theorem podTemplate_podTemplate (old : PodTemplate) :
    app.podTemplate wiring (app.podTemplate wiring old) = app.podTemplate wiring old := by
  unfold podTemplate podSpec
  simp only [Option.getD_some, (Marking.mark app).settled]
  rw [containerIn_cons rfl]
  rfl

/-- Leaving ports and placement open does not keep the pods from being set
as they were: all that is left open is set by the application. -/
theorem podSpec_unplaced (old : PodSpec) :
    unplaced (app.podSpec wiring (unplaced (app.podSpec wiring old)))
      = unplaced (app.podSpec wiring old) := by
  unfold unplaced podSpec
  simp only [List.map_cons]
  rw [containerIn_cons rfl]
  rfl

/-! ## The children

One theorem for each type of child. The proofs are short where an object is set field
by field from the application alone, and have an argument where a field is set from
what is there: the number of pods, a port of the nodes, a host, the claims. In each of
these the value is taken over if it is there, and taking over what one has taken over
changes nothing. -/

/-- The number of pods comes to rest. -/
@[simp] theorem replicasFor_replicasFor (stored : Option Int32) :
    app.replicasFor (app.replicasFor stored) = app.replicasFor stored := by
  unfold replicasFor
  split
  · rfl
  · rfl

/-- **The account comes to rest.** -/
theorem steady_account : Steady app.account where
  marks := ⟨app.mark, .mark app, fun _ => rfl⟩
  settled old := by
    unfold account
    simp only [(Marking.mark app).settled]
    cases filled app.spec.pullSecret with
    | none => rfl
    | some secret =>
      by_cases h : (old.imagePullSecrets.getD []).any (·.name = some secret) = true
      · simp [h]
      · simp [h]

/-- **The service comes to rest**, and with it the port of the nodes that the
cluster chose. -/
theorem steady_service : Steady app.service where
  marks := ⟨_, (Marking.addAnnotations _).comp ((Marking.markMonitored app).comp (.mark app)),
    fun _ => rfl⟩
  settled old := by
    have hmeta := ((Marking.addAnnotations
      ((app.spec.service.getD default).annotations.getD .empty)).comp
        ((Marking.markMonitored app).comp (.mark app))).settled old.metadata
    simp only [Function.comp] at hmeta
    unfold service
    simp only [hmeta, firstPort, Option.getD_some, List.head?_cons, portOf]
    cases ((app.spec.service.getD default).type.getD .clusterIP).allowsNodePort with
    | false => rfl
    | true =>
      cases (app.spec.service.getD default).nodePort with
      | none => rfl
      | some _ => rfl

/-- **The service without an address comes to rest.** -/
theorem steady_headlessService : Steady app.headlessService where
  marks := ⟨app.mark, .mark app, fun _ => rfl⟩
  settled old := by
    unfold headlessService
    simp only [(Marking.mark app).settled]
    rfl

/-- **The deployment comes to rest.** -/
theorem steady_deployment : Steady (app.deployment wiring) where
  marks := ⟨app.mark, .mark app, fun _ => rfl⟩
  settled old := by
    unfold deployment
    simp only [(Marking.mark app).settled, Option.getD_some, podTemplate_podTemplate,
      replicasFor_replicasFor]

/-- **The stateful set comes to rest**, with the claims that it was made with. -/
theorem steady_statefulSet : Steady (app.statefulSet wiring) where
  marks := ⟨app.mark, .mark app, fun _ => rfl⟩
  settled old := by
    unfold statefulSet
    simp only [(Marking.mark app).settled, Option.getD_some, podTemplate_podTemplate,
      replicasFor_replicasFor]
    by_cases h : ((old.spec.getD default).volumeClaimTemplates.getD []).isEmpty = true
    · cases app.storageClaim? with
      | none => simp [h]
      | some claim => simp [h]
    · simp [h]

/-- **The autoscaler comes to rest.** -/
theorem steady_autoscaler : Steady app.autoscaler where
  marks := by
    cases h : app.spec.autoscaling with
    | none => exact ⟨id, .id, fun old => by simp only [autoscaler, h]; rfl⟩
    | some scaling => exact ⟨app.mark, .mark app, fun old => by simp only [autoscaler, h]; rfl⟩
  settled old := by
    unfold autoscaler
    cases app.spec.autoscaling with
    | none => rfl
    | some scaling => simp only [(Marking.mark app).settled]

/-- **The route comes to rest**, with the host that the cluster chose. -/
theorem steady_route (domain : Option String) (certificates : Option Certificates) :
    Steady (app.route domain certificates) where
  marks := ⟨_, (Marking.addAnnotations _).comp (.mark app), fun _ => rfl⟩
  settled old := by
    have hmeta := ((Marking.addAnnotations
      ((app.spec.route.getD default).annotations.getD .empty)).comp
        (.mark app)).settled old.metadata
    simp only [Function.comp] at hmeta
    unfold route
    simp only [hmeta]
    cases app.host? domain with
    | none => rfl
    | some _ => rfl

/-- **The service monitor comes to rest.** -/
theorem steady_serviceMonitor : Steady app.serviceMonitor where
  marks := by
    cases h : app.spec.monitoring.bind (·.labels) with
    | none => exact ⟨app.mark, .mark app, fun old => by simp only [serviceMonitor, h]; rfl⟩
    | some labels =>
      exact ⟨_, (Marking.addLabels labels).comp (.mark app),
        fun old => by simp only [serviceMonitor, h]; rfl⟩
  settled old := by
    unfold serviceMonitor
    cases app.spec.monitoring.bind (·.labels) with
    | none => simp only [(Marking.mark app).settled]
    | some labels =>
      have hmeta := ((Marking.addLabels labels).comp (.mark app)).settled old.metadata
      simp only [Function.comp] at hmeta
      simp only [hmeta]

/-- **The Knative service comes to rest**: the ports and the placement that
are left to it are not set and taken away in turn. -/
theorem steady_knativeService : Steady (app.knativeService wiring) where
  marks := ⟨_, (Marking.markVisibility app).comp (.mark app), fun _ => rfl⟩
  settled old := by
    have hmeta := ((Marking.markVisibility app).comp (.mark app)).settled old.metadata
    simp only [Function.comp] at hmeta
    unfold knativeService podTemplate
    simp only [hmeta, Option.getD_some, (Marking.mark app).settled, podSpec_unplaced]

/-- **The secret that the application publishes comes to rest.** -/
theorem steady_bindingSecret (data : Labels) : Steady (app.bindingSecret data) where
  marks := ⟨app.mark, .mark app, fun _ => rfl⟩
  settled old := by
    unfold bindingSecret
    simp only [(Marking.mark app).settled]

end Application

/-- **The copy of a provider's secret comes to rest.** -/
theorem Secret.steady_copyOf (source : Secret) : Steady source.copyOf where
  marks := ⟨_, .addLabels _, fun _ => rfl⟩
  settled old := by
    have hmeta := (ObjectMeta.Marking.addLabels
      (.singleton Label.managedBy operatorName)).settled old.metadata
    unfold copyOf
    simp only [hmeta]

end AppOperator
