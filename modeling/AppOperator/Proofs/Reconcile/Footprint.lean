import AppOperator.Proofs.Reconcile.Walk

/-!
# The footprint of a pass

Objects of many applications lie side by side in a cluster, and a pass that
wrote under a wrong name or in a wrong namespace would overwrite what is
another's. All that a pass may write is said here beforehand
(`Application.Footprint`), from the application, its status and the APIs that
are served: it is in the application's own namespace, also where secrets of
providers elsewhere are read, and it has the application's name, but for the
secrets of its bindings. Of those some are known by what the application uses
and others only because the status lists them.

The law is one about each call (`Call.StaysIn`), and the walk through the pass
carries it to all calls, on every cluster and up to wherever the pass ends
(`Pass.children_footprint`). It is stated of the calls that read, too: types
that are not served are not even asked for.

The statement is made before the pass and does not depend on what the pass reads. It
is therefore larger than what a given pass writes, most of all in what concerns the
status, which may list anything: a name that is listed is given up, if at all, as a
secret in the application's own namespace, and so nothing worse can come of a status
that was tampered with.
-/

namespace AppOperator

/-- **What a pass may write**, by type and name: the children that run the
application, the secret that it publishes, those that it copies from
providers elsewhere, and those that its status lists. -/
inductive Application.MayWrite (apis : ClusterApis) (app : Application)
    (status : ApplicationStatus) : ObjectType → String → Prop
  | child {type name} (h : Access.HasChild apis app type name) : MayWrite apis app status type name
  | published : MayWrite apis app status (objectType (α := Secret)) app.bindingSecretName
  | copied {name} (h : name ∈ app.copiedSecrets) :
      MayWrite apis app status (objectType (α := Secret)) name
  | listed {name} (h : name ∈ status.secretsInUse) :
      MayWrite apis app status (objectType (α := Secret)) name

/-- **The keys that a pass may write under**, all in the application's own namespace. -/
def Application.Footprint (apis : ClusterApis) (app : Application) (status : ApplicationStatus)
    (k : ObjectKey) : Prop :=
  ∃ type name, app.MayWrite apis status type name ∧ k = .ofType type app.metadata.nsOrEmpty name

/-- The type of the objects that a key is for. -/
def ObjectKey.type (k : ObjectKey) : ObjectType := ⟨k.apiVersion, k.kind⟩

/-- **Whether a type is served**, as far as that differs between clusters. -/
def ClusterApis.serves (apis : ClusterApis) (type : ObjectType) : Bool :=
  if type = objectType (α := Route) then apis.route
  else if type = objectType (α := KnativeService) then apis.knative
  else if type = objectType (α := ServiceMonitor) then apis.monitoring
  else true

/-- A call that is about an object of some keys, or reads a secret. -/
def Call.StaysIn (K : ObjectKey → Prop) (c : Call) : Prop :=
  ∃ k, c.key? = some k ∧ (K k ∨ c.isWrite = false ∧ ∃ ns name, k = .of Secret ns name)

namespace Access

variable {K : ObjectKey → Prop} {app : Application} {apis : ClusterApis}
  {status : ApplicationStatus}

/-! ## Each operation stays in the footprint

An operation on a child reads and writes under one key, so to stay in the footprint it
is enough that the key is in it. The proofs go along the two ways of being admissible
in a pass, for secrets and for the other children, and consist in naming the reason
why each key may be written. -/

section

variable {α : Type} [ApiObject α] {name : String}

theorem staysIn_write {controls : Bool} {update : α → α} (hu : Steady update)
    (hk : K (.of α app.metadata.nsOrEmpty name)) (s : Server) :
    (write app controls name update).Along (fun _ c => c.StaysIn K) s :=
  along_write hu.keeps ⟨_, rfl, .inl hk⟩ (fun _ _ => ⟨_, rfl, .inl hk⟩)
    fun _ _ _ _ => ⟨_, rfl, .inl hk⟩

theorem staysIn_deleteOwn (hk : K (.of α app.metadata.nsOrEmpty name)) (s : Server) :
    (deleteOwn α app name).Along (fun _ c => c.StaysIn K) s :=
  along_deleteOwn ⟨_, rfl, .inl hk⟩ fun _ _ _ => ⟨_, rfl, .inl hk⟩

theorem staysIn_release (hk : K (.of α app.metadata.nsOrEmpty name)) (s : Server) :
    (release α app name).Along (fun _ c => c.StaysIn K) s :=
  along_release ⟨_, rfl, .inl hk⟩ (fun _ _ _ _ _ => ⟨_, rfl, .inl hk⟩)
    fun _ _ _ _ => ⟨_, rfl, .inl hk⟩

end

theorem staysIn_readSecret (s : Server) (ns name : String) :
    (fun (_ : Server) c => Call.StaysIn K c) s (.get (.of Secret ns name)) :=
  ⟨_, rfl, .inr ⟨rfl, ns, name, rfl⟩⟩

/-- A status lists what is given up. -/
theorem mem_secretsInUse_of_released {name : String} (h : name ∈ app.releasedSecrets status) :
    name ∈ status.secretsInUse :=
  (List.mem_filter.1 h).1

theorem admitsSecrets_staysIn (apis : ClusterApis) (app : Application)
    (status : ApplicationStatus) :
    AdmitsSecrets app status fun _ c => c.StaysIn (app.Footprint apis status) where
  read := staysIn_readSecret
  publish data := staysIn_write (app.steady_bindingSecret data) ⟨_, _, .published, rfl⟩
  unpublish := staysIn_deleteOwn ⟨_, _, .published, rfl⟩
  copy _ hname source := staysIn_write source.steady_copyOf ⟨_, _, .copied hname, rfl⟩
  release _ hname :=
    staysIn_release ⟨_, _, .listed (mem_secretsInUse_of_released hname), rfl⟩

theorem admitsChildren_staysIn (apis : ClusterApis) (app : Application)
    (status : ApplicationStatus) :
    AdmitsChildren apis app fun _ c => c.StaysIn (app.Footprint apis status) where
  read := staysIn_readSecret
  remove hchild := staysIn_deleteOwn ⟨_, _, .child hchild, rfl⟩
  account := staysIn_write app.steady_account ⟨_, _, .child .account, rfl⟩
  service := staysIn_write app.steady_service ⟨_, _, .child .service, rfl⟩
  headlessService _ :=
    staysIn_write app.steady_headlessService ⟨_, _, .child .headlessService, rfl⟩
  deployment _ wiring :=
    staysIn_write (app.steady_deployment wiring) ⟨_, _, .child .deployment, rfl⟩
  statefulSet _ wiring :=
    staysIn_write (app.steady_statefulSet wiring) ⟨_, _, .child .statefulSet, rfl⟩
  autoscaler _ := staysIn_write app.steady_autoscaler ⟨_, _, .child .autoscaler, rfl⟩
  knativeService hserved wiring :=
    staysIn_write (app.steady_knativeService wiring) ⟨_, _, .child (.knativeService hserved), rfl⟩
  route hserved host found :=
    staysIn_write (app.steady_route host found) ⟨_, _, .child (.route hserved), rfl⟩
  serviceMonitor hserved :=
    staysIn_write app.steady_serviceMonitor ⟨_, _, .child (.serviceMonitor hserved), rfl⟩

end Access

/-! ## What the footprint leaves alone

The footprint is a set of keys, and what is outside of it is outside for every call.
From this follows the frame, and from what the keys are follows that no type is
touched which the cluster does not serve: a child is in the footprint only if its type
is. -/

namespace Application

variable {apis : ClusterApis} {app : Application} {status : ApplicationStatus}

/-- **What may be written is served.** -/
theorem MayWrite.served {type : ObjectType} {name : String}
    (h : app.MayWrite apis status type name) : apis.serves type = true := by
  rcases h with ⟨h⟩ | _ | _ | _
  · cases h with
    | knativeService served => exact served
    | route served => exact served
    | serviceMonitor served => exact served
    | _ => rfl
  all_goals rfl

end Application

namespace Call.StaysIn

variable {apis : ClusterApis} {app : Application} {status : ApplicationStatus} {c : Call}
  {k : ObjectKey}

/-- A call in the footprint is about an object of a type that is served. -/
theorem served (h : c.StaysIn (app.Footprint apis status)) (hk : c.key? = some k) :
    apis.serves k.type = true := by
  obtain ⟨key, hkey, ⟨type, name, hwrite, rfl⟩ | ⟨-, ns, name, rfl⟩⟩ := h
  · obtain rfl := Option.some.inj (hk.symm.trans hkey)
    exact hwrite.served
  · obtain rfl := Option.some.inj (hk.symm.trans hkey)
    rfl

/-- One that writes is about an object of the footprint. -/
theorem of_isWrite {K : ObjectKey → Prop} (h : c.StaysIn K) (hw : c.isWrite = true) :
    ∃ k, c.key? = some k ∧ K k := by
  obtain ⟨key, hkey, hK | ⟨hread, -⟩⟩ := h
  · exact ⟨key, hkey, hK⟩
  · rw [hw] at hread
    cases hread

/-- It leaves what is stored under other keys as it is. -/
theorem get?_after {K : ObjectKey → Prop} (h : c.StaysIn K) (hk : ¬ K k) (s : Server) :
    (s.after c).objects.get? k = s.objects.get? k := by
  refine Server.after_get?_of_ne fun hw hkey => hk ?_
  obtain ⟨key, hkey', hK⟩ := h.of_isWrite hw
  exact Option.some.inj (hkey.symm.trans hkey') ▸ hK

end Call.StaysIn

/-- **The footprint of a pass.** On every cluster and however it ends, a pass
writes only what it may write for the application, in the application's own
namespace; it asks for no object of a type that is not served; and whatever
is stored under other keys stays as it is. -/
theorem Pass.children_footprint (apis : ClusterApis) (settings : Settings) (app : Application)
    (status : ApplicationStatus) (s : Server) :
    (∃ made, ((Pass.children apis settings app).on status s).2.2.history = s.history ++ made
      ∧ (∀ entry ∈ made, entry.call.isWrite = true → ∃ type name,
          app.MayWrite apis status type name
            ∧ entry.call.key? = some (.ofType type app.metadata.nsOrEmpty name))
      ∧ (∀ entry ∈ made, ∀ k, entry.call.key? = some k → apis.serves k.type = true))
    ∧ ∀ k, ¬ app.Footprint apis status k →
      ((Pass.children apis settings app).on status s).2.2.objects.get? k = s.objects.get? k := by
  have hstays : (Pass.children apis settings app).Along
      (fun _ c => c.StaysIn (app.Footprint apis status)) status s :=
    Pass.along_of_admits (Access.admitsSecrets_staysIn apis app status)
      (Access.admitsChildren_staysIn apis app status) settings s
  refine ⟨?_, fun k hk => ?_⟩
  · obtain ⟨made, hhistory, hmade⟩ := Dialogue.Along.history hstays
    refine ⟨made, hhistory, fun entry he hw => ?_, fun entry he k hk => ?_⟩
    · obtain ⟨-, hin⟩ := hmade entry he
      obtain ⟨_, hkey, type, name, hwrite, rfl⟩ := hin.of_isWrite hw
      exact ⟨type, name, hwrite, hkey⟩
    · obtain ⟨-, hin⟩ := hmade entry he
      exact hin.served hk
  · exact Pass.Along.keeps hstays (I := fun t => t.objects.get? k = s.objects.get? k) rfl
      fun t c hc ht => (hc.get?_after hk t).trans ht

end AppOperator
