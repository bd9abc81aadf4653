import Mathlib.Data.List.Forall2
import AppOperator.Proofs.Child.Frame

/-!
# The revisions of a Knative service

A Knative service runs the pods that a workload of the application would run, and
leaves to the cluster where they are placed and which port they are reached by.
So a revision is the template of these pods with a few things taken out, in each
of its containers and not only in the application's own: names and transports of
ports, and the ports of probes.

What is taken out and that nothing else is are two questions. The second is a law
about what is written (`KeepsBut`), from the pods down to the single check of a
probe (`Application.IsRevisionOf`). The first comes with one exception
(`Application.revision_exact`): a probe by the health protocol keeps its port, and
so a revision names no port in any probe exactly if none of the probes that the
application asks for, for itself and for the containers beside it, names one for
that protocol.

The revision is compared with the template of a workload that is made in the same
place, from the same stored pods, rather than with a specification written beside it.
So whatever a workload of the application would run is what its revisions run, also as
far as it was stored before and is only kept.
-/

namespace AppOperator

open Table (isSet isKept)

/-! ## Probes and their ports

A probe may name a port in three ways, and zero is how a request or a connection says
that it names none. The comparison of two probes, two containers and two templates
follows how they are nested: of each it is said which fields are the same, and for the
fields that are not, how the parts in them correspond. Optional parts correspond if
both are unset or both are set and correspond, and containers correspond one for one,
in order, so none is added and none is lost. -/

/-- The ports that a probe names: of a request, of a connection and of the health
protocol. -/
def Probe.ports (probe : Probe) : List IntOrText :=
  probe.httpGet.toList.map (·.port) ++ probe.tcpSocket.toList.map (·.port)
    ++ probe.grpc.toList.map (.int ·.port)

/-- **A probe names no port**: zero stands for none. -/
def Probe.NamesNoPort (probe : Probe) : Prop := ∀ port ∈ probe.ports, port = .int 0

/-- **A probe names no port for the health protocol.** -/
def Probe.NamesNoGrpcPort (probe : Probe) : Prop := ∀ check ∈ probe.grpc, check.port = 0

instance : DecidablePred Probe.NamesNoGrpcPort := fun probe =>
  inferInstanceAs (Decidable (∀ check ∈ probe.grpc, check.port = 0))

/-- The probes that tell whether a container serves and whether it lives. -/
def Container.probes (c : Container) : List Probe :=
  c.readinessProbe.toList ++ c.livenessProbe.toList

/-- **A probe is another but for the ports** of its request and its connection. -/
structure Probe.SameButPorts (before after : Probe) : Prop where
  /-- It asks in the same way and at the same times. -/
  fields : KeepsBut ["httpGet", "tcpSocket"] before after
  /-- It makes the same request, if any. -/
  request : Option.Rel (KeepsBut ["port"]) before.httpGet after.httpGet
  /-- It opens the same connection, if any. -/
  connection : Option.Rel (KeepsBut ["port"]) before.tcpSocket after.tcpSocket

/-- **A container is another but for what it says of ports**: they have the same
numbers, and the probes are the same but for theirs. -/
structure Container.SameButPorts (before after : Container) : Prop where
  /-- All else is the same. -/
  fields : KeepsBut ["ports", "readinessProbe", "livenessProbe"] before after
  /-- The ports have the same numbers. -/
  ports : before.ports.map (·.map (·.containerPort)) = after.ports.map (·.map (·.containerPort))
  /-- The check that it can serve. -/
  readiness : Option.Rel Probe.SameButPorts before.readinessProbe after.readinessProbe
  /-- The check that it lives. -/
  liveness : Option.Rel Probe.SameButPorts before.livenessProbe after.livenessProbe

/-- The template of the pods that the revisions of a service run. -/
def KnativeService.pods (service : KnativeService) : PodTemplate :=
  { metadata := service.spec.template.bind (·.metadata)
    spec := (service.spec.template.bind (·.spec)).map (·.pod) }

namespace Application

/-- **The pods of a revision are those of a template** but for what is left to the
cluster: where they are placed and which port they are reached by. -/
structure IsRevisionOf (template pods : PodTemplate) : Prop where
  /-- They are marked alike. -/
  metadata : pods.metadata = template.metadata
  /-- They ask for the same. -/
  spec : Option.Rel (KeepsBut ["containers", "affinity"]) template.spec pods.spec
  /-- They have the same containers, one for one. -/
  containers : List.Forall₂ Container.SameButPorts
    (template.spec.getD default).containers (pods.spec.getD default).containers
  /-- Nothing is said of where they are placed. -/
  affinity : (pods.spec.getD default).affinity = none
  /-- Of a port no more is said than its number. -/
  ports : ∀ c ∈ (pods.spec.getD default).containers, ∀ port ∈ c.ports.getD [],
    port = .bare port.containerPort

/-- The probes that an application asks for, for itself and for the containers
beside it. -/
def probes (app : Application) : List Probe :=
  app.spec.readinessProbe.toList ++ app.spec.livenessProbe.toList
    ++ (app.spec.sidecarContainers.getD []).flatMap Container.probes

/-! ## One container

What is done to a container is done to each of its probes and to each of its ports.
The only statement with content is about a single probe: after its ports are taken out
it names a port exactly if it names one for the health protocol, since that way of
probing has no case of its own. -/

theorem sameButPorts_withoutPort (probe : Probe) : probe.SameButPorts (withoutPort probe) where
  fields := .of_agreeBut ⟨isSet, isSet, isKept, Table.agreeBut_refl _ _⟩
  request := by
    show Option.Rel _ probe.httpGet (probe.httpGet.map _)
    cases probe.httpGet with
    | none => exact .none
    | some check => exact .some (.of_agreeBut ⟨isSet, Table.agreeBut_refl _ _⟩)
  connection := by
    show Option.Rel _ probe.tcpSocket (probe.tcpSocket.map _)
    cases probe.tcpSocket with
    | none => exact .none
    | some check => exact .some (.of_agreeBut ⟨isSet, isKept, trivial⟩)

theorem sameButPorts_withBarePorts (c : Container) : c.SameButPorts (withBarePorts c) := by
  have hprobe : ∀ probe : Option Probe,
      Option.Rel Probe.SameButPorts probe (probe.map withoutPort) := by
    intro probe
    cases probe with
    | none => exact .none
    | some probe => exact .some (sameButPorts_withoutPort probe)
  refine ⟨.of_agreeBut ⟨isKept, isKept, isKept, isSet, isSet, isSet, isKept, isKept, isKept,
    isKept, Table.agreeBut_refl _ _⟩, ?_, hprobe _, hprobe _⟩
  show _ = (c.ports.map _).map _
  cases c.ports with
  | none => rfl
  | some ports => simp [ContainerPort.bare]

theorem bare_withBarePorts {c : Container} {port : ContainerPort}
    (h : port ∈ (withBarePorts c).ports.getD []) : port = .bare port.containerPort := by
  change port ∈ (c.ports.map _).getD [] at h
  cases hports : c.ports with
  | none => simp [hports] at h
  | some ports =>
    simp only [hports, Option.map_some, Option.getD_some, List.mem_map] at h
    obtain ⟨old, -, rfl⟩ := h
    rfl

/-- **Only the health protocol keeps its port.** -/
theorem namesNoPort_withoutPort (probe : Probe) :
    (withoutPort probe).NamesNoPort ↔ probe.NamesNoGrpcPort := by
  have hports : (withoutPort probe).ports
      = probe.httpGet.toList.map (fun _ => .int 0) ++ probe.tcpSocket.toList.map (fun _ => .int 0)
        ++ probe.grpc.toList.map (.int ·.port) := by
    unfold Probe.ports withoutPort
    cases probe.httpGet <;> cases probe.tcpSocket <;> rfl
  unfold Probe.NamesNoPort Probe.NamesNoGrpcPort
  rw [hports]
  simp only [List.forall_mem_append, List.forall_mem_map, Option.mem_toList, implies_true,
    true_and, IntOrText.int.injEq]
  rfl

theorem probes_withBarePorts (c : Container) :
    (withBarePorts c).probes = c.probes.map withoutPort := by
  unfold Container.probes withBarePorts
  cases c.readinessProbe <;> cases c.livenessProbe <;> rfl

/-! ## All containers

The pods of a revision are made from those of a workload by mapping over the
containers, so what holds of one holds of all, whichever containers the application
has beside its own. That the probes of a workload's pods are those that the
application asks for turns the exception into one about the specification: it can be
read off before anything is made. -/

variable (app : Application) (wiring : Wiring)

/-- The containers of the pods have the probes that the application asks for. -/
theorem probes_podSpec (old : PodSpec) :
    (app.podSpec wiring old).containers.flatMap Container.probes = app.probes := rfl

/-- The template of the revisions is made from that of the stored ones. -/
theorem pods_knativeService (old : KnativeService) :
    (app.knativeService wiring old).pods
      = { app.podTemplate wiring old.pods with
          spec := (app.podTemplate wiring old.pods).spec.map unplaced } := by
  have hmetadata : (old.spec.template.getD default).metadata
      = old.spec.template.bind (·.metadata) := by
    cases old.spec.template <;> rfl
  have hspec : ((old.spec.template.getD default).spec.getD default).pod
      = ((old.spec.template.bind (·.spec)).map (·.pod)).getD default := by
    cases htemplate : old.spec.template with
    | none => rfl
    | some template => cases hspec : template.spec with
      | none =>
        simp only [Option.getD_some, Option.bind_some, hspec]
        rfl
      | some spec => simp only [Option.getD_some, Option.bind_some, hspec, Option.map_some]
  show ({ metadata := some (app.mark _), spec := some (unplaced (app.podSpec wiring _)) } :
    PodTemplate) = _
  unfold podTemplate KnativeService.pods
  rw [hmetadata, Option.getD_some, hspec]
  rfl

/-- **A revision runs the pods of a workload** but for what is left to the cluster. -/
theorem isRevisionOf_unplaced (template : PodTemplate) (hspec : template.spec.isSome = true) :
    IsRevisionOf template { template with spec := template.spec.map unplaced } := by
  obtain ⟨spec, hspec⟩ := Option.isSome_iff_exists.1 hspec
  refine ⟨rfl, ?_, ?_, ?_, ?_⟩
  · rw [hspec]
    exact .some (.of_agreeBut ⟨isSet, isKept, isKept, isKept, isKept, isSet,
      Table.agreeBut_refl _ _⟩)
  · rw [hspec]
    exact List.forall₂_map_right_iff.2
      (List.forall₂_same.2 fun c _ => sameButPorts_withBarePorts c)
  · rw [hspec]
    rfl
  · rw [hspec]
    intro c hc port hport
    obtain ⟨old, -, rfl⟩ := List.mem_map.1 hc
    exact bare_withBarePorts hport

theorem label?_visibility (m : ObjectMeta) :
    (app.markVisibility m).label? Label.visibility
      = if app.isExposed then none else some "cluster-local" := by
  unfold markVisibility ObjectMeta.label? ObjectMeta.labelsOrEmpty
  dsimp only
  split
  · rw [Option.getD_some, Dict.get?_erase, if_pos rfl]
  · rw [Option.getD_some, Dict.get?_insert_self]

/-- **What a revision says of ports and places.** Whatever is stored for a Knative
service, and however its pods are wired, its revisions run the pods that a workload
would run but for what is left to the cluster; the service is hidden exactly if the
application is not exposed; and no probe of any container names a port exactly if
the application asks for no probe that names one for the health protocol. -/
theorem revision_exact (old : KnativeService) :
    IsRevisionOf (app.podTemplate wiring old.pods) (app.knativeService wiring old).pods
      ∧ (app.knativeService wiring old).metadata.label? Label.visibility
        = (if app.isExposed then none else some "cluster-local")
      ∧ ((∀ c ∈ ((app.knativeService wiring old).pods.spec.getD default).containers,
          ∀ probe ∈ c.probes, probe.NamesNoPort)
        ↔ ∀ probe ∈ app.probes, probe.NamesNoGrpcPort) := by
  refine ⟨?_, app.label?_visibility _, ?_⟩
  · rw [pods_knativeService]
    exact isRevisionOf_unplaced _ rfl
  · rw [pods_knativeService, ← app.probes_podSpec wiring (old.pods.spec.getD default)]
    show (∀ c ∈ List.map withBarePorts _, _) ↔ _
    simp only [List.forall_mem_map, probes_withBarePorts, namesNoPort_withoutPort,
      List.forall_mem_flatMap]

/-- An application that is probed by the health protocol. -/
def checkedByGrpc : Application :=
  { (default : Application) with
    spec := { (default : ApplicationSpec) with
      applicationImage := "img"
      livenessProbe := some
        { httpGet := none, tcpSocket := none, grpc := some { port := 9090, service := none },
          other := default } } }

/-- **A revision can name a port in a probe**, where the application is probed by the
health protocol. -/
theorem revision_names_grpc_port :
    ¬ ∀ c ∈ ((checkedByGrpc.knativeService {} (blank KnativeService)).pods.spec.getD
        default).containers, ∀ probe ∈ c.probes, probe.NamesNoPort := by
  intro h
  have hport := h _ List.mem_cons_self _ List.mem_cons_self (.int 9090) List.mem_cons_self
  exact absurd hport (by decide)

end Application
end AppOperator
