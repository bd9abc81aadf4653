import AppOperator.Application.Basic
import AppOperator.Error
import AppOperator.Text.Blank

/-!
# What an application may ask for

A specification is admissible when it has none of the faults listed here.
Each fault is found on its own, so that all of them are reported at once.

Limits of autoscaling are compared where the upper one is given, the lower one with
the value that it has when it is not given. A refusal gives the texts of all faults
with a semicolon between them, section by section in the order of `faults`.
-/

namespace AppOperator

/-- **What can be wrong with a specification.** -/
inductive Fault where
  /-- There is no image. -/
  | noImage
  /-- Autoscaling has no upper limit. -/
  | noMaxReplicas
  /-- The upper limit of autoscaling lets no pod run. -/
  | maxBelowOne
  /-- The limits of autoscaling leave nothing between them. -/
  | maxBelowMin (most least : Int32)
  /-- Storage has neither a size nor a claim. -/
  | noStorageSize
  /-- Storage is asked for where it cannot be had. -/
  | storageWithKnative
  /-- A port of the nodes is asked for where there is none. -/
  | nodePortUnused (type : ServiceType)
  /-- A service is used that has no name. -/
  | unnamedConsumes
deriving DecidableEq

/-- The text of a fault. -/
def Fault.message : Fault → String
  | .noImage => "applicationImage is required"
  | .noMaxReplicas => "autoscaling.maxReplicas is required"
  | .maxBelowOne => "autoscaling.maxReplicas must be at least 1"
  | .maxBelowMin most least =>
    "autoscaling.maxReplicas (" ++ toString most.toInt ++ ") is lower than minReplicas ("
      ++ toString least.toInt ++ ")"
  | .noStorageSize => "storage requires either size or volumeClaimTemplate"
  | .storageWithKnative => "storage cannot be used with createKnativeService"
  | .nodePortUnused type =>
    "service.nodePort requires type NodePort or LoadBalancer, not " ++ type.word
  | .unnamedConsumes => "service.consumes entries require a name"

/-- The faults of autoscaling. -/
def Autoscaling.faults (a : Autoscaling) : List Fault :=
  match a.maxReplicas with
  | none => [.noMaxReplicas]
  | some most =>
    if most < 1 then [.maxBelowOne] else if most < a.least then [.maxBelowMin most a.least] else []

/-- The faults of storage. -/
def Storage.faults (s : Storage) (knative : Bool) : List Fault :=
  (if s.size.isNone && s.claimTemplate.isNone then [.noStorageSize] else [])
    ++ (if knative then [.storageWithKnative] else [])

/-- The faults of a service. -/
def ServiceSettings.faults (s : ServiceSettings) : List Fault :=
  let type := s.type.getD .clusterIP
  (if s.nodePort.isSome && !type.allowsNodePort then [.nodePortUnused type] else [])
    ++ ((s.consumes.getD []).filter fun c => allBlank c.name).map fun _ => .unnamedConsumes

namespace ApplicationSpec

/-- **The faults of a specification**, by section. -/
def faults (spec : ApplicationSpec) : List Fault :=
  (if allBlank spec.applicationImage then [.noImage] else [])
    ++ (spec.autoscaling.map Autoscaling.faults).getD []
    ++ (spec.storage.map (·.faults (spec.createKnativeService.getD false))).getD []
    ++ (spec.service.map ServiceSettings.faults).getD []

/-- **Admits a specification without faults.** -/
def validate (spec : ApplicationSpec) : Except OperatorError Unit :=
  match spec.faults with
  | [] => .ok ()
  | faults => .error (.inadmissible ("; ".intercalate (faults.map Fault.message)))

end ApplicationSpec
end AppOperator
