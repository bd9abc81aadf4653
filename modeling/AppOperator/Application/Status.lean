import AppOperator.Kubernetes.Metadata

/-!
# How an application fares

The status that the operator records on an application: whether the last
reconcile succeeded, which bindings are in use, which image was found. A
condition keeps the time at which its status last changed, so replacing it by
one of the same status must not touch that time (`setCondition`).

There is one type of condition, and a status may still list several of that type if
something else wrote it; the first counts and is the one that is replaced. The time at
which it was last looked at is the new one in any case.
-/

namespace AppOperator

/-- **What a condition is about.** -/
inductive ConditionType where
  /-- Whether the objects of the application are as it asks. -/
  | reconciled
deriving DecidableEq

instance : Shaped ConditionType where
  shape := .choice "Reconciled" []
  ofVal := fun _ => .reconciled
  toVal := fun _ => choiceOf 0 0
  ofVal_toVal _ := rfl
  toVal_ofVal := fun (v : Fin 1) => by match v with
    | 0 => rfl

/-- **Whether a condition holds.** -/
inductive ConditionStatus where
  /-- It holds. -/
  | yes
  /-- It does not hold. -/
  | no
  /-- It is not known whether it holds. -/
  | unknown
deriving DecidableEq

instance : Shaped ConditionStatus where
  shape := .choice "True" ["False", "Unknown"]
  ofVal := fun i => match i.val with
    | 0 => .yes
    | 1 => .no
    | _ => .unknown
  toVal
    | .yes => choiceOf 2 0
    | .no => choiceOf 2 1
    | .unknown => choiceOf 2 2
  ofVal_toVal t := by cases t <;> rfl
  toVal_ofVal := fun (v : Fin 3) => by match v with
    | 0 => rfl
    | 1 => rfl
    | 2 => rfl

/-- **A condition of an application.** -/
structure Condition where
  /-- What it is about. -/
  type : ConditionType
  /-- Whether it holds. -/
  status : ConditionStatus
  /-- When the status last changed. -/
  lastTransitionTime : Option Instant
  /-- When it was last looked at. -/
  lastUpdateTime : Option Instant
  /-- Why it has its status, in a word. -/
  reason : Option String
  /-- Why it has its status, in full. -/
  message : Option String
deriving DecidableEq

instance : Shaped Condition where
  shape := .record .custom <| .of [
    given "type" (shapeOf ConditionType), given "status" (shapeOf ConditionStatus),
    opt "lastTransitionTime" .instant, opt "lastUpdateTime" .instant, opt "reason" .text,
    opt "message" .text]
  ofVal := fun (type, status, transition, update, reason, message, ()) =>
    { type := ofVal type, status := ofVal status, lastTransitionTime := transition,
      lastUpdateTime := update, reason, message }
  toVal c := (toVal c.type, toVal c.status, c.lastTransitionTime, c.lastUpdateTime, c.reason,
    c.message, ())
  ofVal_toVal _ := by simp
  toVal_ofVal _ := by simp

/-- The condition that a reconcile leaves behind. -/
def Condition.reconciled (status : ConditionStatus) (reason message : Option String)
    (now : Instant) : Condition :=
  { type := .reconciled, status, lastTransitionTime := some now, lastUpdateTime := some now,
    reason, message }

/-- The condition as it replaces an older one: the time of the last change
stays while the status does. -/
def Condition.following (c old : Condition) : Condition :=
  if old.status = c.status then { c with lastTransitionTime := old.lastTransitionTime } else c

/-- **How an application fares.** -/
structure ApplicationStatus where
  /-- The conditions. -/
  conditions : List Condition
  /-- The secrets of the bindings in use, by category. -/
  consumedServices : Option (Dict String (List String))
  /-- The image that the application's reference stands for. -/
  imageReference : Option String
  /-- The generation that was reconciled last. -/
  observedGeneration : Option Int64
deriving DecidableEq

namespace ApplicationStatus

instance : Shaped ApplicationStatus where
  shape := .record .custom <| .of [
    implied "conditions" (.list (shapeOf Condition)),
    opt "consumedServices" (.map (.list .text)), opt "imageReference" .text,
    opt "observedGeneration" .int64]
  ofVal := fun (conditions, consumedServices, imageReference, observedGeneration, ()) =>
    { conditions := ofVals conditions, consumedServices, imageReference, observedGeneration }
  toVal s := (toVals s.conditions, s.consumedServices, s.imageReference, s.observedGeneration, ())
  ofVal_toVal _ := by simp
  toVal_ofVal _ := by simp

instance : Inhabited ApplicationStatus := ⟨blank ApplicationStatus⟩

/-- The first condition about something. -/
def condition? (s : ApplicationStatus) (type : ConditionType) : Option Condition :=
  s.conditions.find? (fun c => c.type = type)

/-- Puts a condition in the place of the first about the same thing, or at the end. -/
def replaceCondition (c : Condition) : List Condition → List Condition
  | [] => [c]
  | old :: rest =>
    if old.type = c.type then c.following old :: rest else old :: replaceCondition c rest

/-- **The status with a condition recorded.** -/
def setCondition (s : ApplicationStatus) (c : Condition) : ApplicationStatus :=
  { s with conditions := replaceCondition c s.conditions }

end ApplicationStatus
end AppOperator
