import AppOperator.Cluster.Access
import AppOperator.Extension.ImageStream
import AppOperator.Extension.Knative
import AppOperator.Extension.Monitor
import AppOperator.Extension.Route

/-!
# Which APIs a cluster serves

Routes, Knative services, service monitors and image streams are not part of
every cluster. Which of their APIs are served is asked once and trusted for a
while. An answer is trusted as a whole: as long as any of the questions goes
unanswered, nothing is learned.

How old an answer is counts from when it was complete and not from when it was asked
for. A failure leaves what was known as it was, and the next one to ask asks the
cluster again.
-/

namespace AppOperator

/-- **The APIs that not every cluster serves.** -/
structure ClusterApis where
  /-- Routes. -/
  route : Bool := false
  /-- Knative services. -/
  knative : Bool := false
  /-- Service monitors. -/
  monitoring : Bool := false
  /-- Image streams. -/
  image : Bool := false
deriving DecidableEq, Inhabited

/-- The API that a type belongs to. -/
def apiOf (α : Type) [ApiObject α] : String := (objectType (α := α)).apiVersion

/-- **Asks which APIs are served.** -/
def Access.discover : Access ClusterApis := do
  let route ← isServed (apiOf Route)
  let knative ← isServed (apiOf KnativeService)
  let monitoring ← isServed (apiOf ServiceMonitor)
  let image ← isServed (apiOf ImageStream)
  return { route, knative, monitoring, image }

/-- **What was learned last of the APIs of a cluster.** Times are counted in
nanoseconds from some beginning. -/
structure Discovery where
  /-- How long an answer is trusted. -/
  lifetime : Nat
  /-- The last answer and when it was complete. -/
  known : Option (ClusterApis × Nat) := none
deriving DecidableEq, Inhabited

namespace Discovery

/-- How long the operator trusts an answer: five minutes. -/
def trust : Nat := 5 * 60 * 1000000000

/-- The answer that is still trusted. -/
def fresh? (d : Discovery) (now : Nat) : Option ClusterApis :=
  match d.known with
  | some (apis, learned) => if now - learned < d.lifetime then some apis else none
  | none => none

/-- An answer that is complete at some time. -/
def learn (d : Discovery) (apis : ClusterApis) (now : Nat) : Discovery :=
  { d with known := some (apis, now) }

/-- **The APIs that a cluster serves**, asked if nothing trusted is known: when
they are wanted and when an answer would be complete are given. -/
def served (d : Discovery) (wanted complete : Nat) (s : Server) :
    Except OperatorError ClusterApis × Discovery × Server :=
  match d.fresh? wanted with
  | some apis => (.ok apis, d, s)
  | none =>
    match Access.discover.on s with
    | (.ok apis, s) => (.ok apis, d.learn apis complete, s)
    | (.error e, s) => (.error e, d, s)

end Discovery
end AppOperator
