import AppOperator.Cluster.Ownership
import AppOperator.Cluster.Access
import AppOperator.Reconcile.Retry

/-!
# Recording the outcome

After each pass the status is stored with the application: a condition with
the outcome, the generation that was looked at, and what was learned. It is
merged into what is stored, so a part of it that is unset has to be written
as null to go away.

A part that is set replaces what is stored, and conditions are a list and so replaced
as a whole. The parts that are written as null are listed (`clearedParts`), and what
follows for the others is a matter of merge patches.
-/

namespace AppOperator

/-- The parts of a status that go away when they are unset. -/
def clearedParts : List String := ["consumedServices", "imageReference"]

/-- A status in which unset parts are written as null. -/
def ApplicationStatus.whole (status : ApplicationStatus) : Json :=
  clearedParts.foldl (fun j part => if (j.get? part).isSome then j else j.insert part .null)
    (encode status)

/-- **The change of a stored application that records a status.** -/
def ApplicationStatus.patch (status : ApplicationStatus) : Json :=
  .object [("status", status.whole)]

/-- The status after a pass that succeeded. -/
def ApplicationStatus.succeeded (status : ApplicationStatus) (generation : Option Int64)
    (now : Instant) : ApplicationStatus :=
  { status.setCondition (.reconciled .yes none none now) with observedGeneration := generation }

/-- The status after a pass that failed. -/
def ApplicationStatus.failed (status : ApplicationStatus) (generation : Option Int64)
    (e : OperatorError) (now : Instant) : ApplicationStatus :=
  { status.setCondition (.reconciled .no (some e.reason) (some e.message) now) with
    observedGeneration := generation }

namespace Access

/-- **Stores a status with the application.** -/
def storeStatus (app : Application) (status : ApplicationStatus) : Access Unit := do
  let ns ← app.ns
  require (.patchStatus (.of Application ns app.name) status.patch)

/-- Records that a pass succeeded. -/
def recordSuccess (app : Application) (status : ApplicationStatus) (now : Instant) : Access Unit :=
  storeStatus app (status.succeeded app.metadata.generation now)

/-- **Records that a pass failed**, and tells how long to wait before the next. -/
def recordFailure (app : Application) (status : ApplicationStatus) (e : OperatorError)
    (now : Instant) : Access Milliseconds := do
  storeStatus app (status.failed app.metadata.generation e now)
  return Retry.interval (status.condition? .reconciled) now

end Access
end AppOperator
