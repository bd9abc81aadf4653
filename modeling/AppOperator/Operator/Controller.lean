import AppOperator.Operator.Metrics
import AppOperator.Reconcile.Children
import AppOperator.Reconcile.Preparation
import AppOperator.Reconcile.Record

/-!
# The controller

The controller reconciles one application at a time: it makes a pass, records
the outcome with the application and counts it, and says when to come back.
After a success it comes back once in a while, after a failure once the wait
is over, and not at all while only a change of the application can help. When
not even the outcome could be recorded it comes back soon.

A pass that failed is counted whether or not the failure could be recorded;
a success only counts once it is recorded.
-/

namespace AppOperator

/-- **When a reconcile happens**: on a clock that only counts, in nanoseconds,
and by the calendar. -/
structure Timing where
  /-- When it begins. -/
  start : Nanoseconds
  /-- When an answer about the APIs is complete, if they are asked for. -/
  discovered : Nanoseconds
  /-- When it is counted. -/
  finish : Nanoseconds
  /-- The time that is recorded. -/
  now : Instant
deriving DecidableEq

/-- **When to come back to an application.** -/
inductive Next where
  /-- After some time, or earlier if something changes. -/
  | after (delay : Milliseconds)
  /-- When something changes. -/
  | onChange
deriving DecidableEq

/-- **What came of a reconcile.** -/
structure Visit where
  /-- Why the pass failed, if it did. -/
  failure : Option OperatorError
  /-- Why the outcome could not be recorded, if it could not. -/
  unrecorded : Option OperatorError
  /-- When to come back. -/
  next : Next
deriving DecidableEq

/-- **What the controller keeps between reconciles.** -/
structure Controller where
  /-- How the operator is set up. -/
  config : Config
  /-- What is known of the cluster's APIs. -/
  discovery : Discovery := { lifetime := Discovery.trust }
  /-- What was counted. -/
  metrics : Metrics := {}
deriving DecidableEq

namespace Controller

/-- The wait after an outcome that could not be recorded: half a minute. -/
def unrecordedWait : Milliseconds := 30 * 1000

/-- **One pass for an application**: finding out what is wanted and bringing
it about. -/
def pass (config : Config) (apis : ClusterApis) (app : Application) : Pass Unit := do
  let (app, settings) ← Pass.prepare config apis app
  Pass.children apis settings app

/-- The time between two successful reconciles. -/
def resync (c : Controller) : Milliseconds := c.config.resyncSeconds.toNat * 1000

/-- The outcome of a pass is recorded and counted. -/
def conclude (c : Controller) (app : Application) (result : Except OperatorError Unit)
    (status : ApplicationStatus) (t : Timing) (s : Server) : Visit × Controller × Server :=
  let elapsed := t.finish - t.start
  match result with
  | .ok () =>
    match (Access.recordSuccess app status t.now).on s with
    | (.ok (), s) =>
      (⟨none, none, .after c.resync⟩, { c with metrics := c.metrics.recordSuccess elapsed }, s)
    | (.error e, s) => (⟨none, some e, .after unrecordedWait⟩, c, s)
  | .error failure =>
    let c := { c with metrics := c.metrics.recordFailure failure.reason elapsed }
    match (Access.recordFailure app status failure t.now).on s with
    | (.ok wait, s) =>
      (⟨some failure, none, if failure.isRetryable then .after wait else .onChange⟩, c, s)
    | (.error e, s) => (⟨some failure, some e, .after unrecordedWait⟩, c, s)

/-- **Reconciles an application.** -/
def reconcile (c : Controller) (app : Application) (t : Timing) (s : Server) :
    Visit × Controller × Server :=
  let status := app.status.getD default
  let (apis, discovery, s) := c.discovery.served t.start t.discovered s
  let c := { c with discovery }
  match apis with
  | .error e => c.conclude app (.error e) status t s
  | .ok apis =>
    let (result, status, s) := (pass c.config apis app).on status s
    c.conclude app result status t s

/-- **Starts a controller**, which first learns the APIs of the cluster. -/
def start (config : Config) (now learned : Nanoseconds) (s : Server) :
    Except OperatorError (ClusterApis × Controller) × Server :=
  let c : Controller := { config }
  match c.discovery.served now learned s with
  | (.ok apis, discovery, s) => (.ok (apis, { c with discovery }), s)
  | (.error e, _, s) => (.error e, s)

end Controller
end AppOperator
