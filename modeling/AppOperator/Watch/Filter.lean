import AppOperator.Watch.Dependents

/-!
# Which changes of an application matter

The operator itself writes to applications, so not every change of one may
lead to a reconcile. What counts is what children are made from: the
generation, which rises with the specification, and the labels and
annotations. A change of the status leaves all of them alone.

For each application the last of these is remembered by namespace and name,
also after the application is gone.
-/

namespace AppOperator

/-- **What of an application has to change for a reconcile.** -/
structure Fingerprint where
  /-- The number of the last change of the specification. -/
  generation : Option Int64
  /-- The labels. -/
  labels : Option Labels
  /-- The annotations. -/
  annotations : Option Labels
deriving DecidableEq

/-- What of this application has to change for a reconcile. -/
def Application.fingerprint (app : Application) : Fingerprint :=
  { generation := app.metadata.generation, labels := app.metadata.labels,
    annotations := app.metadata.annotations }

/-- **What was seen last of each application.** -/
structure EventFilter where
  /-- What was seen last, by namespace and name. -/
  seen : ApplicationRef → Option Fingerprint := fun _ => none

namespace EventFilter

instance : Inhabited EventFilter := ⟨{}⟩

/-- **Whether a change matters.** -/
def passes (f : EventFilter) (app : Application) : Bool :=
  f.seen app.ref ≠ some app.fingerprint

/-- What was seen last once this application has been seen. -/
def after (f : EventFilter) (app : Application) : EventFilter :=
  { seen := fun r => if r = app.ref then some app.fingerprint else f.seen r }

@[simp] theorem seen_after (f : EventFilter) (app : Application) (r : ApplicationRef) :
    (f.after app).seen r = if r = app.ref then some app.fingerprint else f.seen r := rfl

end EventFilter
end AppOperator
