import AppOperator.Watch.Filter
import AppOperator.Watch.Source

/-!
# Taking in changes

The operator keeps a copy of every application that it watches, brought up
to date by each change. A change of any watched object leads to reconciles of
applications it knows: of the application itself if the change matters, and
of those that another object's change concerns.

When the operator starts, everything that is there counts as a change.

Taking in a change is a function from what is known to what is known then, together
with the applications that are to be reconciled. What a sequence of changes leads to
is a fold of it, and laws about the operator's knowledge are proved along such folds.
-/

namespace AppOperator

/-- **A change of an object.** -/
inductive ObjectEvent where
  /-- It is there, newly or in a new form. -/
  | applied (object : Json)
  /-- It is gone; this was its last form. -/
  | deleted (object : Json)

/-- The object that changed. -/
def ObjectEvent.object : ObjectEvent → Json
  | .applied object => object
  | .deleted object => object

/-- **What the operator knows of the applications.** -/
structure Intake where
  /-- The applications, each in its last form. -/
  known : List Application := []
  /-- Which of their changes matter. -/
  filter : EventFilter := {}

namespace Intake

instance : Inhabited Intake := ⟨{}⟩

/-- The application that is meant, if it is known. -/
def find? (i : Intake) (r : ApplicationRef) : Option Application :=
  i.known.find? fun app => app.ref = r

/-- The applications with one in its last form. -/
def put (i : Intake) (app : Application) : Intake :=
  { i with known := i.known.filter (·.ref ≠ app.ref) ++ [app] }

/-- The applications without one. -/
def remove (i : Intake) (r : ApplicationRef) : Intake :=
  { i with known := i.known.filter (·.ref ≠ r) }

/-- **Takes in a change of an application**: it concerns the application if
it is there and the change matters. -/
def takeApplication (i : Intake) (app : Application) : ObjectEvent → List ApplicationRef × Intake
  | .deleted _ => ([], i.remove app.ref)
  | .applied _ =>
    (if i.filter.passes app then [app.ref] else [],
      { i.put app with filter := i.filter.after app })

/-- What one watch makes of a change. What cannot be read concerns nobody. -/
def takeFrom (i : Intake) (w : Watch) (e : ObjectEvent) : List ApplicationRef × Intake :=
  if !w.covers e.object then ([], i)
  else
    match w.concern with
    | .itself =>
      match decode Application e.object with
      | some app => i.takeApplication app e
      | none => ([], i)
    | _ =>
      match w.metadataOf e.object with
      | some object => (w.concernedBy object i.known, i)
      | none => ([], i)

/-- **Takes in a change**: the applications it concerns, each watch in turn. -/
def take (watches : List Watch) (i : Intake) (e : ObjectEvent) : List ApplicationRef × Intake :=
  watches.foldl (fun (refs, i) w =>
    let (more, i) := i.takeFrom w e
    (refs ++ more, i)) ([], i)

/-- The known applications that are meant, each once. -/
def resolve (i : Intake) (refs : List ApplicationRef) : List Application :=
  refs.eraseDups.filterMap i.find?

end Intake
end AppOperator
