import AppOperator.Application.Basic
import AppOperator.Error

/-!
# Who owns an object

An object names its owners by their identities, and at most one of them
controls it. The operator changes an object only after making the application
one of its owners: as its controller where the object is the application's
alone, and as an owner beside others where applications share it. Neither is
possible while something else controls the object.

An owner is known by its identity and not by its name, as an application that was
deleted and created again is another owner. The reference to an owner that is there
already is replaced at its place (`upsert`), so that owning an object twice changes
nothing the second time.
-/

namespace AppOperator

namespace OwnerReference

/-- Whether this is the controller. -/
def controls (r : OwnerReference) : Bool := r.controller = some true

/-- The references with one put in the place of the first to the same owner,
or at the end. -/
def upsert (r : OwnerReference) : List OwnerReference → List OwnerReference
  | [] => [r]
  | old :: rest => if old.uid = r.uid then r :: rest else old :: upsert r rest

end OwnerReference

namespace ObjectMeta

/-- The controller, if it is another than the owner of an identity. -/
def otherController? (m : ObjectMeta) (uid : String) : Option OwnerReference :=
  m.owners.find? fun r => r.controls && r.uid ≠ uid

/-- **Whether an application controls the object.** -/
def isControlledBy (m : ObjectMeta) (app : Application) : Bool :=
  match app.metadata.uid with
  | none => false
  | some uid => m.owners.any fun r => r.controls && r.uid = uid

/-- The metadata with an owner added or brought up to date. -/
def withOwner (m : ObjectMeta) (r : OwnerReference) : ObjectMeta :=
  { m with ownerReferences := some (r.upsert m.owners) }

/-- The metadata without an owner. -/
def withoutOwner (m : ObjectMeta) (uid : String) : ObjectMeta :=
  { m with ownerReferences := some (m.owners.filter (·.uid ≠ uid)) }

end ObjectMeta

namespace Application

/-- The failure of an application that nothing can be made for. -/
def lacks (app : Application) (what : String) : OperatorError :=
  .misconfigured (kind ++ " " ++ app.name ++ " has no " ++ what)

/-- The namespace, in which all objects of the application live. -/
def ns (app : Application) : Except OperatorError String :=
  match app.ns? with
  | some ns => .ok ns
  | none => .error (app.lacks "namespace")

/-- The reference by which an object names the application as an owner. -/
def ownerReference (app : Application) (controls : Bool) : Except OperatorError OwnerReference :=
  match app.metadata.name, app.metadata.uid with
  | some name, some uid =>
    .ok { apiVersion := apiVersion, kind := kind, name, uid, controller := some controls,
          blockOwnerDeletion := none }
  | _, _ => .error (app.lacks "uid")

/-- The failure to own an object that another controls. -/
def conflict (objectKind : String) (m : ObjectMeta) (controller : OwnerReference) : OperatorError :=
  .controlledByOther objectKind m.nameOrEmpty (controller.kind ++ "/" ++ controller.name)

/-- **Makes the application an owner of an object**, its controller or one
beside others. -/
def own (app : Application) (controls : Bool) (objectKind : String) (m : ObjectMeta) :
    Except OperatorError ObjectMeta := do
  let r ← app.ownerReference controls
  match m.otherController? r.uid with
  | some controller => throw (conflict objectKind m controller)
  | none => return m.withOwner r

end Application
end AppOperator
