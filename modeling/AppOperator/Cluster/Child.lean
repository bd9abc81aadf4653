import AppOperator.Cluster.Access
import AppOperator.Cluster.Ownership

/-!
# Children of an application

The objects made for an application are its children. They are written
whole: the stored object is read, what the application asks for is set in it,
and it is stored again only if that changed anything. A child is named and
owned before anything else is set, so nothing of another owner's is touched.

Whether a child is controlled by the application or shared is an argument of one
function (`Access.write`), and so is what is set in it. Removing has two forms as
well: a child of the application's own goes if the application controls it, and a
shared one is given up and goes with its last owner.
-/

namespace AppOperator

/-- **What writing a child came to.** -/
inductive Outcome where
  /-- It was not there and is now. -/
  | created
  /-- It was there and has changed. -/
  | updated
  /-- It was there as it should be. -/
  | unchanged
deriving DecidableEq

namespace Access

variable {α : Type} [ApiObject α]

/-- The child that is to be stored, made from the stored one or a new one. -/
def desired (app : Application) (controls : Bool) (ns name : String) (update : α → α)
    (existing : Option α) : Except OperatorError α := do
  let child := existing.getD (blank α)
  let named := { metadata child with name := some name, ns := some ns }
  return update (withMetadata child (← app.own controls (objectType (α := α)).kind named))

/-- **Writes a child**, of which the application becomes the controller or
one owner beside others. -/
def write (app : Application) (controls : Bool) (name : String) (update : α → α) :
    Access Outcome := do
  let ns ← app.ns
  let existing ← find α ns name
  let child ← desired app controls ns name update existing
  match existing with
  | none =>
    create ns child
    return .created
  | some current =>
    if encode current = encode child then return .unchanged
    else
      replace ns name child
      return .updated

/-- **Writes a child that is the application's alone.** -/
def writeOwn (app : Application) (name : String) (update : α → α) : Access Outcome :=
  write app true name update

/-- **Writes a child that applications share.** Each writes it alike, and
none of them controls it. -/
def writeShared (app : Application) (name : String) (update : α → α) : Access Outcome :=
  write app false name update

/-- **Removes a child that the application controls**: whether it was
removed. An object of the name that it does not control stays. -/
def deleteOwn (α : Type) [ApiObject α] (app : Application) (name : String) : Access Bool := do
  let ns ← app.ns
  match ← find α ns name with
  | none => return false
  | some child =>
    if (metadata child).isControlledBy app then delete (.of α ns name) else return false

/-- **Gives up a child that applications share**: whether it was removed,
which happens when no owner is left. -/
def release (α : Type) [ApiObject α] (app : Application) (name : String) : Access Bool := do
  let ns ← app.ns
  match ← find α ns name, app.metadata.uid with
  | some child, some uid =>
    let owners := (metadata child).owners
    let left := owners.filter (·.uid ≠ uid)
    if left.length = owners.length then return false
    else if left.isEmpty then delete (.of α ns name)
    else
      replace ns name (mapMetadata (·.withoutOwner uid) child)
      return false
  | _, _ => return false

end Access
end AppOperator
