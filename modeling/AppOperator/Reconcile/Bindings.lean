import AppOperator.Binding.Consumer
import AppOperator.Reconcile.Pass

/-!
# Secrets of bindings

An application that offers a service publishes its secret, and one that uses
services elsewhere has copies of theirs in its own namespace. The status
lists the secrets in use, so that a later pass can tell which copies are not
needed any more and give them up.

The list is replaced only when all of this is done. A pass that fails before
leaves the old list, and with it the knowledge of what is still to be given up.
-/

namespace AppOperator

namespace Access

/-- Publishes the secret of what the application offers, or takes it back. -/
def publish (app : Application) : Access Unit :=
  if app.provides?.isSome then do
    let data := app.binding (← app.credentials)
    discard (writeOwn app app.bindingSecretName (app.bindingSecret data))
  else discard (deleteOwn Secret app app.bindingSecretName)

/-- Writes the copies that the application needs, one after another. -/
def copyAll (app : Application) : List Consumed → Access Unit
  | [] => return
  | c :: rest => do
    match c.copyFrom with
    | some source => discard (writeShared app c.secretName (Secret.copyOf source))
    | none => pure ()
    copyAll app rest

/-- Gives up shared secrets, one after another. -/
def releaseAll (app : Application) : List String → Access Unit
  | [] => return
  | name :: rest => do
    discard (release Secret app name)
    releaseAll app rest

end Access

/-- The secrets that a status lists, by rising category. -/
def ApplicationStatus.secretsInUse (status : ApplicationStatus) : List String :=
  (status.consumedServices.getD .empty).values.flatten

/-- **The secrets that are not needed any more**: listed, but neither in use
nor the application's own. -/
def Application.stale (app : Application) (status : ApplicationStatus) (b : Bindings) :
    List String :=
  status.secretsInUse.filter fun name =>
    !(b.consumed.map Consumed.secretName).contains name && name ≠ app.bindingSecretName

/-- **Brings the secrets of the application's bindings up to date.** -/
def Pass.bindings (app : Application) : Pass Bindings := do
  Access.publish app
  let b ← app.bindings
  Access.copyAll app b.consumed
  Access.releaseAll app (app.stale (← Pass.status) b)
  Pass.note fun status => { status with consumedServices := b.consumedServices }
  return b

end AppOperator
