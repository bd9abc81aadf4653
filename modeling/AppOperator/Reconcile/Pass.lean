import AppOperator.Application.Status
import AppOperator.Cluster.Access

/-!
# Passes

A pass works on the cluster for one application and notes in its status what
it learned. It may fail at any call. What it noted up to then stays noted,
as what it wrote stays written, and both are where the next pass starts.

The status is a state that outlives a failure, which is what the order of the
transformers says: the failure is in the innermost value and the status is beside it.
The equations for `on` take a pass apart step by step, and proofs about passes use
them in the place of the definitions.
-/

namespace AppOperator

/-- **A computation on a cluster that keeps the status of an application.** -/
abbrev Pass := ExceptT OperatorError (StateT ApplicationStatus Dialogue)

namespace Pass

/-- The outcome of a pass, the status and the cluster that it leaves. -/
def on {α : Type} (pass : Pass α) (status : ApplicationStatus) (s : Server) :
    Except OperatorError α × ApplicationStatus × Server :=
  let ((result, status), s) := (pass.run.run status).on s
  (result, status, s)

/-- A computation on the cluster alone, which leaves the status as it is. -/
def onCluster {α : Type} (act : Access α) : Pass α :=
  ExceptT.mk fun status => act.run >>= fun result => pure (result, status)

instance : MonadLift Access Pass := ⟨onCluster⟩

/-- Notes something in the status. -/
def note (change : ApplicationStatus → ApplicationStatus) : Pass Unit :=
  ExceptT.lift (modify change)

/-- The status as it is noted. -/
def status : Pass ApplicationStatus := ExceptT.lift get

@[simp] theorem on_onCluster {α : Type} (act : Access α) (status : ApplicationStatus) (s : Server) :
    (onCluster act).on status s = ((act.on s).1, status, (act.on s).2) := by
  simp only [on, onCluster, ExceptT.run_mk, StateT.run, Dialogue.on_bind, Dialogue.on_pure,
    Access.on]

@[simp] theorem on_note (change : ApplicationStatus → ApplicationStatus)
    (status : ApplicationStatus) (s : Server) :
    (note change).on status s = (.ok (), change status, s) := rfl

@[simp] theorem on_status (status : ApplicationStatus) (s : Server) :
    Pass.status.on status s = (.ok status, status, s) := rfl

@[simp] theorem on_pure {α : Type} (a : α) (status : ApplicationStatus) (s : Server) :
    (pure a : Pass α).on status s = (.ok a, status, s) := rfl

@[simp] theorem on_throw {α : Type} (e : OperatorError) (status : ApplicationStatus) (s : Server) :
    (throw e : Pass α).on status s = (.error e, status, s) := rfl

/-- **A pass goes on where the one before it left off, and only if that did not fail.** -/
theorem on_bind {α β : Type} (first : Pass α) (next : α → Pass β) (status : ApplicationStatus)
    (s : Server) :
    (first >>= next).on status s =
      match first.on status s with
      | (.ok a, status, s) => (next a).on status s
      | (.error e, status, s) => (.error e, status, s) := by
  simp only [on, ExceptT.run_bind, StateT.run_bind, Dialogue.on_bind]
  rcases (first.run.run status).on s with ⟨⟨r, status'⟩, s'⟩
  cases r <;> rfl

end Pass
end AppOperator
