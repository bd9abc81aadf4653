import AppOperator.Cluster.Dialogue
import AppOperator.Kubernetes.Config

/-!
# Reading and writing objects of a cluster

`Access` is a computation that makes calls to a cluster and may fail. What it
changed before failing stays changed: there is no rollback, and laws about
failing runs speak of the cluster that is left.

Only two refusals are answers: that an object is not there when it is read or removed,
and that an API is not there when it is asked for. Every other refusal is the failure
of the computation. Objects are read in three ways, which differ in what they make of
an object that has not the form of its type (`lookUp`, `look`, `find`).
-/

namespace AppOperator

/-- **A computation on a cluster.** -/
abbrev Access := ExceptT OperatorError Dialogue

namespace Access

/-- The outcome of a computation and the cluster it leaves. -/
def on {α : Type} (act : Access α) (s : Server) : Except OperatorError α × Server := act.run.on s

/-- Makes a call. -/
def attempt (c : Call) : Access (Except Refusal c.Reply) := ExceptT.lift (.ask c)

@[simp] theorem on_attempt (c : Call) (s : Server) :
    (attempt c).on s = (.ok (s.perform c).1, (s.perform c).2) := rfl

@[simp] theorem on_pure {α : Type} (a : α) (s : Server) : (pure a : Access α).on s = (.ok a, s) :=
  rfl

@[simp] theorem on_throw {α : Type} (e : OperatorError) (s : Server) :
    (throw e : Access α).on s = (.error e, s) := rfl

/-- **A computation goes on where the one before it left off, and only if that did not fail.** -/
theorem on_bind {α β : Type} (first : Access α) (next : α → Access β) (s : Server) :
    (first >>= next).on s =
      match first.on s with
      | (.ok a, s) => (next a).on s
      | (.error e, s) => (.error e, s) := by
  simp only [on, ExceptT.run_bind, Dialogue.on_bind]
  rcases first.run.on s with ⟨r, s'⟩
  cases r <;> rfl

/-- The failure of a refused call. -/
def refused (r : Refusal) : OperatorError := .callFailed (.refused r)

/-- Makes a call that has to be accepted. -/
def require (c : Call) : Access c.Reply := do
  match ← attempt c with
  | .ok reply => pure reply
  | .error r => throw (refused r)

/-- **Reads an object as it is stored**; a refusal because it is not there is
an answer. -/
def get (key : ObjectKey) : Access (Option Json) := do
  match ← attempt (.get key) with
  | .ok object => pure (some object)
  | .error r => if r.reason = "NotFound" then pure none else throw (refused r)

/-- **Removes an object**: whether it was there. -/
def delete (key : ObjectKey) : Access Bool := do
  match ← attempt (.delete key) with
  | .ok _ => pure true
  | .error r => if r.code = 404 then pure false else throw (refused r)

/-- **Whether the cluster serves an API**, with at least one type. -/
def isServed (apiVersion : String) : Access Bool := do
  match ← attempt (.discover apiVersion) with
  | .ok types => pure (0 < types)
  | .error r => if r.code = 404 then pure false else throw (refused r)

/-- **Reads an object that must have the form of its type**, like a
configuration map or a secret. -/
def lookUp (α : Type) [ApiObject α] (ns name : String) : Access (Option α) := do
  match ← get (.of α ns name) with
  | none => pure none
  | some j =>
    match decode α j with
    | some a => pure (some a)
    | none => throw (.callFailed .unreadable)

/-- An object with a header of two texts, or with none. -/
def withWholeHeader (object : Json) : Json :=
  if (object.text? "apiVersion").isSome && (object.text? "kind").isSome then object
  else .obj (object.members.filter fun m => m.1 ≠ "apiVersion" ∧ m.1 ≠ "kind")

/-- An object of unknown type as it is read: all of it but metadata that no
object has. -/
def untyped? : Json → Option Json
  | .obj members =>
    let object := withWholeHeader (.obj members)
    match object.get? "metadata" with
    | none => some (object.insert "metadata" (.obj []))
    | some j => (decode ObjectMeta j).map fun m => object.insert "metadata" (encode m)
  | _ => none

/-- **Reads an object of any type**, which must have readable metadata. -/
def look (key : ObjectKey) : Access (Option Json) := do
  match ← get key with
  | none => pure none
  | some j =>
    match untyped? j with
    | some object => pure (some object)
    | none => throw (.callFailed .unreadable)

/-- **Reads an object that the operator may have made.** An object without
readable metadata is no answer at all; one whose other parts cannot be read
is an object of some other form. -/
def find (α : Type) [ApiObject α] (ns name : String) : Access (Option α) := do
  match ← look (.of α ns name) with
  | none => pure none
  | some j =>
    match decode α j with
    | some a => pure (some a)
    | none => throw .unreadableObject

/-- Stores a new object under the name that it bears. -/
def create {α : Type} [ApiObject α] (ns : String) (object : α) : Access Unit :=
  require (.create (.of α ns (metadata object).nameOrEmpty) (encode object))

/-- Stores an object in the place of one. -/
def replace {α : Type} [ApiObject α] (ns name : String) (object : α) : Access Unit :=
  require (.replace (.of α ns name) (encode object))

end Access
end AppOperator
