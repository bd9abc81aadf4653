import AppOperator.Cluster.Key
import AppOperator.Error
import AppOperator.Json.Merge

/-!
# The cluster

A cluster keeps objects and serves APIs. The operator reaches both only
through calls, and any call may be refused, whether because of what is stored
or for a reason outside (a lost connection, a missing permission). The
second kind is not explained here: `Server.refuse` decides by the number of
the call, so that a statement about all servers is one about every pattern of
refusals.

The cluster adds nothing of its own to what is written, and it keeps the
`history` of all calls, from which the calls that write can be told.
-/

namespace AppOperator

/-- **A call to the cluster.** -/
inductive Call where
  /-- Reads an object. -/
  | get (key : ObjectKey)
  /-- Stores an object that is not there yet. -/
  | create (key : ObjectKey) (object : Json)
  /-- Stores an object in the place of one. -/
  | replace (key : ObjectKey) (object : Json)
  /-- Removes an object. -/
  | delete (key : ObjectKey)
  /-- Merges a patch into the status of an object. -/
  | patchStatus (key : ObjectKey) (patch : Json)
  /-- Asks for the types that an API serves. -/
  | discover (apiVersion : String)
deriving DecidableEq

namespace Call

/-- **What an accepted call is answered with**: the object that is read, the
number of the types of an API, and else nothing. -/
abbrev Reply : Call → Type
  | .get _ => Json
  | .create _ _ => Unit
  | .replace _ _ => Unit
  | .delete _ => Unit
  | .patchStatus _ _ => Unit
  | .discover _ => Nat

/-- Whether a call can change what is stored. -/
def isWrite : Call → Bool
  | .get _ => false
  | .discover _ => false
  | _ => true

/-- The object a call is about, if it is about one. -/
def key? : Call → Option ObjectKey
  | .get key => some key
  | .create key _ => some key
  | .replace key _ => some key
  | .delete key => some key
  | .patchStatus key _ => some key
  | .discover _ => none

/-- **What is stored after a call is accepted.** -/
def apply (c : Call) (objects : Dict ObjectKey Json) : Dict ObjectKey Json :=
  match c with
  | .get _ => objects
  | .create key object => objects.insert key object
  | .replace key object => objects.insert key object
  | .delete key => objects.erase key
  | .patchStatus key patch => objects.insert key (((objects.get? key).getD .null).mergePatch patch)
  | .discover _ => objects

end Call

/-- A call as it is remembered. -/
structure Entry where
  /-- The call. -/
  call : Call
  /-- The refusal, if it was refused. -/
  refusal : Option Refusal := none
deriving DecidableEq

/-- Whether the call was refused. -/
def Entry.isRefused (e : Entry) : Bool := e.refusal.isSome

/-- **A cluster.** -/
structure Server where
  /-- The stored objects. -/
  objects : Dict ObjectKey Json := .empty
  /-- The number of types that each API serves; others are unknown. -/
  apis : Dict String Nat := .empty
  /-- The refusals from outside, by the number of the call and the call. -/
  refuse : Nat → Call → Option Refusal := fun _ _ => none
  /-- The calls so far, the latest last. -/
  history : List Entry := []

namespace Server

instance : Inhabited Server := ⟨{}⟩

/-- The refusal of a call for an object that is not there. -/
def absent (name : String) : Refusal :=
  { status := "Failure", message := name ++ " not found", reason := "NotFound", code := 404 }

/-- The refusal of a call that would make an object a second time. -/
def taken (name : String) : Refusal :=
  { status := "Failure", message := name ++ " exists", reason := "AlreadyExists", code := 409 }

/-- The stored object that a call is about. -/
def present? (s : Server) (key : ObjectKey) : Except Refusal Json :=
  match s.objects.get? key with
  | some object => .ok object
  | none => .error (absent key.name)

/-- The answer to a call for what is stored and served. -/
def answer (s : Server) : (c : Call) → Except Refusal c.Reply
  | .get key => s.present? key
  | .create key _ => if s.objects.contains key then .error (taken key.name) else .ok ()
  | .replace key _ => (s.present? key).map fun _ => ()
  | .delete key => (s.present? key).map fun _ => ()
  | .patchStatus key _ => (s.present? key).map fun _ => ()
  | .discover apiVersion =>
    match s.apis.get? apiVersion with
    | some types => .ok types
    | none => .error (absent apiVersion)

/-- The cluster that remembers a call. -/
def remember (s : Server) (e : Entry) : Server := { s with history := s.history ++ [e] }

/-- **Makes a call**: the answer and the cluster after it. A refusal from
outside comes first, and a refused call changes nothing. -/
def perform (s : Server) (c : Call) : Except Refusal c.Reply × Server :=
  match s.refuse s.history.length c with
  | some refusal => (.error refusal, s.remember ⟨c, some refusal⟩)
  | none =>
    match s.answer c with
    | .error refusal => (.error refusal, s.remember ⟨c, some refusal⟩)
    | .ok reply => (.ok reply, { s with objects := c.apply s.objects }.remember ⟨c, none⟩)

/-- The calls so far that could change what is stored. -/
def writes (s : Server) : List Entry := s.history.filter (·.call.isWrite)

end Server
end AppOperator
