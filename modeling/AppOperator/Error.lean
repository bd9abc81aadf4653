import AppOperator.Text.Quoted

/-!
# What can go wrong

Every reconcile ends well or with an `OperatorError`, which names the cause.
From the cause follow the word recorded on the application (`reason`), the
text beside it (`message`), and whether the same reconcile could end better
later without a change of the application (`isRetryable`): it always could,
unless the application itself asks for something inadmissible.

The cause is kept as data and put into words in one place. Whoever raises an error
chooses a constructor, and whoever counts or records it asks for its reason, so the
two cannot disagree about a text.
-/

namespace AppOperator

/-- **An answer by which the cluster refuses a call.** -/
structure Refusal where
  /-- The outcome in a word. -/
  status : String
  /-- The cause in full. -/
  message : String
  /-- The cause in a word. -/
  reason : String
  /-- The cause as a number of the transport. -/
  code : UInt16
deriving DecidableEq

/-- The text of a refusal. -/
def Refusal.text (r : Refusal) : String :=
  "ApiError: " ++ r.message ++ ": " ++ r.reason
    ++ " (ErrorResponse \x7b status: " ++ Quoted.quote r.status
    ++ ", message: " ++ Quoted.quote r.message
    ++ ", reason: " ++ Quoted.quote r.reason
    ++ ", code: " ++ toString r.code.toNat ++ " \x7d)"

/-- **Why a call to the cluster came to nothing.** -/
inductive CallError where
  /-- The cluster refused it. -/
  | refused (answer : Refusal)
  /-- The cluster answered with something else than was asked for. -/
  | unreadable
deriving DecidableEq

/-- The text of a failed call. -/
def CallError.text : CallError → String
  | .refused answer => answer.text
  | .unreadable => "Error deserializing response"

/-- **Why a reconcile did not succeed.** -/
inductive OperatorError where
  /-- A call to the cluster failed. -/
  | callFailed (cause : CallError)
  /-- An object that the application depends on does not exist. -/
  | notFound (kind name ns : String)
  /-- The operator cannot work with what it was given. -/
  | misconfigured (fault : String)
  /-- The application asks for something inadmissible. -/
  | inadmissible (faults : String)
  /-- The configuration of a stack cannot be read. -/
  | unreadableStack
  /-- An object of the application's is controlled by another. -/
  | controlledByOther (kind name controller : String)
  /-- The cluster does not serve an API that the application needs. -/
  | apiUnavailable (apiVersion : String)
  /-- A stored object has not the form of its type. -/
  | unreadableObject
  /-- Counting reconciles failed. -/
  | metricsFailed (cause : String)
  /-- Reading or writing outside the cluster failed. -/
  | ioFailed (cause : String)
deriving DecidableEq

namespace OperatorError

/-- The cause in a word, as it is recorded on the application. -/
def reason : OperatorError → String
  | .callFailed _ => "KubernetesApiError"
  | .notFound .. => "DependencyNotFound"
  | .misconfigured _ => "InvalidOperatorConfig"
  | .unreadableStack => "InvalidOperatorConfig"
  | .inadmissible _ => "ValidationFailed"
  | .controlledByOther .. => "OwnershipConflict"
  | .apiUnavailable _ => "ApiUnavailable"
  | .unreadableObject => "SerializationError"
  | .metricsFailed _ => "InternalError"
  | .ioFailed _ => "InternalError"

/-- Whether trying again may help while the application stays as it is. -/
def isRetryable : OperatorError → Bool
  | .inadmissible _ => false
  | _ => true

/-- **The cause in full.** Of text that cannot be read it is not said where
the reading stopped. -/
def message : OperatorError → String
  | .callFailed cause => "Kubernetes API error: " ++ cause.text
  | .notFound kind name ns =>
    "Resource not found: " ++ kind ++ "/" ++ name ++ " in namespace " ++ ns
  | .misconfigured fault => "Invalid configuration: " ++ fault
  | .inadmissible faults => "Validation error: " ++ faults
  | .unreadableStack => "Invalid stack configuration:"
  | .controlledByOther kind name controller =>
    kind ++ " " ++ name ++ " is already controlled by " ++ controller
  | .apiUnavailable apiVersion => "API " ++ apiVersion ++ " is not available on this cluster"
  | .unreadableObject => "Serialization error:"
  | .metricsFailed cause => "Metrics error: Error: " ++ cause
  | .ioFailed cause => "I/O error: " ++ cause

end OperatorError
end AppOperator
