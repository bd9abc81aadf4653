import AppOperator.Binding.Name
import AppOperator.Cluster.Child
import AppOperator.Text.Blank
import AppOperator.Text.Bytes

/-!
# What an application publishes

An application that offers a service publishes how to reach it in a secret
of its own: host, port, protocol, path and address, and the name and password
that it asks for, if it does.

The name and the password are read from secrets that the application names. A secret
or a key that is missing is a failure, unless the application marks it as one that may
be missing; then it is left out of what is published. The data of the secret is set as
a whole, so a key that is no longer published does not stay behind.
-/

namespace AppOperator

/-- **The name and password that a service asks for.** -/
structure Credentials where
  /-- The name. -/
  username : Option String := none
  /-- The password. -/
  password : Option String := none
deriving DecidableEq, Inhabited

namespace Credentials

/-- The failure for a secret that is not there. -/
def secretMissing (ns name : String) : OperatorError := .notFound "Secret" name ns

/-- The failure for a key that a secret does not have. -/
def keyMissing (ns name key : String) : OperatorError :=
  .misconfigured ("Secret " ++ ns ++ "/" ++ name ++ " has no key " ++ key)

/-- Reads one key of a secret. What is marked as optional may be missing. -/
def readKey (ns : String) (selector : Option SecretKey) : Access (Option String) :=
  match selector with
  | none => return none
  | some selector => do
    let name := selector.name.getD ""
    let mayMiss := selector.isOptional = some true
    match ← Access.lookUp Secret ns name with
    | none => if mayMiss then return none else throw (secretMissing ns name)
    | some secret =>
      match secret.text? selector.key with
      | some text => return some text
      | none => if mayMiss then return none else throw (keyMissing ns name selector.key)

end Credentials

namespace Application

/-- What the application offers. -/
def provides? (app : Application) : Option Provides := app.spec.service.bind (·.provides)

/-- **Reads the name and password that the application's service asks for.** -/
def credentials (app : Application) : Access Credentials :=
  match app.provides?.bind (·.auth) with
  | none => return {}
  | some auth => do
    let ns := app.metadata.nsOrEmpty
    let username ← Credentials.readKey ns auth.username
    let password ← Credentials.readKey ns auth.password
    return { username, password }

/-- The host by which the application is reached in the cluster. -/
def hostname (app : Application) : String :=
  app.name ++ "." ++ app.metadata.nsOrEmpty ++ ".svc.cluster.local"

/-- **What the application publishes**, by key. -/
def binding (app : Application) (credentials : Credentials) : Labels :=
  let offer := app.provides?.getD default
  let port := toString app.servicePort.toInt
  let protocol := (filled offer.protocol).getD "http"
  let context := offer.context.getD ""
  let path := trimStart '/' context
  let address := protocol ++ "://" ++ app.hostname ++ ":" ++ port
  let url := if path.isEmpty then address else address ++ "/" ++ path
  let reach : Labels := .ofList [("context", context), ("hostname", app.hostname), ("port", port),
    ("protocol", protocol), ("url", url)]
  let named := match credentials.username with
    | some username => reach.insert "username" username
    | none => reach
  match credentials.password with
  | some password => named.insert "password" password
  | none => named

/-- The name of the secret that the application publishes. -/
def bindingSecretName (app : Application) : String :=
  Binding.secretName app.metadata.nsOrEmpty app.name

/-- **The secret that the application publishes**, set in a stored one. -/
def bindingSecret (app : Application) (data : Labels) (old : Secret) : Secret :=
  { old with
    metadata := app.mark old.metadata
    type := some "Opaque"
    stringData := none
    data := some (data.map Utf8.bytes) }

end Application
end AppOperator
