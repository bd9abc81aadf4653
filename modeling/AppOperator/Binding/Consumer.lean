import AppOperator.Binding.Provider
import AppOperator.Binding.Wiring

/-!
# What an application uses of others

For each service that an application uses, the secret that its provider
publishes is read, and the pods are wired to it: by variables or by files.
Pods can only reach secrets of their own namespace, so the secret of a
provider elsewhere is copied. Every application of the namespace that uses
the provider writes the same copy, so nothing of the single application is
put on it.
-/

namespace AppOperator

/-- **A service that an application uses**, once its binding was read. -/
structure Consumed where
  /-- What kind of service it is. -/
  category : BindingCategory
  /-- The namespace of the provider. -/
  providerNs : String
  /-- The name of the provider. -/
  providerName : String
  /-- The name of the secret. -/
  secretName : String
  /-- The provider's secret, if it has to be copied. -/
  copyFrom : Option Secret
deriving DecidableEq

/-- **All services that an application uses**, and how its pods reach them. -/
structure Bindings where
  /-- How the pods reach them. -/
  wiring : Wiring := {}
  /-- The services. -/
  consumed : List Consumed := []
deriving DecidableEq, Inhabited

/-- The copy of a provider's secret, set in a stored one. -/
def Secret.copyOf (source old : Secret) : Secret :=
  { old with
    metadata := old.metadata.addLabels (.singleton Label.managedBy operatorName)
    type := source.type
    data := source.data
    stringData := source.stringData }

/-- The namespace of the provider: the application's own unless another is named. -/
def Consumes.providerNs (entry : Consumes) (own : String) : String :=
  (Application.filled entry.ns).getD own

/-- The name of the secret that the provider publishes. -/
def Consumes.secretName (entry : Consumes) (own : String) : String :=
  Binding.secretName (entry.providerNs own) entry.name

/-- How the pods reach one service. Mounted, each key is a file in a folder
of the provider's; otherwise each key is a variable. -/
def Consumes.wiring (entry : Consumes) (own : String) (source : Secret) : Wiring :=
  let providerNs := entry.providerNs own
  let secretName := entry.secretName own
  match Application.filled entry.mountPath with
  | some path =>
    { volumes := [.ofSecret secretName secretName]
      mounts := [
        { name := secretName
          mountPath := trimEnd '/' path ++ "/" ++ providerNs ++ "/" ++ entry.name
          readOnly := some true
          other := default }] }
  | none =>
    { env := source.keys.map fun key =>
        .ofSecretKey (Binding.envName providerNs entry.name key) secretName key }

namespace Bindings

/-- One more service. -/
def add (b : Bindings) (entry : Consumes) (own : String) (source : Secret) : Bindings :=
  let providerNs := entry.providerNs own
  { wiring := b.wiring ++ entry.wiring own source
    consumed := b.consumed ++ [
      { category := entry.category, providerNs, providerName := entry.name,
        secretName := entry.secretName own,
        copyFrom := if providerNs = own then none else some source }] }

/-- Reads the bindings of some services, in order; the first that is not
there ends the reading, to be tried again when it may have been published. -/
def read (own : String) : Bindings → List Consumes → Access Bindings
  | b, [] => return b
  | b, entry :: rest => do
    let name := entry.secretName own
    match ← Access.lookUp Secret (entry.providerNs own) name with
    | none => throw (Credentials.secretMissing (entry.providerNs own) name)
    | some source => read own (b.add entry own source) rest

/-- **The secrets in use by category**, as the status of the application
lists them; without any there is no list. -/
def consumedServices (b : Bindings) : Option (Dict String (List String)) :=
  if b.consumed.isEmpty then none
  else some (b.consumed.foldl (fun services c =>
    services.insert c.category.word ((services.get? c.category.word).getD [] ++ [c.secretName]))
    .empty)

end Bindings

namespace Application

/-- What the application uses. -/
def consumes (app : Application) : List Consumes :=
  (app.spec.service.bind (·.consumes)).getD []

/-- **Reads the bindings of all services that the application uses.** -/
def bindings (app : Application) : Access Bindings :=
  Bindings.read app.metadata.nsOrEmpty {} app.consumes

end Application
end AppOperator
