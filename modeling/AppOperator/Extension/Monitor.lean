import AppOperator.Kubernetes.Container

/-!
# Service monitors

A service monitor tells the monitoring system which services to scrape and
how. Fields of it and of its endpoints that the operator does not model are
kept as they were read. Clusters may or may not serve this API.

What is kept so is JSON under the names that the tables do not have (`Extras`), which
are names that no modelled field has, so no field is ever there twice.
-/

namespace AppOperator

/-- **The name and password of a request.** -/
structure BasicAuth where
  /-- Where the name is kept. -/
  username : Option SecretKey
  /-- Where the password is kept. -/
  password : Option SecretKey
deriving DecidableEq

instance : Shaped BasicAuth where
  shape := .record .custom <| .of [
    opt "username" (shapeOf SecretKey), opt "password" (shapeOf SecretKey)]
  ofVal := fun (username, password, ()) =>
    { username := username.map ofVal, password := password.map ofVal }
  toVal a := (a.username.map toVal, a.password.map toVal, ())
  ofVal_toVal _ := by simp
  toVal_ofVal _ := by simp

/-- The names of an endpoint's modelled fields. -/
def Endpoint.modelled : List String := [
  "port", "targetPort", "path", "scheme", "interval", "scrapeTimeout", "bearerTokenFile",
  "honorLabels", "params", "bearerTokenSecret", "basicAuth"]

/-- **A place to scrape.** -/
structure Endpoint where
  /-- The port, by the name it has in the service. -/
  port : Option String
  /-- The port of the pods. -/
  targetPort : Option IntOrText
  /-- The path. -/
  path : Option String
  /-- The protocol. -/
  scheme : Option String
  /-- How often it is scraped. -/
  interval : Option String
  /-- How long a scrape may take. -/
  scrapeTimeout : Option String
  /-- The file with the token. -/
  bearerTokenFile : Option String
  /-- Whether the labels scraped win over those added. -/
  honorLabels : Option Bool
  /-- The parameters of the request. -/
  params : Option (Dict String (List String))
  /-- Where the token is kept. -/
  bearerTokenSecret : Option SecretKey
  /-- The name and password. -/
  basicAuth : Option BasicAuth
  /-- All other fields, as they were read. -/
  extra : Extras Endpoint.modelled
deriving DecidableEq

instance : Shaped Endpoint where
  shape := .record .shared <| .of [
    opt "port" .text, opt "targetPort" .intOrText, opt "path" .text, opt "scheme" .text,
    opt "interval" .text, opt "scrapeTimeout" .text, opt "bearerTokenFile" .text,
    opt "honorLabels" .flag, opt "params" (.map (.list .text)),
    opt "bearerTokenSecret" (shapeOf SecretKey), opt "basicAuth" (shapeOf BasicAuth)]
    (.extras Endpoint.modelled)
  ofVal := fun (port, targetPort, path, scheme, interval, scrapeTimeout, bearerTokenFile,
      honorLabels, params, secret, auth, extra) =>
    { port, targetPort, path, scheme, interval, scrapeTimeout, bearerTokenFile, honorLabels,
      params, bearerTokenSecret := secret.map ofVal, basicAuth := auth.map ofVal, extra }
  toVal e := (e.port, e.targetPort, e.path, e.scheme, e.interval, e.scrapeTimeout,
    e.bearerTokenFile, e.honorLabels, e.params, e.bearerTokenSecret.map toVal,
    e.basicAuth.map toVal, e.extra)
  ofVal_toVal _ := by simp
  toVal_ofVal _ := by simp

instance : Inhabited Endpoint := ⟨blank Endpoint⟩

/-- The names of a service monitor's modelled fields. -/
def MonitorSpec.modelled : List String := ["selector", "endpoints"]

/-- **What a service monitor asks for.** -/
structure MonitorSpec where
  /-- The services to scrape. -/
  selector : LabelSelector
  /-- The places to scrape on each. -/
  endpoints : List Endpoint
  /-- All other fields, as they were read. -/
  extra : Extras MonitorSpec.modelled
deriving DecidableEq

instance : Shaped MonitorSpec where
  shape := .record .shared <| .of [
    given "selector" (shapeOf LabelSelector), implied "endpoints" (.list (shapeOf Endpoint))]
    (.extras MonitorSpec.modelled)
  ofVal := fun (selector, endpoints, extra) =>
    { selector := ofVal selector, endpoints := ofVals endpoints, extra }
  toVal s := (toVal s.selector, toVals s.endpoints, s.extra)
  ofVal_toVal _ := by simp
  toVal_ofVal _ := by simp

/-- The API that serves service monitors. -/
def ServiceMonitor.apiVersion : String := "monitoring.coreos.com/v1"

/-- **A service monitor.** -/
structure ServiceMonitor where
  /-- The metadata. -/
  metadata : ObjectMeta
  /-- What it asks for. -/
  spec : MonitorSpec
deriving DecidableEq

instance : ApiObject ServiceMonitor where
  shape := .record (.resource ServiceMonitor.apiVersion "ServiceMonitor") <| .of [
    given "metadata" (shapeOf ObjectMeta), given "spec" (shapeOf MonitorSpec)]
  ofVal := fun (metadata, spec, ()) => { metadata := ofVal metadata, spec := ofVal spec }
  toVal m := (toVal m.metadata, toVal m.spec, ())
  ofVal_toVal _ := by simp
  toVal_ofVal _ := by simp
  objectType := ⟨ServiceMonitor.apiVersion, "ServiceMonitor"⟩
  metadata m := m.metadata
  withMetadata s m := { s with metadata := m }
  metadata_withMetadata _ _ := rfl
  withMetadata_metadata _ := rfl
  withMetadata_withMetadata _ _ _ := rfl

end AppOperator
