import AppOperator.Kubernetes.Metadata

/-!
# Routes

A route gives a service a host name outside the cluster. Clusters may or may
not serve this API.

Where encryption ends and what becomes of other traffic are choices among a few words,
so a route with another word is not readable. Certificates stand in a route as texts.
A route is read and written by the names of fields in the tables below.
-/

namespace AppOperator

/-- **Where the encryption of a route ends.** -/
inductive TlsTermination where
  /-- At the router. -/
  | edge
  /-- At the pod; the router sees none of the content. -/
  | passthrough
  /-- At the router, which encrypts again towards the pod. -/
  | reencrypt
deriving DecidableEq

instance : Shaped TlsTermination where
  shape := .choice "edge" ["passthrough", "reencrypt"]
  ofVal := fun i => match i.val with
    | 0 => .edge
    | 1 => .passthrough
    | _ => .reencrypt
  toVal
    | .edge => choiceOf 2 0
    | .passthrough => choiceOf 2 1
    | .reencrypt => choiceOf 2 2
  ofVal_toVal t := by cases t <;> rfl
  toVal_ofVal := fun (v : Fin 3) => by match v with
    | 0 => rfl
    | 1 => rfl
    | 2 => rfl

/-- **What becomes of traffic to a route that is not encrypted.** -/
inductive InsecurePolicy where
  /-- It is let through. -/
  | allow
  /-- It is sent to the encrypted port. -/
  | redirect
  /-- There is none. -/
  | disable
deriving DecidableEq

instance : Shaped InsecurePolicy where
  shape := .choice "Allow" ["Redirect", "None"]
  ofVal := fun i => match i.val with
    | 0 => .allow
    | 1 => .redirect
    | _ => .disable
  toVal
    | .allow => choiceOf 2 0
    | .redirect => choiceOf 2 1
    | .disable => choiceOf 2 2
  ofVal_toVal t := by cases t <;> rfl
  toVal_ofVal := fun (v : Fin 3) => by match v with
    | 0 => rfl
    | 1 => rfl
    | 2 => rfl

/-- **What a route leads to.** -/
structure RouteTarget where
  /-- The type. -/
  kind : String
  /-- The name. -/
  name : String
  /-- The share of the traffic. -/
  weight : Option Int32
deriving DecidableEq

instance : Shaped RouteTarget where
  shape := .record .custom <| .of [given "kind" .text, given "name" .text, opt "weight" .int32]
  ofVal := fun (kind, name, weight, ()) => { kind, name, weight }
  toVal t := (t.kind, t.name, t.weight, ())
  ofVal_toVal _ := rfl
  toVal_ofVal _ := rfl

/-- **The port of the target.** -/
structure RoutePort where
  /-- The port, by number or name. -/
  targetPort : IntOrText
deriving DecidableEq

instance : Shaped RoutePort where
  shape := .record .custom <| .of [given "targetPort" .intOrText]
  ofVal := fun (targetPort, ()) => { targetPort }
  toVal p := (p.targetPort, ())
  ofVal_toVal _ := rfl
  toVal_ofVal _ := rfl

/-- **The encryption of a route.** -/
structure TlsConfig where
  /-- Where it ends. -/
  termination : TlsTermination
  /-- What becomes of traffic without it. -/
  insecurePolicy : Option InsecurePolicy
  /-- The certificate. -/
  certificate : Option String
  /-- The private key. -/
  key : Option String
  /-- The authority of the certificate. -/
  caCertificate : Option String
  /-- The authority of the pod's certificate. -/
  destinationCaCertificate : Option String
deriving DecidableEq

instance : Shaped TlsConfig where
  shape := .record .custom <| .of [
    given "termination" (shapeOf TlsTermination),
    opt "insecureEdgeTerminationPolicy" (shapeOf InsecurePolicy), opt "certificate" .text,
    opt "key" .text, opt "caCertificate" .text, opt "destinationCaCertificate" .text]
  ofVal := fun (termination, policy, certificate, key, ca, destinationCa, ()) =>
    { termination := ofVal termination, insecurePolicy := policy.map ofVal, certificate, key,
      caCertificate := ca, destinationCaCertificate := destinationCa }
  toVal t := (toVal t.termination, t.insecurePolicy.map toVal, t.certificate, t.key,
    t.caCertificate, t.destinationCaCertificate, ())
  ofVal_toVal _ := by simp
  toVal_ofVal _ := by simp

/-- **What a route asks for.** -/
structure RouteSpec where
  /-- The host name; the router assigns one if it is unset. -/
  host : Option String
  /-- The path that requests begin with. -/
  path : Option String
  /-- What it leads to. -/
  target : RouteTarget
  /-- The port it leads to. -/
  port : Option RoutePort
  /-- Its encryption. -/
  tls : Option TlsConfig
  /-- Targets that share the traffic. -/
  alternateBackends : Option (List RouteTarget)
  /-- Whether subdomains of the host are routed too. -/
  wildcardPolicy : Option String
  /-- The name under the router's own domain. -/
  subdomain : Option String
deriving DecidableEq

instance : Shaped RouteSpec where
  shape := .record .custom <| .of [
    opt "host" .text, opt "path" .text, given "to" (shapeOf RouteTarget),
    opt "port" (shapeOf RoutePort), opt "tls" (shapeOf TlsConfig),
    opt "alternateBackends" (.list (shapeOf RouteTarget)), opt "wildcardPolicy" .text,
    opt "subdomain" .text]
  ofVal := fun (host, path, target, port, tls, backends, wildcardPolicy, subdomain, ()) =>
    { host, path, target := ofVal target, port := port.map ofVal, tls := tls.map ofVal,
      alternateBackends := backends.map ofVals, wildcardPolicy, subdomain }
  toVal s := (s.host, s.path, toVal s.target, s.port.map toVal, s.tls.map toVal,
    s.alternateBackends.map toVals, s.wildcardPolicy, s.subdomain, ())
  ofVal_toVal _ := by simp
  toVal_ofVal _ := by simp

/-- The API that serves routes. -/
def Route.apiVersion : String := "route.openshift.io/v1"

/-- **A route.** -/
structure Route where
  /-- The metadata. -/
  metadata : ObjectMeta
  /-- What it asks for. -/
  spec : RouteSpec
deriving DecidableEq

instance : ApiObject Route where
  shape := .record (.resource Route.apiVersion "Route") <| .of [
    given "metadata" (shapeOf ObjectMeta), given "spec" (shapeOf RouteSpec)]
  ofVal := fun (metadata, spec, ()) => { metadata := ofVal metadata, spec := ofVal spec }
  toVal r := (toVal r.metadata, toVal r.spec, ())
  ofVal_toVal _ := by simp
  toVal_ofVal _ := by simp
  objectType := ⟨Route.apiVersion, "Route"⟩
  metadata r := r.metadata
  withMetadata r m := { r with metadata := m }
  metadata_withMetadata _ _ := rfl
  withMetadata_metadata _ := rfl
  withMetadata_withMetadata _ _ _ := rfl

end AppOperator
