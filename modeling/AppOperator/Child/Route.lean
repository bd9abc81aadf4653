import AppOperator.Application.Basic
import AppOperator.Extension.Route
import AppOperator.Kubernetes.Config

/-!
# The route of an application

The way into the cluster for an application that is exposed: its host, and
the certificates with which its traffic is encrypted.

Certificates come from a secret that the application names, by fixed keys of it, and a
key that is missing leaves its field empty. There is no encryption unless the
application says where it ends, whatever the secret holds.
-/

namespace AppOperator

/-- **The certificates of a route.** -/
structure Certificates where
  /-- The certificate. -/
  certificate : Option String := none
  /-- Its private key. -/
  key : Option String := none
  /-- The certificates that vouch for it. -/
  caCertificate : Option String := none
  /-- The certificates that vouch for the pods. -/
  destinationCaCertificate : Option String := none
deriving DecidableEq, Inhabited

/-- The certificates kept in a secret. -/
def Certificates.ofSecret (s : Secret) : Certificates :=
  { certificate := s.text? "tls.crt", key := s.text? "tls.key", caCertificate := s.text? "ca.crt",
    destinationCaCertificate := s.text? "destCA.crt" }

namespace Application

/-- **The host of the application**: the one it asks for, or one of its own
in the domain that hosts are given by default. -/
def host? (app : Application) (domain : Option String) : Option String :=
  (filled (app.spec.route.bind (·.host))).or
    (domain.map fun d => app.name ++ "-" ++ app.metadata.nsOrEmpty ++ "." ++ d)

/-- The encryption of the application's traffic, if it says where it ends. -/
def tls? (settings : RouteSettings) (certificates : Option Certificates) : Option TlsConfig :=
  settings.termination.map fun termination =>
    let certificates := certificates.getD {}
    { termination, insecurePolicy := settings.insecurePolicy,
      certificate := certificates.certificate, key := certificates.key,
      caCertificate := certificates.caCertificate,
      destinationCaCertificate := certificates.destinationCaCertificate }

/-- **The route of the application**, set in a stored one. A host that the
cluster chose stays while none is asked for or derived. -/
def route (app : Application) (domain : Option String) (certificates : Option Certificates)
    (old : Route) : Route :=
  let settings := app.spec.route.getD default
  { old with
    metadata := (app.mark old.metadata).addAnnotations (settings.annotations.getD .empty)
    spec := { old.spec with
      host := (app.host? domain).or old.spec.host
      path := filled settings.path
      target := { kind := "Service", name := app.name, weight := some 100 }
      port := some { targetPort := .text app.servicePortName }
      tls := tls? settings certificates } }

end Application
end AppOperator
