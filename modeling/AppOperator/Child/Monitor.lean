import AppOperator.Application.Basic
import AppOperator.Extension.Monitor

/-!
# The service monitor of an application

It finds the application's service by a label that the service carries while
the application is monitored.

That label is not among those by which an application selects its pods: it is on the
service while the application is monitored, and is taken off it when that ends. A
place to scrape is used as the application gives it, except that one without a port is
scraped at the service's.
-/

namespace AppOperator.Application

/-- A place to scrape that names no port means the service's. -/
def withPort (app : Application) (endpoint : Endpoint) : Endpoint :=
  if endpoint.port.isNone && endpoint.targetPort.isNone then
    { endpoint with port := some app.servicePortName }
  else endpoint

/-- The places to scrape; an application that names none is scraped at its service's port. -/
def endpoints (app : Application) : List Endpoint :=
  let asked := (app.spec.monitoring.bind (·.endpoints)).getD []
  (if asked.isEmpty then [default] else asked).map app.withPort

/-- **The service monitor of the application**, set in a stored one. -/
def serviceMonitor (app : Application) (old : ServiceMonitor) : ServiceMonitor :=
  let m := app.mark old.metadata
  { old with
    metadata := match app.spec.monitoring.bind (·.labels) with
      | some labels => m.addLabels labels
      | none => m
    spec := { old.spec with
      selector := .ofLabels (app.selectorLabels.insert Label.monitored "true")
      endpoints := app.endpoints } }

end AppOperator.Application
