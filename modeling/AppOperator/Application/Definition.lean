import AppOperator.Application.Basic
import AppOperator.Shape.Schema

/-!
# The definition of applications

A cluster knows a type of custom resources by its definition: how the type is
called, which versions it has, what its objects look like and what is shown
of them in a listing.

What the objects look like is not written down a second time: the definition is made
from the shape by which an application is read, with notes on its fields. A field that
is added to the shape is in the definition too.
-/

namespace AppOperator.Application

/-- The group of the API. -/
def group : String := "appsody.dev"

/-- The version of the API. -/
def version : String := "v1beta1"

/-- The name of applications in the plural. -/
def plural : String := "appsodyapplications"

/-- A column of a listing. -/
def column (name type path : String) : Json :=
  .object [("name", .str name), ("type", .str type), ("jsonPath", .str path)]

/-- What is shown of an application in a listing. -/
def columns : List Json := [
  column "Image" "string" ".spec.applicationImage",
  column "Exposed" "boolean" ".spec.expose",
  column "Reconciled" "string" ".status.conditions[?(@.type=='Reconciled')].status",
  column "Age" "date" ".metadata.creationTimestamp"]

/-- What the parts of a specification are for. -/
def specNotes : Notes := [
  ([], "AppsodyApplication - an application built from an Appsody stack"),
  (["version"], "Application version, surfaced as `app.kubernetes.io/version`"),
  (["applicationImage"], "Container image, or an ImageStream reference on OpenShift"),
  (["replicas"], "Number of pods; ignored when autoscaling is configured"),
  (["autoscaling"], "Horizontal pod autoscaling"),
  (["pullPolicy"], "Pull policy for container images"),
  (["pullSecret"], "Name of the image pull secret"),
  (["service"], "Service configuration"),
  (["service", "targetPort"], "Container port; defaults to `port`"),
  (["service", "provides"], "Endpoint published by this application for others to consume"),
  (["service", "provides", "category"], "Binding category; only OpenAPI endpoints are supported"),
  (["service", "consumes", ""], "Endpoint of another application consumed by this one"),
  (["service", "consumes", "", "category"],
    "Binding category; only OpenAPI endpoints are supported"),
  (["service", "consumes", "", "mountPath"],
    "Mount the binding secret here instead of injecting env vars"),
  (["expose"], "Expose the application outside the cluster through a Route"),
  (["serviceAccountName"], "Existing service account to run pods as. When unset a service account "
    ++ "named after the application is created."),
  (["architecture"], "Allowed node architectures, most preferred first"),
  (["storage"], "Persistent storage; switches the workload to a StatefulSet"),
  (["storage", "size"], "Storage size (e.g., \"1Gi\")"),
  (["stack"], "Appsody stack the application was built from"),
  (["monitoring"], "Prometheus scraping configuration"),
  (["applicationName"],
    "Logical application grouping, surfaced as `app.kubernetes.io/part-of`"),
  (["route"], "OpenShift Route configuration"),
  (["route", "certificateSecretRef"],
    "Secret holding `tls.crt`, `tls.key`, `ca.crt` and `destCA.crt`")]

/-- What the parts of a status are for. -/
def statusNotes : Notes := [
  ([], "Application status"),
  (["consumedServices"], "Binding secret names per category")]

/-- **The schema of an application.** -/
def schema : Json := .object [
  ("title", .str kind),
  ("description",
    .str "Auto-generated derived type for AppsodyApplicationSpec via `CustomResource`"),
  ("type", .str "object"),
  ("properties", .object [
    ("spec", schemaOf ApplicationSpec specNotes),
    ("status", (schemaOf ApplicationStatus statusNotes).insert "nullable" (.bool true))]),
  ("required", .arr [.str "spec"])]

/-- **The definition of applications.** -/
def definition : Json := .object [
  ("apiVersion", .str "apiextensions.k8s.io/v1"),
  ("kind", .str "CustomResourceDefinition"),
  ("metadata", .object [("name", .str (plural ++ "." ++ group))]),
  ("spec", .object [
    ("group", .str group),
    ("names", .object [("categories", .arr []), ("kind", .str kind), ("plural", .str plural),
      ("shortNames", .arr [.str "app"]), ("singular", .str kind.toLower)]),
    ("scope", .str "Namespaced"),
    ("versions", .arr [.object [
      ("additionalPrinterColumns", .arr columns),
      ("name", .str version),
      ("schema", .object [("openAPIV3Schema", schema)]),
      ("served", .bool true),
      ("storage", .bool true),
      ("subresources", .object [("status", .object [])])]])])]

end AppOperator.Application
