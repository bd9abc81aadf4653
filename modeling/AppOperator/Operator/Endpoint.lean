import AppOperator.Operator.Metrics

/-!
# What the operator answers

Two servers answer questions about the operator: one whether it is alive and
whether its controller is running, the other what it counted.

A server is a table of paths, and one function answers by any table (`respond`): a
path that is not in it is not found, and a method other than reading is refused. So
the two servers differ in nothing but their tables.
-/

namespace AppOperator

/-- **An answer.** -/
structure Response where
  /-- The outcome as a number. -/
  status : Nat
  /-- The text. -/
  body : String
deriving DecidableEq

namespace Endpoint

/-- The paths that a server knows, with their answers. -/
abbrev Routes := List (String × Response)

/-- The path of an address, without what is asked of it. -/
def pathOf (target : String) : String :=
  String.ofList (target.toList.takeWhile fun c => c ≠ '?' ∧ c ≠ '#')

/-- **The answer of a server.** Every path may only be read; asked for the
head alone, the text is left out. -/
def respond (routes : Routes) (method target : String) : Response :=
  match routes.lookup (pathOf target) with
  | none => { status := 404, body := "" }
  | some r =>
    if method = "GET" then r
    else if method = "HEAD" then { r with body := "" }
    else { status := 405, body := "" }

/-- How the operator fares: it is alive, and ready while its controller runs. -/
def health (ready : Bool) : Routes :=
  [("/healthz", { status := 200, body := "ok" }),
   ("/readyz", if ready then { status := 200, body := "ok" }
      else { status := 503, body := "not ready" })]

/-- What the operator counted. -/
def metrics (m : Metrics) : Routes := [("/metrics", { status := 200, body := m.render })]

end Endpoint
end AppOperator
