import AppOperator.Application.Definition
import AppOperator.Json.Printer
import AppOperator.Operator.Arguments

/-!
# The command

The command reads its options and prints the definition of applications. It
has no connection to a cluster, and without being asked for the definition
it says so and fails.
-/

open AppOperator

/-- Starts the operator. -/
def main (commandLine : List String) : IO UInt32 := do
  let environment ← Arguments.environmentNames.filterMapM fun name => do
    return (← IO.getEnv name).map fun v => (name, v)
  match Arguments.read (Assoc.get? · environment) commandLine with
  | .error failure =>
    IO.eprintln ("error: " ++ failure.message)
    return 2
  | .ok arguments =>
    if arguments.printsDefinition then
      IO.println Application.definition.render
      return 0
    else
      IO.eprintln "Error: Failed to create Kubernetes client"
      return 1
