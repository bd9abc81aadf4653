import AppOperator.Kubernetes.Pod

/-!
# Wiring

What a pod needs in order to use the services its application is bound to:
variables for bindings that are read from the environment, volumes and mounts
for those that are read from files.

Wirings are put one after another, and nothing is left out where two of them come to
the same name. Whether names meet depends on what an application consumes, and is
settled by theorems of its own.
-/

namespace AppOperator

/-- **How the bindings of an application reach its pods.** -/
structure Wiring where
  /-- Variables, one for each key of a binding. -/
  env : List EnvVar := []
  /-- Volumes, one for each mounted binding. -/
  volumes : List Volume := []
  /-- Where those are mounted. -/
  mounts : List VolumeMount := []
deriving DecidableEq, Inhabited

namespace Wiring

/-- One wiring after another. -/
def append (a b : Wiring) : Wiring :=
  { env := a.env ++ b.env, volumes := a.volumes ++ b.volumes, mounts := a.mounts ++ b.mounts }

instance : Append Wiring := ⟨append⟩

end Wiring
end AppOperator
