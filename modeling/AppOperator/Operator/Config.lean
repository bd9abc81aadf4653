import AppOperator.Operator.Address

/-!
# How the operator is set up

Which namespace it watches, where it finds its configuration, how often it
looks at applications that are well, and where it answers questions about
itself.

An empty name of a namespace counts as none, since a variable of the environment that
is set to nothing is to mean what an unset one means.
-/

namespace AppOperator

/-- **How the operator is set up.** -/
structure Config where
  /-- The namespace that is watched; without one it is the whole cluster. -/
  watchNs : Option String := none
  /-- The namespace with the layers and settings; without one it is the
  application's own. -/
  operatorNs : Option String := none
  /-- The seconds after which an application that is well is looked at again. -/
  resyncSeconds : UInt64 := 300
  /-- Where it tells how it fares. -/
  healthAddress : Address := .anyHost 8081
  /-- Where it tells what it counted. -/
  metricsAddress : Address := .anyHost 8080
deriving DecidableEq

namespace Config

instance : Inhabited Config := ⟨{}⟩

/-- A namespace that is named: an empty name is none. -/
def named (ns : Option String) : Option String := ns.filter (!·.isEmpty)

/-- The set-up with a namespace to watch. -/
def watching (c : Config) (ns : Option String) : Config := { c with watchNs := named ns }

/-- The set-up with the namespace of the operator. -/
def within (c : Config) (ns : Option String) : Config := { c with operatorNs := named ns }

end Config
end AppOperator
