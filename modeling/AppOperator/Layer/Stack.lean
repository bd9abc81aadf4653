import AppOperator.Cluster.Access
import AppOperator.Layer.Effective
import AppOperator.Text.Blank
import AppOperator.Yaml.Shaped

/-!
# Where the layers of a stack are kept

The operator's own namespace holds a configuration map with the defaults of
all stacks and one with their constants: under the name of a stack stands a
specification in YAML. A stack without an entry has the generic one. A third
map holds settings that concern all stacks.

Nothing has to be there. A missing map, a missing entry and an entry of
blanks are all an empty layer; only an entry that cannot be read is a
failure.
-/

namespace AppOperator

/-- What the operator is set to for all stacks. -/
structure Settings where
  /-- The domain under which routes get their hosts. -/
  defaultHostName : Option String := none
deriving DecidableEq, Inhabited

/-- The text under a key without the blanks around it, if any is left. -/
def ConfigMap.trimmed? (m : ConfigMap) (key : String) : Option String :=
  Application.filled ((m.text? key).map trim)

/-- The settings in a configuration map. -/
def Settings.ofMap (m : Option ConfigMap) : Settings :=
  { defaultHostName := m.bind (·.trimmed? "defaultHostName") }

namespace StackLayers

/-- The name of the map with the defaults. -/
def defaultsName : String := "appsody-operator-defaults"

/-- The name of the map with the constants. -/
def constantsName : String := "appsody-operator-constants"

/-- The name of the map with the settings. -/
def settingsName : String := "appsody-operator"

/-- The entry for stacks that have none. -/
def genericStack : String := "generic"

/-- The key that the layer of a stack stands under. A stack with an entry of
blanks has an entry. -/
def entryKey (m : ConfigMap) (stack : String) : String :=
  if (m.text? stack).isSome then stack else genericStack

/-- **The layer of a stack in a configuration map**, if there is one. -/
def layer? (m : Option ConfigMap) (stack : String) :
    Except OperatorError (Option ApplicationSpec) :=
  match m.bind fun m => m.trimmed? (entryKey m stack) with
  | none => .ok none
  | some text =>
    match decodeYaml ApplicationSpec text with
    | some spec => .ok (some spec)
    | none => .error .unreadableStack

/-- **The layers of a stack** in the two configuration maps. -/
def ofMaps (defaults constants : Option ConfigMap) (stack : String) :
    Except OperatorError StackLayers := do
  let below ← layer? defaults stack
  let above ← layer? constants stack
  return { defaults := below.getD default, constants := above }

end StackLayers

namespace Access

/-- **Reads the layers of a stack.** -/
def layers (operatorNs stack : String) : Access StackLayers := do
  let defaults ← lookUp ConfigMap operatorNs StackLayers.defaultsName
  let constants ← lookUp ConfigMap operatorNs StackLayers.constantsName
  StackLayers.ofMaps defaults constants stack

/-- **Reads the settings.** -/
def settings (operatorNs : String) : Access Settings :=
  return Settings.ofMap (← lookUp ConfigMap operatorNs StackLayers.settingsName)

end Access
end AppOperator
