import AppOperator.Data.Assoc
import AppOperator.Operator.Config

/-!
# What the operator is started with

Every option has a flag, and most can be given by a variable of the
environment too, which counts where the flag is not given. An option is
given at most once.

The command line is read first as a whole, and an argument that is unknown or lacks
its value is reported before any value is looked at. Then the options take their
values in the order of the table (`Arguments.options`), each checking its own.
-/

namespace AppOperator

/-- **What the operator is started with.** -/
structure Arguments where
  /-- How it is set up. -/
  config : Config := {}
  /-- What it logs. -/
  logFilter : String := "info"
  /-- Whether it logs objects instead of lines. -/
  logsObjects : Bool := false
  /-- Whether it only prints the definition of applications. -/
  printsDefinition : Bool := false
deriving DecidableEq, Inhabited

/-- **An option.** -/
structure StartOption where
  /-- The flag, without the dashes before it. -/
  flag : String
  /-- The variable of the environment, which also names the value. -/
  name : Option String
  /-- Whether the flag stands alone, which is to say `true`. -/
  standsAlone : Bool := false
  /-- Puts a value in, if it is one of the option. -/
  put : String → Arguments → Option Arguments

/-- **Why the operator cannot be started.** -/
inductive ArgumentError where
  /-- Nothing is known of an argument. -/
  | unknown (argument : String)
  /-- An option has no value. -/
  | missing (option : String)
  /-- An option is given more than once. -/
  | repeated (option : String)
  /-- The value of an option is not one. -/
  | invalid (value option : String)
deriving DecidableEq

/-- The text of a failure. -/
def ArgumentError.message : ArgumentError → String
  | .unknown argument => "unexpected argument '" ++ argument ++ "' found"
  | .missing option => "a value is required for '" ++ option ++ "' but none was supplied"
  | .repeated option => "the argument '" ++ option ++ "' cannot be used multiple times"
  | .invalid value option => "invalid value '" ++ value ++ "' for '" ++ option ++ "'"

namespace StartOption

/-- The option as it is written. -/
def usage (o : StartOption) : String :=
  if o.standsAlone then "--" ++ o.flag else "--" ++ o.flag ++ " <" ++ o.name.getD "" ++ ">"

end StartOption

namespace Arguments

/-- A number of seconds. -/
def seconds? (text : String) : Option UInt64 :=
  let digits := text.toList
  if digits.isEmpty || !digits.all Char.isDigit then none
  else
    let n := digits.foldl (fun n c => 10 * n + (c.toNat - '0'.toNat)) 0
    if n < 0x10000000000000000 then some n.toUInt64 else none

/-- A truth value. -/
def truth? (text : String) : Option Bool :=
  if text = "true" then some true else if text = "false" then some false else none

/-- **The options.** -/
def options : List StartOption := [
  { flag := "watch-namespace", name := some "WATCH_NAMESPACE"
    put := fun v a => some { a with config := a.config.watching (some v) } },
  { flag := "operator-namespace", name := some "OPERATOR_NAMESPACE"
    put := fun v a => some { a with config := a.config.within (some v) } },
  { flag := "metrics-addr", name := some "METRICS_ADDR"
    put := fun v a => (Address.parse? v).map fun address =>
      { a with config := { a.config with metricsAddress := address } } },
  { flag := "health-addr", name := some "HEALTH_ADDR"
    put := fun v a => (Address.parse? v).map fun address =>
      { a with config := { a.config with healthAddress := address } } },
  { flag := "resync-seconds", name := some "RESYNC_SECONDS"
    put := fun v a => (seconds? v).map fun n =>
      { a with config := { a.config with resyncSeconds := n } } },
  { flag := "log-level", name := some "LOG_LEVEL"
    put := fun v a => some { a with logFilter := v } },
  { flag := "log-json", name := some "LOG_JSON", standsAlone := true
    put := fun v a => (truth? v).map fun b => { a with logsObjects := b } },
  { flag := "print-crd", name := none, standsAlone := true
    put := fun v a => (truth? v).map fun b => { a with printsDefinition := b } }]

/-- The variables of the environment that count. -/
def environmentNames : List String := options.filterMap (·.name)

/-- The flag of an argument and the value behind its first equals sign. -/
def flag? (argument : String) : Option (String × Option String) :=
  match argument.toList with
  | '-' :: '-' :: cs =>
    some (String.ofList (cs.takeWhile (· ≠ '=')),
      match cs.dropWhile (· ≠ '=') with
      | [] => none
      | _ :: value => some (String.ofList value))
  | _ => none

/-- The option that an argument names, and the value in the same argument. -/
def option? (argument : String) : Option (StartOption × Option String) := do
  let (flag, value) ← flag? argument
  return (← options.find? (·.flag = flag), value)

/-- Whether an argument can be the value of an option. -/
def isValue (argument : String) : Bool :=
  match argument.toList with
  | '-' :: _ :: _ => false
  | _ => true

/-- **The options that are given, with their values.** -/
def given : List String → Except ArgumentError (List (String × String))
  | [] => .ok []
  | argument :: rest =>
    match option? argument with
    | none => .error (.unknown argument)
    | some (o, inside) =>
      if o.standsAlone then
        if inside.isSome then .error (.unknown argument)
        else (given rest).map ((o.flag, "true") :: ·)
      else
        match inside, rest with
        | some v, rest => (given rest).map ((o.flag, v) :: ·)
        | none, v :: rest =>
          if isValue v then (given rest).map ((o.flag, v) :: ·) else .error (.missing o.usage)
        | none, [] => .error (.missing o.usage)

/-- Puts in what an option is given, or what the environment has for it. -/
def fill (environment : String → Option String) (found : List (String × String)) (a : Arguments)
    (o : StartOption) : Except ArgumentError Arguments :=
  let put (v : String) : Except ArgumentError Arguments :=
    match o.put v a with
    | some a => .ok a
    | none => .error (.invalid v o.usage)
  match found.filter (·.1 = o.flag) with
  | [] =>
    match o.name.bind environment with
    | some v => put v
    | none => .ok a
  | [(_, v)] => put v
  | _ => .error (.repeated o.usage)

/-- **What a command line and an environment start the operator with.** -/
def read (environment : String → Option String) (commandLine : List String) :
    Except ArgumentError Arguments := do
  let found ← given commandLine
  options.foldlM (fill environment found) {}

end Arguments
end AppOperator
