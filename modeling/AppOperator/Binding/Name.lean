/-!
# Names of bindings

The secret in which an application publishes how to reach it, and the
variables in which another sees the keys of that secret, are named after the
application's namespace and name. The names are not unique: a dash may belong
to either part, and characters that a variable cannot have all become `_`.

Which names meet and which do not is settled by theorems about bindings; nothing here
keeps two names apart.
-/

namespace AppOperator.Binding

/-- **The name of the secret that an application publishes.** -/
def secretName (ns name : String) : String := ns ++ "-" ++ name

/-- A character as it stands in the name of a variable. -/
def envChar (c : Char) : Char := if c.isAlphanum then c.toUpper else '_'

/-- **The name of the variable for one key of a binding.** -/
def envName (ns name key : String) : String :=
  (ns ++ "_" ++ name ++ "_" ++ key).map envChar

end AppOperator.Binding
