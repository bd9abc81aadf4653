import AppOperator.Shape.Shaped

/-!
# Schemas

A cluster checks custom resources against a schema, which follows from the
shape of the type: what kind of value stands where, which fields must be
given, and what stands for those that are not. The operator's own types are
spelled out; of what the platform defines it is only said that it is an
object.

A schema also says in words what its parts are for. The words do not follow
from the shape and are given by place.
-/

namespace AppOperator

/-- **What the places of a schema are for**: by the names of the fields that
lead to a place, the items of a list or map being the field without a name. -/
abbrev Notes := List (List String × String)

namespace Schema

/-- The name that stands for the items of a list or map. -/
def anyItem : String := ""

/-- What a place is for, if it is said. -/
def described (notes : Notes) (path : List String) : List (String × Json) :=
  match notes.lookup path.reverse with
  | some text => [("description", .str text)]
  | none => []

/-- A kind of value. -/
def kind (name : String) : List (String × Json) := [("type", .str name)]

/-- What the platform says of its times. -/
def timeNote : String :=
  "Time is a wrapper around time.Time which supports correct marshaling to YAML and JSON.  "
    ++ "Wrappers are provided for many of the factory methods that the time package offers."

/-- Objects that are kept as they are. -/
def verbatim : List (String × Json) :=
  [("type", .str "object"), ("x-kubernetes-preserve-unknown-fields", .bool true)]

/-- Whether a table keeps members of all names. -/
def keepsAll : Table → Bool
  | .done => false
  | .extras _ => true
  | .optional _ _ rest => keepsAll rest
  | .always _ _ _ rest => keepsAll rest

/-- Whether a value may be null to be unset. A list of objects that are kept
as they are may not. -/
def nullable : Shape → Bool
  | .list (.record style fields) => !(style.once && keepsAll fields)
  | _ => true

/-- The fields that must be given. -/
def demanded : Table → List String
  | .done => []
  | .extras _ => []
  | .optional _ _ rest => demanded rest
  | .always .refused name _ rest => name :: demanded rest
  | .always _ _ _ rest => demanded rest

/-- The fields that must be given, as part of a schema: if there are any, in
the order of their names. -/
def requires (t : Table) : List (String × Json) :=
  if (demanded t).isEmpty then []
  else [("required", .arr (((demanded t).mergeSort fun a b => decide (a ≤ b)).map .str))]

mutual
/-- **The schema of a shape** at a place, by its innermost field first. -/
def ofShape (notes : Notes) (path : List String) : Shape → List (String × Json)
  | .text => kind "string"
  | .flag => kind "boolean"
  | .int32 => ("format", .str "int32") :: kind "integer"
  | .int64 => ("format", .str "int64") :: kind "integer"
  | .bytes => ("format", .str "byte") :: kind "string"
  | .timestamp => [("description", .str timeNote), ("format", .str "date-time")] ++ kind "string"
  | .instant => [("description", .str timeNote), ("format", .str "date-time")] ++ kind "string"
  | .intOrText => [("x-kubernetes-int-or-string", .bool true)]
  | .json => [("x-kubernetes-preserve-unknown-fields", .bool true)]
  | .choice first others => ("enum", .arr ((first :: others).map .str)) :: kind "string"
  | .list item =>
    let path := anyItem :: path
    ("items", Json.object (ofShape notes path item ++ described notes path)) :: kind "array"
  | .map value =>
    let path := anyItem :: path
    ("additionalProperties", Json.object (ofShape notes path value ++ described notes path))
      :: kind "object"
  | .record style fields =>
    if !style.once then kind "object"
    else if keepsAll fields then verbatim
    else
      ("properties", Json.object (ofFields notes path fields)) :: requires fields ++ kind "object"
/-- The schemas of the fields of a table. -/
def ofFields (notes : Notes) (path : List String) : Table → List (String × Json)
  | .done => []
  | .extras _ => []
  | .optional name shape rest =>
    let path' := name :: path
    let unset : List (String × Json) := if nullable shape then [("nullable", .bool true)] else []
    (name, Json.object (ofShape notes path' shape ++ unset ++ described notes path'))
      :: ofFields notes path rest
  | .always absence name shape rest =>
    let path' := name :: path
    let default : List (String × Json) :=
      if absence = .implied then [("default", shape.encode shape.zero)] else []
    (name, Json.object (ofShape notes path' shape ++ default ++ described notes path'))
      :: ofFields notes path rest
end

end Schema

/-- **The schema of a type.** -/
def schemaOf (α : Type) [Shaped α] (notes : Notes) : Json :=
  .object (Schema.ofShape notes [] (shapeOf α) ++ Schema.described notes [])

end AppOperator
