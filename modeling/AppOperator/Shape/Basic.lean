import AppOperator.Json.Basic
import AppOperator.Time.Instant

/-!
# Shapes of API objects

An API object is a tree of records, lists and maps over a few kinds of
scalars, and its JSON form follows a small number of rules: which fields may
be absent, what stands for a field that is, whether unknown fields are kept.
A `Shape` states those rules for one type as data. From the shape alone come
the Lean type of its values (`Shape.Val`), the value that stands for an
absent one (`Shape.zero`), reading and writing (next module), reading from
YAML and the schema that a cluster checks custom resources against.

A record is described by its `Table` of fields, and the values of a table
are nested pairs, one component a field. A structure of this library is a
view of such a tuple: it names the components that the operator has rules
for and keeps all others together as the values of the table's tail, so that
nothing an API object carries is lost on the way through.
-/

namespace AppOperator

/-- An integer or a text: a port by number or by name, a count or a percentage. -/
inductive IntOrText where
  | int (value : Int32)
  | text (value : String)
deriving DecidableEq

/-- What stands for a field that must have a value and is absent. -/
inductive Absence where
  /-- Absent and `null` both stand for the zero of the shape. -/
  | lenient
  /-- Absence stands for the zero of the shape; `null` is a value like any other. -/
  | implied
  /-- Nothing does: the record is refused. -/
  | refused
deriving DecidableEq

/-- Whether an array may stand for a record, its items being the fields in
the order of the table. -/
inductive Positions where
  /-- It may not. -/
  | none
  /-- It may, with an item for every field. -/
  | all
  /-- It may, and the last fields may be left out. -/
  | leading
deriving DecidableEq

/-- The two fields that name the type of an object which stands on its own. -/
structure Header where
  /-- The API group and version. -/
  apiVersion : String
  /-- The name of the type. -/
  kind : String
  /-- Whether an object that names another type is refused. -/
  checked : Bool
deriving DecidableEq

/-- What holds of a record as a whole. -/
structure Style where
  /-- The fields naming the type, for an object which stands on its own. -/
  header : Option Header := .none
  /-- Whether an array may stand for it. -/
  positions : Positions := .none
  /-- Whether a source that gives a field twice is refused. -/
  once : Bool := false
deriving DecidableEq

/-- The style of the types that the platform defines. -/
def Style.platform : Style := {}

/-- The style of the operator's own types. -/
def Style.custom : Style := { positions := .leading, once := true }

/-- The style of own types whose table shares its object with another type's
fields: their fields have no positions. -/
def Style.shared : Style := { once := true }

/-- The style of an object of a platform type which stands on its own. -/
def Style.object (apiVersion kind : String) : Style :=
  { header := some { apiVersion, kind, checked := true } }

/-- The style of a custom resource. -/
def Style.resource (apiVersion kind : String) : Style :=
  { header := some { apiVersion, kind, checked := false }, positions := .all, once := true }

mutual
/-- **The shape of a type**: how its values look in JSON. -/
inductive Shape where
  | text
  | flag
  | int32
  | int64
  | bytes
  /-- A time, of which whole seconds are kept. -/
  | timestamp
  /-- A time read with its fraction and written in whole seconds. -/
  | instant
  | intOrText
  /-- Any value but `null`, which unsets a field. -/
  | json
  /-- One of some words. -/
  | choice (first : String) (others : List String)
  | list (item : Shape)
  | map (value : Shape)
  | record (style : Style) (fields : Table)
/-- The fields of a record, in order. -/
inductive Table where
  /-- No more fields; members of other names are dropped. -/
  | done
  /-- No more fields; members of other names than those taken are kept. -/
  | extras (taken : List String)
  /-- A field that may be unset. -/
  | optional (name : String) (shape : Shape) (rest : Table)
  /-- A field that always has a value. -/
  | always (absence : Absence) (name : String) (shape : Shape) (rest : Table)
end

/-- Members of an object with none of some names. -/
def Extras (taken : List String) : Type :=
  { members : Dict String Json // ∀ name ∈ taken, members.get? name = none }

instance (taken : List String) : DecidableEq (Extras taken) :=
  inferInstanceAs (DecidableEq { _members : Dict String Json // _ })

/-- No members. -/
def Extras.empty (taken : List String) : Extras taken :=
  ⟨.empty, fun _ _ => rfl⟩

/-- A JSON value that is not `null`. -/
abbrev Present : Type := { j : Json // j ≠ .null }

mutual
/-- **The values of a shape.** -/
@[reducible] def Shape.Val : Shape → Type
  | .text => String
  | .flag => Bool
  | .int32 => Int32
  | .int64 => Int64
  | .bytes => List UInt8
  | .timestamp => Timestamp
  | .instant => Instant
  | .intOrText => IntOrText
  | .json => Present
  | .choice _ others => Fin (others.length + 1)
  | .list item => List item.Val
  | .map value => Dict String value.Val
  | .record _ fields => fields.Val
/-- The values of a table: nested pairs, one component a field. -/
@[reducible] def Table.Val : Table → Type
  | .done => Unit
  | .extras taken => Extras taken
  | .optional _ shape rest => Option shape.Val × rest.Val
  | .always _ _ shape rest => shape.Val × rest.Val
end

mutual
/-- **The value that stands for an absent one**: empty, zero, or the first of some words. -/
def Shape.zero : (s : Shape) → s.Val
  | .text => ""
  | .flag => false
  | .int32 => 0
  | .int64 => 0
  | .bytes => ([] : List UInt8)
  | .timestamp => Timestamp.epoch
  | .instant => Instant.epoch
  | .intOrText => IntOrText.int 0
  | .json => ⟨.obj [], by simp⟩
  | .choice _ _ => 0
  | .list _ => []
  | .map _ => Dict.empty
  | .record _ fields => fields.zero
/-- The fields of a record with nothing set. -/
def Table.zero : (t : Table) → t.Val
  | .done => ()
  | .extras taken => Extras.empty taken
  | .optional _ _ rest => (none, rest.zero)
  | .always _ _ shape rest => (shape.zero, rest.zero)
end

mutual
/-- Values of a shape can be compared. -/
def Shape.decideEq : (s : Shape) → DecidableEq s.Val
  | .text => inferInstanceAs (DecidableEq String)
  | .flag => inferInstanceAs (DecidableEq Bool)
  | .int32 => inferInstanceAs (DecidableEq Int32)
  | .int64 => inferInstanceAs (DecidableEq Int64)
  | .bytes => inferInstanceAs (DecidableEq (List UInt8))
  | .timestamp => inferInstanceAs (DecidableEq Timestamp)
  | .instant => inferInstanceAs (DecidableEq Instant)
  | .intOrText => inferInstanceAs (DecidableEq IntOrText)
  | .json => inferInstanceAs (DecidableEq Present)
  | .choice _ others => inferInstanceAs (DecidableEq (Fin (others.length + 1)))
  | .list item =>
    have := item.decideEq
    inferInstanceAs (DecidableEq (List item.Val))
  | .map value =>
    have := value.decideEq
    inferInstanceAs (DecidableEq (Dict String value.Val))
  | .record _ fields => fields.decideEq
/-- Values of a table can be compared. -/
def Table.decideEq : (t : Table) → DecidableEq t.Val
  | .done => inferInstanceAs (DecidableEq Unit)
  | .extras taken => inferInstanceAs (DecidableEq (Extras taken))
  | .optional _ shape rest =>
    have := shape.decideEq
    have := rest.decideEq
    inferInstanceAs (DecidableEq (Option shape.Val × rest.Val))
  | .always _ _ shape rest =>
    have := shape.decideEq
    have := rest.decideEq
    inferInstanceAs (DecidableEq (shape.Val × rest.Val))
end

instance (s : Shape) : DecidableEq s.Val := s.decideEq
instance (t : Table) : DecidableEq t.Val := t.decideEq
instance (t : Table) : Inhabited t.Val := ⟨t.zero⟩

/-- A field as the tables of this library list it. -/
structure Field where
  /-- Its name. -/
  name : String
  /-- What stands for it when it is absent; `none` if it is then unset. -/
  absence : Option Absence
  /-- The shape of its value. -/
  shape : Shape

/-- A field that may be unset. -/
@[reducible] def opt (name : String) (shape : Shape) : Field := ⟨name, none, shape⟩

/-- A required field of a platform type, which reads as its zero when absent. -/
@[reducible] def req (name : String) (shape : Shape) : Field := ⟨name, some .lenient, shape⟩

/-- A field of an own type with a default. -/
@[reducible] def implied (name : String) (shape : Shape) : Field := ⟨name, some .implied, shape⟩

/-- A field of an own type that has to be given. -/
@[reducible] def given (name : String) (shape : Shape) : Field := ⟨name, some .refused, shape⟩

/-- The table of some fields, followed by those of another table. -/
@[reducible] def Table.of (fields : List Field) (rest : Table := .done) : Table :=
  match fields with
  | [] => rest
  | ⟨name, none, shape⟩ :: more => .optional name shape (Table.of more rest)
  | ⟨name, some absence, shape⟩ :: more => .always absence name shape (Table.of more rest)

/-- The names of the fields of a table. -/
def Table.names : Table → List String
  | .done => []
  | .extras _ => []
  | .optional name _ rest => name :: rest.names
  | .always _ name _ rest => name :: rest.names

end AppOperator
