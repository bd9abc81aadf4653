import AppOperator.Data.Dict
import AppOperator.Json.Basic
import AppOperator.Kubernetes.Metadata

/-!
# Keys of stored objects

A cluster stores each object under its type, its namespace and its name, and
lists objects in that order.

Keys are compared part by part, and two keys compare as equal only if they are the
same (`Std.LawfulEqOrd`), so a dictionary by keys holds one object for each. A key is
made for a type and a name (`ObjectKey.of`), or is read off an object (`shownBy`),
which need not show all its parts.
-/

namespace AppOperator

/-- **What an object is stored under.** -/
structure ObjectKey where
  /-- The API group and version. -/
  apiVersion : String
  /-- The type. -/
  kind : String
  /-- The namespace. -/
  ns : String
  /-- The name. -/
  name : String
deriving DecidableEq

namespace ObjectKey

/-- Keys are compared part by part. -/
def order (a b : ObjectKey) : Ordering :=
  (compare a.apiVersion b.apiVersion).then <| (compare a.kind b.kind).then <|
    (compare a.ns b.ns).then (compare a.name b.name)

instance : Ord ObjectKey := ⟨order⟩

instance : Std.TransOrd ObjectKey :=
  inferInstanceAs (Std.TransCmp (compareLex (compareOn ObjectKey.apiVersion)
    (compareLex (compareOn ObjectKey.kind)
      (compareLex (compareOn ObjectKey.ns) (compareOn ObjectKey.name)))))

instance : Std.LawfulEqOrd ObjectKey where
  eq_of_compare {a b} h := by
    change order a b = .eq at h
    have parts : a.apiVersion = b.apiVersion ∧ a.kind = b.kind ∧ a.ns = b.ns ∧ a.name = b.name := by
      simpa only [order, Ordering.then_eq_eq, Std.LawfulEqOrd.compare_eq_iff_eq] using h
    cases a
    cases b
    simp_all

/-- The key of an object of some type. -/
def ofType (type : ObjectType) (ns name : String) : ObjectKey :=
  { apiVersion := type.apiVersion, kind := type.kind, ns, name }

/-- The key of objects of the type `α`. -/
def of (α : Type) [ApiObject α] (ns name : String) : ObjectKey :=
  ofType (objectType (α := α)) ns name

/-- The key that an object shows: what it does not show counts as empty. -/
def shownBy (object : Json) : ObjectKey :=
  let shown (j : Json) (member : String) : String := (j.text? member).getD ""
  let data := (object.get? "metadata").getD .null
  { apiVersion := shown object "apiVersion", kind := shown object "kind",
    ns := shown data "namespace", name := shown data "name" }

/-- The key as a line of text. -/
def line (k : ObjectKey) : String := k.apiVersion ++ " " ++ k.kind ++ " " ++ k.ns ++ "/" ++ k.name

end ObjectKey
end AppOperator
