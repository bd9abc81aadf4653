import AppOperator.Shape.Basic
import AppOperator.Text.Base64

/-!
# Reading and writing shaped values

`Shape.decode` reads a JSON value as the value of a shape and `Shape.encode`
writes it. Reading refuses what does not fit and drops what the shape does
not know; writing puts down every field that has a value.

Both directions are recursions on the shape, with one function for shapes and one for
tables, and lists and maps go through the same function for each item. What a field
does when it is absent, or `null`, is part of its shape and not of the code that uses
it, so absence is settled here for all types at once.
-/

namespace AppOperator

/-- The integers of 32 bits. -/
def int32? (n : Int) : Option Int32 :=
  if -0x80000000 ≤ n ∧ n < 0x80000000 then some (Int32.ofInt n) else none

/-- The integers of 64 bits. -/
def int64? (n : Int) : Option Int64 :=
  if -0x8000000000000000 ≤ n ∧ n < 0x8000000000000000 then some (Int64.ofInt n) else none

/-- The position of a word among some words. -/
def wordIndex? (first : String) (others : List String) (word : String) :
    Option (Fin (others.length + 1)) :=
  (first :: others).finIdxOf? word

/-- The word chosen: itself, or the name of the only member, `null`, of an object. -/
def chosenWord? : Json → Option String
  | .str word => some word
  | .obj [(word, .null)] => some word
  | _ => none

/-- Whether an object may be read as one with this header. -/
def Header.admits (h : Header) (members : List (String × Json)) : Bool :=
  let names (field expected : String) : Bool :=
    match Assoc.get? field members with
    | none => true
    | some value => value = .str expected
  !h.checked || (names "apiVersion" h.apiVersion && names "kind" h.kind)

/-- The members that a header adds. -/
def Header.addTo (h : Header) (members : List (String × Json)) : List (String × Json) :=
  Assoc.insert "apiVersion" (.str h.apiVersion) (Assoc.insert "kind" (.str h.kind) members)

/-- Whether a style lets these members be read. -/
def Style.admits (style : Style) (members : List (String × Json)) : Bool :=
  match style.header with
  | none => true
  | some h => h.admits members

/-- The members that a style adds. -/
def Style.addTo (style : Style) (members : List (String × Json)) : List (String × Json) :=
  match style.header with
  | none => members
  | some h => h.addTo members

/-- The members whose names are not taken. -/
def Extras.ofMembers (taken : List String) (members : List (String × Json)) : Extras taken :=
  ⟨taken.foldl Dict.erase (Dict.ofList members), by
    have keep : ∀ (names : List String) (d : Dict String Json) (name : String),
        d.get? name = none → (names.foldl Dict.erase d).get? name = none := by
      intro names
      induction names with
      | nil => exact fun _ _ h => h
      | cons n rest ih =>
        intro d name h
        exact ih _ _ (by rw [Dict.get?_erase]; split <;> simp [h])
    suffices ∀ (names : List String) (d : Dict String Json),
        ∀ name ∈ names, (names.foldl Dict.erase d).get? name = none from this taken _
    intro names
    induction names with
    | nil => intro _ _ h; simp at h
    | cons n rest ih =>
      intro d name h
      rcases List.mem_cons.1 h with rfl | h
      · exact keep rest _ _ (by rw [Dict.get?_erase]; simp)
      · exact ih _ _ h⟩

mutual
/-- **Reads a JSON value.** -/
def Shape.decode : (s : Shape) → Json → Option s.Val
  | .text, .str t => some t
  | .flag, .bool b => some b
  | .int32, .int n => int32? n
  | .int64, .int n => int64? n
  | .bytes, .str t => Base64.decode? t
  | .bytes, .null => some ([] : List UInt8)
  | .timestamp, .str t => Timestamp.parse? t
  | .instant, .str t => Instant.parse? t
  | .intOrText, .int n => (int32? n).map IntOrText.int
  | .intOrText, .str t => some (IntOrText.text t)
  | .json, j => if h : j ≠ .null then some ⟨j, h⟩ else none
  | .choice first others, j => (chosenWord? j).bind (wordIndex? first others)
  | .list item, .arr xs => xs.mapM item.decode
  | .map value, .obj members =>
    (members.mapM (fun p => (value.decode p.2).map (fun v => (p.1, v)))).map Dict.ofList
  | .record style fields, .obj members =>
    if style.admits members then fields.decode members else none
  | .record style fields, .arr items =>
    if style.positions = .none then none else fields.decodeItems style.positions items
  | _, _ => none
/-- Reads the fields of a table from the members of an object. -/
def Table.decode : (t : Table) → List (String × Json) → Option t.Val
  | .done, _ => some ()
  | .extras taken, members => some (Extras.ofMembers taken members)
  | .optional name shape rest, members => do
    let value ← match Assoc.get? name members with
      | none => some none
      | some .null => some none
      | some j => (shape.decode j).map some
    return (value, ← rest.decode members)
  | .always absence name shape rest, members => do
    let value ← match Assoc.get? name members, absence with
      | none, .refused => none
      | none, _ => some shape.zero
      | some .null, .lenient => some shape.zero
      | some j, _ => shape.decode j
    return (value, ← rest.decode members)
/-- Reads the fields of a table from the items of an array. -/
def Table.decodeItems : (t : Table) → Positions → List Json → Option t.Val
  | .done, _, [] => some ()
  | .done, _, _ :: _ => none
  | .extras _, _, _ => none
  | .optional _ _ rest, .leading, [] => (rest.decodeItems .leading []).map (fun r => (none, r))
  | .optional _ _ _, _, [] => none
  | .optional _ shape rest, positions, item :: items => do
    let value ← match item with
      | .null => some none
      | j => (shape.decode j).map some
    return (value, ← rest.decodeItems positions items)
  | .always .refused _ _ _, _, [] => none
  | .always _ _ shape rest, .leading, [] =>
    (rest.decodeItems .leading []).map (fun r => (shape.zero, r))
  | .always _ _ _ _, _, [] => none
  | .always _ _ shape rest, positions, item :: items => do
    let value ← shape.decode item
    return (value, ← rest.decodeItems positions items)
end

mutual
/-- **Writes a value.** -/
def Shape.encode : (s : Shape) → s.Val → Json
  | .text, t => .str t
  | .flag, b => .bool b
  | .int32, n => .int n.toInt
  | .int64, n => .int n.toInt
  | .bytes, b => .str (Base64.encode b)
  | .timestamp, t => .str t.render
  | .instant, t => .str t.render
  | .intOrText, .int n => .int n.toInt
  | .intOrText, .text t => .str t
  | .json, j => j.val
  | .choice first others, i => .str ((first :: others)[i])
  | .list item, xs => .arr (xs.map item.encode)
  | .map value, d => .obj (d.map value.encode).entries
  | .record style fields, v => .obj (style.addTo (fields.encode v))
/-- Writes the fields of a table as the members of an object. -/
def Table.encode : (t : Table) → t.Val → List (String × Json)
  | .done, _ => []
  | .extras _, members => members.val.entries
  | .optional _ _ rest, (none, v) => rest.encode v
  | .optional name shape rest, (some x, v) => Assoc.insert name (shape.encode x) (rest.encode v)
  | .always _ name shape rest, (x, v) => Assoc.insert name (shape.encode x) (rest.encode v)
end

end AppOperator
